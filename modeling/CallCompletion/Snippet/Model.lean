import CallCompletion.Table

/-!
# Parameters, signatures and settings

What a call snippet is made from: the parameters of a signature, each with a type that is one of a
few descriptors, and the settings that choose how literals are spelled.
-/

namespace CallCompletion

inductive PrimitiveKind where
  | number | string | boolean | void
  deriving DecidableEq, Repr, Inhabited

namespace PrimitiveKind

def name : PrimitiveKind → String
  | .number => "number"
  | .string => "string"
  | .boolean => "boolean"
  | .void => "void"

def ofName? (s : String) : Option PrimitiveKind :=
  [number, string, boolean, void].find? (·.name == s)

end PrimitiveKind

/-- What a function returns, as far as a default value for it goes. -/
inductive ReturnKind where
  | number | string | boolean | other
  deriving DecidableEq, Repr, Inhabited

namespace ReturnKind

def name : ReturnKind → String
  | .number => "number"
  | .string => "string"
  | .boolean => "boolean"
  | .other => "other"

def ofName? (s : String) : Option ReturnKind :=
  [number, string, boolean, other].find? (·.name == s)

def ofPrimitive : PrimitiveKind → ReturnKind
  | .number => .number
  | .string => .string
  | .boolean => .boolean
  | .void => .other

end ReturnKind

/-- The language in which literals are spelled. An unsupported one has no function literals and
spells everything else in the default way. -/
inductive Dialect where
  | typescript
  | python
  | unsupported (name : String)
  deriving DecidableEq, Repr, Inhabited

namespace Dialect

def name : Dialect → String
  | .typescript => "typescript"
  | .python => "python"
  | .unsupported name => name

def ofName? (s : String) : Option Dialect :=
  [typescript, python].find? (·.name == s)

end Dialect

/-- The type of a parameter, as far as a default value for it goes. -/
inductive TypeDescriptor where
  | primitive (kind : PrimitiveKind)
  | enum (name : String) (firstMember : Option String)
  | function (parameters : String) (returns : ReturnKind)
  | sequence (isTuple : Bool)
  | other (printed : String)
  /-- A type outside the descriptors above, for which no default can be given. -/
  | unclassified (name : String)
  deriving DecidableEq, Repr, Inhabited

namespace TypeDescriptor

def returnKind : TypeDescriptor → ReturnKind
  | .primitive kind => .ofPrimitive kind
  | _ => .other

end TypeDescriptor

structure Parameter where
  name : String
  type : TypeDescriptor := .other ""
  documentation : String := ""
  deriving DecidableEq, Repr, Inhabited

/-- A signature of a call. At least `minArguments` arguments have to be given. -/
structure Signature where
  parameters : List Parameter := []
  minArguments : Int := 0
  returnType : TypeDescriptor := .other ""
  deriving DecidableEq, Repr, Inhabited

namespace Signature

/-- The leading parameters for which an argument has to be given. -/
def requiredParameters (s : Signature) : List Parameter := s.parameters.take s.minArguments.toNat

end Signature

/-- The picture that stands for an image argument. -/
def defaultImage : String :=
  "\n    . . . . .\n    . . . . .\n    . . # . .\n    . . . . .\n    . . . . .\n    "

/-- The block literals that are known by parameter name. -/
def builtinLiterals : Table String := [("leds", defaultImage)]

structure SnippetConfig where
  dialect : Dialect := .typescript
  numberedPlaceholders : Bool := true
  specialLiterals : Table String := builtinLiterals
  deriving DecidableEq, Repr, Inhabited

end CallCompletion
