import CallCompletion.Engine.Contract
import CallCompletion.Snippet.Literal
import CallCompletion.Text.Blank

/-!
# Snapshots of symbols

A checker of another language sends what it knows of a symbol as a snapshot. Its types are
classified here, and a list of snapshots is an engine: symbols without a container are visible
everywhere, the others are members of their container.
-/

namespace CallCompletion.Snapshot

open CallCompletion.Text

/-- What a type is, by the checker's own classification. -/
inductive TypeKind where
  | primitive | enum | object | function | other
  deriving DecidableEq, Repr, Inhabited

def TypeKind.name : TypeKind → String
  | .primitive => "primitive"
  | .enum => "enum"
  | .object => "object"
  | .function => "function"
  | .other => "other"

def TypeKind.all : List TypeKind := [.primitive, .enum, .object, .function, .other]

structure ParameterOf (τ : Type) where
  name : String
  type : Option τ
  documentation : String

structure SignatureOf (τ : Type) where
  text : String
  parameters : List (ParameterOf τ)
  minArguments : Int
  returnType : Option τ

structure TypeSnapshot where
  kind : TypeKind
  printed : String
  intrinsic : Option String
  enumName : Option String
  enumMembers : List String
  isTuple : Bool
  isAnonymous : Bool
  callSignatures : List (SignatureOf TypeSnapshot)

abbrev ParameterSnapshot := ParameterOf TypeSnapshot

abbrev SignatureSnapshot := SignatureOf TypeSnapshot

structure SymbolSnapshot where
  name : String
  kind : String
  container : String
  modifiers : List String
  display : String
  documentation : String
  callSignatures : List SignatureSnapshot

/-! ## Classification -/

def orElseText (first : Option String) (second : String) : String :=
  match first with
  | none | some "" => second
  | some s => s

def TypeSnapshot.primitive? (t : TypeSnapshot) : Option PrimitiveKind :=
  if t.kind = .primitive then PrimitiveKind.ofName? (trimmed (orElseText t.intrinsic t.printed))
  else none

def returnKind (t : Option TypeSnapshot) : ReturnKind :=
  ((t.bind TypeSnapshot.primitive?).map ReturnKind.ofPrimitive).getD .other

/-- Whether a type is printed as a list. -/
def TypeSnapshot.printsAsList (t : TypeSnapshot) : Bool :=
  ['[', ']'].isSuffixOf (trim t.printed.toList)

/-- A function type by its first call signature. -/
def TypeSnapshot.asFunction (t : TypeSnapshot) : TypeDescriptor :=
  match t.callSignatures with
  | [] => .other t.printed
  | s :: _ => .function (orElseText (some (Literal.stripReturn s.text)) "()") (returnKind s.returnType)

def TypeSnapshot.classify (t : TypeSnapshot) : TypeDescriptor :=
  match t.kind with
  | .primitive => (t.primitive?.map TypeDescriptor.primitive).getD (.other t.printed)
  | .enum =>
    match orElseText t.enumName t.printed with
    | "" => .other t.printed
    | name => .enum name t.enumMembers.head?
  | .function => t.asFunction
  | .object =>
    if t.isAnonymous then t.asFunction
    else if t.isTuple || t.printsAsList then .sequence t.isTuple
    else .other t.printed
  | .other => .other t.printed

/-- The class of a type that may be missing. -/
def classifyOptional (t : Option TypeSnapshot) : TypeDescriptor :=
  (t.map TypeSnapshot.classify).getD (.other "")

def SignatureOf.signature (s : SignatureSnapshot) : Signature where
  parameters := s.parameters.map fun p ↦
    { name := p.name, type := classifyOptional p.type, documentation := p.documentation }
  minArguments := s.minArguments
  returnType := classifyOptional s.returnType

/-! ## The engine -/

/-- The symbol of a snapshot; an unknown kind counts as a variable. -/
def SymbolSnapshot.symbol (s : SymbolSnapshot) : SymbolAt SymbolSnapshot where
  name := s.name
  kind := (SymbolKind.ofName? s.kind).getD .variable_
  container := s.container
  site := some s

def find? (snapshots : List SymbolSnapshot) (name container : String) :
    Option (SymbolAt SymbolSnapshot) :=
  (snapshots.find? fun s ↦ s.name == name && s.container == container).map SymbolSnapshot.symbol

/-- The snapshot of a name without a container, or else in the parent. -/
def resolve (snapshots : List SymbolSnapshot) (name : String) (parent : Option String) :
    Option (SymbolAt SymbolSnapshot) :=
  match find? snapshots name "" with
  | some s => some s
  | none =>
    match parent with
    | none | some "" => none
    | some parent => find? snapshots name parent

/-- The description of a symbol; one that is no snapshot has nothing but its name and kind. -/
def describe (s : SymbolAt SymbolSnapshot) : SymbolDetail :=
  match s.site with
  | none => { name := s.name, kind := s.kind }
  | some snapshot =>
    { name := snapshot.name
      kind := s.kind
      modifiers := snapshot.modifiers
      display := orElseText (some snapshot.display) snapshot.name
      documentation := snapshot.documentation }

/-- The members of a container; those of the empty one are visible everywhere. -/
def membersOf (snapshots : List SymbolSnapshot) (container : String) :
    List (SymbolAt SymbolSnapshot) :=
  (snapshots.filter (·.container == container)).map SymbolSnapshot.symbol

/-- The answers that snapshots give. Positions do not matter. -/
def engine (snapshots : List SymbolSnapshot) : Engine SymbolSnapshot where
  resolve name _ parent := resolve snapshots name parent
  signatures s := .ok ((s.site.map (·.callSignatures.map SignatureOf.signature)).getD [])
  describe := describe
  visible _ := membersOf snapshots ""
  members parent _ := membersOf snapshots parent

end CallCompletion.Snapshot
