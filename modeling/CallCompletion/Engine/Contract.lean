import CallCompletion.Fault
import CallCompletion.Snippet.Model

/-!
# Type engines

An engine knows the symbols of some code: it resolves names, lists what is visible at a position or
under a parent, and gives the signatures and the description of a symbol. A symbol carries the place
it was found at, whose type is the engine's own.
-/

namespace CallCompletion

inductive SymbolKind where
  | function | method | classType | enum | enumMember | variable_ | parameter | interface | typeAlias
  deriving DecidableEq, Repr, Inhabited

namespace SymbolKind

def name : SymbolKind → String
  | .function => "function"
  | .method => "method"
  | .classType => "class"
  | .enum => "enum"
  | .enumMember => "enum member"
  | .variable_ => "variable"
  | .parameter => "parameter"
  | .interface => "interface"
  | .typeAlias => "type"

def all : List SymbolKind :=
  [.function, .method, .classType, .enum, .enumMember, .variable_, .parameter, .interface,
   .typeAlias]

def ofName? (s : String) : Option SymbolKind := all.find? (·.name == s)

end SymbolKind

/-- A place in a text: line and character, both from zero. -/
structure Position where
  line : Int
  character : Int := 0
  deriving DecidableEq, Repr, Inhabited

/-- A symbol, with the place it was found at if the engine found it. -/
structure SymbolAt (σ : Type) where
  name : String
  kind : SymbolKind
  container : String := ""
  site : Option σ := none
  deriving Inhabited

structure SymbolDetail where
  name : String
  kind : SymbolKind
  modifiers : List String := []
  display : String := ""
  documentation : String := ""
  deriving DecidableEq, Repr, Inhabited

/-- A type engine whose symbols are found at places of type `σ`. -/
structure Engine (σ : Type) where
  /-- The symbol of a name at a position, looked up under a parent if it is not visible. -/
  resolve : String → Option Position → Option String → Option (SymbolAt σ)
  /-- The call signatures of a symbol. -/
  signatures : SymbolAt σ → Except Fault (List Signature)
  /-- The description of a symbol. -/
  describe : SymbolAt σ → SymbolDetail
  /-- The symbols visible at a position. -/
  visible : Option Position → List (SymbolAt σ)
  /-- The members of a parent at a position. -/
  members : String → Option Position → List (SymbolAt σ)

end CallCompletion
