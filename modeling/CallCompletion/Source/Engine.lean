import CallCompletion.Engine.Contract
import CallCompletion.Source.Repair
import CallCompletion.Source.Signatures

/-!
# The engine of a source text

A source text is read leniently and answers the questions of an engine. A text that cannot be read
even after repairs counts as an empty module.
-/

namespace CallCompletion.Source

open CallCompletion.Text

/-! ## Descriptions -/

/-- A function as it is shown: its parameters and the type of its result. -/
def FunctionOf.display (d : FunctionDef) (name : String) : String :=
  let result := (d.returns.map fun e ↦ " -> " ++ e.text).getD ""
  name ++ "(" ++ d.params.text ++ ")" ++ result

/-- The function of a name that is shown: the first one if it is an overload stub, else the last. -/
def shownFunction (earlier : List FunctionDef) (last : FunctionDef) : FunctionDef :=
  match earlier with
  | first :: _ => if first.isOverload then first else last
  | [] => last

/-- Whether a name is private by its one leading underscore. -/
def isPrivateName (name : String) : Bool :=
  match name.toList with
  | '_' :: '_' :: _ => false
  | '_' :: _ => true
  | _ => false

def FunctionOf.modifiers (d : FunctionDef) : List String :=
  (if d.isAsync then ["async"] else []) ++ (if d.isStatic then ["static"] else []) ++
    if (decoratorNames d.decorators).contains "classmethod" then ["classmethod"] else []

/-- A site as it is shown under a name. -/
def Site.display (name : String) : Site → String
  | .function earlier last _ => (shownFunction earlier last).display name
  | .classDef _ => "class " ++ name
  | .parameter p => (p.typeHint.map fun e ↦ name ++ ": " ++ e.text).getD name
  | .annotated typeHint _ => name ++ ": " ++ typeHint.text
  | .assignment _ => name

def Site.documentation : Site → String
  | .function _ last _ => documentationOf last.body
  | .classDef d => documentationOf d.body
  | _ => ""

def Site.modifiers : Site → List String
  | .function _ last _ => last.modifiers
  | _ => []

/-- The description of a symbol; one without a site has nothing but its name and kind. -/
def describe (s : Symbol) : SymbolDetail :=
  match s.site with
  | none => { name := s.name, kind := s.kind }
  | some site =>
    { name := s.name
      kind := s.kind
      modifiers := (if isPrivateName s.name then ["private"] else []) ++ site.modifiers
      display := if s.kind = .enumMember then s.container ++ "." ++ s.name else site.display s.name
      documentation := site.documentation }

/-! ## Engines -/

variable [CharacterNames]

/-- The answers that a module gives. -/
def SourceModule.engine (m : SourceModule) : Engine Site where
  resolve := m.resolve
  signatures := m.signatures
  describe := describe
  visible := m.visible
  members := m.members

def moduleParser : LineParser (List Stmt) := fun text ↦
  (parseModule text).mapError fun (line : Nat) ↦ some (line : Int)

def readStatements (source : String) : Option (List Stmt) :=
  (parseLeniently moduleParser source.toList).toOption

def SourceModule.ofSource (source : String) : SourceModule :=
  .ofStatements ((readStatements source).getD [])

/-- The module of a source text, with the given stand-ins for halves of surrogate pairs in its
documentation. -/
def SourceModule.ofSourceAs (standIn : StandIn) (source : String) : SourceModule :=
  match standIn with
  | .shared => .ofSource source
  | .own => .ofStatements (Stmt.eachWithOwnHalves ((readStatements source).getD []))

end CallCompletion.Source
