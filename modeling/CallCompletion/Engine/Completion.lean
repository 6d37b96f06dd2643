import CallCompletion.Engine.Contract
import CallCompletion.Snippet.Synthesis

/-!
# Completions

What an engine's symbols become in an editor: the list of those offered at a position, and the
snippet with the description for one of them.
-/

namespace CallCompletion

/-- Boxed, unsupported and fixed-width types that a checker reports but that are not offered. A
symbol of the same name and another kind is. -/
def hiddenTypes : Table SymbolKind :=
  [("Boolean", .interface), ("Number", .interface), ("String", .interface),
   ("Function", .interface), ("Object", .interface), ("RegExp", .interface),
   ("IArguments", .interface), ("int8", .typeAlias), ("int16", .typeAlias), ("int32", .typeAlias),
   ("uint8", .typeAlias), ("uint16", .typeAlias), ("uint32", .typeAlias)]

/-- Whether a symbol is offered: it is not hidden, and its name does not start with an
underscore. -/
def SymbolAt.isOffered {σ : Type} (s : SymbolAt σ) : Bool :=
  hiddenTypes.get? s.name != some s.kind && s.name.toList.head? != some '_'

/-- The symbols offered at a position, as members of the parent if there is one. -/
def completionItems {σ : Type} (e : Engine σ) (position : Option Position)
    (parent : Option String) : List (SymbolAt σ) :=
  let candidates :=
    match parent with
    | none | some "" => e.visible position
    | some parent => e.members parent position
  candidates.filter SymbolAt.isOffered

/-- The snippet and the description of a symbol. -/
structure CompletionSnippet where
  detail : SymbolDetail
  snippet : String
  deriving DecidableEq, Repr, Inhabited

/-- The label under which an entry is completed: its own name if none is given. -/
def chosenLabel (label : Option String) (entry : String) : String :=
  match label with
  | none | some "" => entry
  | some label => label

def resolveCompletion {σ : Type} (e : Engine σ) (entry : String) (label : Option String)
    (position : Option Position) (parent : Option String) (config : SnippetConfig) :
    Except Fault (Option CompletionSnippet) :=
  match e.resolve entry position parent with
  | none => .ok none
  | some symbol => do
    let signatures ← e.signatures symbol
    let snippet ← buildSnippet (chosenLabel label entry) signatures config
    return some ⟨e.describe symbol, snippet⟩

end CallCompletion
