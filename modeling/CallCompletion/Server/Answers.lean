import CallCompletion.Server.Parent
import CallCompletion.Server.Workspace

/-!
# Answers of the server

Two commands answer with snippets, and two requests of an editor with completion items. Of what can
go wrong, bad requests, unknown dialects and unreadable files are part of the answer to a command.
-/

namespace CallCompletion.Server

open CallCompletion.Data
open CallCompletion.Files
open CallCompletion.Request
open CallCompletion.Source
open CallCompletion.Text

variable [CharacterNames]

/-! ## Commands -/

def buildCommand : String := "callsnip.buildSnippet"

def completionCommand : String := "callsnip.completionSnippet"

structure SnippetAnswer where
  snippet : String := ""
  errors : List String := []
  deriving DecidableEq, Repr

/-- The answer with the snippet of an entry; both parts are missing if there is no such entry. -/
structure CompletionAnswer where
  completion : Option CompletionSnippet := none
  errors : List String := []
  deriving DecidableEq, Repr

/-- The record that a payload has to be. -/
def payloadRecord (command : String) : Value → Except Fault (Table Value)
  | .table record => .ok record
  | .null => .error (.missingPayload command)
  | v => .error (.wrongPayload command v.kindName)

/-- The settings, or the answer that they are invalid. -/
def orAnswer {α : Type} (settings : Except Fault SnippetConfig) (answer : String → α)
    (go : SnippetConfig → Except Fault α) : Except Fault α :=
  match settings with
  | .ok config => go config
  | .error f => if f.facts?.isSome then .ok (answer f.message) else .error f

def buildSnippetFor (w : Workspace) (payload : Value) : Except Fault SnippetAnswer := do
  let record ← payloadRecord buildCommand payload
  match readSnippetRequest record with
  | .invalid issues => return { errors := [report "SnippetRequest" issues] }
  | .valid request =>
    orAnswer (w.snippetConfig request.options .typescript) (fun e ↦ { errors := [e] })
      fun config ↦ do
        let signatures := request.symbol.callSignatures.map Snapshot.SignatureOf.signature
        return { snippet := ← buildSnippet request.label signatures config }

/-- Answers the command for the snippet of an entry, with the given stand-ins for halves of
surrogate pairs. -/
def completionSnippetAs (standIn : StandIn) (w : Workspace) (payload : Value) :
    Except Fault CompletionAnswer := do
  let record ← payloadRecord completionCommand payload
  match readCompletionRequest record with
  | .invalid issues => return { errors := [report "CompletionSnippetRequest" issues] }
  | .valid request =>
    orAnswer (w.snippetConfig request.options .python) (fun e ↦ { errors := [e] })
      fun config ↦ do
        let path := Path.ofText request.path
        match ← w.sourceAt path with
        | .error refusal => return { errors := [unreadable path refusal] }
        | .ok source =>
          checkSourceName path
          let position := request.line.map fun line ↦ ⟨line, request.character⟩
          let engine := (SourceModule.ofSourceAs standIn source).engine
          let completion ←
            resolveCompletion engine request.entry request.label position request.parent config
          return { completion }

def completionSnippetFor (w : Workspace) (payload : Value) : Except Fault CompletionAnswer :=
  completionSnippetAs .shared w payload

/-! ## Completion items -/

def itemKind : SymbolKind → Option Nat
  | .method => some 2
  | .function => some 3
  | .variable_ | .parameter => some 6
  | .classType => some 7
  | .enum => some 13
  | .enumMember => some 20
  | .interface | .typeAlias => none

/-- A completion item. It is filled in when the editor asks for it, from the data it carries. -/
structure CompletionItem where
  label : String
  kind : Option Nat := none
  data : Value := .null
  insertText : Option String := none
  detail : Option String := none
  documentation : Option String := none

/-- The data by which an item is filled in later. -/
def itemData (uri : String) (line character : Int) (parent : Option String) : Value :=
  .table [("uri", .text uri), ("line", .integer line), ("character", .integer character),
    ("parent", (parent.map Value.text).getD .null)]

def completions (w : Workspace) (uri : String) (line character : Int) :
    Except Fault (List CompletionItem) := do
  checkSourceName (← pathOfUri uri)
  let text := w.documentText uri
  let parent := parentAt (splitLinesKeeping text.toList) line character
  let symbols := completionItems (SourceModule.ofSource text).engine (some ⟨line, character⟩) parent
  return symbols.map fun s ↦
    { label := s.name, kind := itemKind s.kind, data := itemData uri line character parent }

/-- The place and the parent that an item's data tell. -/
def itemPlace (data : Value) : Except Fault (Position × Option String) := do
  let line ← ((data.get? "line").getD (.integer 0)).toInteger
  let character ← ((data.get? "character").getD (.integer 0)).toInteger
  return (⟨line, character⟩, (data.get? "parent").bind Value.text?)

/-- An item with the text to insert and a description. -/
def CompletionItem.filled (item : CompletionItem) (c : CompletionSnippet) : CompletionItem :=
  { item with
    insertText := some c.snippet
    detail := some c.detail.display
    documentation := if c.detail.documentation.isEmpty then none else some c.detail.documentation }

/-- Fills in an item. One whose data do not lead to a document, or that no longer resolves, stays as
it is, and so does every item if the settings are invalid. -/
def resolveItem (w : Workspace) (item : CompletionItem) : Except Fault CompletionItem := do
  match (item.data.get? "uri").filter Value.isTruthy with
  | none => return item
  | some uri =>
    let uri ← uri.toText
    checkSourceName (← pathOfUri uri)
    let (position, parent) ← itemPlace item.data
    orAnswer (w.snippetConfig {} .python) (fun _ ↦ item) fun config ↦ do
      let engine := (SourceModule.ofSource (w.documentText uri)).engine
      match ← resolveCompletion engine item.label (some item.label) (some position) parent config with
      | none => return item
      | some c => return item.filled c

end CallCompletion.Server
