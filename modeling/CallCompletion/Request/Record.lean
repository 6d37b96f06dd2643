import CallCompletion.Request.Check
import CallCompletion.Snapshot.Reading

/-!
# Requests

The two requests for a snippet: for a symbol that is sent along, and for an entry of a source file.
Both can override settings.
-/

namespace CallCompletion.Request

open CallCompletion.Data
open CallCompletion.Snapshot

/-- Settings that a request overrides. -/
structure SnippetOptions where
  dialect : Option String := none
  numberedPlaceholders : Option Bool := none
  specialLiterals : Table String := []

/-- Options as values that can be laid over settings. -/
def SnippetOptions.values (o : SnippetOptions) : Table Value :=
  [("dialect", (o.dialect.map Value.text).getD .null),
   ("numbered_placeholders", (o.numberedPlaceholders.map Value.bool).getD .null),
   ("special_literals", .table (o.specialLiterals.map fun (name, s) ↦ (name, .text s)))]

structure SnippetRequest where
  options : SnippetOptions
  label : String
  symbol : SymbolSnapshot

structure CompletionRequest where
  options : SnippetOptions
  path : String
  entry : String
  label : Option String
  line : Option Int
  character : Int
  parent : Option String

def readOptions (record : Table Value) : Checked SnippetOptions :=
  SnippetOptions.mk <$>
    fieldOr record "dialect" none (fun v _ ↦ nullable text v) <*>
    fieldOr record "numbered_placeholders" none (fun v _ ↦ nullable bool v) <*>
    fieldOr record "special_literals" [] (fun v _ ↦ textTable v)

def readSnippetRequest (record : Table Value) : Checked SnippetRequest :=
  SnippetRequest.mk <$>
    readOptions record <*>
    required record "label" (fun v _ ↦ text v) <*>
    required record "symbol" (fun v _ ↦ readSymbol v)

def readCompletionRequest (record : Table Value) : Checked CompletionRequest :=
  CompletionRequest.mk <$>
    readOptions record <*>
    required record "path" (fun v _ ↦ text v) <*>
    required record "entry" (fun v _ ↦ text v) <*>
    fieldOr record "label" none (fun v _ ↦ nullable text v) <*>
    fieldOr record "line" none (fun v _ ↦ nullable integer v) <*>
    fieldOr record "character" 0 (fun v _ ↦ integer v) <*>
    fieldOr record "parent" none (fun v _ ↦ nullable text v)

end CallCompletion.Request
