import CallCompletion.Data.Integer
import CallCompletion.Engine.Completion
import CallCompletion.Files.Uri
import CallCompletion.Request.Record
import CallCompletion.Settings
import CallCompletion.Source.Engine

/-!
# Workspaces

A workspace is what an editor has open: documents by their URIs, over the files of a machine, and a
root directory with a settings file.
-/

namespace CallCompletion.Server

open CallCompletion.Data
open CallCompletion.Files
open CallCompletion.Request

structure Workspace where
  root : Option String
  files : FileStore
  documents : Table String

namespace Workspace

def openDocument (w : Workspace) (uri text : String) : Workspace :=
  { w with documents := w.documents.insert uri text }

def closeDocument (w : Workspace) (uri : String) : Workspace :=
  { w with documents := w.documents.filter (·.1 != uri) }

/-- The text of a document, empty if it is not open. -/
def documentText (w : Workspace) (uri : String) : String := (w.documents.get? uri).getD ""

/-- An opened document has its new text; all others keep theirs. -/
theorem documentText_openDocument (w : Workspace) (uri text other : String) :
    (w.openDocument uri text).documentText other =
      if other = uri then text else w.documentText other := by
  simp only [documentText, openDocument, Table.get?_insert]
  split <;> rfl

/-- A closed document has no text; all others keep theirs. -/
theorem documentText_closeDocument (w : Workspace) (uri other : String) :
    (w.closeDocument uri).documentText other =
      if other = uri then "" else w.documentText other := by
  simp only [documentText, closeDocument, Table.get?, lookup_filter_key_ne]
  split <;> rfl

def rootPath (w : Workspace) : Option Path :=
  match w.root with
  | none | some "" => none
  | some root => some (.ofText root)

/-- The settings for snippets, with options laid over those of the settings file. -/
def snippetConfig (w : Workspace) (options : SnippetOptions) (default : Dialect) :
    Except Fault SnippetConfig := do
  let defaults ← Settings.loadSection w.files (Settings.path w.rootPath none)
  Settings.snippetConfig (.table (Settings.merge options.values defaults)) default

def documentAt? (p : Path) : Table String → Except Fault (Option String)
  | [] => .ok none
  | (uri, text) :: rest => do
    if (← pathOfUri uri) = p then return some text else documentAt? p rest

/-- The text at a path: that of an open document, or else of the file. -/
def sourceAt (w : Workspace) (p : Path) : Except Fault (Except ReadRefusal String) := do
  match ← documentAt? p w.documents with
  | some text => return .ok text
  | none => w.files.readText p

end Workspace

end CallCompletion.Server
