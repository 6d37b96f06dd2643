import CallCompletion.Data.Toml.Document
import CallCompletion.Files.Reading
import CallCompletion.Snippet.Model
import CallCompletion.Text.Blank
import CallCompletion.Text.Word

/-!
# Settings

The settings of snippets come from a section of a settings file, over which the options of a request
are laid. A file that is missing or not well-formed counts as empty, but not one with an integer of
too many digits.
-/

namespace CallCompletion

open CallCompletion.Data
open CallCompletion.Files
open CallCompletion.Text

namespace Settings

def fileName : String := "callsnip.toml"

/-- The path of the settings file: the given one, or the one in the root directory, which is the
current directory if it is not given. -/
def path (root config : Option Path) : Path :=
  match config with
  | some p => p
  | none => (root.getD ⟨.here, []⟩).join (.ofText fileName)

/-- Everything that the settings file says. -/
def load (files : FileStore) (p : Path) : Except Fault (Table Value) := do
  match ← files.readText p with
  | .error _ => return []
  | .ok text =>
    match Toml.read text.toList with
    | .ok settings => return settings
    | .error .malformed => return []
    | .error (.tooManyDigits count) => .error (.notAnInteger (.tooLong count))

def snippetSection (settings : Table Value) : Table Value :=
  ((settings.get? "snippet").map Value.entries).getD []

def loadSection (files : FileStore) (p : Path) : Except Fault (Table Value) :=
  (load files p).map snippetSection

/-! ## Merging -/

/-- The entries of a table that are texts. -/
def textsIn (v : Value) : Table String := v.entries.filterMap fun (name, x) ↦ x.text?.map (name, ·)

def textValuesIn (v : Value) : Table Value := (textsIn v).map fun (name, s) ↦ (name, .text s)

/-- The name under which block literals are set. -/
def literalsName : String := "special_literals"

/-- Lays one option over a section. Null and an empty table of literals change nothing; literals are
added to those of the section. -/
def layOption (defaults : Table Value) (merged : Table Value) (name : String) (v : Value) :
    Table Value :=
  match v with
  | .null => merged
  | .table entries =>
    if name = literalsName then
      if entries.isEmpty then merged
      else
        let own := ((defaults.get? name).map textValuesIn).getD []
        merged.insert name (.table (Table.update own entries))
    else merged.insert name v
  | v => merged.insert name v

/-- Lays options over a section. -/
def merge (options defaults : Table Value) : Table Value :=
  options.foldl (fun merged (name, v) ↦ layOption defaults merged name v) defaults

/-! ## Meaning -/

/-- What a setting means as a truth value: numbers count unless they are zero, and some words
count. -/
def truth : Value → Bool
  | .bool b => b
  | .integer n => n != 0
  | .text s =>
    ["1", "true", "yes", "on"].contains (String.ofList (lowerAscii (trim s.toList)))
  | _ => false

/-- The dialect that a setting names; null and the empty text leave the default. -/
def dialectOf (default : Dialect) : Option Value → Except Fault Dialect
  | none | some .null | some (.text "") => .ok default
  | some v =>
    match Dialect.ofName? (String.ofList (lowerAscii (trim v.shown.toList))) with
    | some d => .ok d
    | none => .error (.unknownDialect v.shown)

/-- Whether placeholders are numbered: they are unless a setting says otherwise. -/
def numberedOf : Option Value → Bool
  | none | some .null => true
  | some v => truth v

def snippetConfig (settings : Value) (defaultDialect : Dialect) : Except Fault SnippetConfig := do
  let dialect ← dialectOf defaultDialect (settings.get? "dialect")
  return {
    dialect
    numberedPlaceholders := numberedOf (settings.get? "numbered_placeholders")
    specialLiterals := builtinLiterals.update (((settings.get? literalsName).map textsIn).getD []) }

end Settings

end CallCompletion
