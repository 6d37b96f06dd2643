import CallCompletion.Command.Arguments
import CallCompletion.Data.Json
import CallCompletion.Engine.Completion
import CallCompletion.Settings
import CallCompletion.Snapshot.Reading
import CallCompletion.Source.Engine

/-!
# Running commands

What a command prints and how it ends, given the files of the machine and what is on its standard
input.
-/

namespace CallCompletion.Command

open CallCompletion.Data
open CallCompletion.Files
open CallCompletion.Source
open CallCompletion.Text

variable [CharacterNames]

/-- How a command ends: with output, with a complaint, with the report of what is wrong with a
snapshot, at once because it is not used as it should be, or by starting the server. -/
inductive Outcome where
  | printed (text : String)
  | failed (complaint : String)
  | rejected (report : String)
  | misused
  | serving
  deriving DecidableEq, Repr

def Outcome.exitCode : Outcome → Nat
  | .printed _ | .serving => 0
  | .failed _ | .rejected _ | .misused => 2

def Outcome.output : Outcome → String
  | .printed text => text ++ "\n"
  | _ => ""

def Outcome.complaint? : Outcome → Option String
  | .failed complaint => some complaint
  | .rejected report => some report
  | .misused => some "usage error"
  | .printed _ | .serving => none

/-- The settings for snippets, or the complaint that they are invalid. -/
def withSettings (files : FileStore) (root : Path) (config : Option Path) (dialect : Option String)
    (default : Dialect) (go : SnippetConfig → Except Fault Outcome) : Except Fault Outcome := do
  let defaults ← Settings.loadSection files (Settings.path (some root) config)
  let options : Table Value := [("dialect", (dialect.map Value.text).getD .null)]
  let settings := Settings.merge options defaults
  match Settings.snippetConfig (.table settings) default with
  | .ok config => go config
  | .error (.unknownDialect given) =>
    -- The complaint quotes the setting, which may be an integer that has no text.
    if (settings.get? "dialect").all Value.isShowable then
      return .failed ((Fault.unknownDialect given).message ++ ": " ++ given)
    else .error (.notAnInteger .unwritable)
  | .error f => .error f

/-- Prints a snippet, which is given with either stand-in for halves of surrogate pairs, or ends as
the command does without one. A snippet with a half in it cannot be printed. -/
def printSnippet (snippetAs : StandIn → Except Fault (Except Outcome String)) :
    Except Fault Outcome := do
  match ← snippetAs .shared with
  | .error outcome => return outcome
  | .ok shared =>
    match ← snippetAs .own with
    | .error outcome => return outcome
    | .ok own =>
      if shared = own then return .printed shared
      else .error (.notUtf8 (.encoding (firstHalves (codesBehind shared.toList own.toList))))

def entrySnippet (source name : String) (label parent : Option String) (position : Option Position)
    (settings : SnippetConfig) (standIn : StandIn) : Except Fault (Except Outcome String) := do
  let engine := (SourceModule.ofSourceAs standIn source).engine
  match ← resolveCompletion engine name label position parent settings with
  | none => return .error (.failed ("symbol not found: " ++ name))
  | some c => return .ok c.snippet

def runSnippet (files : FileStore) (path : Path) (name : String) (label parent : Option String)
    (position : Option Position) (settings : SnippetConfig) : Except Fault Outcome := do
  match ← files.readText path with
  | .error refusal => return .failed (unreadable path refusal)
  | .ok source => printSnippet (entrySnippet source name label parent position settings)

def snapshotSnippet (text : String) (label : Option String) (settings : SnippetConfig)
    (standIn : StandIn) : Except Fault (Except Outcome String) := do
  match Json.readWith (.limited standIn) text.toList with
  | .error ⟨.tooManyDigits count, _⟩ => .error (.notAnInteger (.tooLong count))
  | .error refusal => return .error (.failed ("invalid JSON: " ++ refusal.message text.toList))
  | .ok v =>
    match Snapshot.readSymbol v with
    | .invalid issues => return .error (.rejected (Request.report "SymbolSnapshotDTO" issues))
    | .valid symbol =>
      let signatures := symbol.callSignatures.map Snapshot.SignatureOf.signature
      return .ok (← buildSnippet (chosenLabel label symbol.name) signatures settings)

def buildFrom (text : String) (label : Option String) (settings : SnippetConfig) :
    Except Fault Outcome :=
  printSnippet (snapshotSnippet text label settings)

def isStandardInput (path : Path) : Bool := path.text = "-"

def runBuild (files : FileStore) (stdin : String) (snapshot : Path) (label : Option String)
    (settings : SnippetConfig) : Except Fault Outcome := do
  if isStandardInput snapshot then
    buildFrom (String.ofList (plainNewlines stdin.toList)) label settings
  else
    match ← files.readText snapshot with
    | .error refusal => return .failed (unreadable snapshot refusal)
    | .ok text => buildFrom text label settings

def helpText : String :=
  "snippet PATH NAME   Print the call snippet for a symbol of a Python file.\n" ++
  "build SNAPSHOT      Print the call snippet for a symbol snapshot.\n" ++
  "lsp                 Run the language server over stdio."

def run (files : FileStore) (stdin : String) : Invocation → Except Fault Outcome
  | .snippet path name label parent line character dialect root config =>
    withSettings files root config dialect .python
      (runSnippet files path name label parent (line.map (⟨·, character⟩)))
  | .build snapshot label dialect root config =>
    withSettings files root config dialect .typescript (runBuild files stdin snapshot label)
  | .serve => .ok .serving
  | .help => .ok (.printed helpText)

def runWords (files : FileStore) (stdin : String) (words : List String) : Except Fault Outcome :=
  match readInvocation words with
  | some invocation => run files stdin invocation
  | none => .ok .misused

/-- The files that a command can read. -/
def Invocation.paths : Invocation → List Path
  | .snippet path _ _ _ _ _ _ root config => [Settings.path (some root) config, path]
  | .build snapshot _ _ root config =>
    Settings.path (some root) config :: if isStandardInput snapshot then [] else [snapshot]
  | .serve | .help => []

def Invocation.readsInput : Invocation → Bool
  | .build snapshot .. => isStandardInput snapshot
  | .snippet .. | .serve | .help => false

end CallCompletion.Command
