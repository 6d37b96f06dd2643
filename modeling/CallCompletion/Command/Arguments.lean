import CallCompletion.Data.Integer
import CallCompletion.Files.Path

/-!
# Arguments of the command line

A command takes options with values, in any place, and arguments in a fixed order. An option is
written with its value after it or after an equals sign; two dashes alone end the options.
-/

namespace CallCompletion.Command

open CallCompletion.Files

/-- The words of a command line, sorted into options and arguments. -/
structure Sorted where
  options : Table String
  arguments : List String
  /-- Whether help was asked for. -/
  help : Bool

def splitOption (word : String) : String × Option String :=
  let cs := word.toList
  match cs.dropWhile (· != '=') with
  | _ :: value => (String.ofList (cs.takeWhile (· != '=')), some (String.ofList value))
  | [] => (word, none)

/-- A word that is an option: it starts with a dash and is longer than that. -/
def isOption (word : String) : Bool := word.toList.head? = some '-' && word.length > 1

/-- Sorts words into options of the given names and arguments. The last value of an option
counts. -/
def sortWords (names : List String) : List String → Option Sorted
  | [] => some ⟨[], [], false⟩
  | "--" :: rest => some ⟨[], rest, false⟩
  | word :: rest =>
    if isOption word then
      let (name, value) := splitOption word
      if name = "--help" then
        if value.isSome then none else (sortWords names rest).map fun s ↦ { s with help := true }
      else if names.contains name then
        let keep (s : Sorted) (value : String) : Sorted :=
          if s.options.any (·.1 == name) then s
          else { s with options := (name, value) :: s.options }
        match value, rest with
        | some value, rest => (sortWords names rest).map (keep · value)
        | none, value :: rest => (sortWords names rest).map (keep · value)
        | none, [] => none
      else none
    else (sortWords names rest).map fun s ↦ { s with arguments := word :: s.arguments }

/-- What the command line asks for. -/
inductive Invocation where
  /-- The snippet of a symbol of a source file. -/
  | snippet (path : Path) (name : String) (label parent : Option String) (line : Option Int)
      (character : Int) (dialect : Option String) (root : Path) (config : Option Path)
  /-- The snippet of a snapshot. -/
  | build (snapshot : Path) (label dialect : Option String) (root : Path) (config : Option Path)
  /-- The server. -/
  | serve
  /-- A list of the commands or of the options of one. -/
  | help
  deriving Repr

def integerOption (s : Sorted) (name : String) : Option (Option Int) :=
  match s.options.get? name with
  | none => some none
  | some text => (Data.integerOfText text).toOption.map some

def rootOption (s : Sorted) : Path := .ofText ((s.options.get? "--root").getD ".")

def configOption (s : Sorted) : Option Path := (s.options.get? "--config").map Path.ofText

def readSnippetCommand (words : List String) : Option Invocation := do
  let s ← sortWords ["--label", "--parent", "--line", "--character", "--dialect", "--root",
    "--config"] words
  if s.help then return .help
  match s.arguments with
  | [path, name] =>
    let line ← integerOption s "--line"
    let character ← integerOption s "--character"
    return .snippet (.ofText path) name (s.options.get? "--label") (s.options.get? "--parent") line
      (character.getD 0) (s.options.get? "--dialect") (rootOption s) (configOption s)
  | _ => none

def readBuildCommand (words : List String) : Option Invocation := do
  let s ← sortWords ["--label", "--dialect", "--root", "--config"] words
  if s.help then return .help
  match s.arguments with
  | [snapshot] =>
    return .build (.ofText snapshot) (s.options.get? "--label") (s.options.get? "--dialect")
      (rootOption s) (configOption s)
  | _ => none

def readServeCommand (words : List String) : Option Invocation := do
  let s ← sortWords [] words
  if s.help then return .help
  if s.arguments.isEmpty then return .serve else none

def readCommand : List String → Option Invocation
  | "snippet" :: words => readSnippetCommand words
  | "build" :: words => readBuildCommand words
  | "lsp" :: words => readServeCommand words
  | _ => none

/-- Reads the words of a command line. The only option in front of a command asks for help; `asked`
says whether it has been seen. -/
def readGroup (asked : Bool) : List String → Option Invocation
  | [] => if asked then some .help else none
  | word :: rest =>
    if word = "--" then if asked then some .help else readCommand rest
    else if word = "--help" then readGroup true rest
    else if isOption word then none
    else if asked then some .help
    else readCommand (word :: rest)

/-- What a command line asks for, unless it is not used as it should be. -/
def readInvocation (words : List String) : Option Invocation := readGroup false words

end CallCompletion.Command
