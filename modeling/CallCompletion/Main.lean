import CallCompletion.Command.Run

/-!
# The command line

Reads the files that a command can ask for, runs the command on them and prints what it answers.
The transport that would connect the server to an editor stands outside this program.
-/

namespace CallCompletion

open CallCompletion.Files

/-- The refusal that a failure of the machine amounts to, for those that are reported. -/
def refusalOf : IO.Error → Option ReadRefusal
  | .noFileOrDirectory .. => some .missing
  | .inappropriateType _ number _ =>
    if number = 21 then some .isDirectory else some .notDirectory
  | .invalidArgument _ 36 _ => some .nameTooLong
  | _ => none

def readPath (path : Path) : IO (Except ReadRefusal (List UInt8)) := do
  try
    return .ok (← IO.FS.readBinFile path.text).toList
  catch failure =>
    match refusalOf failure with
    | some refusal => return .error refusal
    | none => throw failure

def readStore (paths : List Path) : IO FileStore := do
  let readings ← paths.mapM fun path ↦ return (path, ← readPath path)
  return ⟨fun path ↦ (readings.lookup path).getD (.error .missing)⟩

/-- Runs a command on the files of the machine. -/
def perform (invocation : Command.Invocation) : IO (Except Fault Command.Outcome) := do
  let store ← readStore (invocation.paths.filter fun path ↦ !path.text.toList.contains '\x00')
  let input ←
    if invocation.readsInput then (← IO.getStdin).readToEnd else pure ""
  return Command.run store input invocation

end CallCompletion

open CallCompletion in
/-- Runs the command that the words of the command line ask for. -/
def main (words : List String) : IO UInt32 := do
  let result ←
    match Command.readInvocation words with
    | some invocation => perform invocation
    | none => pure (.ok .misused)
  match result with
  | .ok outcome =>
    IO.print outcome.output
    if let some complaint := outcome.complaint? then IO.eprintln complaint
    return outcome.exitCode.toUInt32
  | .error fault =>
    IO.eprintln fault.message
    return 1
