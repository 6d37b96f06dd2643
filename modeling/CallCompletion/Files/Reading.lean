import CallCompletion.Data.Value
import CallCompletion.Fault
import CallCompletion.Files.Path

/-!
# Reading files

Files are given by what reading a path yields: bytes, or the reason why there are none. A text file
is UTF-8, and its ends of lines are read as line feeds.
-/

namespace CallCompletion.Files

open CallCompletion.Text

inductive ReadRefusal where
  | missing
  | notDirectory
  | isDirectory
  | nameTooLong
  deriving DecidableEq, Repr

def ReadRefusal.number : ReadRefusal → Nat
  | .missing => 2
  | .notDirectory => 20
  | .isDirectory => 21
  | .nameTooLong => 36

def ReadRefusal.message : ReadRefusal → String
  | .missing => "No such file or directory"
  | .notDirectory => "Not a directory"
  | .isDirectory => "Is a directory"
  | .nameTooLong => "File name too long"

def unreadable (p : Path) (r : ReadRefusal) : String :=
  "cannot read " ++ p.text ++ ": [Errno " ++ toString r.number ++ "] " ++ r.message ++ ": " ++
    Data.quotedText p.text

/-- The files of a machine: the bytes at each path that can be read. -/
structure FileStore where
  bytes : Path → Except ReadRefusal (List UInt8)

def FileStore.readText (files : FileStore) (p : Path) :
    Except Fault (Except ReadRefusal String) :=
  if p.text.toList.contains '\x00' then .error (@Fault.nulInPath .opening)
  else
    match files.bytes p with
    | .error r => .ok (.error r)
    | .ok bytes =>
      match decodeUtf8 bytes with
      | .ok cs => .ok (.ok (String.ofList (plainNewlines cs)))
      | .error refusal => .error (.notUtf8 (.decoding refusal))

/-- A source text is read under the name of its path, which holds no NUL character. -/
def checkSourceName (p : Path) : Except Fault Unit :=
  if p.text.toList.contains '\x00' then .error (@Fault.nulInPath .naming) else .ok ()

theorem checkSourceName_eq_ok_iff {p : Path} {u : Unit} :
    checkSourceName p = .ok u ↔ '\x00' ∉ p.text.toList := by
  simp [checkSourceName]

theorem checkSourceName_eq_error_iff {p : Path} {f : Fault} :
    checkSourceName p = .error f ↔ '\x00' ∈ p.text.toList ∧ f = @Fault.nulInPath .naming := by
  unfold checkSourceName
  split <;> simp_all [eq_comm]

end CallCompletion.Files
