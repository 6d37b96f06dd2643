import CallCompletion.Text.Half
import CallCompletion.Text.Quoted
import CallCompletion.Text.Utf8

/-!
# Texts and bytes

What can go wrong between texts and their bytes: bytes that are no UTF-8, and halves of surrogate
pairs in a text, for which UTF-8 has no bytes.
-/

namespace CallCompletion.Text

/-- Why there is no text to bytes, or there are no bytes to a text. -/
inductive Utf8Fault where
  | decoding (refusal : Utf8Refusal)
  | encoding (halves : HalfRun)
  deriving DecidableEq, Repr

/-- Places that follow one another, by the first and the last of them. -/
def placesFrom (position width : Nat) : String :=
  " in position " ++ toString position ++
    (if width = 1 then "" else "-" ++ toString (position + width - 1))

/-- Bytes as a refusal names them: one by its value, several by their positions. -/
def Utf8Refusal.place (r : Utf8Refusal) : String :=
  (if r.width = 1 then "byte 0x" ++ String.ofList (hexPadded 2 r.byte.toNat) else "bytes") ++
    placesFrom r.position r.width

def Utf8Flaw.message : Utf8Flaw → String
  | .badStart => "invalid start byte"
  | .badContinuation => "invalid continuation byte"
  | .truncated => "unexpected end of data"

/-- Halves as a refusal names them: one by its code, several by their positions. -/
def HalfRun.place (r : HalfRun) : String :=
  (match r.codes with
    | [code] => "character '\\u" ++ String.ofList (hexPadded 4 code) ++ "'"
    | _ => "characters") ++
    placesFrom r.position r.codes.length

def Utf8Fault.message : Utf8Fault → String
  | .decoding refusal =>
    "'utf-8' codec can't decode " ++ refusal.place ++ ": " ++ refusal.flaw.message
  | .encoding halves => "'utf-8' codec can't encode " ++ halves.place ++ ": surrogates not allowed"

end CallCompletion.Text
