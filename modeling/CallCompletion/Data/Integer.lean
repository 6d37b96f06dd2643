import CallCompletion.Data.Value
import CallCompletion.Fault
import CallCompletion.Text.Blank
import CallCompletion.Text.Word

/-!
# Integers and texts from data

Where an integer is needed, other values are taken for one as far as they go: a number by its
integer part, a text if it is a numeral with blanks around it. Digits of every script count, and
single underscores may stand between them. Where a text is needed, every value has one but for
integers that are too long. -/

namespace CallCompletion.Data

open CallCompletion.Numeral
open CallCompletion.Text

/-- The number that digits write, with single underscores between them, after the value `n` of those
before; `afterDigit` tells whether the last character was a digit. -/
def digitsValue? (n : Nat) (afterDigit : Bool) : List Char → Option Nat
  | [] => if afterDigit then some n else none
  | '_' :: rest => if afterDigit then digitsValue? n false rest else none
  | c :: rest => (digitValue? c).bind fun d ↦ digitsValue? (10 * n + d) true rest

/-- The integer that a text writes, however long it is. -/
def numeralValue? (s : String) : Option Int :=
  match trim s.toList with
  | '-' :: rest => (digitsValue? 0 false rest).map fun n ↦ -(n : Int)
  | '+' :: rest => (digitsValue? 0 false rest).map fun n ↦ (n : Int)
  | cs => (digitsValue? 0 false cs).map fun n ↦ (n : Int)

/-- The integer that a text is, unless it has too many digits. -/
def integerOfText (s : String) : Except IntegerFault Int :=
  let digits := s.toList.countP fun c ↦ (digitValue? c).isSome
  match numeralValue? s with
  | none => .error (.malformed (quotedText s))
  | some n => if digits ≤ maxDigits then .ok n else .error (.tooLong digits)

/-- The integer that a value is taken for. -/
def Value.toInteger : Value → Except Fault Int
  | .integer n => .ok n
  | .bool b => .ok (if b then 1 else 0)
  | .real .nan => .error (.noIntegerPart true)
  | .real x =>
    match x.truncate? with
    | some n => .ok n
    | none => .error (.noIntegerPart false)
  | .text s => (integerOfText s).mapError .notAnInteger
  | v => .error (.notANumber v.kindName)

/-- The text that a value is shown as. -/
def Value.toText (v : Value) : Except Fault String :=
  if v.isShowable then .ok v.shown else .error (.notAnInteger .unwritable)

end CallCompletion.Data
