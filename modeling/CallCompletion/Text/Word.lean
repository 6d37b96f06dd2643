import CallCompletion.Text.DigitRanges
import CallCompletion.Text.Range
import CallCompletion.Text.WordRanges

/-!
# Word characters and digits

A word character is a letter, a numeral of any script, or the underscore. Decimal digits of every
script count as digits and have their value.
-/

namespace CallCompletion.Text

/-- An ASCII letter or the underscore. -/
def isNameStart (c : Char) : Bool := c.isAlpha || c == '_'

/-- A letter, a numeral of any script, or the underscore. -/
def isWordChar (c : Char) : Bool :=
  if c.toNat < 128 then c.isAlphanum || c == '_' else inRanges wordRanges c.toNat

theorem toNat_lt_of_isAlphanum {c : Char} (h : c.isAlphanum = true) : c.toNat < 128 := by
  have hle {d : Char} (hd : c.val ≤ d.val) (hascii : d.toNat < 128) : c.toNat < 128 :=
    Nat.lt_of_le_of_lt (UInt32.le_iff_toNat_le.1 hd) hascii
  rcases Bool.or_eq_true_iff.1 h with hletter | hdigit
  · rcases Bool.or_eq_true_iff.1 hletter with hupper | hlower
    · exact hle (d := 'Z') (of_decide_eq_true hupper).2 (by decide)
    · exact hle (d := 'z') (of_decide_eq_true (Bool.and_eq_true_iff.1 hlower).2) (by decide)
  · exact hle (d := '9') (of_decide_eq_true (Bool.and_eq_true_iff.1 hdigit).2) (by decide)

/-- A character that can start a name can stand in a word. -/
theorem isWordChar_of_isNameStart {c : Char} (h : isNameStart c = true) : isWordChar c = true := by
  rcases Bool.or_eq_true_iff.1 h with hletter | hunderscore
  · have halphanum : c.isAlphanum = true := by rw [Char.isAlphanum, hletter, Bool.true_or]
    rw [isWordChar, if_pos (toNat_lt_of_isAlphanum halphanum), halphanum, Bool.true_or]
  · rw [eq_of_beq hunderscore]
    rfl

def digitValue? (c : Char) : Option Nat :=
  if c.isDigit then some (c.toNat - '0'.toNat)
  else if c.toNat < 128 then none
  else (rangeOffset? digitRanges c.toNat).map (· % 10)

def isDecimalDigit (c : Char) : Bool := (digitValue? c).isSome

/-- The number written by ASCII digits, most significant first. -/
def decimalValue (ds : List Char) : Nat :=
  ds.foldl (fun n d ↦ 10 * n + (d.toNat - '0'.toNat)) 0

def hexValue? (c : Char) : Option Nat :=
  if c.isDigit then some (c.toNat - '0'.toNat)
  else if 'a' ≤ c && c ≤ 'f' then some (c.toNat - 'a'.toNat + 10)
  else if 'A' ≤ c && c ≤ 'F' then some (c.toNat - 'A'.toNat + 10)
  else none

/-- A lower-case copy of the ASCII letters of a text. -/
def lowerAscii (cs : List Char) : List Char := cs.map Char.toLower

end CallCompletion.Text
