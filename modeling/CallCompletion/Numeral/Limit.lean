/-!
# The length of decimal numerals

Decimal numerals of integers have a greatest length: a longer one is neither read nor written. In
other bases an integer can be as long as it likes.
-/

namespace CallCompletion.Numeral

/-- The most digits of a decimal integer. -/
def maxDigits : Nat := 4300

/-- Whether an integer has a decimal numeral that is not too long. -/
def isWritable (n : Int) : Bool := n.natAbs < Nat.pow 10 maxDigits

/-- Why an integer cannot be had from a text, or a text from an integer. -/
inductive IntegerFault where
  /-- The text, here in quotes, is no numeral. -/
  | malformed (quoted : String)
  /-- The numeral is too long to be read. -/
  | tooLong (digits : Nat)
  /-- The numeral would be too long to be written. -/
  | unwritable
  deriving DecidableEq, Repr

namespace IntegerFault

/-- The wording of the limit; `given` says what the numeral at hand has. -/
def limitMessage (given : String) : String :=
  "Exceeds the limit (" ++ toString maxDigits ++ " digits) for integer string conversion" ++ given ++
    "; use sys.set_int_max_str_digits() to increase the limit"

def message : IntegerFault → String
  | .malformed quoted => "invalid literal for int() with base 10: " ++ quoted
  | .tooLong digits => limitMessage (": value has " ++ toString digits ++ " digits")
  | .unwritable => limitMessage ""

end IntegerFault

end CallCompletion.Numeral
