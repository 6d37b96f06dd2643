/-!
# Binary floating-point numbers

Numbers of the 64-bit binary format, kept as exact data: a finite number is a signed mantissa times
a power of two. A decimal numeral is rounded to the nearest such number, a tie going to the even
mantissa, in exact integer arithmetic.
-/

namespace CallCompletion.Numeral

/-- A number of the 64-bit binary format. In a finite number the mantissa is below `2 ^ 53`, and
it is at least `2 ^ 52` unless the exponent is the least one, `-1074`. -/
inductive Binary64 where
  | finite (negative : Bool) (mantissa : Nat) (exponent : Int)
  | infinite (negative : Bool)
  | nan
  deriving DecidableEq, Repr, Inhabited

namespace Binary64

def zero (negative : Bool) : Binary64 := .finite negative 0 (-1074)

/-- The quotient rounded to the nearest integer, a tie to the even one. -/
def roundQuotient (num den : Nat) : Nat :=
  let q := num / den
  let r := num % den
  if 2 * r > den || (2 * r == den && q % 2 == 1) then q + 1 else q

/-- `num / den` divided by `2 ^ e`, as a pair of naturals. -/
def scaleDown (num den : Nat) (e : Int) : Nat × Nat :=
  if e < 0 then (num * Nat.pow 2 e.natAbs, den) else (num, den * Nat.pow 2 e.natAbs)

/-- The number nearest to the quotient of two positive naturals. -/
def ofRatio (negative : Bool) (num den : Nat) : Binary64 :=
  let estimate : Int := (Nat.log2 num : Int) - (Nat.log2 den : Int) - 53
  let low : Int := max estimate (-1074)
  let (n, d) := scaleDown num den low
  let e := if n / d ≥ Nat.pow 2 53 then low + 1 else low
  let (n, d) := scaleDown num den e
  let m := roundQuotient n d
  let (m, e) := if m = Nat.pow 2 53 then (Nat.pow 2 52, e + 1) else (m, e)
  if e > 971 then .infinite negative else .finite negative m e

def ofDecimal (negative : Bool) (digits : Nat) (exponent : Int) : Binary64 :=
  if digits = 0 then zero negative
  else
    let magnitude : Int := (Nat.log2 digits : Int) * 3 / 10 + exponent
    if magnitude > 400 then .infinite negative
    else if magnitude < -800 then zero negative
    else if exponent < 0 then ofRatio negative digits (Nat.pow 10 exponent.natAbs)
    else ofRatio negative (digits * Nat.pow 10 exponent.natAbs) 1

/-- The integer part, toward zero. -/
def truncate? : Binary64 → Option Int
  | .finite negative m e =>
    let n : Nat := if e < 0 then m / Nat.pow 2 e.natAbs else m * Nat.pow 2 e.natAbs
    some (if negative then -(n : Int) else n)
  | _ => none

/-- A finite number without a fractional part. -/
def isIntegral : Binary64 → Bool
  | .finite _ m e => 0 ≤ e || m % Nat.pow 2 e.natAbs == 0
  | _ => false

/-- A zero of either sign. -/
def isZero : Binary64 → Bool
  | .finite _ m _ => m == 0
  | _ => false

end Binary64

end CallCompletion.Numeral
