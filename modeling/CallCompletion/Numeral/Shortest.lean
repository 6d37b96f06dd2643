import CallCompletion.Numeral.Binary64

/-!
# Shortest decimal numerals

The digits of a number are the fewest that read back as that number and, among those, the nearest to
it; an exact tie goes to the even last digit. The layout is positional as long as the point stands
at most sixteen places right or four places left of the first digit, and scientific beyond.
-/

namespace CallCompletion.Numeral

/-- A positive decimal `0.d₁d₂… * 10 ^ point`, its digits read as one natural number. -/
structure Digits where
  digits : List Char
  point : Int
  deriving DecidableEq, Repr

/-- The two naturals whose quotient is `2 ^ e / 10 ^ k`. -/
def powerRatio (e k : Int) : Nat × Nat :=
  let up := (if e < 0 then 1 else Nat.pow 2 e.natAbs) * (if k < 0 then Nat.pow 10 k.natAbs else 1)
  let down := (if e < 0 then Nat.pow 2 e.natAbs else 1) * (if k < 0 then 1 else Nat.pow 10 k.natAbs)
  (up, down)

/-- `m * 2 ^ e < 10 ^ k`. -/
def belowPower (m : Nat) (e k : Int) : Bool :=
  let (up, down) := powerRatio e k
  m * up < down

/-- The least `k`, from a start that is at most two too small, with `m * 2 ^ e < 10 ^ k`. -/
def decimalPoint (m : Nat) (e : Int) : Int :=
  let start : Int := ((Nat.log2 m : Int) + e) * 30103 / 100000
  if belowPower m e start then start
  else if belowPower m e (start + 1) then start + 1
  else start + 2

/-- The decimal of `n` digits that reads back as `m * 2 ^ e`, the nearest one if there are two. -/
def digitsOfLength? (m : Nat) (e point : Int) (n : Nat) : Option Nat :=
  let (up, down) := powerRatio (e - 2) (point - n)
  let value := 4 * m * up
  let highEnd := (4 * m + 2) * up
  let lowEnd := (4 * m - (if m = Nat.pow 2 52 ∧ e > -1074 then 1 else 2)) * up
  let fits (d : Nat) : Bool :=
    let p := d * down
    if m % 2 = 0 then lowEnd ≤ p && p ≤ highEnd else lowEnd < p && p < highEnd
  let lower := value / down
  let upper := lower + 1
  match fits lower, fits upper with
  | true, true =>
    let below := value - lower * down
    let above := upper * down - value
    some (if below < above || (below == above && lower % 2 == 0) then lower else upper)
  | true, false => some lower
  | false, true => some upper
  | false, false => none

/-- The first length from `n` on at which some decimal reads back; seventeen digits always do. -/
def shortestFrom (m : Nat) (e point : Int) : Nat → Nat → Nat × Nat
  | 0, n => (4 * m * (powerRatio (e - 2) (point - n)).1 / (powerRatio (e - 2) (point - n)).2, n)
  | fuel + 1, n =>
    match digitsOfLength? m e point n with
    | some d => (d, n)
    | none => shortestFrom m e point fuel (n + 1)

/-- The shortest digits of the positive number `m * 2 ^ e`, without trailing zeros. -/
def shortest (m : Nat) (e : Int) : Digits :=
  let point := decimalPoint m e
  let (d, n) := shortestFrom m e point 17 1
  let ds := Nat.toDigits 10 d
  let point := if ds.length > n then point + 1 else point
  let ds := (ds.reverse.dropWhile (· == '0')).reverse
  { digits := ds, point }

/-- An exponent with its sign and at least two digits. -/
def exponentText (e : Int) : List Char :=
  let ds := Nat.toDigits 10 e.natAbs
  'e' :: (if e < 0 then '-' else '+') :: (if ds.length < 2 then '0' :: ds else ds)

/-- Digits laid out around the point; `whole` is appended to a numeral without fraction. -/
def layOut (d : Digits) (whole : List Char) : List Char :=
  let n : Int := d.digits.length
  if -4 < d.point && d.point ≤ 16 then
    if d.point ≤ 0 then '0' :: '.' :: List.replicate d.point.natAbs '0' ++ d.digits
    else if n ≤ d.point then
      d.digits ++ List.replicate (d.point - n).natAbs '0' ++ whole
    else d.digits.take d.point.natAbs ++ '.' :: d.digits.drop d.point.natAbs
  else
    match d.digits with
    | [] => []
    | [only] => only :: exponentText (d.point - 1)
    | first :: rest => first :: '.' :: rest ++ exponentText (d.point - 1)

/-- The numeral of a number; `whole` is appended when there is no fraction and no exponent. -/
def numeralWith (whole : List Char) : Binary64 → List Char
  | .nan => ['n', 'a', 'n']
  | .infinite negative => (if negative then ['-'] else []) ++ ['i', 'n', 'f']
  | .finite negative m e =>
    (if negative then ['-'] else []) ++
      (if m = 0 then '0' :: whole else layOut (shortest m e) whole)

/-- The numeral of a real number: one without fraction or exponent ends in `.0`. -/
def realNumeral (x : Binary64) : String := String.ofList (numeralWith ['.', '0'] x)

def imaginaryNumeral (x : Binary64) : String := String.ofList (numeralWith [] x ++ ['j'])

end CallCompletion.Numeral
