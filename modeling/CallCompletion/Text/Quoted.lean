import CallCompletion.Text.PrintableRanges
import CallCompletion.Text.Range

/-!
# Quoted text

A text is given by its code points, halves of surrogate pairs among them. It is quoted with
apostrophes unless it holds an apostrophe and no double quote. Inside, the quote and the backslash
take a backslash, and a character that does not print is written by its code, in two, four or eight
hexadecimal digits.
-/

namespace CallCompletion.Text

/-- A code point whose character stands for itself in quoted text. -/
def isPrintable (n : Nat) : Bool :=
  if n < 128 then 32 ≤ n && n < 127 else inRanges printableRanges n

/-- A number in lower-case hexadecimal, padded with zeros to at least `width` digits. -/
def hexPadded (width n : Nat) : List Char :=
  let ds := Nat.toDigits 16 n
  List.replicate (width - ds.length) '0' ++ ds

/-- The escape for a code point: a letter for the common controls, else its digits. -/
def escapeCode (n : Nat) : List Char :=
  if n = '\t'.toNat then ['\\', 't']
  else if n = '\n'.toNat then ['\\', 'n']
  else if n = '\r'.toNat then ['\\', 'r']
  else if n = '\\'.toNat then ['\\', '\\']
  else if n < 0x100 then '\\' :: 'x' :: hexPadded 2 n
  else if n < 0x10000 then '\\' :: 'u' :: hexPadded 4 n
  else '\\' :: 'U' :: hexPadded 8 n

/-- A code point as its character, or as an escape if that is a backslash or does not print. -/
def plainOrEscaped (n : Nat) : List Char :=
  if n = '\\'.toNat || !isPrintable n then escapeCode n else [Char.ofNat n]

/-- The quote character that suits a text. -/
def suitableQuote (hasApostrophe hasDouble : Bool) : Char :=
  if hasApostrophe && !hasDouble then '"' else '\''

/-- One code point of a text quoted by `q`. -/
def quotedCode (q : Char) (n : Nat) : List Char :=
  if n = q.toNat then ['\\', q] else plainOrEscaped n

def quoted (codes : List Nat) : List Char :=
  let q := suitableQuote (codes.contains '\''.toNat) (codes.contains '"'.toNat)
  q :: codes.flatMap (quotedCode q) ++ [q]

/-- One byte of a byte text quoted by `q`. -/
def quotedByte (q : Char) (b : Nat) : List Char :=
  if b < 127 then quotedCode q b else '\\' :: 'x' :: hexPadded 2 b

/-- A byte text in quotes, with its mark. -/
def quotedBytes (bytes : List Nat) : List Char :=
  let q := suitableQuote (bytes.contains '\''.toNat) (bytes.contains '"'.toNat)
  'b' :: q :: bytes.flatMap (quotedByte q) ++ [q]

end CallCompletion.Text
