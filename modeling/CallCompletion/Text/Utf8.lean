/-!
# Reading UTF-8

Bytes are read as UTF-8 up to the first byte that rules the text out. The refusal names that byte,
its position, and whether it cannot start a character, cannot continue one, or whether the text
stops inside one.
-/

namespace CallCompletion.Text

inductive Utf8Flaw where
  | badStart
  | badContinuation
  | truncated
  deriving DecidableEq, Repr

/-- The first byte at which a text stops being UTF-8. -/
structure Utf8Refusal where
  flaw : Utf8Flaw
  byte : UInt8
  position : Nat
  /-- The number of bytes that are refused together. -/
  width : Nat
  deriving DecidableEq, Repr

/-- How many continuation bytes a lead byte announces, and the range of the first of them. -/
def leadByte (b : Nat) : Option (Nat × Nat × Nat) :=
  if b < 0x80 then some (0, 0x80, 0xbf)
  else if b < 0xc2 then none
  else if b < 0xe0 then some (1, 0x80, 0xbf)
  else if b = 0xe0 then some (2, 0xa0, 0xbf)
  else if b = 0xed then some (2, 0x80, 0x9f)
  else if b < 0xf0 then some (2, 0x80, 0xbf)
  else if b = 0xf0 then some (3, 0x90, 0xbf)
  else if b < 0xf4 then some (3, 0x80, 0xbf)
  else if b = 0xf4 then some (3, 0x80, 0x8f)
  else none

/-- The bits a lead byte contributes when `n` bytes follow it. -/
def leadBits (b n : Nat) : Nat :=
  match n with
  | 0 => b
  | 1 => b - 0xc0
  | 2 => b - 0xe0
  | _ => b - 0xf0

/-- The longest run of continuation bytes, at most `n`, whose first lies in the given range. -/
def continuation : Nat → Nat → Nat → List UInt8 → List Nat
  | 0, _, _, _ => []
  | _, _, _, [] => []
  | n + 1, lo, hi, b :: rest =>
    if lo ≤ b.toNat && b.toNat ≤ hi then b.toNat :: continuation n 0x80 0xbf rest else []

/-- One character at the front of the bytes, with the number of bytes it takes. -/
def decodeFront (b : UInt8) (rest : List UInt8) : Except (Utf8Flaw × Nat) (Char × Nat) :=
  match leadByte b.toNat with
  | none => .error (.badStart, 1)
  | some (n, lo, hi) =>
    let tail := continuation n lo hi rest
    if tail.length = n then
      .ok (Char.ofNat (tail.foldl (fun v t ↦ v * 64 + (t - 0x80)) (leadBits b.toNat n)), n + 1)
    else if rest.length ≤ tail.length then .error (.truncated, tail.length + 1)
    else .error (.badContinuation, tail.length + 1)

/-- Reads `fuel` characters at most; `fuel` is the number of bytes. -/
def decodeFrom : Nat → Nat → List UInt8 → Except Utf8Refusal (List Char)
  | 0, _, _ => .ok []
  | _, _, [] => .ok []
  | fuel + 1, position, b :: rest =>
    match decodeFront b rest with
    | .error (flaw, width) => .error { flaw, byte := b, position, width }
    | .ok (c, width) => (decodeFrom fuel (position + width) (rest.drop (width - 1))).map (c :: ·)

def decodeUtf8 (bytes : List UInt8) : Except Utf8Refusal (List Char) :=
  decodeFrom bytes.length 0 bytes

/-- Reads `fuel` characters at most, each refused run of bytes as one replacement character. -/
def decodeLossyFrom : Nat → List UInt8 → List Char
  | 0, _ => []
  | _, [] => []
  | fuel + 1, b :: rest =>
    match decodeFront b rest with
    | .error (_, width) => Char.ofNat 0xfffd :: decodeLossyFrom fuel (rest.drop (width - 1))
    | .ok (c, width) => c :: decodeLossyFrom fuel (rest.drop (width - 1))

/-- The text that bytes stand for, with U+FFFD for what is no UTF-8. -/
def decodeUtf8Lossy (bytes : List UInt8) : List Char := decodeLossyFrom bytes.length bytes

end CallCompletion.Text
