import CallCompletion.Data.Value
import CallCompletion.Text.Word

/-!
# Scalars of settings files

Texts, numbers, dates and times as a settings file writes them. Each reader takes the text from a
place on and gives a value with the text after it, or nothing if there is no such value there. A
decimal integer can also be refused, because it has too many digits.
-/

namespace CallCompletion.Data.Toml

open CallCompletion.Numeral
open CallCompletion.Text

/-! ## Refusals -/

inductive Refusal where
  | malformed
  /-- There are more digits in an integer than can be read. -/
  | tooManyDigits (count : Nat)
  deriving DecidableEq, Repr

/-- What is not there is missed. -/
def orMalformed {α : Type} : Option α → Except Refusal α
  | some a => .ok a
  | none => .error .malformed

@[simp]
theorem orMalformed_eq_ok_iff {α : Type} {x : Option α} {a : α} :
    orMalformed x = .ok a ↔ x = some a := by
  cases x <;> simp [orMalformed]

/-! ## Characters -/

def isSpace (c : Char) : Bool := c == ' ' || c == '\t'

def isSpaceOrEnd (c : Char) : Bool := isSpace c || c == '\n'

/-- A control character that may not stand in a line; a tab may. -/
def isIllegal (c : Char) : Bool := (c.toNat < 0x20 && c != '\t') || c.toNat = 0x7F

/-- A control character that may not stand in a text of several lines. -/
def isIllegalInLines (c : Char) : Bool := isIllegal c && c != '\n'

/-! ## Texts -/

def readCode (length : Nat) (cs : List Char) : Option (Char × List Char) :=
  let digits := cs.take length
  if digits.length = length && digits.all (hexValue? · |>.isSome) then
    let n := digits.foldl (fun n c ↦ 16 * n + (hexValue? c).getD 0) 0
    if n.isValidChar then some (Char.ofNat n, cs.drop length) else none
  else none

def readEscape (cs : List Char) : Option (Char × List Char) :=
  match cs with
  | 'b' :: rest => some ('\x08', rest)
  | 't' :: rest => some ('\t', rest)
  | 'n' :: rest => some ('\n', rest)
  | 'f' :: rest => some ('\x0c', rest)
  | 'r' :: rest => some ('\r', rest)
  | '"' :: rest => some ('"', rest)
  | '\\' :: rest => some ('\\', rest)
  | 'u' :: rest => readCode 4 rest
  | 'U' :: rest => readCode 8 rest
  | _ => none

/-- What follows a backslash at the end of a line, if there is one: the next text of any line. -/
def afterLineEnd? (cs : List Char) : Option (List Char) :=
  match cs with
  | '\n' :: rest => some (rest.dropWhile isSpaceOrEnd)
  | c :: rest =>
    if isSpace c then
      match rest.dropWhile isSpace with
      | [] => some []
      | '\n' :: rest => some (rest.dropWhile isSpaceOrEnd)
      | _ => none
    else none
  | [] => none

/-- The rest of a text in one line after its opening quote. The first argument bounds its length. -/
def readLineText : Nat → List Char → Option (List Char × List Char)
  | 0, _ => none
  | _, [] => none
  | _, '"' :: rest => some ([], rest)
  | bound + 1, '\\' :: rest => do
    let (c, rest) ← readEscape rest
    let (text, rest) ← readLineText bound rest
    return (c :: text, rest)
  | bound + 1, c :: rest => do
    if isIllegal c then none
    else
      let (text, rest) ← readLineText bound rest
      return (c :: text, rest)

/-- The rest of a text in several lines after its opening quotes, up to the first three quotes. The
first argument bounds its length. -/
def readLinesText : Nat → List Char → Option (List Char × List Char)
  | 0, _ => none
  | _, [] => none
  | _, '"' :: '"' :: '"' :: rest => some ([], rest)
  | bound + 1, '\\' :: rest =>
    match afterLineEnd? rest with
    | some rest => readLinesText bound rest
    | none => do
      let (c, rest) ← readEscape rest
      let (text, rest) ← readLinesText bound rest
      return (c :: text, rest)
  | bound + 1, c :: rest => do
    if isIllegalInLines c then none
    else
      let (text, rest) ← readLinesText bound rest
      return (c :: text, rest)

/-- The rest of a literal text in one line after its opening quote. -/
def readLiteral (cs : List Char) : Option (List Char × List Char) :=
  let text := cs.takeWhile (· != '\'')
  match cs.dropWhile (· != '\'') with
  | _ :: rest => if text.any isIllegal then none else some (text, rest)
  | [] => none

/-- The rest of a literal text in several lines after its opening quotes. -/
def readLiteralLines : List Char → Option (List Char × List Char)
  | [] => none
  | '\'' :: '\'' :: '\'' :: rest => some ([], rest)
  | c :: rest =>
    if isIllegalInLines c then none
    else (readLiteralLines rest).map fun (text, rest) ↦ (c :: text, rest)

/-- Adds up to two quotes that follow the closing ones: they belong to the text. -/
def withExtraQuotes (quote : Char) (reading : List Char × List Char) : List Char × List Char :=
  let extra := (reading.2.takeWhile (· == quote)).take 2
  (reading.1 ++ extra, reading.2.drop extra.length)

/-- Skips the end of the line right after opening quotes. -/
def skipFirstEnd : List Char → List Char
  | '\n' :: rest => rest
  | cs => cs

/-- Reads a text in any of the four ways of writing it. -/
def readText (cs : List Char) : Option (String × List Char) :=
  let reading :=
    match cs with
    | '"' :: '"' :: '"' :: rest =>
      (readLinesText (rest.length + 1) (skipFirstEnd rest)).map (withExtraQuotes '"')
    | '"' :: rest => readLineText (rest.length + 1) rest
    | '\'' :: '\'' :: '\'' :: rest =>
      (readLiteralLines (skipFirstEnd rest)).map (withExtraQuotes '\'')
    | '\'' :: rest => readLiteral rest
    | _ => none
  reading.map fun (text, rest) ↦ (String.ofList text, rest)

/-! ## Dates and times -/

/-- Reads a number of exactly `count` digits between two bounds. -/
def readField (count low high : Nat) (cs : List Char) : Option (Nat × List Char) :=
  let digits := cs.take count
  let n := decimalValue digits
  if digits.length = count && digits.all Char.isDigit && low ≤ n && n ≤ high then
    some (n, cs.drop count)
  else none

def readChar (test : Char → Bool) : List Char → Option (List Char)
  | c :: rest => if test c then some rest else none
  | [] => none

/-- The millionths that a fraction of a second starts with. -/
def microseconds (digits : List Char) : Nat :=
  let kept := digits.take 6
  decimalValue kept * Nat.pow 10 (6 - kept.length)

def readTime (cs : List Char) : Option (TimeOfDay × List Char) := do
  let (hour, cs) ← readField 2 0 23 cs
  let cs ← readChar (· == ':') cs
  let (minute, cs) ← readField 2 0 59 cs
  let cs ← readChar (· == ':') cs
  let (second, cs) ← readField 2 0 59 cs
  match cs with
  | '.' :: rest =>
    let digits := rest.takeWhile Char.isDigit
    if digits.isEmpty then return (⟨hour, minute, second, 0⟩, cs)
    else return (⟨hour, minute, second, microseconds digits⟩, rest.dropWhile Char.isDigit)
  | _ => return (⟨hour, minute, second, 0⟩, cs)

/-- Reads the distance from universal time, if there is one. -/
def readOffset (cs : List Char) : Option Int × List Char :=
  match cs with
  | c :: rest =>
    if c == 'Z' || c == 'z' then (some 0, rest)
    else if c == '+' || c == '-' then
      let reading : Option (Int × List Char) := do
        let (hours, rest) ← readField 2 0 23 rest
        let rest ← readChar (· == ':') rest
        let (minutes, rest) ← readField 2 0 59 rest
        let n : Int := hours * 60 + minutes
        return (if c == '-' then -n else n, rest)
      match reading with
      | some (n, rest) => (some n, rest)
      | none => (none, cs)
    else (none, cs)
  | [] => (none, cs)

/-- Reads a date as it is written, whether or not there is such a day. -/
def readDate (cs : List Char) : Option (Date × List Char) := do
  let (year, cs) ← readField 4 0 9999 cs
  let cs ← readChar (· == '-') cs
  let (month, cs) ← readField 2 1 12 cs
  let cs ← readChar (· == '-') cs
  let (day, cs) ← readField 2 1 31 cs
  return (⟨year, month, day⟩, cs)

/-- A time after a date and the character between them. -/
def readTimeAfterDate (cs : List Char) : Option (TimeOfDay × List Char) := do
  let cs ← readChar (fun c ↦ c == 'T' || c == 't' || c == ' ') cs
  readTime cs

/-! ## Numbers -/

/-- Digits with single underscores between them. -/
def digitGroups (isDigit : Char → Bool) : List Char → List Char × List Char
  | '_' :: c :: rest =>
    if isDigit c then
      let (digits, rest) := digitGroups isDigit rest
      (c :: digits, rest)
    else ([], '_' :: c :: rest)
  | c :: rest =>
    if isDigit c then
      let (digits, rest) := digitGroups isDigit rest
      (c :: digits, rest)
    else ([], c :: rest)
  | [] => ([], [])

/-- Digits that start with one and not with an underscore. -/
def readDigits (isDigit : Char → Bool) (cs : List Char) : Option (List Char × List Char) :=
  if cs.head?.any isDigit then some (digitGroups isDigit cs) else none

def baseValue (base : Nat) (digits : List Char) : Nat :=
  digits.foldl (fun n c ↦ base * n + (hexValue? c).getD 0) 0

/-- A whole number with a mark of its base. -/
def readBased (cs : List Char) : Option (Value × List Char) :=
  let inBase (base : Nat) (rest : List Char) : Option (Value × List Char) :=
    (readDigits (fun c ↦ (hexValue? c).any (· < base)) rest).map fun (digits, rest) ↦
      (.integer (baseValue base digits), rest)
  match cs with
  | '0' :: 'x' :: rest => inBase 16 rest
  | '0' :: 'b' :: rest => inBase 2 rest
  | '0' :: 'o' :: rest => inBase 8 rest
  | _ => none

def readSign : List Char → Bool × List Char
  | '-' :: rest => (true, rest)
  | '+' :: rest => (false, rest)
  | cs => (false, cs)

def readFraction (cs : List Char) : Option (List Char) × List Char :=
  match cs with
  | '.' :: rest =>
    match readDigits Char.isDigit rest with
    | some (digits, rest) => (some digits, rest)
    | none => (none, cs)
  | _ => (none, cs)

def readExponent (cs : List Char) : Option Int × List Char :=
  match cs with
  | c :: rest =>
    if c == 'e' || c == 'E' then
      let (negative, rest) := readSign rest
      match readDigits Char.isDigit rest with
      | some (digits, rest) =>
        let n : Int := decimalValue digits
        (some (if negative then -n else n), rest)
      | none => (none, cs)
    else (none, cs)
  | [] => (none, cs)

/-- The digits before the point: a zero stands alone. -/
def readWhole : List Char → Option (List Char × List Char)
  | '0' :: rest => some (['0'], rest)
  | cs => readDigits Char.isDigit cs

def decimalOf (negative : Bool) (whole : List Char) (fraction : Option (List Char))
    (exponent : Option Int) : Except Refusal Value :=
  if fraction.isNone && exponent.isNone then
    let n : Int := decimalValue whole
    if whole.length > maxDigits then .error (.tooManyDigits whole.length)
    else .ok (.integer (if negative then -n else n))
  else
    let fraction := fraction.getD []
    .ok (.real (.ofDecimal negative (decimalValue (whole ++ fraction))
      (exponent.getD 0 - fraction.length)))

def readDecimal (cs : List Char) : Option (Except Refusal (Value × List Char)) := do
  let (negative, cs) := readSign cs
  let (whole, cs) ← readWhole cs
  let (fraction, cs) := readFraction cs
  let (exponent, cs) := readExponent cs
  return (decimalOf negative whole fraction exponent).map (·, cs)

def words : List (String × Value) :=
  [("true", .bool true), ("false", .bool false), ("inf", .real (.infinite false)),
   ("nan", .real .nan), ("+inf", .real (.infinite false)), ("-inf", .real (.infinite true)),
   ("+nan", .real .nan), ("-nan", .real .nan)]

def readWord (cs : List Char) : Option (Value × List Char) :=
  (words.find? fun w ↦ w.1.toList.isPrefixOf cs).map fun w ↦ (w.2, cs.drop w.1.length)

/-- Reads a date, a time, a number or a word. What is written as a date has to be a day that
exists. -/
def readPlain (cs : List Char) : Except Refusal (Value × List Char) :=
  match readDate cs with
  | some (date, rest) =>
    if !date.isValid then .error .malformed
    else
      match readTimeAfterDate rest with
      | some (time, rest) =>
        let (offset, rest) := readOffset rest
        .ok (.moment (.dateTime date time offset), rest)
      | none => .ok (.moment (.date date), rest)
  | none =>
    let time : Option (Value × List Char) :=
      (readTime cs).map fun (time, rest) ↦ (.moment (.time time), rest)
    let reading : Option (Except Refusal (Value × List Char)) :=
      (time <|> readBased cs).map .ok <|> readDecimal cs <|> (readWord cs).map .ok
    reading.getD (.error .malformed)

end CallCompletion.Data.Toml
