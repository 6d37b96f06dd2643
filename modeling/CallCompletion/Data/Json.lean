import CallCompletion.Data.Value
import CallCompletion.Text.Half
import CallCompletion.Text.Word

/-!
# JSON

Reading and writing of values in JSON. The reader also takes the numbers `NaN`, `Infinity` and
`-Infinity`, and of the entries of one name in an object the last one counts. A text that it refuses
is answered by what is wrong and where. An escape can write half of a surrogate pair alone, and an
integer can be as long as it likes unless there is a limit.
-/

namespace CallCompletion.Data.Json

open CallCompletion.Numeral
open CallCompletion.Text

/-- What stands in for halves, and the most digits of an integer if there is a limit. -/
structure Options where
  standIn : StandIn
  digitLimit : Option Nat

/-- Without a limit on the digits of an integer. -/
def Options.unlimited (standIn : StandIn) : Options := ⟨standIn, none⟩

/-- With the limit that holds for decimal numerals. -/
def Options.limited (standIn : StandIn) : Options := ⟨standIn, some maxDigits⟩

/-! ## Refusals -/

inductive Flaw where
  | value | propertyName | colon | comma | extraData | controlCharacter | escape | unicodeEscape
  | unterminated | byteOrderMark
  | tooManyDigits (count : Nat)
  deriving DecidableEq, Repr

def Flaw.message : Flaw → String
  | .value => "Expecting value"
  | .propertyName => "Expecting property name enclosed in double quotes"
  | .colon => "Expecting ':' delimiter"
  | .comma => "Expecting ',' delimiter"
  | .extraData => "Extra data"
  | .controlCharacter => "Invalid control character at"
  | .escape => "Invalid \\escape"
  | .unicodeEscape => "Invalid \\uXXXX escape"
  | .unterminated => "Unterminated string starting at"
  | .byteOrderMark => "Unexpected UTF-8 BOM (decode using utf-8-sig)"
  | .tooManyDigits count => (IntegerFault.tooLong count).message

/-- A refusal: the flaw, and how many characters there are from it to the end of the text. -/
structure Refusal where
  flaw : Flaw
  left : Nat
  deriving DecidableEq, Repr

/-- The wording of the refusal of a text, with line, column and offset of the flaw. -/
def Refusal.message (r : Refusal) (text : List Char) : String :=
  let offset := text.length - r.left
  let before := text.take offset
  let line := before.count '\n' + 1
  let column := (before.reverse.takeWhile (· != '\n')).length + 1
  r.flaw.message ++ ": line " ++ toString line ++ " column " ++ toString column ++
    " (char " ++ toString offset ++ ")"

/-- What a reader gives: a result and the text after it. -/
abbrev Reading (α : Type) := Except Refusal (α × List Char)

/-- Refuses a text at the point where `rest` starts. -/
def refuse {α : Type} (flaw : Flaw) (rest : List Char) : Except Refusal α :=
  .error ⟨flaw, rest.length⟩

/-! ## Texts -/

def isSpace (c : Char) : Bool := c == ' ' || c == '\t' || c == '\n' || c == '\r'

def skipSpace (cs : List Char) : List Char := cs.dropWhile isSpace

def shortEscape? : Char → Option Char
  | '"' => some '"'
  | '\\' => some '\\'
  | '/' => some '/'
  | 'b' => some '\x08'
  | 'f' => some '\x0c'
  | 'n' => some '\n'
  | 'r' => some '\r'
  | 't' => some '\t'
  | _ => none

def unit? : List Char → Option Nat
  | [a, b, c, d] => do
    let a ← hexValue? a
    let b ← hexValue? b
    let c ← hexValue? c
    let d ← hexValue? d
    return ((a * 16 + b) * 16 + c) * 16 + d
  | _ => none

/-- Reads what follows a backslash and the letter `u`: the code point, and the text after it. Two
halves make one code point. -/
def readUnit (mark : List Char) (digits : List Char) : Reading Nat :=
  if (digits.drop 4).isEmpty then refuse .unicodeEscape mark
  else
    match unit? (digits.take 4) with
    | none => refuse .unicodeEscape mark
    | some high =>
      let rest := digits.drop 4
      match rest with
      | '\\' :: 'u' :: more =>
        if isHighHalf high && !(more.drop 4).isEmpty then
          match unit? (more.take 4) with
          | none => refuse .unicodeEscape ('u' :: more)
          | some low =>
            if isLowHalf low then
              .ok (0x10000 + (high - 0xD800) * 0x400 + (low - 0xDC00), more.drop 4)
            else .ok (high, rest)
        else .ok (high, rest)
      | _ => .ok (high, rest)

/-- Reads the code points of a text up to its closing quote, after `done` in reverse; `opening`
starts at its opening quote. The first argument bounds the number of characters. -/
def readCodes (opening : List Char) : Nat → List Nat → List Char → Reading (List Nat)
  | 0, _, _ => refuse .unterminated opening
  | _, _, [] => refuse .unterminated opening
  | _, done, '"' :: rest => .ok (done.reverse, rest)
  | _, _, ['\\'] => refuse .unterminated opening
  | bound + 1, done, '\\' :: 'u' :: digits =>
    match readUnit ('u' :: digits) digits with
    | .ok (code, rest) => readCodes opening bound (code :: done) rest
    | .error r => .error r
  | bound + 1, done, '\\' :: c :: rest =>
    match shortEscape? c with
    | some c => readCodes opening bound (c.toNat :: done) rest
    | none => refuse .escape ('\\' :: c :: rest)
  | bound + 1, done, c :: rest =>
    if c.toNat < 0x20 then refuse .controlCharacter (c :: rest)
    else readCodes opening bound (c.toNat :: done) rest

section

variable (options : Options)

def readText (opening rest : List Char) : Reading String :=
  (readCodes opening (rest.length + 1) [] rest).map fun (codes, rest) ↦
    (String.ofList (options.standIn.chars codes), rest)

/-! ## Numbers -/

/-- The value of a number by its sign, its digits before and after the point, and its exponent. -/
def numberOf (negative : Bool) (whole fraction : List Char) (exponent : Option Int) : Value :=
  if fraction.isEmpty && exponent.isNone then
    let n : Int := decimalValue whole
    .integer (if negative then -n else n)
  else
    .real (.ofDecimal negative (decimalValue (whole ++ fraction))
      (exponent.getD 0 - fraction.length))

/-- Whether a number that starts with the given digits is an integer of more digits than allowed. -/
def isTooLong (whole fraction : List Char) (exponent : Option Int) : Bool :=
  fraction.isEmpty && exponent.isNone && options.digitLimit.any (· < whole.length)

/-- Splits off the digits of a fraction; a point alone is none. -/
def readFraction (cs : List Char) : List Char × List Char :=
  match cs with
  | '.' :: rest =>
    if rest.head?.any Char.isDigit then (rest.takeWhile Char.isDigit, rest.dropWhile Char.isDigit)
    else ([], cs)
  | _ => ([], cs)

def readSign : List Char → Bool × List Char
  | '-' :: rest => (true, rest)
  | '+' :: rest => (false, rest)
  | cs => (false, cs)

/-- Splits off an exponent; one without digits is none. -/
def readExponent (cs : List Char) : Option Int × List Char :=
  match cs with
  | e :: rest =>
    if e == 'e' || e == 'E' then
      let (negative, rest) := readSign rest
      let digits := rest.takeWhile Char.isDigit
      let n : Int := decimalValue digits
      if digits.isEmpty then (none, cs)
      else (some (if negative then -n else n), rest.dropWhile Char.isDigit)
    else (none, cs)
  | [] => (none, cs)

/-- The digits before the point: a zero stands alone. -/
def readWhole : List Char → List Char × List Char
  | '0' :: rest => (['0'], rest)
  | cs => (cs.takeWhile Char.isDigit, cs.dropWhile Char.isDigit)

def readNumber (cs : List Char) : Reading Value :=
  let (negative, body) :=
    match cs with
    | '-' :: rest => (true, rest)
    | _ => (false, cs)
  let (whole, rest) := readWhole body
  if whole.isEmpty then refuse .value cs
  else
    let (fraction, rest) := readFraction rest
    let (exponent, rest) := readExponent rest
    if isTooLong options whole fraction exponent then refuse (.tooManyDigits whole.length) cs
    else .ok (numberOf negative whole fraction exponent, rest)

/-! ## Values -/

def words : List (String × Value) :=
  [("null", .null), ("true", .bool true), ("false", .bool false), ("NaN", .real .nan),
   ("Infinity", .real (.infinite false)), ("-Infinity", .real (.infinite true))]

def readWord? (cs : List Char) : Option (Value × List Char) :=
  (words.find? fun w ↦ w.1.toList.isPrefixOf cs).map fun w ↦ (w.2, cs.drop w.1.length)

mutual

/-- Reads a value. The first argument bounds how many values and separators there can be. -/
def readValue : Nat → List Char → Reading Value
  | 0, cs => refuse .value cs
  | bound + 1, cs =>
    match cs with
    | '"' :: rest => (readText options cs rest).map fun (s, rest) ↦ (.text s, rest)
    | '[' :: rest =>
      match skipSpace rest with
      | ']' :: rest => .ok (.list [], rest)
      | rest => (readItems bound rest).map fun (items, rest) ↦ (.list items, rest)
    | '\x7b' :: rest =>
      match skipSpace rest with
      | '\x7d' :: rest => .ok (.table [], rest)
      | rest =>
        (readEntries bound rest).map fun (entries, rest) ↦ (.table (Table.ofEntries entries), rest)
    | _ =>
      match readWord? cs with
      | some reading => .ok reading
      | none => readNumber options cs

def readItems : Nat → List Char → Reading (List Value)
  | 0, cs => refuse .value cs
  | bound + 1, cs =>
    (readValue bound cs).bind fun (v, rest) ↦
      match skipSpace rest with
      | ']' :: rest => .ok ([v], rest)
      | ',' :: rest => (readItems bound (skipSpace rest)).map fun (items, rest) ↦ (v :: items, rest)
      | rest => refuse .comma rest

def readEntries : Nat → List Char → Reading (List (String × Value))
  | 0, cs => refuse .value cs
  | bound + 1, cs =>
    match cs with
    | '"' :: rest =>
      (readText options cs rest).bind fun (name, rest) ↦
        match skipSpace rest with
        | ':' :: rest =>
          (readValue bound (skipSpace rest)).bind fun (v, rest) ↦
            match skipSpace rest with
            | '\x7d' :: rest => .ok ([(name, v)], rest)
            | ',' :: rest =>
              (readEntries bound (skipSpace rest)).map fun (entries, rest) ↦
                ((name, v) :: entries, rest)
            | rest => refuse .comma rest
        | rest => refuse .colon rest
    | rest => refuse .propertyName rest

end

def readWith (text : List Char) : Except Refusal Value :=
  if text.head? = some '\uFEFF' then refuse .byteOrderMark text
  else
    match readValue options (text.length + 1) (skipSpace text) with
    | .error r => .error r
    | .ok (v, rest) =>
      match skipSpace rest with
      | [] => .ok v
      | rest => refuse .extraData rest

end

/-- Reads a text in which no integer is too long. -/
def read (text : List Char) : Except Refusal Value := readWith (.limited .shared) text

/-! ## Writing -/

def writtenChar (c : Char) : List Char :=
  if c == '"' then ['\\', '"']
  else if c == '\\' then ['\\', '\\']
  else if c.toNat < 0x20 || c.toNat = 0x7F then '\\' :: 'u' :: hexPadded 4 c.toNat
  else [c]

def writeText (s : String) : String :=
  String.ofList ('"' :: s.toList.flatMap writtenChar ++ ['"'])

def writeReal : Binary64 → String
  | .nan => "NaN"
  | .infinite false => "Infinity"
  | .infinite true => "-Infinity"
  | x => realNumeral x

mutual

/-- A written value; moments are written as texts. -/
def write : Value → String
  | .null => "null"
  | .bool true => "true"
  | .bool false => "false"
  | .integer n => toString n
  | .real x => writeReal x
  | .text s => writeText s
  | .moment m => writeText (m.standard "T")
  | .list items => "[" ++ ",".intercalate (writeEach items) ++ "]"
  | .table entries => "\x7b" ++ ",".intercalate (writeEntries entries) ++ "\x7d"

def writeEach : List Value → List String
  | [] => []
  | v :: rest => write v :: writeEach rest

def writeEntries : List (String × Value) → List String
  | [] => []
  | (name, v) :: rest => (writeText name ++ ":" ++ write v) :: writeEntries rest

end

end CallCompletion.Data.Json
