import CallCompletion.Numeral.Limit
import CallCompletion.Source.Syntax
import CallCompletion.Text.Word

/-!
# Literals

The value of a number, of a text with its escapes, and of a formatted text with the expressions in
its braces. Adjacent string tokens make one literal. What is inside the braces of a formatted text
is an expression of its own and is read by the grammar again, in parentheses; the reader of such
expressions is a parameter here, and so is the table of the characters that an escape can name.
-/

namespace CallCompletion.Source

open CallCompletion.Numeral
open CallCompletion.Text

/-! ## Numbers -/

def valueInBase (base : Nat) (ds : List Char) : Nat :=
  ds.foldl (fun n d ↦ base * n + (hexValue? d).getD 0) 0

/-- The value of a decimal numeral with point and exponent. -/
def realOfText (cs : List Char) : Binary64 :=
  let isExponent := fun c ↦ c == 'e' || c == 'E'
  let mantissa := cs.takeWhile (!isExponent ·)
  let exponent := (cs.dropWhile (!isExponent ·)).drop 1
  let whole := mantissa.takeWhile (· != '.')
  let fraction := (mantissa.dropWhile (· != '.')).drop 1
  let power : Int :=
    match exponent with
    | '-' :: ds => -(decimalValue ds : Int)
    | '+' :: ds => decimalValue ds
    | ds => decimalValue ds
  Binary64.ofDecimal false (decimalValue (whole ++ fraction)) (power - fraction.length)

/-- The constant that a number token stands for; an integer of too many digits has none. -/
def numberValue? (text : List Char) : Option Constant :=
  let cs := text.filter (· != '_')
  match cs with
  | '0' :: 'x' :: ds | '0' :: 'X' :: ds => some (.integer (valueInBase 16 ds))
  | '0' :: 'o' :: ds | '0' :: 'O' :: ds => some (.integer (valueInBase 8 ds))
  | '0' :: 'b' :: ds | '0' :: 'B' :: ds => some (.integer (valueInBase 2 ds))
  | _ =>
    if cs.getLast?.any (fun c ↦ c == 'j' || c == 'J') then
      some (.imaginary (realOfText cs.dropLast))
    else if cs.any (fun c ↦ c == '.' || c == 'e' || c == 'E') then some (.real (realOfText cs))
    else if cs.length > maxDigits then none
    else some (.integer (decimalValue cs))

/-! ## Escapes -/

/-- The value of exactly `n` hexadecimal digits, and what follows them. -/
def hexDigits? : Nat → Nat → List Char → Option (Nat × List Char)
  | 0, value, rest => some (value, rest)
  | _, _, [] => none
  | n + 1, value, c :: rest => (hexValue? c).bind fun d ↦ hexDigits? n (16 * value + d) rest

/-- The value of at most `n` octal digits, and what follows them. -/
def octalDigits : Nat → Nat → List Char → Nat × List Char
  | n + 1, value, c :: rest =>
    if '0' ≤ c && c ≤ '7' then octalDigits n (8 * value + (c.toNat - '0'.toNat)) rest
    else (value, c :: rest)
  | _, value, rest => (value, rest)

def escapeLetter? : Char → Option Char
  | '\\' => some '\\'
  | '\'' => some '\''
  | '"' => some '"'
  | 'a' => some '\x07'
  | 'b' => some '\x08'
  | 'f' => some '\x0c'
  | 'n' => some '\n'
  | 'r' => some '\r'
  | 't' => some '\t'
  | 'v' => some '\x0b'
  | _ => none

/-- A table of the characters that can be written by their names. -/
class CharacterNames where
  named? : List Char → Option Char

/-- Without a table no character has a name. -/
instance (priority := low) noNames : CharacterNames := ⟨fun _ ↦ none⟩

/-- The character named in braces, and what follows them. -/
def namedCharacter? (names : CharacterNames) : List Char → Option (Char × List Char)
  | '{' :: rest =>
    match rest.dropWhile (· != '}') with
    | _ :: after => (names.named? (rest.takeWhile (· != '}'))).map (·, after)
    | [] => none
  | _ => none

/-- The code points an escape stands for, given what follows its backslash. `wide` admits the long
escapes of texts, which byte texts do not have; an unknown escape stands for itself. -/
def readEscape (names : CharacterNames) (wide : Bool) (c : Char) (rest : List Char) :
    Option (List Nat × List Char) :=
  if c == '\n' then some ([], rest)
  else
    match escapeLetter? c with
    | some e => some ([e.toNat], rest)
    | none =>
      if '0' ≤ c && c ≤ '7' then
        let (value, after) := octalDigits 3 0 (c :: rest)
        some ([if wide then value else value % 256], after)
      else if c == 'x' then (hexDigits? 2 0 rest).map fun (v, after) ↦ ([v], after)
      else if wide && c == 'u' then (hexDigits? 4 0 rest).map fun (v, after) ↦ ([v], after)
      else if wide && c == 'U' then
        (hexDigits? 8 0 rest).bind fun (v, after) ↦
          if v ≤ 0x10ffff then some ([v], after) else none
      else if wide && c == 'N' then
        (namedCharacter? names rest).map fun (named, after) ↦ ([named.toNat], after)
      else some (['\\'.toNat, c.toNat], rest)

/-- The code points of a text with escapes; `fuel` is the length of the text. -/
def decodeEscapesUpTo (names : CharacterNames) (wide : Bool) : Nat → List Char → Option (List Nat)
  | 0, _ => some []
  | _, [] => some []
  | _, ['\\'] => some ['\\'.toNat]
  | fuel + 1, '\\' :: c :: rest =>
    (readEscape names wide c rest).bind fun (codes, after) ↦
      (decodeEscapesUpTo names wide fuel after).map (codes ++ ·)
  | fuel + 1, c :: rest => (decodeEscapesUpTo names wide fuel rest).map (c.toNat :: ·)

def decodeText? (names : CharacterNames) (raw : Bool) (cs : List Char) : Option (List Nat) :=
  if raw then some (cs.map Char.toNat) else decodeEscapesUpTo names true cs.length cs

def decodeBytes? (raw : Bool) (cs : List Char) : Option (List Nat) :=
  if raw then some (cs.map Char.toNat) else decodeEscapesUpTo noNames false cs.length cs

/-! ## String tokens -/

/-- A string token taken apart. -/
structure RawString where
  isBytes : Bool
  isRaw : Bool
  isFormatted : Bool
  /-- Marked as Unicode by a lower-case `u`. -/
  isMarked : Bool
  body : List Char
  line : Nat

def RawString.ofToken (text : List Char) (line : Nat) : RawString :=
  let isQuote := fun c ↦ c == '\'' || c == '"'
  let marks := text.takeWhile (!isQuote ·)
  let quotedPart := text.dropWhile (!isQuote ·)
  let width :=
    match quotedPart with
    | a :: b :: c :: rest => if a == b && b == c && rest.length ≥ 3 then 3 else 1
    | _ => 1
  let body := (quotedPart.drop width).take (quotedPart.length - 2 * width)
  let lower := marks.map Char.toLower
  { isBytes := lower.contains 'b', isRaw := lower.contains 'r', isFormatted := lower.contains 'f',
    isMarked := marks.head? == some 'u', body, line }

/-- What is wrong with a literal: an error at the token that follows it, or on a line. -/
inductive LiteralFault where
  | following
  | onLine (line : Nat)

/-- A part of a text that may be formatted; literal text is given by its code points. -/
inductive TextPart where
  | literal (codes : List Nat)
  | field (value : Expr)

/-- A constant of a formatted text; an empty one is left out. -/
def literalPart (codes : List Nat) : List Expr :=
  if codes.isEmpty then [] else [.constant (.ofCodes codes false)]

/-- The expressions that parts make, after the literal text `codes`. Adjacent literal parts are one
constant. -/
def mergeParts (codes : List Nat) : List TextPart → List Expr
  | [] => literalPart codes
  | .field e :: rest => literalPart codes ++ e :: mergeParts [] rest
  | .literal more :: rest => mergeParts (codes ++ more) rest

/-! ## Formatted texts -/

/-- What literals are read with: the named characters, and the reader of the expression that stands
in braces, given its first line. -/
structure LiteralReader where
  names : CharacterNames
  field : Nat → List Char → Except Nat Expr

/-- The literal text up to a field, a doubled brace or the end; at the outermost level a doubled
brace stands for one, and a closing brace alone is an error. -/
def literalRun (raw nested : Bool) :
    Nat → List Char → Except LiteralFault (List Char × Bool × List Char)
  | 0, rest => .ok ([], false, rest)
  | _, [] => .ok ([], false, [])
  | fuel + 1, c :: rest =>
    let go (taken after : List Char) :=
      (literalRun raw nested fuel after).map fun (t, d, r) ↦ (taken ++ t, d, r)
    match !raw && c == '\\', rest with
    | true, 'N' :: '{' :: after =>
      let inner := after.takeWhile (· != '}')
      go ('\\' :: 'N' :: '{' :: inner ++ ['}']) (after.drop (inner.length + 1))
    | true, d :: after =>
      if d == '{' || d == '}' then go ['\\'] rest else go ['\\', d] after
    | _, _ =>
      if c == '{' || c == '}' then
        if nested then .ok ([], false, c :: rest)
        else if rest.head? == some c then .ok ([c], true, rest.drop 1)
        else if c == '}' then .error .following
        else .ok ([], false, c :: rest)
      else go [c] rest

/-- The text of the expression in braces, up to what ends it: a conversion, a format, an equals sign
or the closing brace. `quote` is the string the place lies in, with whether it is triple. -/
def fieldText : Nat → Option (Char × Bool) → List Char → List Char → Option (List Char × List Char)
  | 0, _, _, _ => none
  | _, _, _, [] => none
  | fuel + 1, quote, brackets, c :: rest =>
    let keep (n : Nat) (quote : Option (Char × Bool)) (brackets : List Char) :=
      (fieldText fuel quote brackets (rest.drop n)).map fun (t, r) ↦ (c :: rest.take n ++ t, r)
    if c == '\\' then none
    else
      match quote with
      | some (q, triple) =>
        if c != q then keep 0 quote brackets
        else if !triple then keep 0 none brackets
        else if [q, q].isPrefixOf rest then keep 2 none brackets
        else keep 0 quote brackets
      | none =>
        if c == '\'' || c == '"' then
          if [c, c].isPrefixOf rest then keep 2 (some (c, true)) brackets
          else keep 0 (some (c, false)) brackets
        else if c == '[' || c == '{' || c == '(' then
          if brackets.length ≥ 200 then none else keep 0 none (c :: brackets)
        else if c == '#' then none
        else if brackets.isEmpty && ['!', ':', '}', '=', '<', '>'].contains c then
          if rest.head? == some '=' && ['!', '=', '<', '>'].contains c then keep 1 none brackets
          else if c == '<' || c == '>' then keep 0 none brackets
          else some ([], c :: rest)
        else if c == ']' || c == '}' || c == ')' then
          match brackets with
          | '(' :: outer => if c == ')' then keep 0 none outer else none
          | '[' :: outer => if c == ']' then keep 0 none outer else none
          | '{' :: outer => if c == '}' then keep 0 none outer else none
          | _ => none
        else keep 0 none brackets

def isAsciiSpace (c : Char) : Bool := c == ' ' || (9 ≤ c.toNat && c.toNat ≤ 13)

def lineFeeds (cs : List Char) : Nat := cs.count '\n'

/-- The parts of a formatted text from a place on, up to its end or, in a format, up to the closing
brace. `depth` counts the formats around it, and `line` is the line of the place. -/
def formattedParts (read : LiteralReader) (raw : Bool) :
    Nat → Nat → Nat → List Char → Except LiteralFault (List TextPart × List Char)
  | 0, _, _, rest => .ok ([], rest)
  | fuel + 1, depth, line, cs => do
    let (text, doubled, rest) ← literalRun raw (depth > 0) (cs.length + 1) cs
    let some codes := decodeText? read.names raw text | .error .following
    let line := line + (lineFeeds cs - lineFeeds rest)
    if doubled then
      let (parts, after) ← formattedParts read raw fuel depth line rest
      return (.literal codes :: parts, after)
    match rest with
    | '{' :: body =>
      if depth ≥ 2 then .error .following
      let some (expr, after) := fieldText (body.length + 1) none [] body | .error .following
      if expr.all (fun c ↦ c == ' ' || c == '\t' || c == '\n' || c == '\x0c') then
        .error .following
      let value ←
        match read.field line ('(' :: expr ++ [')']) with
        | .ok e => Except.ok e
        | .error l => Except.error (.onLine l)
      let (echo, after) :=
        match after with
        | '=' :: r =>
          let space := r.takeWhile isAsciiSpace
          (some (expr ++ '=' :: space), r.drop space.length)
        | _ => (none, after)
      let (conversion, after) ←
        match after with
        | '!' :: c :: r =>
          if c == 's' || c == 'r' || c == 'a' then Except.ok (some c, r)
          else Except.error .following
        | '!' :: [] => Except.error .following
        | _ => Except.ok (none, after)
      let here := line + (lineFeeds rest - lineFeeds after)
      let (spec, after) ←
        match after with
        | ':' :: r =>
          if r.isEmpty then Except.error .following
          else
            match formattedParts read raw fuel (depth + 1) here r with
            | .ok (parts, r) => Except.ok (some (Expr.joined (mergeParts [] parts)), r)
            | .error e => Except.error e
        | _ => Except.ok (none, after)
      match after with
      | '}' :: r =>
        let conversion := if echo.isSome && spec.isNone then conversion <|> some 'r' else conversion
        let field := TextPart.field (.formatted value conversion spec)
        let next := line + (lineFeeds rest - lineFeeds r)
        let (parts, after) ← formattedParts read raw fuel depth next r
        return (.literal codes :: .literal ((echo.getD []).map Char.toNat) :: field :: parts, after)
      | _ => .error .following
    | _ =>
      if depth > 0 && rest.head? != some '}' then .error .following
      return ([.literal codes], rest)

def textParts (read : LiteralReader) (s : RawString) : Except LiteralFault (List TextPart) :=
  if s.isFormatted then
    (formattedParts read s.isRaw (s.body.length + 2) 0 s.line s.body).map Prod.fst
  else
    match decodeText? read.names s.isRaw s.body with
    | some codes => .ok [.literal codes]
    | none => .error .following

/-- The bytes of one string token that is a byte text; only ASCII can stand in it. -/
def byteParts (s : RawString) : Except LiteralFault (List Nat) :=
  if s.body.any (fun c ↦ c.toNat ≥ 128) then .error (.onLine s.line)
  else
    match decodeBytes? s.isRaw s.body with
    | some bytes => .ok bytes
    | none => .error .following

/-- The parts of adjacent string tokens, which are all byte texts or none is. -/
def joinStrings (read : LiteralReader) (bytes : Bool) :
    List RawString → Except LiteralFault (List TextPart × List Nat)
  | [] => .ok ([], [])
  | s :: rest => do
    if s.isFormatted && bytes then .error .following
    let here ←
      if s.isBytes then (byteParts s).map fun b ↦ (([] : List TextPart), b)
      else (textParts read s).map fun p ↦ (p, ([] : List Nat))
    if s.isBytes != bytes then .error .following
    let more ← joinStrings read bytes rest
    return (here.1 ++ more.1, here.2 ++ more.2)

/-- The value of adjacent string tokens. -/
def stringsValue (read : LiteralReader) (tokens : List RawString) : Except LiteralFault Expr := do
  let bytes := tokens.head?.any RawString.isBytes
  let (parts, content) ← joinStrings read bytes tokens
  if bytes then return .constant (.bytes content)
  else if tokens.any RawString.isFormatted then return .joined (mergeParts [] parts)
  else
    let codes := parts.flatMap fun
      | .literal codes => codes
      | .field _ => []
    return .constant (.ofCodes codes (tokens.head?.any RawString.isMarked))

end CallCompletion.Source
