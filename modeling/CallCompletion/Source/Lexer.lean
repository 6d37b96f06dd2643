import CallCompletion.Source.Token
import CallCompletion.Text.Identifier
import CallCompletion.Text.Lines

/-!
# Reading tokens

The reader walks over the text once. At the start of a logical line it compares the margin with the
enclosing margins and emits the steps in or out; inside brackets lines run on. Tabs are counted
twice, with stops every eight columns and as single columns, and both counts have to agree on every
comparison. The tokens end with `finish`, or at the first place where no token can be read.
-/

namespace CallCompletion.Source

open CallCompletion.Text

/-- Where the reader stands. -/
structure Cursor where
  rest : List Char
  line : Nat
  /-- Open brackets with their lines, innermost first. -/
  brackets : List (Char × Nat)
  /-- Enclosing margins in both counts, innermost first; the outermost margin zero is implied. -/
  margins : List (Nat × Nat)
  deriving Inhabited

namespace Cursor

def openBracket (c : Cursor) : Option Nat := c.brackets.head?.map Prod.snd

def break_ (c : Cursor) (fault : LexicalFault) : Break :=
  { fault, line := c.line, openBracket := c.openBracket }

def token (c : Cursor) (kind : TokenKind) (text : List Char) : Token :=
  { kind, text := String.ofList text, line := c.line, endLine := c.line, depth := c.brackets.length }

/-- The place after a line feed: the end of the text opens no new line. -/
def afterNewline (c : Cursor) (rest : List Char) : Cursor :=
  { c with rest, line := if rest.isEmpty then c.line else c.line + 1 }

end Cursor

/-- The deepest nesting of brackets. -/
def maxBrackets : Nat := 200

/-- The deepest nesting of blocks. -/
def maxIndents : Nat := 99

/-! ## Margins -/

/-- The margin of a line: its two column counts, and the column at which a continuation mark first
stood, zero if there was none. -/
structure Margin where
  column : Nat
  plainColumn : Nat
  continued : Nat

/-- Measures the margin of the line at hand; continuation marks inside it join lines. -/
def measureMargin (line : Nat) (m : Margin) :
    List Char → Except (LexicalFault × Nat) (Margin × Nat × List Char)
  | ' ' :: rest =>
    measureMargin line { m with column := m.column + 1, plainColumn := m.plainColumn + 1 } rest
  | '\t' :: rest =>
    measureMargin line
      { m with column := (m.column / 8 + 1) * 8, plainColumn := m.plainColumn + 1 } rest
  | '\x0c' :: rest => measureMargin line { m with column := 0, plainColumn := 0 } rest
  | ['\\', '\n'] => .error (.unexpectedEnd, line)
  | '\\' :: '\n' :: rest =>
    measureMargin (line + 1)
      { m with continued := if m.continued = 0 then m.column else m.continued } rest
  | '\\' :: _ => .error (.badContinuation, line)
  | rest => .ok (m, line, rest)

/-- The margin in both counts that a measured line stands at. -/
def Margin.effective (m : Margin) : Nat × Nat :=
  if m.continued = 0 then (m.column, m.plainColumn) else (m.continued, m.continued)

/-- Leaves the margins that lie right of a column; the number left is counted. -/
def leaveMargins (column : Nat) : List (Nat × Nat) → Nat × List (Nat × Nat)
  | [] => (0, [])
  | m :: rest =>
    if column < m.1 then
      let (n, outer) := leaveMargins column rest
      (n + 1, outer)
    else (0, m :: rest)

/-- Compares a line's margin with the enclosing ones: the steps in or out, and the new margins. -/
def stepMargin (margins : List (Nat × Nat)) (at_ : Nat × Nat) :
    Except LexicalFault (List TokenKind × List (Nat × Nat)) :=
  let top := margins.headD (0, 0)
  if at_.1 = top.1 then
    if at_.2 = top.2 then .ok ([], margins) else .error .inconsistentTabs
  else if top.1 < at_.1 then
    if margins.length ≥ maxIndents then .error .tooManyIndents
    else if at_.2 ≤ top.2 then .error .inconsistentTabs
    else .ok ([.indent], at_ :: margins)
  else
    let (n, outer) := leaveMargins at_.1 margins
    let top := outer.headD (0, 0)
    if at_.1 ≠ top.1 then .error .inconsistentDedent
    else if at_.2 ≠ top.2 then .error .inconsistentTabs
    else .ok (List.replicate n .dedent, outer)

/-! ## Numbers -/

/-- Digits with single underscores between them; `need` demands a digit next. -/
def digitsFrom (isD : Char → Bool) : Bool → List Char → Option (List Char × List Char)
  | need, [] => if need then none else some ([], [])
  | need, c :: rest =>
    if isD c then (digitsFrom isD false rest).map fun (ds, r) ↦ (c :: ds, r)
    else if c == '_' && !need then (digitsFrom isD true rest).map fun (ds, r) ↦ (c :: ds, r)
    else if need then none
    else some ([], c :: rest)

/-- A character that could go on an identifier, whatever its class beyond ASCII. -/
def couldExtendName (c : Char) : Bool := c.isAlphanum || c == '_' || c.toNat ≥ 128

/-- A number may be followed by anything that does not extend it, and by the keywords that can
follow an operand. -/
def endsNumber (rest : List Char) : Bool :=
  match rest with
  | [] => true
  | c :: _ =>
    ["and", "else", "for", "if", "in", "is", "or", "not"].any
      (fun word ↦ word.toList.isPrefixOf rest) || !couldExtendName c

/-- The digits of an exact number of a base other than ten, and the check of what follows. -/
def basedDigits (isD : Char → Bool) (text rest : List Char) : Option (List Char × List Char) :=
  (digitsFrom isD true rest).bind fun (ds, after) ↦
    if endsNumber after && !(after.head?.any Char.isDigit) then some (text ++ ds, after) else none

/-- An exact number of a base other than ten, after its mark. -/
def basedNumber (mark : List Char) (isD : Char → Bool) (rest : List Char) :
    Option (List Char × List Char) :=
  match rest with
  | '_' :: digits => basedDigits isD (mark ++ ['_']) digits
  | _ => basedDigits isD mark rest

/-- The imaginary mark, if there is one, and the check of what follows. -/
def finishNumber (text rest : List Char) : Option (List Char × List Char) :=
  match rest with
  | c :: after =>
    if c == 'j' || c == 'J' then
      if endsNumber after then some (text ++ [c], after) else none
    else if endsNumber rest then some (text, rest)
    else none
  | [] => some (text, [])

/-- The exponent, if there is one, and what may follow it. -/
def exponentPart (text rest : List Char) : Option (List Char × List Char) :=
  match rest with
  | e :: after =>
    if e == 'e' || e == 'E' then
      match after with
      | s :: digits =>
        if s == '+' || s == '-' then
          (digitsFrom Char.isDigit true digits).bind fun (ds, r) ↦
            finishNumber (text ++ e :: s :: ds) r
        else if s.isDigit then
          (digitsFrom Char.isDigit true after).bind fun (ds, r) ↦ finishNumber (text ++ e :: ds) r
        else if endsNumber rest then some (text, rest)
        else none
      | [] => none
    else finishNumber text rest
  | [] => some (text, [])

/-- What follows the integer part: a fraction, an exponent, an imaginary mark. -/
def fractionPart (text rest : List Char) : Option (List Char × List Char) :=
  match rest with
  | '.' :: after =>
    if after.head?.any Char.isDigit then
      (digitsFrom Char.isDigit true after).bind fun (ds, r) ↦ exponentPart (text ++ '.' :: ds) r
    else exponentPart (text ++ ['.']) after
  | _ => exponentPart text rest

/-- A decimal number. An integer other than zero does not start with a zero. -/
def decimalNumber (cs : List Char) : Option (List Char × List Char) :=
  (digitsFrom Char.isDigit true cs).bind fun (ds, rest) ↦
    let continues := rest.head?.any fun c ↦ c == '.' || c == 'e' || c == 'E' || c == 'j' || c == 'J'
    if ds.head? == some '0' && !continues && ds.any (fun d ↦ d != '0' && d != '_') then none
    else fractionPart ds rest

/-- The number at the front of a text that starts with a digit, or with a point and a digit. -/
def readNumber (cs : List Char) : Option (List Char × List Char) :=
  match cs with
  | '.' :: _ => fractionPart [] cs
  | '0' :: x :: rest =>
    if x == 'x' || x == 'X' then
      basedNumber ['0', x] (fun c ↦ c.isDigit || ('a' ≤ c && c ≤ 'f') || ('A' ≤ c && c ≤ 'F')) rest
    else if x == 'o' || x == 'O' then basedNumber ['0', x] (fun c ↦ '0' ≤ c && c ≤ '7') rest
    else if x == 'b' || x == 'B' then basedNumber ['0', x] (fun c ↦ c == '0' || c == '1') rest
    else decimalNumber cs
  | _ => decimalNumber cs

/-! ## Strings -/

/-- The marks that can stand before a quote, in lower case. -/
def stringMarks : List String := ["b", "u", "r", "f", "br", "rb", "fr", "rf"]

/-- The rest of a string on one line, up to its closing quote; a backslash takes the next character
along. -/
def shortStringRest (q : Char) : List Char → Option (List Char × List Char)
  | [] => none
  | ['\\'] => none
  | '\\' :: c :: rest => (shortStringRest q rest).map fun (s, r) ↦ ('\\' :: c :: s, r)
  | c :: rest =>
    if c == '\n' then none
    else if c == q then some ([c], rest)
    else (shortStringRest q rest).map fun (s, r) ↦ (c :: s, r)

/-- The rest of a string in triple quotes. -/
def longStringRest (q : Char) : List Char → Option (List Char × List Char)
  | [] => none
  | ['\\'] => none
  | '\\' :: c :: rest => (longStringRest q rest).map fun (s, r) ↦ ('\\' :: c :: s, r)
  | c :: rest =>
    if c == q && [q, q].isPrefixOf rest then some ([q, q, q], rest.drop 2)
    else (longStringRest q rest).map fun (s, r) ↦ (c :: s, r)

/-- The string that starts with the quote `q`, given what follows that quote. -/
def readString (q : Char) (rest : List Char) : Option (List Char × List Char) :=
  if [q, q].isPrefixOf rest then
    (longStringRest q (rest.drop 2)).map fun (s, r) ↦ (q :: q :: q :: s, r)
  else (shortStringRest q rest).map fun (s, r) ↦ (q :: s, r)

/-! ## Operators -/

/-- Operators of three and of two characters. -/
def longOperators : List String :=
  ["**=", "//=", ">>=", "<<=", "...", "!=", "%=", "&=", "**", "*=", "+=", "-=", "->", "//", "/=",
   ":=", "<<", "<=", "<>", "==", ">=", ">>", "@=", "^=", "|="]

/-- The longest operator at the front of a text that is not empty. -/
def readOperator (c : Char) (rest : List Char) : List Char × List Char :=
  match longOperators.find? (fun op ↦ op.toList.isPrefixOf (c :: rest)) with
  | some op => (op.toList, (c :: rest).drop op.length)
  | none => ([c], rest)

def closerOf (c : Char) : Char := if c == '(' then ')' else if c == '[' then ']' else '}'

/-- Keeps the stack of open brackets over a one-character operator. -/
def stepBrackets (c : Char) (line : Nat) (brackets : List (Char × Nat)) :
    Except LexicalFault (List (Char × Nat)) :=
  if c == '(' || c == '[' || c == '{' then
    if brackets.length ≥ maxBrackets then .error .tooManyBrackets else .ok ((c, line) :: brackets)
  else if c == ')' || c == ']' || c == '}' then
    match brackets with
    | [] => .error .bracketMismatch
    | (o, _) :: outer => if closerOf o == c then .ok outer else .error .bracketMismatch
  else if c.toNat < 32 || c.toNat == 127 then .error .badCharacter
  else .ok brackets

/-! ## The reader -/

/-- A character that stands between tokens. -/
def isSpacer (c : Char) : Bool := c == ' ' || c == '\t' || c == '\x0c'

/-- What follows a comment, if one stands here: the end of its line. -/
def skipComment (cs : List Char) : List Char :=
  if cs.head? == some '#' then cs.dropWhile (· != '\n') else cs

/-- The spelling of a token and what follows it. -/
structure Lexeme where
  kind : TokenKind
  text : List Char
  rest : List Char

/-- The string that starts here: its mark, its quote and what follows the quote. -/
def stringStart? (c : Char) (after : List Char) : Option (List Char × Char × List Char) :=
  if c == '\'' || c == '"' then some ([], c, after)
  else
    let word := (c :: after).takeWhile couldExtendName
    match (c :: after).dropWhile couldExtendName with
    | q :: rest =>
      if !c.isDigit && stringMarks.contains (String.ofList (word.map Char.toLower)) &&
          (q == '\'' || q == '"') then
        some (word, q, rest)
      else none
    | [] => none

def wordLexeme (word rest : List Char) : Except LexicalFault Lexeme :=
  if word.all (fun c ↦ c.toNat < 128) || isIdentifier word then
    .ok ⟨if keywords.contains (String.ofList word) then .keyword else .name, word, rest⟩
  else .error .badCharacter

/-- The token at the front of a text that starts neither with layout nor with a continuation
mark. -/
def readLexeme (c : Char) (after : List Char) : Except LexicalFault Lexeme :=
  match stringStart? c after with
  | some (mark, q, body) =>
    match readString q body with
    | some (s, rest) => .ok ⟨.string, mark ++ s, rest⟩
    | none => .error .unterminatedString
  | none =>
    if !c.isDigit && couldExtendName c then
      wordLexeme ((c :: after).takeWhile couldExtendName) ((c :: after).dropWhile couldExtendName)
    else if c.isDigit || (c == '.' && after.head?.any Char.isDigit) then
      match readNumber (c :: after) with
      | some (text, rest) => .ok ⟨.number, text, rest⟩
      | none => .error .badNumber
    else
      let (text, rest) := readOperator c after
      .ok ⟨.operator, text, rest⟩

/-- Moves past a token; an operator of one character can be a bracket. -/
def Cursor.emit (cur : Cursor) (l : Lexeme) : Except Break (Token × Cursor) :=
  match l.kind, l.text with
  | .operator, [single] =>
    match stepBrackets single cur.line cur.brackets with
    | .error fault => .error (cur.break_ fault)
    | .ok brackets =>
      let next := { cur with rest := l.rest, brackets }
      .ok (next.token .operator l.text, next)
  | kind, text =>
    let endLine := cur.line + text.count '\n'
    .ok ({ cur.token kind text with endLine }, { cur with rest := l.rest, line := endLine })

/-- The token has the text of what was read, and the place after it is where the reader stopped. -/
theorem Cursor.kept_of_emit {cur next : Cursor} {l : Lexeme} {t : Token}
    (h : cur.emit l = .ok (t, next)) : t.text = String.ofList l.text ∧ next.rest = l.rest := by
  unfold Cursor.emit at h
  split at h
  · split at h <;> cases h
    exact ⟨rfl, rfl⟩
  · cases h
    exact ⟨rfl, rfl⟩

/-- The token that starts with a character, and the place after it. -/
def Cursor.readFrom (cur : Cursor) (c : Char) (after : List Char) : Except Break (Token × Cursor) :=
  match readLexeme c after with
  | .error fault => .error (cur.break_ fault)
  | .ok l => cur.emit l

/-- One step over what stands after the spaces: a token if one was read, the next place, and whether
that place is at the start of a line. -/
def Cursor.readContent (cur : Cursor) : List Char → Except Break (Option Token × Cursor × Bool)
  | [] =>
    if cur.brackets.isEmpty then .ok (some (cur.token .finish []), { cur with rest := [] }, false)
    else .error (cur.break_ .unexpectedEnd)
  | '\n' :: after =>
    let next := cur.afterNewline after
    if cur.brackets.isEmpty then .ok (some (cur.token .newline []), next, true)
    else .ok (none, next, true)
  | ['\\', '\n'] => .error (cur.break_ .unexpectedEnd)
  | '\\' :: '\n' :: after => .ok (none, { cur with rest := after, line := cur.line + 1 }, false)
  | '\\' :: _ => .error (cur.break_ .badContinuation)
  | c :: after => (cur.readFrom c after).map fun (t, next) ↦ (some t, next, false)

/-- One step inside a line. -/
def readToken (cur : Cursor) : Except Break (Option Token × Cursor × Bool) :=
  cur.readContent (skipComment (cur.rest.dropWhile isSpacer))

/-- The steps in or out at a line of the given margin, unless the line is blank or inside
brackets. -/
def Cursor.enterLine (cur : Cursor) (margin : Margin) : Except Break (List Token × Cursor × Bool) :=
  match skipComment cur.rest with
  | '\n' :: after => .ok ([], cur.afterNewline after, true)
  | content =>
    if cur.rest.head? == some '#' then .ok ([], { cur with rest := content }, false)
    else if cur.brackets.isEmpty then
      match stepMargin cur.margins margin.effective with
      | .error fault => .error (cur.break_ fault)
      | .ok (kinds, margins) => .ok (kinds.map (cur.token · []), { cur with margins }, false)
    else .ok ([], cur, false)

/-- One step at the start of a line. -/
def readLineStart (cur : Cursor) : Except Break (List Token × Cursor × Bool) :=
  match measureMargin cur.line ⟨0, 0, 0⟩ cur.rest with
  | .error (fault, line) => .error { fault, line, openBracket := cur.openBracket }
  | .ok (margin, line, rest) => { cur with rest, line }.enterLine margin

/-- Reads tokens until `finish` or a break; every two steps move on by a character at least. -/
def readAll : Nat → Cursor → Bool → Array Token → TokenStream
  | 0, _, _, acc => ⟨acc, none⟩
  | fuel + 1, cur, true, acc =>
    match readLineStart cur with
    | .error b => ⟨acc, some b⟩
    | .ok (ts, next, atStart) => readAll fuel next atStart (acc ++ ts)
  | fuel + 1, cur, false, acc =>
    match readToken cur with
    | .error b => ⟨acc, some b⟩
    | .ok (some t, next, atStart) =>
      if t.kind = .finish then ⟨acc.push t, none⟩ else readAll fuel next atStart (acc.push t)
    | .ok (none, next, atStart) => readAll fuel next atStart acc

def tokenizeFrom (line : Nat) (text : List Char) : TokenStream :=
  readAll (2 * text.length + 4) ⟨text, line, [], []⟩ true #[]

/-- A whole file ends with a line feed, given or implied. -/
def fileText (text : List Char) : List Char :=
  let text := plainNewlines text
  if text.getLast? = some '\n' then text else text ++ ['\n']

end CallCompletion.Source
