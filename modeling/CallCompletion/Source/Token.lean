/-!
# Tokens of source text

A token carries its spelling, the lines on which it starts and ends, and the number of brackets that
are open after it. Lines count from one. Layout is made of tokens too: the end of a logical line,
and the steps in and out of an indented block.
-/

namespace CallCompletion.Source

inductive TokenKind where
  | name
  | keyword
  | number
  | string
  | operator
  | newline
  | indent
  | dedent
  | finish
  deriving DecidableEq, Repr, Inhabited

structure Token where
  kind : TokenKind
  text : String
  line : Nat
  endLine : Nat
  /-- The number of brackets open after the token. -/
  depth : Nat
  deriving DecidableEq, Repr, Inhabited

namespace Token

/-- Tokens of layout take no part in where a statement ends. -/
def isLayout (t : Token) : Bool :=
  match t.kind with
  | .newline | .indent | .dedent | .finish => true
  | _ => false

/-- A token without the line on which a block or the text ends. -/
def placeless (t : Token) : Token :=
  match t.kind with
  | .dedent | .finish => { t with line := 0, endLine := 0 }
  | _ => t

end Token

def keywords : List String :=
  ["False", "None", "True", "and", "as", "assert", "async", "await", "break", "class", "continue",
   "def", "del", "elif", "else", "except", "finally", "for", "from", "global", "if", "import",
   "in", "is", "lambda", "nonlocal", "not", "or", "pass", "raise", "return", "try", "while",
   "with", "yield"]

/-- Names that act as keywords where a match statement or a pattern can stand. -/
def softKeywords : List String := ["_", "case", "match"]

/-- Why the text cannot be read as tokens any further. -/
inductive LexicalFault where
  | unterminatedString
  | badNumber
  | badCharacter
  | bracketMismatch
  | tooManyBrackets
  | inconsistentDedent
  | inconsistentTabs
  | tooManyIndents
  | badContinuation
  | unexpectedEnd
  deriving DecidableEq, Repr, Inhabited

namespace LexicalFault

/-- A fault that is reported wherever in the text it stands, ahead of any error of grammar before
it. The others are reported only when the grammar reaches them. -/
def isLoud : LexicalFault → Bool
  | .unterminatedString | .badNumber | .badCharacter | .bracketMismatch | .tooManyBrackets => true
  | _ => false

end LexicalFault

/-- The place where the tokens stop short of the end of the text. -/
structure Break where
  fault : LexicalFault
  line : Nat
  /-- The line of the innermost bracket open there. -/
  openBracket : Option Nat
  deriving DecidableEq, Repr, Inhabited

/-- A text as tokens: all of them, the last one `finish`, or those before a break. -/
structure TokenStream where
  tokens : Array Token
  stop : Option Break
  deriving Repr, Inhabited

/-- The tokens without the lines on which blocks and the text end. -/
def TokenStream.placeless (stream : TokenStream) : TokenStream :=
  { stream with tokens := stream.tokens.map Token.placeless }

end CallCompletion.Source
