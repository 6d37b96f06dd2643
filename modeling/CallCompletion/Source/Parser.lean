import CallCompletion.Source.Grammar.Statement
import CallCompletion.Source.Lexer

/-!
# Reading source text

A text is read with the rules of the grammar. If it does not match, it is read again with the rules
that look for errors, and the line of the error is determined:

* a token that cannot be read stops the reading, and the error is there;
* otherwise the error is where a rule has found it or, if none has, at the furthest token that the
  first reading asked for;
* a fault of the tokens further on in the text takes precedence, and so does a bracket that is left
  open on an earlier line.
-/

namespace CallCompletion.Source

open CallCompletion.Text

namespace Grammar

/-- One layer of the grammar over the layer that its rules refer to. -/
def layer (literals : LiteralReader) (g : Grammar) : Grammar :=
  { literals
    expression := expressionRule g
    namedExpression := namedExpressionRule g
    disjunction := disjunctionRule g
    inversion := inversionRule g
    bitOr := bitOrRule g
    factor := factorRule g
    starTarget := starTargetRule g
    targetWithStarAtom := targetWithStarAtomRule g
    singleTarget := singleTargetRule g
    deleteTarget := deleteTargetRule g
    annotationTargetError := annotationTargetErrorRule g
    pattern := patternRule g
    block := blockRule g
    elseBranch := elseBranchRule g }

end Grammar

/-- Where an error of grammar is reported, given the tokens asked for when it was found: a loud
fault further on comes first, then a bracket that is left open on an earlier line. -/
def settleLine (stream : TokenStream) (line fetched : Nat) : Nat :=
  match stream.stop with
  | none => line
  | some b =>
    if b.fault.isLoud then b.line
    else
      match b.openBracket, stream.tokens[fetched - 1]? with
      | some bracket, some last => if bracket < last.line then bracket else line
      | _, _ => line

/-- The line on which a token that cannot be read is reported: an end inside brackets is reported at
the innermost bracket. -/
def Break.reportedLine (b : Break) : Nat :=
  match b.fault, b.openBracket with
  | .unexpectedEnd, some bracket => bracket
  | _, _ => b.line

def Halt.line (stream : TokenStream) : Halt → Nat
  | .lexical b => b.reportedLine
  | .grammatical line fetched => settleLine stream line fetched

/-- The start of a reading; tokens that were asked for before count as asked for. -/
def startState (stream : TokenStream) (fetched : Nat) : State :=
  { position := 0, fetched, memory := Array.replicate (stream.tokens.size + 1) [] }

def errorLine {α : Type} (rule : Rule α) (stream : TokenStream) : Nat :=
  match rule ⟨stream, false⟩ (startState stream 0) with
  | .halt h => h.line stream
  | .ok _ s | .fail s =>
    let last := stream.tokens[s.fetched - 1]?.getD default
    match rule ⟨stream, true⟩ (startState stream s.fetched) with
    | .halt h => h.line stream
    | .ok _ t | .fail t =>
      match last.kind with
      | .indent | .dedent => (stream.tokens[t.fetched - 1]?.getD default).line
      | _ => settleLine stream last.line t.fetched

/-- Reads tokens with a rule: the value, or the line of the error. The lines on which blocks and the
text end matter for errors only. -/
def readTokens {α : Type} (rule : Rule α) (stream : TokenStream) : Except Nat α :=
  match rule ⟨stream.placeless, false⟩ (startState stream 0) with
  | .ok a _ => .ok a
  | .halt _ | .fail _ => .error (errorLine rule stream)

variable [names : CharacterNames]

/-- The grammar unrolled `n` times, which is enough for texts that nest at most that deep. -/
def grammarUpTo : Nat → Grammar
  | 0 => .empty
  | n + 1 =>
    let g := grammarUpTo n
    g.layer ⟨names, fun line text ↦
      readTokens (do return (← Grammar.starExpressions g).expr) (tokenizeFrom line (fileText text))⟩

/-- How deep a text can nest; the line feeds at its end do not count. -/
def nestingBound (text : List Char) : Nat :=
  2 * (text.reverse.dropWhile (· == '\n')).length + 16

def parseModule (text : List Char) : Except Nat (List Stmt) :=
  let file := fileText text
  readTokens (grammarUpTo (nestingBound file)).moduleBody (tokenizeFrom 1 file)

def parseExpression (text : List Char) : Except Nat Expr :=
  let text := plainNewlines text
  readTokens (grammarUpTo (nestingBound text)).loneExpression (tokenizeFrom 1 text)

end CallCompletion.Source
