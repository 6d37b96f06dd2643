import CallCompletion.Source.Grammar.Knot
import CallCompletion.Text.Identifier

/-!
# Sequences, displays and comprehensions

Rules for expressions separated by commas, for names bound inside expressions, and for what stands
in brackets: tuples, lists, sets, dictionaries and the comprehensions that build them.
-/

namespace CallCompletion.Source

open Rule

namespace Grammar

/-! ## Names and sequences -/

/-- A name, in its plain spelling. -/
def identifier : Rule String := do
  return Text.plainName (← kind .name).text.toList

def nameAtom : Rule Phrase := do
  let t ← kind .name
  return .place t.line (.name (Text.plainName t.text.toList))

/-- Items separated by commas: one item without a comma is itself, all else is a tuple. -/
def commaTuple (item : Rule Phrase) : Rule Phrase := do
  let first ← item
  let more ← many (do let _ ← op ","; item)
  let trailing ← optional (op ",")
  return if more.isEmpty && trailing.isNone then first else .tuple first.line (first :: more)

variable (g : Grammar)

def starredOr (other : Rule Phrase) : Rule Phrase :=
  (do
    let star ← op "*"
    return .starred star.line (← g.bitOr)) <|> other

def starExpression : Rule Phrase := memoPhrase .starExpression (starredOr g g.expression)

/-- Expressions that may be starred, as one. -/
def starExpressions : Rule Phrase := commaTuple (starExpression g)

def expressions : Rule Phrase := commaTuple g.expression

def yieldExpression : Rule Phrase :=
  (do
    let t ← word "yield"
    let _ ← word "from"
    return .value t.line (.yieldFrom (← g.expression).expr)) <|>
  (do
    let t ← word "yield"
    let value ← optional (starExpressions g)
    return .value t.line (.yield (value.map Phrase.expr)))

def assignmentExpression : Rule Phrase := do
  let t ← kind .name
  let _ ← op ":="
  let value ← g.expression
  return .value t.line (.assignment (Text.plainName t.text.toList) value.expr)

/-- An expression, not followed by the sign that binds names. -/
def unboundExpression : Rule Phrase := do
  let e ← g.expression
  notAhead (op ":=")
  return e

def starredArgument : Rule Phrase := do
  let star ← op "*"
  return .starred star.line (← g.expression)

/-! ## Clauses of comprehensions -/

def starTargets : Rule Phrase := commaTuple g.starTarget

def loopTargetError : Rule Unit := do
  let _ ← optional (word "async")
  let _ ← word "for"
  let e ← starExpressions g
  blame .loop e

/-- One clause of a comprehension; after the word `in` nothing else is tried. -/
def clause : Rule (Clause Expr) :=
  let tail (isAsync : Bool) (target : Phrase) : Rule (Clause Expr) := do
    let source ← g.disjunction
    let conditions ← many (do let _ ← word "if"; g.disjunction)
    return ⟨target.expr, source.expr, conditions.map Phrase.expr, isAsync⟩
  let head : Rule Phrase := do
    let _ ← word "for"
    let target ← starTargets g
    let _ ← word "in"
    return target
  settle (do let _ ← word "async"; head) (tail true) <|
    settle head (tail false) (diagnose (loopTargetError g))

def clauses : Rule (List (Clause Expr)) := many1 (clause g)

/-! ## Displays -/

def displayItem : Rule Phrase := starredOr g g.namedExpression

def displayItems : Rule (List Phrase) := do
  let items ← sepBy1 (displayItem g) (op ",")
  let _ ← optional (op ",")
  return items

def tupleDisplay : Rule Phrase := do
  let t ← op "("
  let items ← optional (do
    let first ← displayItem g
    let _ ← op ","
    let more ← optional (displayItems g)
    return first :: more.getD [])
  let _ ← op ")"
  return .tuple t.line (items.getD [])

def listDisplay : Rule Phrase := do
  let t ← op "["
  let items ← optional (displayItems g)
  let _ ← op "]"
  return .list t.line (items.getD [])

def setDisplay : Rule Phrase := do
  let t ← op "\x7b"
  let items ← displayItems g
  let _ ← op "\x7d"
  return .value t.line (.set (items.map Phrase.expr))

def entry : Rule (Expr × Expr) := do
  let key ← g.expression
  let _ ← op ":"
  return (key.expr, (← g.expression).expr)

/-- An entry of a dictionary, or a mapping that is unpacked into it. -/
def starredEntry : Rule (Option Expr × Expr) :=
  (do
    let _ ← op "**"
    return (none, (← g.bitOr).expr)) <|>
  (do
    let (k, v) ← entry g
    return (some k, v))

def entryValueError : Rule Unit :=
  (do
    let _ ← g.expression
    let _ ← op ":"
    let star ← op "*"
    let _ ← g.bitOr
    errorAt star.line) <|>
  (do
    let _ ← g.expression
    let colon ← op ":"
    ahead (opIn ["\x7d", ","])
    errorAt colon.line)

/-- An entry without a colon, or with a bad value. -/
def entryError : Rule Unit :=
  (do
    let key ← g.expression
    notAhead (op ":")
    errorAt key.line) <|>
  entryValueError g

/-- Entries of a dictionary of which the first or the last is no entry. -/
def entriesError : Rule Unit :=
  (do
    let _ ← sepBy1 (starredEntry g) (op ",")
    let _ ← op ","
    entryError g) <|>
  entryValueError g

/-- A dictionary display. Its malformed entries are looked for in both readings. -/
def dictDisplay : Rule Phrase :=
  (do
    let t ← op "\x7b"
    let entries ← optional (do
      let entries ← sepBy1 (starredEntry g) (op ",")
      let _ ← optional (op ",")
      return entries)
    let _ ← op "\x7d"
    return .value t.line (.dict (entries.getD []))) <|>
  (do
    let _ ← op "\x7b"
    entriesError g
    let _ ← op "\x7d"
    fail)

/-! ## Comprehensions -/

/-- Comprehensions over unpacked items or over items without parentheses. -/
def comprehensionError : Rule Unit :=
  (do
    let _ ← opIn ["[", "(", "\x7b"]
    let e ← starredArgument g
    let _ ← clauses g
    errorAt e.line) <|>
  (do
    let _ ← opIn ["[", "\x7b"]
    let e ← displayItem g
    let _ ← op ","
    let _ ← displayItems g
    let _ ← clauses g
    errorAt e.line) <|>
  (do
    let _ ← opIn ["[", "\x7b"]
    let e ← displayItem g
    let _ ← op ","
    let _ ← clauses g
    errorAt e.line)

def comprehensionOf (kind : ComprehensionKind) (opening closing : String) (item : Rule Phrase) :
    Rule Phrase :=
  (do
    let t ← op opening
    let item ← item
    let cs ← clauses g
    let _ ← op closing
    return .value t.line (.comprehension kind item.expr cs)) <|>
  diagnose (comprehensionError g)

def listComprehension : Rule Phrase := comprehensionOf g .list "[" "]" g.namedExpression

def setComprehension : Rule Phrase := comprehensionOf g .set "\x7b" "\x7d" g.namedExpression

def generator : Rule Phrase :=
  comprehensionOf g .generator "(" ")" (assignmentExpression g <|> unboundExpression g)

def dictComprehension : Rule Phrase :=
  (do
    let t ← op "\x7b"
    let (key, value) ← entry g
    let cs ← clauses g
    let _ ← op "\x7d"
    return .value t.line (.dictComprehension key value cs)) <|>
  diagnose (do
    let _ ← op "\x7b"
    let star ← op "**"
    let _ ← g.bitOr
    let _ ← clauses g
    let _ ← op "\x7d"
    errorAt star.line)

/-! ## Named expressions -/

/-- What stands on the left of an equals sign without being mistaken for a comparison. -/
def displayAhead : Rule Unit :=
  (do let _ ← listDisplay g) <|>
  (do let _ ← tupleDisplay g) <|>
  (do let _ ← generator g) <|>
  (do let _ ← word "True" <|> word "None" <|> word "False")

/-- An assignment or a binding where an expression is expected. -/
def namedExpressionError : Rule Unit :=
  memoUnit .namedExpressionError <|
    (do
      let e ← g.expression
      let _ ← op ":="
      let _ ← g.expression
      errorAt e.line) <|>
    (do
      let t ← kind .name
      let _ ← op "="
      let _ ← g.bitOr
      notAhead (opIn ["=", ":="])
      errorAt t.line) <|>
    (do
      notAhead (displayAhead g)
      let e ← g.bitOr
      let _ ← op "="
      let _ ← g.bitOr
      notAhead (opIn ["=", ":="])
      errorAt e.line)

/-- An expression that may bind a name. -/
def namedExpressionRule : Rule Phrase :=
  assignmentExpression g <|> diagnose (namedExpressionError g) <|> unboundExpression g

end Grammar

end CallCompletion.Source
