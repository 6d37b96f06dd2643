import CallCompletion.Source.Grammar.Argument
import CallCompletion.Source.Grammar.Parameter

/-!
# Atoms, operators and lambdas

The levels of binding strength, from atoms and what can follow them up to conditional expressions.
Operators that group to the left are read in a loop.
-/

namespace CallCompletion.Source

open Rule

namespace Grammar

variable (g : Grammar)

/-! ## Atoms -/

def strings : Rule Phrase :=
  memoPhrase .strings <| do
    let ts ← many1 (kind .string)
    let line := (ts.head?.map Token.line).getD 0
    match stringsValue g.literals (ts.map fun t ↦ .ofToken t.text.toList t.line) with
    | .ok e => return .value line e
    | .error .following => errorHere
    | .error (.onLine l) => errorAt l

def number : Rule Phrase := do
  let t ← kind .number
  match numberValue? t.text.toList with
  | some c => return .value t.line (.constant c)
  | none => errorAt t.line

/-- An expression in parentheses; only names may be starred there, and only inside a tuple. -/
def group : Rule Phrase :=
  (do
    let _ ← op "("
    let e ← yieldExpression g <|> g.namedExpression
    let _ ← op ")"
    return e) <|>
  diagnose (
    (do
      let _ ← op "("
      let e ← starredArgument g
      let _ ← op ")"
      errorAt e.line) <|>
    (do
      let _ ← op "("
      let star ← op "**"
      let _ ← g.expression
      let _ ← op ")"
      errorAt star.line))

def constantWord (text : String) (c : Constant) : Rule Phrase := do
  let t ← word text
  return .value t.line (.constant c)

def atom : Rule Phrase :=
  nameAtom <|>
  constantWord "True" (.bool true) <|>
  constantWord "False" (.bool false) <|>
  constantWord "None" .none <|>
  (do ahead (kind .string); strings g) <|>
  number <|>
  (do ahead (op "("); tupleDisplay g <|> group g <|> generator g) <|>
  (do ahead (op "["); listDisplay g <|> listComprehension g) <|>
  (do
    ahead (op "\x7b")
    dictDisplay g <|> setDisplay g <|> dictComprehension g <|> setComprehension g) <|>
  (do
    let t ← op "..."
    return .value t.line (.constant .ellipsis))

/-! ## What follows an atom -/

def slice : Rule Phrase :=
  (do
    let line ← line
    let lower ← optional g.expression
    let _ ← op ":"
    let upper ← optional g.expression
    let step ← optional (do let _ ← op ":"; optional g.expression)
    return .value line
      (.slice (lower.map Phrase.expr) (upper.map Phrase.expr) (step.join.map Phrase.expr))) <|>
  g.namedExpression

/-- What stands between the brackets of a subscript. -/
def slices : Rule Phrase :=
  (do
    let s ← slice g
    notAhead (op ",")
    return s) <|>
  (do
    let items ← sepBy1 (slice g <|> starredArgument g) (op ",")
    let _ ← optional (op ",")
    return .tuple ((items.head?.map Phrase.line).getD 0) items)

def attributeOf (value : Phrase) : Rule Phrase := do
  let _ ← op "."
  return .place value.line (.attribute value.expr (← identifier))

def itemOf (value : Phrase) : Rule Phrase := do
  let _ ← op "["
  let index ← slices g
  let _ ← op "]"
  return .place value.line (.subscript value.expr index.expr)

def callWithGenerator (value : Phrase) : Rule Phrase := do
  let e ← generator g
  return .value value.line (.call value.expr [e.expr] [])

def callOf (value : Phrase) : Rule Phrase := do
  let _ ← op "("
  let args ← optional (arguments g)
  let _ ← op ")"
  let args := args.getD ⟨0, [], []⟩
  return .value value.line (.call value.expr (args.positional.map Phrase.expr) args.keywords)

/-- Extends a phrase by `step` as often as it matches; `n` bounds the number of steps. -/
def extend (step : Phrase → Rule Phrase) : Nat → Phrase → Rule Phrase
  | 0, p => pure p
  | n + 1, p => do
    match ← optional (step p) with
    | some p => extend step n p
    | none => return p

/-- A phrase followed by any number of extensions. -/
def leftGrouped (first : Rule Phrase) (step : Phrase → Rule Phrase) : Rule Phrase := do
  let p ← first
  fun c s ↦ extend step (c.stream.tokens.size + 1) p c s

/-- An atom with its attributes, calls and subscripts. -/
def primary : Rule Phrase :=
  memoPhrase .primary <| leftGrouped (atom g) fun p ↦
    attributeOf p <|> callWithGenerator g p <|> callOf g p <|> itemOf g p

/-- What must follow a value that is only the way to a target. -/
def accessAhead : Rule Unit := ahead (opIn ["(", "[", "."])

/-- The value whose attribute or item is a target. -/
def targetPrimary : Rule Phrase :=
  memoPhrase .targetPrimary <|
    leftGrouped (do let p ← atom g; accessAhead; return p) fun p ↦
      (do let q ← attributeOf p; accessAhead; return q) <|>
      (do let q ← itemOf g p; accessAhead; return q) <|>
      (do let q ← callWithGenerator g p; accessAhead; return q) <|>
      (do let q ← callOf g p; accessAhead; return q)

/-! ## Operators -/

def awaitPrimary : Rule Phrase :=
  memoPhrase .awaitPrimary <|
    (do
      let t ← word "await"
      return .value t.line (.await (← primary g).expr)) <|> primary g

/-- A power; its right side may have a sign. -/
def power : Rule Phrase :=
  (do
    let base ← awaitPrimary g
    let _ ← op "**"
    return .value base.line (.binary .pow base.expr (← g.factor).expr)) <|> awaitPrimary g

def signed (sign : String) (o : UnaryOp) : Rule Phrase := do
  let t ← op sign
  return .value t.line (.unary o (← g.factor).expr)

def factorRule : Rule Phrase :=
  memoPhrase .factor <|
    signed g "+" .plus <|> signed g "-" .minus <|> signed g "~" .invert <|> power g

/-- One of several operators of a level, with its right side. -/
def binaryStep (right : Rule Phrase) (signs : List (String × BinaryOp)) (left : Phrase) :
    Rule Phrase := do
  let t ← opIn (signs.map Prod.fst)
  let r ← right
  return .value left.line (.binary ((signs.lookup t.text).getD .add) left.expr r.expr)

/-- A level of operators that group to the left. -/
def binaryLevel (name : RuleName) (operand : Rule Phrase) (signs : List (String × BinaryOp)) :
    Rule Phrase :=
  memoPhrase name (leftGrouped operand (binaryStep operand signs))

def term : Rule Phrase :=
  binaryLevel .term (factorRule g)
    [("*", .mul), ("/", .div), ("//", .floorDiv), ("%", .mod), ("@", .matMul)]

def sum : Rule Phrase := binaryLevel .sum (term g) [("+", .add), ("-", .sub)]

def shift : Rule Phrase := binaryLevel .shift (sum g) [("<<", .shiftLeft), (">>", .shiftRight)]

def bitAnd : Rule Phrase := binaryLevel .bitAnd (shift g) [("&", .bitAnd)]

def bitXor : Rule Phrase := binaryLevel .bitXor (bitAnd g) [("^", .bitXor)]

def bitOrRule : Rule Phrase := binaryLevel .bitOr (bitXor g) [("|", .bitOr)]

def compareSign : Rule CompareOp :=
  (do
    let t ← opIn ["==", "!=", "<=", "<", ">=", ">"]
    return match t.text with
      | "==" => .eq
      | "!=" => .notEq
      | "<=" => .lessEq
      | "<" => .less
      | ">=" => .greaterEq
      | _ => .greater) <|>
  (do let _ ← word "not"; let _ ← word "in"; return .notIn) <|>
  (do let _ ← word "in"; return .isIn) <|>
  (do let _ ← word "is"; let _ ← word "not"; return .isNot) <|>
  (do let _ ← word "is"; return .is)

def compareStep : Rule (CompareOp × Expr) := do
  let sign ← compareSign
  return (sign, (← bitOrRule g).expr)

def comparison : Rule Phrase := do
  let left ← bitOrRule g
  let rest ← many (compareStep g)
  return if rest.isEmpty then left else .compare left rest

def inversionRule : Rule Phrase :=
  memoPhrase .inversion <|
    (do
      let t ← word "not"
      return .value t.line (.unary .not (← g.inversion).expr)) <|> comparison g

def connectiveLevel (name : RuleName) (operand : Rule Phrase) (text : String) (o : BoolOp) :
    Rule Phrase :=
  memoPhrase name <| do
    let first ← operand
    let more ← many (do let _ ← word text; operand)
    return if more.isEmpty then first
      else .value first.line (.connective o ((first :: more).map Phrase.expr))

def conjunction : Rule Phrase := connectiveLevel .conjunction (inversionRule g) "and" .and

def disjunctionRule : Rule Phrase := connectiveLevel .disjunction (conjunction g) "or" .or

/-! ## Expressions -/

def lambda : Rule Phrase := do
  let t ← word "lambda"
  let params ← optional (lambdaForm.params g)
  let _ ← op ":"
  let body ← g.expression
  return .value t.line (.lambda (params.getD .none) body.expr)

/-- A conditional expression, a disjunction or a lambda. -/
def plainExpression : Rule Phrase :=
  (do
    let body ← disjunctionRule g
    let _ ← word "if"
    let test ← disjunctionRule g
    let _ ← word "else"
    let orElse ← g.expression
    return .value body.line (.conditional test.expr body.expr orElse.expr)) <|>
  disjunctionRule g <|>
  lambda g

/-- The name of a statement that takes its operand without parentheses in older sources. -/
def isOldStatement (p : Phrase) : Bool :=
  match p.expr with
  | .name id => id == "print" || id == "exec"
  | _ => false

/-- The number of brackets open after the token before the current place. -/
def depthBefore : Rule Nat := fun c s ↦
  .ok (((c.stream.tokens[s.position - 1]?).map Token.depth).getD 0) s

/-- Two expressions in a row inside brackets, or a conditional expression without its else part. -/
def expressionError : Rule Unit :=
  (do
    notAhead ((do let _ ← kind .name; let _ ← kind .string) <|>
      (do let _ ← accept fun t ↦ t.kind == .name && softKeywords.contains t.text))
    let a ← disjunctionRule g
    let _ ← undiagnosed (plainExpression g)
    if isOldStatement a then pure ()
    else if (← depthBefore) == 0 then pure ()
    else errorAt a.line) <|>
  (do
    let a ← disjunctionRule g
    let _ ← word "if"
    let _ ← disjunctionRule g
    notAhead ((do let _ ← word "else") <|> (do let _ ← op ":"))
    errorAt a.line)

/-- A statement of older sources with its operand. -/
def oldStatementError : Rule Unit := do
  let a ← nameAtom
  notAhead (op "(")
  let _ ← starExpressions g
  if isOldStatement a then errorAt a.line else pure ()

def expressionRule : Rule Phrase :=
  memoPhrase .expression <|
    diagnose (expressionError g) <|> diagnose (oldStatementError g) <|> plainExpression g

end Grammar

end CallCompletion.Source
