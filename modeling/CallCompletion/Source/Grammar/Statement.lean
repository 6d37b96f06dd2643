import CallCompletion.Source.Grammar.Pattern
import CallCompletion.Source.Grammar.Target

/-!
# Rules for statements

Simple statements share a line, separated by semicolons; compound statements have blocks. A block
is either indented below its header or stands on the header's line.
-/

namespace CallCompletion.Source

open Rule

namespace Grammar

variable (g : Grammar)

/-- The lines from a given one to the end of what was read last. -/
def spanFrom (first : Nat) : Rule Span := do
  return ⟨first, ← lastLine⟩

/-- A statement of which the kind and the blocks are kept. -/
def otherFrom (first : Nat) (kind : StatementKind) (suites : List (Suite Stmt)) : Rule Stmt := do
  return .other (← spanFrom first) kind suites

/-! ## Assignments -/

def assignedValue : Rule Phrase := yieldExpression g <|> starExpressions g

def augmentedOp : Rule Token :=
  opIn ["+=", "-=", "*=", "@=", "/=", "%=", "&=", "|=", "^=", "<<=", ">>=", "**=", "//="]

def assignedTargets : Rule (List Phrase) := many (do
  let t ← starTargets g
  let _ ← op "="
  return t)

/-- Assignments to what cannot be assigned to or annotated. -/
def assignmentError : Rule Unit :=
  (do
    let e ← annotationTargetErrorRule g
    let _ ← op ":"
    let _ ← g.expression
    errorAt e.line) <|>
  (do
    let e ← displayItem g
    let _ ← op ","
    let _ ← many (displayItems g)
    let _ ← op ":"
    let _ ← g.expression
    errorAt e.line) <|>
  (do
    let e ← g.expression
    let _ ← op ":"
    let _ ← g.expression
    errorAt e.line) <|>
  (do
    let _ ← assignedTargets g
    let e ← starExpressions g
    let _ ← op "="
    blame .assign e) <|>
  (do
    let _ ← assignedTargets g
    let e ← yieldExpression g
    let _ ← op "="
    errorAt e.line) <|>
  (do
    let e ← starExpressions g
    let _ ← augmentedOp
    let _ ← assignedValue g
    errorAt e.line)

def annotationOf (first : Nat) (target : Phrase) : Rule Stmt := do
  let _ ← op ":"
  let typeHint ← g.expression
  let value ← optional (do let _ ← op "="; assignedValue g)
  return .annotate (← spanFrom first) target.expr typeHint.expr (value.map Phrase.expr)

/-- An assignment of any form; an augmented one is settled once its operator was read. -/
def assignment : Rule Stmt := do
  let first ← line
  (do annotationOf g first (← nameAtom)) <|>
  (do
    let target ←
      (do
        let _ ← op "("
        let t ← singleTargetRule g
        let _ ← op ")"
        return t) <|> accessTarget g
    annotationOf g first target) <|>
  (do
    let target ← starTargets g
    let _ ← op "="
    let more ← assignedTargets g
    let value ← assignedValue g
    notAhead (op "=")
    return .assign (← spanFrom first) ((target :: more).map Phrase.expr) value.expr) <|>
  settle (do let _ ← singleTargetRule g; augmentedOp)
    (fun _ ↦ do
      let _ ← assignedValue g
      otherFrom first .augmented [])
    (diagnose (assignmentError g))

/-! ## Other simple statements -/

def alias_ : Rule Unit := do
  let _ ← optional (do let _ ← word "as"; kind .name)

def importedNames : Rule Unit := do
  let _ ← sepBy1 (do let _ ← kind .name; alias_) (op ",")

def importTargets : Rule Unit :=
  (do
    let _ ← op "("
    importedNames
    let _ ← optional (op ",")
    let _ ← op ")") <|>
  (do
    importedNames
    notAhead (op ",")) <|>
  (do let _ ← op "*") <|>
  diagnose (do
    importedNames
    let _ ← op ","
    let _ ← kind .newline
    errorHere)

def importStatement : Rule Stmt := do
  let first ← line
  (do
    let _ ← word "import"
    let _ ← sepBy1 (do dottedPath; alias_) (op ",")
    otherFrom first .importModules []) <|>
  (do
    let _ ← word "from"
    let _ ← many (opIn [".", "..."])
    dottedPath
    let _ ← word "import"
    importTargets
    otherFrom first .importNames []) <|>
  (do
    let _ ← word "from"
    let _ ← many1 (opIn [".", "..."])
    let _ ← word "import"
    importTargets
    otherFrom first .importNames [])

def wordStatement (text : String) (k : StatementKind) : Rule Stmt := do
  let t ← word text
  otherFrom t.line k []

def raiseStatement : Rule Stmt := do
  let t ← word "raise"
  (do
    let _ ← g.expression
    let _ ← optional (do let _ ← word "from"; g.expression)
    otherFrom t.line .raise []) <|> otherFrom t.line .raise []

def deleteStatement : Rule Stmt :=
  (do
    let t ← word "del"
    let _ ← deleteTargets g
    ahead ((do let _ ← op ";") <|> (do let _ ← kind .newline))
    otherFrom t.line .delete []) <|>
  diagnose (do
    let _ ← word "del"
    let e ← starExpressions g
    blame .delete e)

/-- A declaration of the scope of names. -/
def namesStatement (text : String) (k : StatementKind) : Rule Stmt := do
  let t ← word text
  let _ ← sepBy1 (kind .name) (op ",")
  otherFrom t.line k []

def expressionStatement (e : Rule Phrase) : Rule Stmt := do
  let first ← line
  let e ← e
  return .expression (← spanFrom first) e.expr

def simpleStatement : Rule Stmt :=
  memoize .simpleStatement .statement (fun | .statement s => some s | _ => none) <|
    assignment g <|>
    expressionStatement (starExpressions g) <|>
    (do
      let t ← word "return"
      let _ ← optional (starExpressions g)
      otherFrom t.line .result []) <|>
    importStatement <|>
    raiseStatement g <|>
    wordStatement "pass" .pass <|>
    deleteStatement g <|>
    expressionStatement (yieldExpression g) <|>
    (do
      let t ← word "assert"
      let _ ← g.expression
      let _ ← optional (do let _ ← op ","; g.expression)
      otherFrom t.line .assertion []) <|>
    wordStatement "break" .leaveLoop <|>
    wordStatement "continue" .nextRound <|>
    namesStatement "global" .globalNames <|>
    namesStatement "nonlocal" .nonlocalNames

def simpleStatements : Rule (List Stmt) :=
  (do
    let s ← simpleStatement g
    notAhead (op ";")
    let _ ← kind .newline
    return [s]) <|>
  (do
    let ss ← sepBy1 (simpleStatement g) (op ";")
    let _ ← optional (op ";")
    let _ ← kind .newline
    return ss)

/-! ## Compound statements -/

def emptyBlockError (header : Rule Unit) : Rule Unit := do
  header
  let _ ← op ":"
  let _ ← kind .newline
  notAhead (kind .indent)
  errorHere

def missingColonError (header : Rule Unit) : Rule Unit := do
  header
  let _ ← kind .newline
  errorHere

/-- The branch after all conditions. -/
def elseBlock : Rule (List Stmt) :=
  diagnose (emptyBlockError (do let _ ← word "else")) <|>
  (do
    let _ ← word "else"
    let _ ← demand ":"
    g.block)

def conditional (text : String) : Rule Stmt :=
  let header : Rule Unit := do
    let _ ← word text
    let _ ← g.namedExpression
  let main : Rule (Nat × List Stmt) := do
    let t ← word text
    let _ ← g.namedExpression
    let _ ← op ":"
    return (t.line, ← g.block)
  diagnose (missingColonError header <|> emptyBlockError header) <|>
  (do
    let (first, body) ← main
    let other ← g.elseBranch
    otherFrom first .branch [⟨false, body⟩, ⟨false, other⟩]) <|>
  (do
    let (first, body) ← main
    let other ← optional (elseBlock g)
    otherFrom first .branch [⟨false, body⟩, ⟨false, other.getD []⟩])

/-- A further condition, as the only statement of the branch it stands in. -/
def elseBranchRule : Rule (List Stmt) := do
  return [← conditional g "elif"]

def whileStatement : Rule Stmt :=
  let header : Rule Unit := do
    let _ ← word "while"
    let _ ← g.namedExpression
  diagnose (missingColonError header <|> emptyBlockError header) <|>
  (do
    let t ← word "while"
    let _ ← g.namedExpression
    let _ ← op ":"
    let body ← g.block
    let other ← optional (elseBlock g)
    otherFrom t.line .whileLoop [⟨false, body⟩, ⟨false, other.getD []⟩])

/-- A loop over a sequence; after the word `in` nothing else is tried. -/
def loopStatement : Rule Stmt :=
  let header : Rule Unit := do
    let _ ← optional (word "async")
    let _ ← word "for"
    let _ ← starTargets g
    let _ ← word "in"
    let _ ← starExpressions g
  let head : Rule Unit := do
    let _ ← word "for"
    let _ ← starTargets g
    let _ ← word "in"
  let tail (k : StatementKind) (first : Nat) : Rule Stmt := do
    let _ ← starExpressions g
    let _ ← op ":"
    let body ← g.block
    let other ← optional (elseBlock g)
    otherFrom first k [⟨false, body⟩, ⟨false, other.getD []⟩]
  diagnose (missingColonError header <|> emptyBlockError header) <|>
  settle (do let first ← line; head; return first) (tail .loop)
    (settle (do let first ← line; let _ ← word "async"; head; return first) (tail .asyncLoop)
      (diagnose (loopTargetError g)))

def contextItem : Rule Unit :=
  (do
    let _ ← g.expression
    let _ ← word "as"
    let _ ← g.starTarget
    ahead (opIn [",", ")", ":"])) <|>
  diagnose (do
    let _ ← g.expression
    let _ ← word "as"
    let e ← g.expression
    ahead (opIn [",", ")", ":"])
    blame .assign e) <|>
  (do let _ ← g.expression)

def contextStatement : Rule Stmt :=
  let loose (item : Rule Phrase) : Rule Unit := do
    let _ ← sepBy1 (do
      let _ ← item
      optional (do let _ ← word "as"; g.starTarget)) (op ",")
  let header : Rule Unit := do
    let _ ← optional (word "async")
    let _ ← word "with"
    loose g.expression
  let bracketed : Rule Unit := do
    let _ ← optional (word "async")
    let _ ← word "with"
    let _ ← op "("
    loose (expressions g)
    let _ ← optional (op ",")
    let _ ← op ")"
  let inBrackets (k : StatementKind) (first : Nat) : Rule Stmt := do
    let _ ← word "with"
    let _ ← op "("
    let _ ← sepBy1 (contextItem g) (op ",")
    let _ ← optional (op ",")
    let _ ← op ")"
    let _ ← op ":"
    let body ← g.block
    otherFrom first k [⟨false, body⟩]
  let plain (k : StatementKind) (first : Nat) : Rule Stmt := do
    let _ ← word "with"
    let _ ← sepBy1 (contextItem g) (op ",")
    let _ ← op ":"
    let body ← g.block
    otherFrom first k [⟨false, body⟩]
  diagnose (emptyBlockError header <|> emptyBlockError bracketed) <|>
  (do inBrackets .context (← line)) <|>
  (do plain .context (← line)) <|>
  (do let first ← line; let _ ← word "async"; inBrackets .asyncContext first) <|>
  (do let first ← line; let _ ← word "async"; plain .asyncContext first) <|>
  diagnose (missingColonError header <|> missingColonError bracketed)

def handlerName : Rule Unit := do
  let _ ← optional (do let _ ← word "as"; kind .name)

def handlerError : Rule Unit :=
  (do
    let _ ← word "except"
    let _ ← optional (op "*")
    let e ← g.expression
    let _ ← op ","
    let _ ← expressions g
    handlerName
    let _ ← op ":"
    errorAt e.line) <|>
  (do
    let _ ← word "except"
    let _ ← optional (op "*")
    let _ ← g.expression
    handlerName
    let _ ← kind .newline
    errorHere) <|>
  (do
    let _ ← word "except"
    let _ ← kind .newline
    errorHere) <|>
  (do
    let _ ← word "except"
    let _ ← op "*"
    (do let _ ← kind .newline) <|> (do let _ ← op ":")
    errorHere)

def handler : Rule (List Stmt) :=
  let header : Rule Unit := do
    let _ ← word "except"
    let _ ← g.expression
    handlerName
  diagnose (emptyBlockError header <|> emptyBlockError (do let _ ← word "except")) <|>
  (do
    header
    let _ ← op ":"
    g.block) <|>
  (do
    let _ ← word "except"
    let _ ← op ":"
    g.block) <|>
  diagnose (handlerError g)

def groupHandler : Rule (List Stmt) :=
  let header : Rule Unit := do
    let _ ← word "except"
    let _ ← op "*"
    let _ ← g.expression
    handlerName
  diagnose (emptyBlockError header) <|>
  (do
    header
    let _ ← op ":"
    g.block) <|>
  diagnose (handlerError g)

def finallyBlock : Rule (List Stmt) :=
  diagnose (emptyBlockError (do let _ ← word "finally")) <|>
  (do
    let _ ← word "finally"
    let _ ← demand ":"
    g.block)

/-- A try statement without handlers, or with handlers of both kinds. -/
def attemptError : Rule Unit :=
  emptyBlockError (do let _ ← word "try") <|>
  (do
    let _ ← word "try"
    let _ ← op ":"
    let _ ← g.block
    notAhead (word "except" <|> word "finally")
    errorHere) <|>
  (do
    let _ ← word "try"
    let _ ← op ":"
    let _ ← many g.block
    let _ ← many1 (handler g)
    let t ← word "except"
    let _ ← op "*"
    let _ ← g.expression
    handlerName
    let _ ← op ":"
    errorAt t.line) <|>
  (do
    let _ ← word "try"
    let _ ← op ":"
    let _ ← many g.block
    let _ ← many1 (groupHandler g)
    let t ← word "except"
    let _ ← optional (do let _ ← g.expression; handlerName)
    let _ ← op ":"
    errorAt t.line)

def attemptStatement : Rule Stmt :=
  let main : Rule (Nat × List Stmt) := do
    let t ← word "try"
    let _ ← demand ":"
    return (t.line, ← g.block)
  let handled (k : StatementKind) (one : Rule (List Stmt)) : Rule Stmt := do
    let (first, body) ← main
    let handlers ← many1 one
    let other ← optional (elseBlock g)
    let final ← optional (finallyBlock g)
    otherFrom first k (⟨false, body⟩ :: handlers.map (⟨true, ·⟩) ++
      [⟨false, other.getD []⟩, ⟨false, final.getD []⟩])
  diagnose (attemptError g) <|>
  (do
    let (first, body) ← main
    let final ← finallyBlock g
    otherFrom first .attempt [⟨false, body⟩, ⟨false, final⟩]) <|>
  handled .attempt (handler g) <|>
  handled .groupAttempt (groupHandler g)

def matchSubject : Rule Unit :=
  (do
    let _ ← displayItem g
    let _ ← op ","
    let _ ← optional (displayItems g)) <|>
  (do let _ ← g.namedExpression)

def caseBlock : Rule (List Stmt) :=
  let header : Rule Unit := do
    let _ ← softWord "case"
    casePatterns g
    let _ ← optional (do let _ ← word "if"; g.namedExpression)
  diagnose (missingColonError header <|> emptyBlockError header) <|>
  (do
    header
    let _ ← op ":"
    g.block)

def matchStatement : Rule Stmt :=
  let header : Rule Unit := do
    let _ ← softWord "match"
    matchSubject g
  (do
    let first ← line
    header
    let _ ← op ":"
    let _ ← kind .newline
    let _ ← kind .indent
    let cases ← many1 (caseBlock g)
    let _ ← kind .dedent
    otherFrom first .selection (cases.map (⟨true, ·⟩))) <|>
  diagnose (missingColonError header <|> emptyBlockError header)

/-! ## Definitions -/

def decorators : Rule (List Expr) := many1 (do
  let _ ← op "@"
  let e ← g.namedExpression
  let _ ← kind .newline
  return e.expr)

def plainFunction (decorators : List Expr) : Rule Stmt :=
  let returns : Rule (Option Expr) := do
    let e ← optional (do let _ ← op "->"; g.expression)
    return e.map Phrase.expr
  let definition (isAsync : Bool) (first : Nat) : Rule Stmt := do
    let _ ← word "def"
    let name ← identifier
    let _ ← demand "("
    let params ← optional ((functionForm g).params g)
    let _ ← op ")"
    let returns ← returns
    let _ ← demand ":"
    let body ← g.block
    return .function
      { span := ← spanFrom first, isAsync, name, params := params.getD .none, body, decorators,
        returns }
  diagnose (emptyBlockError do
    let _ ← optional (word "async")
    let _ ← word "def"
    let _ ← kind .name
    let _ ← op "("
    let _ ← optional ((functionForm g).params g)
    let _ ← op ")"
    let _ ← returns) <|>
  (do definition false (← line)) <|>
  (do let first ← line; let _ ← word "async"; definition true first)

def functionDefinition : Rule Stmt :=
  (do plainFunction g (← decorators g)) <|> plainFunction g []

def plainClass (decorators : List Expr) : Rule Stmt :=
  let bases : Rule (List Expr) := do
    let a ← optional (do
      let _ ← op "("
      let a ← optional (arguments g)
      let _ ← op ")"
      return a)
    return (a.join.map fun a ↦ a.positional.map Phrase.expr).getD []
  let header : Rule Unit := do
    let _ ← word "class"
    let _ ← kind .name
    let _ ← bases
  diagnose (missingColonError header <|> emptyBlockError header) <|>
  (do
    let t ← word "class"
    let name ← identifier
    let bases ← bases
    let _ ← op ":"
    let body ← g.block
    return .classDef { span := ← spanFrom t.line, name, bases, body, decorators })

def classDefinition : Rule Stmt :=
  (do plainClass g (← decorators g)) <|> plainClass g []

/-! ## Blocks -/

def compoundStatement : Rule Stmt :=
  let opensWith (words : List String) : Rule Unit :=
    ahead (accept fun t ↦ t.kind == .keyword && words.contains t.text)
  let decorated : Rule Unit := ahead (op "@")
  (do opensWith ["def", "async"] <|> decorated; functionDefinition g) <|>
  (do opensWith ["if"]; conditional g "if") <|>
  (do opensWith ["class"] <|> decorated; classDefinition g) <|>
  (do opensWith ["with", "async"]; contextStatement g) <|>
  (do opensWith ["for", "async"]; loopStatement g) <|>
  (do opensWith ["try"]; attemptStatement g) <|>
  (do opensWith ["while"]; whileStatement g) <|>
  matchStatement g

def statement : Rule (List Stmt) :=
  (do return [← compoundStatement g]) <|> simpleStatements g

def statements : Rule (List Stmt) := do
  return (← many1 (statement g)).flatten

/-- A block, below its header or on the same line. -/
def blockRule : Rule (List Stmt) :=
  memoize .block .statements (fun | .statements s => some s | _ => none) <|
    (do
      let _ ← kind .newline
      let _ ← kind .indent
      let body ← statements g
      let _ ← kind .dedent
      return body) <|>
    simpleStatements g <|>
    diagnose (do
      let _ ← kind .newline
      notAhead (kind .indent)
      errorHere)

def moduleBody : Rule (List Stmt) := do
  let body ← optional (statements g)
  let _ ← kind .finish
  return body.getD []

/-- A whole text that is one expression. -/
def loneExpression : Rule Expr := do
  let e ← expressions g
  let _ ← many (kind .newline)
  let _ ← kind .finish
  return e.expr

end Grammar

end CallCompletion.Source
