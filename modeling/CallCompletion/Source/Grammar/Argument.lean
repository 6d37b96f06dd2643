import CallCompletion.Source.Grammar.Expression

/-!
# Arguments of calls

Positional arguments come first, then keyword arguments and starred ones in any order, then keyword
arguments and unpacked mappings in any order.
-/

namespace CallCompletion.Source

open Rule

namespace Grammar

variable (g : Grammar)

/-- An argument that is positional, or passed by keyword. -/
inductive Argument where
  | positional (p : Phrase)
  | keyword (k : Keyword Expr)

def keywordError : Rule Unit :=
  (do
    let t ← word "True" <|> word "False" <|> word "None"
    let _ ← op "="
    errorAt t.line) <|>
  (do
    let t ← kind .name
    let _ ← op "="
    let _ ← g.expression
    let _ ← clauses g
    errorAt t.line) <|>
  (do
    notAhead (do let _ ← kind .name; op "=")
    let e ← g.expression
    let _ ← op "="
    errorAt e.line)

def keywordArgument : Rule Argument := do
  let name ← identifier
  let _ ← op "="
  return .keyword ⟨some name, (← g.expression).expr⟩

def keywordOrStarred : Rule Argument :=
  diagnose (keywordError g) <|> keywordArgument g <|> (do return .positional (← starredArgument g))

def keywordOrMapping : Rule Argument :=
  diagnose (keywordError g) <|> keywordArgument g <|>
  (do
    let _ ← op "**"
    return .keyword ⟨none, (← g.expression).expr⟩)

def keywordArguments : Rule (List Argument) :=
  (do
    let first ← sepBy1 (keywordOrStarred g) (op ",")
    let _ ← op ","
    let second ← sepBy1 (keywordOrMapping g) (op ",")
    return first ++ second) <|>
  sepBy1 (keywordOrStarred g) (op ",") <|>
  sepBy1 (keywordOrMapping g) (op ",")

def positionalArgument : Rule Phrase :=
  starredArgument g <|>
  (do
    let e ← assignmentExpression g <|> unboundExpression g
    notAhead (op "=")
    return e)

def gather (line : Nat) (first : List Phrase) (rest : List Argument) : Arguments :=
  let positional := rest.filterMap fun
    | .positional p => some p
    | .keyword _ => none
  let keywords := rest.filterMap fun
    | .positional _ => none
    | .keyword k => some k
  ⟨line, first ++ positional, keywords⟩

def argumentList : Rule Arguments := do
  let line ← line
  (do
    let first ← sepBy1 (positionalArgument g) (op ",")
    let rest ← optional (do let _ ← op ","; keywordArguments g)
    return gather line first (rest.getD [])) <|>
  (do
    return gather line [] (← keywordArguments g))

/-- Errors in the order of arguments and at generators without parentheses. -/
def argumentsError : Rule Unit :=
  (do
    let a ← argumentList g
    let _ ← op ","
    let _ ← op "*"
    errorAt a.line) <|>
  (do
    let e ← g.expression
    let _ ← clauses g
    let _ ← op ","
    let _ ← optional ((do let _ ← argumentList g) <|> (do let _ ← g.expression; let _ ← clauses g))
    errorAt e.line) <|>
  (do
    let t ← kind .name
    let _ ← op "="
    let _ ← g.expression
    let _ ← clauses g
    errorAt t.line) <|>
  (do
    let a ← argumentList g
    let _ ← clauses g
    match a.positional with
    | [] | [_] => pure ()
    | ps => errorAt ((ps.getLast?.map Phrase.line).getD a.line)) <|>
  (do
    let _ ← argumentList g
    let _ ← op ","
    let e ← g.expression
    let _ ← clauses g
    errorAt e.line) <|>
  (do
    let _ ← argumentList g
    let _ ← op ","
    let _ ← argumentList g
    errorHere)

/-- The arguments of a call, up to the closing parenthesis. -/
def arguments : Rule Arguments :=
  memoize .arguments .arguments (fun | .arguments a => some a | _ => none) <|
    (do
      let a ← argumentList g
      let _ ← optional (op ",")
      ahead (op ")")
      return a) <|>
    diagnose (argumentsError g)

end Grammar

end CallCompletion.Source
