import CallCompletion.Source.Grammar.Expression

/-!
# Parameter lists

Functions and lambdas have the same parameter lists, but for annotations and for what closes the
list. A parameter is followed by a comma or stands right before the closing sign.
-/

namespace CallCompletion.Source

open Rule

namespace Grammar

/-- A parameter with the line of its name. -/
structure ParamAt where
  line : Nat
  param : Param Expr

/-- How the parameters of a kind of function are written. -/
structure ParamForm where
  /-- One parameter without its fallback. -/
  single : Rule ParamAt
  /-- A variadic parameter with a starred annotation. -/
  starAnnotated : Rule ParamAt
  /-- What closes the list. -/
  closing : String
  /-- Parameters in parentheses, which are an error. -/
  parenthesized : Rule Unit
  /-- The error for a lone star at the end of the list. -/
  loneStar : Token → Rule Unit

namespace ParamForm

variable (f : ParamForm)

/-- A comma, or the end of the list ahead. -/
def separator : Rule Unit := (do let _ ← op ",") <|> ahead (op f.closing)

def fallback (g : Grammar) : Rule Expr :=
  (do
    let _ ← op "="
    return (← g.expression).expr) <|>
  diagnose (do
    let t ← op "="
    ahead (opIn [")", ","])
    errorAt t.line)

/-- A parameter without fallback. -/
def required : Rule ParamAt := do
  let p ← f.single
  f.separator
  return p

def defaulted (g : Grammar) : Rule ParamAt := do
  let p ← f.single
  let value ← fallback g
  f.separator
  return { p with param := { p.param with fallback := some value } }

/-- A parameter with or without fallback. -/
def either (g : Grammar) : Rule ParamAt := do
  let p ← f.single
  let value ← optional (fallback g)
  f.separator
  return { p with param := { p.param with fallback := value } }

/-- The slash that ends the positional-only parameters. -/
def slash : Rule Unit := do
  let _ ← op "/"
  f.separator

/-- Positional-only parameters without fallbacks. -/
def slashRequired : Rule (List ParamAt) := do
  let ps ← many1 f.required
  f.slash
  return ps

/-- Positional-only parameters of which the last have fallbacks. -/
def slashDefaulted (g : Grammar) : Rule (List ParamAt) := do
  let ps ← many f.required
  let ds ← many1 (f.defaulted g)
  f.slash
  return ps ++ ds

def keywordRestError : Rule Unit :=
  (do
    let _ ← op "**"
    let _ ← f.single
    let t ← op "="
    errorAt t.line) <|>
  (do
    let _ ← op "**"
    let _ ← f.single
    let _ ← op ","
    let p ← f.single
    errorAt p.line) <|>
  (do
    let _ ← op "**"
    let _ ← f.single
    let _ ← op ","
    let t ← opIn ["*", "**", "/"]
    errorAt t.line)

def keywordRest : Rule ParamAt :=
  diagnose f.keywordRestError <|>
  (do
    let _ ← op "**"
    f.required)

def starError (g : Grammar) : Rule Unit :=
  (do
    let star ← op "*"
    (do let _ ← op f.closing) <|> (do
      let _ ← op ","
      let _ ← op f.closing <|> op "**")
    f.loneStar star) <|>
  (do
    let _ ← op "*"
    let _ ← f.single
    let t ← op "="
    errorAt t.line) <|>
  (do
    let _ ← op "*"
    (do let _ ← f.required) <|> (do let _ ← op ",")
    let _ ← many (f.either g)
    let t ← op "*"
    (do let _ ← f.required) <|> (do let _ ← op ",")
    errorAt t.line)

/-- The part of a list that starts with a star: the variadic parameter, the keyword-only ones and
the mapping. -/
structure Tail where
  variadic : Option (Param Expr)
  keywordOnly : List (Param Expr)
  keywordRest : Option (Param Expr)

/-- The part of a list from its star on. -/
def tail (g : Grammar) : Rule Tail :=
  let rest (variadic : Option (Param Expr)) (only : List ParamAt) : Rule Tail := do
    let kw ← optional f.keywordRest
    return ⟨variadic, only.map ParamAt.param, kw.map ParamAt.param⟩
  diagnose (f.starError g) <|>
  (do
    let _ ← op "*"
    let p ← f.required
    rest (some p.param) (← many (f.either g))) <|>
  (do
    let _ ← op "*"
    let p ← f.starAnnotated
    f.separator
    rest (some p.param) (← many (f.either g))) <|>
  (do
    let _ ← op "*"
    let _ ← op ","
    rest none (← many1 (f.either g))) <|>
  (do
    let kw ← f.keywordRest
    return ⟨none, [], some kw.param⟩)

def list (g : Grammar) : Rule (Params Expr) :=
  let build (only ps : List ParamAt) (t : Option Tail) : Params Expr :=
    ⟨only.map ParamAt.param, ps.map ParamAt.param, t.bind Tail.variadic,
      (t.map Tail.keywordOnly).getD [], t.bind Tail.keywordRest⟩
  (do
    let only ← f.slashRequired
    let ps ← many f.required
    let ds ← many (f.defaulted g)
    return build only (ps ++ ds) (← optional (f.tail g))) <|>
  (do
    let only ← f.slashDefaulted g
    let ds ← many (f.defaulted g)
    return build only ds (← optional (f.tail g))) <|>
  (do
    let ps ← many1 f.required
    let ds ← many (f.defaulted g)
    return build [] (ps ++ ds) (← optional (f.tail g))) <|>
  (do
    let ds ← many1 (f.defaulted g)
    return build [] ds (← optional (f.tail g))) <|>
  (do
    return build [] [] (some (← f.tail g)))

/-- Errors in the order of parameters and in the places of slash and star. -/
def listError (g : Grammar) : Rule Unit :=
  let slashed : Rule Unit :=
    (do let _ ← f.slashRequired) <|> (do let _ ← f.slashDefaulted g)
  (do
    let _ ← many f.required
    (do let _ ← f.slashDefaulted g) <|> (do let _ ← many1 (f.defaulted g))
    let p ← f.required
    errorAt p.line) <|>
  (do
    let _ ← many f.required
    let t ← current
    f.parenthesized
    errorAt t.line) <|>
  (do
    let t ← op "/"
    let _ ← op ","
    errorAt t.line) <|>
  (do
    slashed
    let _ ← many (f.either g)
    let t ← op "/"
    errorAt t.line) <|>
  (do
    let _ ← optional slashed
    let _ ← many (f.either g)
    let _ ← op "*"
    (do let _ ← op ",") <|> (do let _ ← f.required)
    let _ ← many (f.either g)
    let t ← op "/"
    errorAt t.line) <|>
  (do
    let _ ← many1 (f.either g)
    let _ ← op "/"
    let t ← op "*"
    errorAt t.line)

def params (g : Grammar) : Rule (Params Expr) := diagnose (f.listError g) <|> f.list g

end ParamForm

def bareParam : Rule ParamAt := do
  let t ← kind .name
  return ⟨t.line, ⟨Text.plainName t.text.toList, none, none⟩⟩

variable (g : Grammar)

def functionForm : ParamForm :=
  let single : Rule ParamAt := do
    let p ← bareParam
    let typeHint ← optional (do let _ ← op ":"; g.expression)
    return { p with param := { p.param with typeHint := typeHint.map Phrase.expr } }
  let separator : Rule Unit := (do let _ ← op ",") <|> ahead (op ")")
  { single
    starAnnotated := do
      let p ← bareParam
      let _ ← op ":"
      let typeHint ← starExpression g
      return { p with param := { p.param with typeHint := some typeHint.expr } }
    closing := ")"
    parenthesized := do
      let _ ← op "("
      let _ ← many1 (do let _ ← single; separator)
      let _ ← optional (op ",")
      let _ ← op ")"
    loneStar := fun star ↦ errorAt star.line }

def lambdaForm : ParamForm :=
  { single := bareParam
    starAnnotated := .fail
    closing := ":"
    parenthesized := do
      let _ ← op "("
      let _ ← sepBy1 bareParam (op ",")
      let _ ← optional (op ",")
      let _ ← op ")"
    loneStar := fun _ ↦ errorHere }

end Grammar

end CallCompletion.Source
