import CallCompletion.Source.Grammar.Phrase
import CallCompletion.Source.Token

/-!
# Rules of a grammar

A rule reads tokens from a place on: it matches and moves on, it fails, or it halts the reading
because an error is certain. Alternatives are ordered, and the first that matches is taken. The
state remembers the furthest token asked for, since an error without a better place lies there, and
the outcome of rules that are tried again at the same place.

The grammar is read twice: first for the tree, then, if that failed, with additional rules that only
look for errors.
-/

namespace CallCompletion.Source

/-! ## Outcomes -/

/-- The rules whose outcomes are remembered. -/
inductive RuleName where
  | expression | starExpression | disjunction | conjunction | inversion | bitOr | bitXor | bitAnd
  | shift | sum | term | factor | awaitPrimary | primary | strings | arguments | starTarget
  | targetWithStarAtom | targetPrimary | deleteTarget | namedExpressionError | simpleStatement
  | block | closedPattern | starPattern
  deriving DecidableEq, Repr

/-- What a remembered rule yields. -/
inductive Yield where
  | phrase (p : Phrase)
  | arguments (a : Arguments)
  | statement (s : Stmt)
  | statements (s : List Stmt)
  | unit
  deriving Inhabited

/-- An outcome that is remembered: what was read and the place after it, or a failure. -/
structure Memory where
  rule : RuleName
  outcome : Option (Yield × Nat)

/-- Where the reading stands. -/
structure State where
  position : Nat
  /-- The number of tokens asked for so far. -/
  fetched : Nat
  /-- For each token, the outcomes of rules tried there. -/
  memory : Array (List Memory)

/-- Why the reading stopped. -/
inductive Halt where
  /-- The next token cannot be read. -/
  | lexical (stop : Break)
  /-- An error of grammar, and the number of tokens asked for when it was found. -/
  | grammatical (line fetched : Nat)

/-- The outcome of a rule. -/
inductive Reply (α : Type) where
  | ok (value : α) (state : State)
  | fail (state : State)
  | halt (reason : Halt)

/-- What stays fixed during a reading. -/
structure Context where
  stream : TokenStream
  /-- Whether the rules that only look for errors take part. -/
  diagnosing : Bool

def Rule (α : Type) : Type := Context → State → Reply α

namespace Rule

variable {α β γ : Type}

/-- Matches nothing and yields a value. -/
@[inline] def succeed (a : α) : Rule α := fun _ s ↦ .ok a s

/-- One rule after another. -/
@[inline] def andThen (r : Rule α) (f : α → Rule β) : Rule β := fun c s ↦
  match r c s with
  | .ok a s => f a c s
  | .fail s => .fail s
  | .halt h => .halt h

instance : Monad Rule where
  pure := succeed
  bind := andThen

/-- Never matches. -/
@[inline] def fail : Rule α := fun _ s ↦ .fail s

/-- The second rule, at the same place, if the first fails. -/
@[inline] def orElse (r : Rule α) (other : Unit → Rule α) : Rule α := fun c s ↦
  let start := s.position
  match r c s with
  | .fail s => other () c { s with position := start }
  | reply => reply

instance : OrElse (Rule α) := ⟨orElse⟩

/-- A rule that need not match. -/
@[inline] def optional (r : Rule α) : Rule (Option α) := fun c s ↦
  let start := s.position
  match r c s with
  | .ok a s => .ok (some a) s
  | .fail s => .ok none { s with position := start }
  | .halt h => .halt h

/-- Once `head` has matched, the rule is settled: `other` is tried only if `head` fails. -/
@[inline] def settle (head : Rule α) (tail : α → Rule β) (other : Rule β) : Rule β := fun c s ↦
  let start := s.position
  match head c s with
  | .ok a s => tail a c s
  | .fail s => other c { s with position := start }
  | .halt h => .halt h

/-- Matches where `r` would match, and stays there. -/
@[inline] def ahead (r : Rule α) : Rule Unit := fun c s ↦
  let start := s.position
  match r c s with
  | .ok _ s => .ok () { s with position := start }
  | .fail s => .fail s
  | .halt h => .halt h

/-- Matches where `r` would fail, and stays there. -/
@[inline] def notAhead (r : Rule α) : Rule Unit := fun c s ↦
  let start := s.position
  match r c s with
  | .ok _ s => .fail s
  | .fail s => .ok () { s with position := start }
  | .halt h => .halt h

/-- As many matches in a row as there are, each of which must move on; `n` bounds their number. -/
def manyUpTo (r : Rule α) : Nat → Rule (List α)
  | 0, _, s => .ok [] s
  | n + 1, c, s =>
    let start := s.position
    match r c s with
    | .ok a s =>
      if s.position = start then .ok [] s
      else
        match manyUpTo r n c s with
        | .ok rest s => .ok (a :: rest) s
        | .fail s => .fail s
        | .halt h => .halt h
    | .fail s => .ok [] { s with position := start }
    | .halt h => .halt h

def many (r : Rule α) : Rule (List α) := fun c s ↦ manyUpTo r (c.stream.tokens.size + 1) c s

/-- At least one match. -/
def many1 (r : Rule α) : Rule (List α) := do return (← r) :: (← many r)

/-- At least one match, with separators between. -/
def sepBy1 (r : Rule α) (sep : Rule β) : Rule (List α) := do
  return (← r) :: (← many (do let _ ← sep; r))

/-! ## Tokens -/

/-- The token at the current place. -/
@[inline] def current : Rule Token := fun c s ↦
  match c.stream.tokens[s.position]? with
  | some t =>
    .ok t (if s.fetched ≤ s.position then { s with fetched := s.position + 1 } else s)
  | none =>
    match c.stream.stop with
    | some b => .halt (.lexical b)
    | none => .ok (c.stream.tokens.back?.getD default) s

/-- One token that satisfies a test. -/
@[inline] def accept (test : Token → Bool) : Rule Token := fun c s ↦
  match current c s with
  | .ok t s => if test t then .ok t { s with position := s.position + 1 } else .fail s
  | .fail s => .fail s
  | .halt h => .halt h

/-- An operator or a bracket. -/
@[inline] def op (text : String) : Rule Token :=
  accept fun t ↦ t.kind == .operator && t.text == text

/-- A keyword. -/
@[inline] def word (text : String) : Rule Token :=
  accept fun t ↦ t.kind == .keyword && t.text == text

/-- A name that acts as a keyword. -/
@[inline] def softWord (text : String) : Rule Token :=
  accept fun t ↦ t.kind == .name && t.text == text

/-- A token of the given kind. -/
@[inline] def kind (k : TokenKind) : Rule Token := accept fun t ↦ t.kind == k

def opIn (texts : List String) : Rule Token :=
  accept fun t ↦ t.kind == .operator && texts.contains t.text

def line : Rule Nat := do return (← current).line

/-- The number of the token at the current place. -/
@[inline] def position : Rule Nat := fun _ s ↦ .ok s.position s

/-- The last line of the statement that ends before the current place; layout does not count. -/
def lastLine : Rule Nat := fun c s ↦
  let rec go : Nat → Nat
    | 0 => 0
    | n + 1 =>
      match c.stream.tokens[n]? with
      | some t => if t.isLayout then go n else t.endLine
      | none => go n
  .ok (go s.position) s

/-! ## Errors -/

/-- The line of the last token asked for. -/
def lastFetched (c : Context) (s : State) : Nat :=
  match c.stream.tokens[s.fetched - 1]? with
  | some t => t.line
  | none => 0

/-- An error on a given line. -/
@[inline] def errorAt (line : Nat) : Rule α := fun _ s ↦ .halt (.grammatical line s.fetched)

/-- An error at the last token asked for. -/
def errorHere : Rule α := fun c s ↦ .halt (.grammatical (lastFetched c s) s.fetched)

/-- An operator without which there is an error at the current token. -/
def demand (text : String) : Rule Token := fun c s ↦
  match current c s with
  | .ok t s =>
    if t.kind == .operator && t.text == text then .ok t { s with position := s.position + 1 }
    else .halt (.grammatical t.line s.fetched)
  | .fail s => .fail s
  | .halt h => .halt h

/-- An error at the first part of a phrase that cannot serve as a target; without such a part there
is none. -/
def blame (use : TargetUse) (p : Phrase) : Rule Unit :=
  match p.blame.forUse use with
  | some line => errorAt line
  | none => pure ()

/-- A rule that only looks for errors: it takes part in the second reading and never matches. -/
@[inline] def diagnose (r : Rule Unit) : Rule α := fun c s ↦
  if c.diagnosing then
    match r c s with
    | .ok _ s => .fail s
    | .fail s => .fail s
    | .halt h => .halt h
  else .fail s

/-- The same rule with the rules that only look for errors left out. -/
@[inline] def undiagnosed (r : Rule α) : Rule α := fun c s ↦ r { c with diagnosing := false } s

/-! ## Memory -/

/-- What was remembered of a rule at a token. -/
def remembered (s : State) (rule : RuleName) : Option (Option (Yield × Nat)) :=
  match s.memory[s.position]? with
  | some memories => (memories.find? (·.rule == rule)).map Memory.outcome
  | none => none

def remember (s : State) (place : Nat) (rule : RuleName) (outcome : Option (Yield × Nat)) : State :=
  { s with memory := s.memory.modify place (⟨rule, outcome⟩ :: ·) }

/-- Tries a rule at most once at each place. -/
def memoize (rule : RuleName) (wrap : α → Yield) (unwrap : Yield → Option α) (r : Rule α) :
    Rule α :=
  fun c s ↦
    match remembered s rule with
    | some none => .fail s
    | some (some (y, after)) =>
      match unwrap y with
      | some a => .ok a { s with position := after }
      | none => .fail s
    | none =>
      let place := s.position
      match r c s with
      | .ok a s =>
        let after := s.position
        .ok a (remember s place rule (some (wrap a, after)))
      | .fail s => .fail { remember s place rule none with position := place }
      | .halt h => .halt h

def memoPhrase (rule : RuleName) (r : Rule Phrase) : Rule Phrase :=
  memoize rule .phrase (fun | .phrase p => some p | _ => none) r

def memoUnit (rule : RuleName) (r : Rule Unit) : Rule Unit :=
  memoize rule (fun _ ↦ .unit) (fun _ ↦ some ()) r

end Rule

end CallCompletion.Source
