import CallCompletion.Source.Syntax

/-!
# Parsed phrases

A phrase is an expression together with the line it starts on and with what is wrong with it as a
target: the line of its first part that cannot be assigned to, deleted, or bound by a loop. Both
are needed only to say where an error lies, and are dropped when the tree is done.
-/

namespace CallCompletion.Source

/-- The ways in which an expression can serve as a target. -/
inductive TargetUse where
  | assign
  | delete
  | loop
  deriving DecidableEq, Repr

/-- For each use as a target, the line of the first part that cannot serve. -/
structure Blame where
  assign : Option Nat
  delete : Option Nat
  loop : Option Nat
  deriving Inhabited

namespace Blame

/-- Fit for every use. -/
def none : Blame := ⟨.none, .none, .none⟩

/-- Unfit for every use. -/
def all (line : Nat) : Blame := ⟨some line, some line, some line⟩

/-- The blame of a sequence lies with its first unfit member. -/
def first (bs : List Blame) : Blame :=
  ⟨bs.findSome? Blame.assign, bs.findSome? Blame.delete, bs.findSome? Blame.loop⟩

/-- The unfit part for one use. -/
def forUse (b : Blame) : TargetUse → Option Nat
  | .assign => b.assign
  | .delete => b.delete
  | .loop => b.loop

end Blame

/-- An expression with its first line and its blame. -/
structure Phrase where
  expr : Expr
  line : Nat
  blame : Blame
  deriving Inhabited

namespace Phrase

/-- A phrase that can be no target. -/
def value (line : Nat) (expr : Expr) : Phrase := ⟨expr, line, .all line⟩

/-- A phrase that can be a target: a name, an attribute or a subscript. -/
def place (line : Nat) (expr : Expr) : Phrase := ⟨expr, line, .none⟩

def tuple (line : Nat) (items : List Phrase) : Phrase :=
  ⟨.tuple (items.map expr), line, .first (items.map blame)⟩

def list (line : Nat) (items : List Phrase) : Phrase :=
  ⟨.list (items.map expr), line, .first (items.map blame)⟩

/-- A starred expression can be assigned to but not deleted. -/
def starred (line : Nat) (inner : Phrase) : Phrase :=
  ⟨.starred inner.expr, line, ⟨inner.blame.assign, some line, inner.blame.loop⟩⟩

/-- In a loop header a membership test may be the target followed by the word `in`, and no other
comparison is blamed. -/
def compare (left : Phrase) (rest : List (CompareOp × Expr)) : Phrase :=
  let loop :=
    match rest with
    | (.isIn, _) :: _ => left.blame.loop
    | _ => none
  ⟨.compare left.expr rest, left.line, ⟨some left.line, some left.line, loop⟩⟩

end Phrase

structure Arguments where
  line : Nat
  positional : List Phrase
  keywords : List (Keyword Expr)
  deriving Inhabited

end CallCompletion.Source
