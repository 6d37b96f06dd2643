import CallCompletion.Source.Grammar.Rule
import CallCompletion.Source.Literal

/-!
# The rules that refer to one another

Expressions contain expressions, targets contain targets, blocks contain blocks. Each rule of the
grammar is a plain definition over the rules that it refers to indirectly, which are collected here.
-/

namespace CallCompletion.Source

structure Grammar where
  literals : LiteralReader
  expression : Rule Phrase
  namedExpression : Rule Phrase
  disjunction : Rule Phrase
  inversion : Rule Phrase
  bitOr : Rule Phrase
  factor : Rule Phrase
  starTarget : Rule Phrase
  targetWithStarAtom : Rule Phrase
  singleTarget : Rule Phrase
  deleteTarget : Rule Phrase
  annotationTargetError : Rule Phrase
  pattern : Rule Unit
  block : Rule (List Stmt)
  elseBranch : Rule (List Stmt)

namespace Grammar

def empty : Grammar :=
  { literals := ⟨noNames, fun line _ ↦ .error line⟩
    expression := .fail
    namedExpression := .fail
    disjunction := .fail
    inversion := .fail
    bitOr := .fail
    factor := .fail
    starTarget := .fail
    targetWithStarAtom := .fail
    singleTarget := .fail
    deleteTarget := .fail
    annotationTargetError := .fail
    pattern := .fail
    block := .fail
    elseBranch := .fail }

end Grammar

end CallCompletion.Source
