import CallCompletion.Source.Grammar.Operator

/-!
# Targets

What can be assigned to, deleted, or annotated: names, attributes, subscripts, and sequences of
targets in brackets.
-/

namespace CallCompletion.Source

open Rule

namespace Grammar

variable (g : Grammar)

def accessTarget : Rule Phrase :=
  (do
    let p ← targetPrimary g
    let q ← attributeOf p
    notAhead accessAhead
    return q) <|>
  (do
    let p ← targetPrimary g
    let q ← itemOf g p
    notAhead accessAhead
    return q)

/-- A name, or targets in brackets. -/
def starAtom : Rule Phrase :=
  nameAtom <|>
  (do
    let _ ← op "("
    let t ← g.targetWithStarAtom
    let _ ← op ")"
    return t) <|>
  (do
    let t ← op "("
    let items ← optional (do
      let first ← g.starTarget
      let _ ← op ","
      let more ← optional (sepBy1 g.starTarget (op ","))
      match more with
      | none => return [first]
      | some more =>
        let _ ← optional (op ",")
        return first :: more)
    let _ ← op ")"
    return .tuple t.line (items.getD [])) <|>
  (do
    let t ← op "["
    let items ← optional (do
      let items ← sepBy1 g.starTarget (op ",")
      let _ ← optional (op ",")
      return items)
    let _ ← op "]"
    return .list t.line (items.getD []))

/-- A target that is not starred itself. -/
def targetWithStarAtomRule : Rule Phrase :=
  memoPhrase .targetWithStarAtom (accessTarget g <|> starAtom g)

/-- A target that may be starred once. -/
def starTargetRule : Rule Phrase :=
  memoPhrase .starTarget <|
    (do
      let star ← op "*"
      notAhead (op "*")
      return .starred star.line (← g.starTarget)) <|>
    targetWithStarAtomRule g

/-- A single target, for annotations and augmented assignments. -/
def singleTargetRule : Rule Phrase :=
  accessTarget g <|> nameAtom <|>
  (do
    let _ ← op "("
    let t ← g.singleTarget
    let _ ← op ")"
    return t)

def deleteTargets : Rule (List Phrase) := do
  let items ← sepBy1 g.deleteTarget (op ",")
  let _ ← optional (op ",")
  return items

def deleteTargetRule : Rule Phrase :=
  memoPhrase .deleteTarget <|
    accessTarget g <|> nameAtom <|>
    (do
      let _ ← op "("
      let t ← g.deleteTarget
      let _ ← op ")"
      return t) <|>
    (do
      let t ← op "("
      let items ← optional (deleteTargets g)
      let _ ← op ")"
      return .tuple t.line (items.getD [])) <|>
    (do
      let t ← op "["
      let items ← optional (deleteTargets g)
      let _ ← op "]"
      return .list t.line (items.getD []))

def annotationTargetErrorRule : Rule Phrase :=
  listDisplay g <|> tupleDisplay g <|>
  (do
    let _ ← op "("
    let e ← g.annotationTargetError
    let _ ← op ")"
    return e)

end Grammar

end CallCompletion.Source
