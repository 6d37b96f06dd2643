import CallCompletion.Source.Grammar.Operator

/-!
# Patterns

The patterns of a match statement. They bind no name that a completion could show, so the rules
only recognize them.
-/

namespace CallCompletion.Source

open Rule

namespace Grammar

variable (g : Grammar)

/-- A number that may have a minus sign. -/
def signedNumber : Rule Unit :=
  (do let _ ← number) <|>
  (do let _ ← op "-"; let _ ← number)

/-- A number of which the imaginary ones, or the real ones, are an error. -/
def numberOfKind (imaginary : Bool) : Rule Unit := do
  let p ← number
  let isImaginary :=
    match p.expr with
    | .constant (.imaginary _) => true
    | _ => false
  if isImaginary == imaginary then pure () else errorAt p.line

def complexNumber : Rule Unit := do
  let _ ← optional (op "-")
  numberOfKind false
  let _ ← opIn ["+", "-"]
  numberOfKind true

def literalPattern : Rule Unit :=
  (do
    signedNumber
    notAhead (opIn ["+", "-"])) <|>
  complexNumber <|>
  (do let _ ← strings g) <|>
  (do let _ ← word "None" <|> word "True" <|> word "False")

/-- A name followed by nothing that would make it part of another pattern. -/
def captureTarget : Rule Unit := do
  notAhead (softWord "_")
  let _ ← kind .name
  notAhead (opIn [".", "(", "="])

def dottedPath : Rule Unit := do
  let _ ← kind .name
  let _ ← many (do let _ ← op "."; kind .name)

/-- A name with at least one attribute. -/
def attributePath : Rule Unit := do
  let _ ← kind .name
  let _ ← many1 (do let _ ← op "."; kind .name)

def starPattern : Rule Unit :=
  memoUnit .starPattern <|
    (do let _ ← op "*"; captureTarget) <|>
    (do let _ ← op "*"; let _ ← softWord "_")

/-- A pattern that may be starred. -/
def maybeStarPattern : Rule Unit := starPattern <|> g.pattern

def maybeSequence : Rule Unit := do
  let _ ← sepBy1 (maybeStarPattern g) (op ",")
  let _ ← optional (op ",")

def openSequence : Rule Unit := do
  maybeStarPattern g
  let _ ← op ","
  let _ ← optional (maybeSequence g)

def sequencePattern : Rule Unit :=
  (do
    let _ ← op "["
    let _ ← optional (maybeSequence g)
    let _ ← op "]") <|>
  (do
    let _ ← op "("
    let _ ← optional (openSequence g)
    let _ ← op ")")

def entryPattern : Rule Unit := do
  literalPattern g <|> attributePath
  let _ ← op ":"
  g.pattern

def mappingRest : Rule Unit := do
  let _ ← op "**"
  captureTarget

def mappingPattern : Rule Unit :=
  (do let _ ← op "\x7b"; let _ ← op "\x7d") <|>
  (do
    let _ ← op "\x7b"
    mappingRest
    let _ ← optional (op ",")
    let _ ← op "\x7d") <|>
  (do
    let _ ← op "\x7b"
    let _ ← sepBy1 (entryPattern g) (op ",")
    let _ ← op ","
    mappingRest
    let _ ← optional (op ",")
    let _ ← op "\x7d") <|>
  (do
    let _ ← op "\x7b"
    let _ ← sepBy1 (entryPattern g) (op ",")
    let _ ← optional (op ",")
    let _ ← op "\x7d")

def positionalPatterns : Rule Unit := do
  let _ ← sepBy1 g.pattern (op ",")

def keywordPatterns : Rule Unit := do
  let _ ← sepBy1 (do let _ ← kind .name; let _ ← op "="; g.pattern) (op ",")

/-- A class with patterns for its arguments; positional ones come first. -/
def classPattern : Rule Unit :=
  let opening : Rule Unit := do
    dottedPath
    let _ ← op "("
  let closing : Rule Unit := do
    let _ ← optional (op ",")
    let _ ← op ")"
  (do opening; let _ ← op ")") <|>
  (do opening; positionalPatterns g; closing) <|>
  (do opening; keywordPatterns g; closing) <|>
  (do opening; positionalPatterns g; let _ ← op ","; keywordPatterns g; closing) <|>
  diagnose (do
    opening
    let _ ← optional (do positionalPatterns g; let _ ← op ",")
    keywordPatterns g
    let _ ← op ","
    let line ← line
    positionalPatterns g
    errorAt line)

/-- A pattern without alternatives at its top. -/
def closedPattern : Rule Unit :=
  memoUnit .closedPattern <|
    literalPattern g <|>
    captureTarget <|>
    (do let _ ← softWord "_") <|>
    (do attributePath; notAhead (opIn [".", "(", "="])) <|>
    (do let _ ← op "("; g.pattern; let _ ← op ")") <|>
    sequencePattern g <|>
    mappingPattern g <|>
    classPattern g

def orPattern : Rule Unit := do
  let _ ← sepBy1 (closedPattern g) (op "|")

/-- A pattern, whose value may be given a name. -/
def patternRule : Rule Unit :=
  (do
    orPattern g
    let _ ← word "as"
    captureTarget) <|>
  diagnose (
    (do
      orPattern g
      let _ ← word "as"
      let t ← softWord "_"
      errorAt t.line) <|>
    (do
      orPattern g
      let _ ← word "as"
      notAhead (kind .name)
      let e ← g.expression
      errorAt e.line)) <|>
  orPattern g

def casePatterns : Rule Unit := openSequence g <|> patternRule g

end Grammar

end CallCompletion.Source
