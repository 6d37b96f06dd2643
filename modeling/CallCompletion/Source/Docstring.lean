import CallCompletion.Source.Syntax
import CallCompletion.Table
import CallCompletion.Text.Blank
import CallCompletion.Text.Lines
import CallCompletion.Text.Word

/-!
# Documentation of definitions

The text that documents a definition is cleaned of the margin that the source code gives it. The
parameters it describes are found in two styles: fields `:param name: text`, and entries
`name (type): text` indented under a heading such as `Args:`. Lines that follow a field or an entry
continue it.
-/

namespace CallCompletion.Source

open CallCompletion.Text

/-! ## Margins -/

/-- Tabs as blanks up to the next multiple of eight columns. -/
def expandTabs (column : Nat) : List Char → List Char
  | [] => []
  | '\t' :: rest => List.replicate (8 - column % 8) ' ' ++ expandTabs 0 rest
  | c :: rest => c :: expandTabs (if c = '\n' || c = '\r' then 0 else column + 1) rest

/-- The least indentation of the lines that are not blank. -/
def commonMargin (lines : List (List Char)) : Option Nat :=
  ((lines.filter (!isBlankLine ·)).map indentOf).min?

/-- A documenting text without the margin of its lines after the first, and without empty lines at
either end. -/
def cleanLines : List (List Char) → List (List Char)
  | [] => []
  | first :: rest =>
    let margin := (commonMargin rest).getD 0
    let lines := trimLeft first :: rest.map (·.drop margin)
    ((lines.reverse.dropWhile List.isEmpty).reverse).dropWhile List.isEmpty

/-- A documenting text as it is shown. -/
def cleanDocumentation (s : String) : String :=
  String.ofList (joinLines (cleanLines (splitAtChar '\n' (expandTabs 0 s.toList))))

/-- The shown documentation of a body, empty if there is none. -/
def documentationOf (body : List Stmt) : String :=
  ((documentation? body).map cleanDocumentation).getD ""

/-! ## Parameters -/

/-- The name and the text of a parameter field. The name is the last word before the second colon;
a type may stand before it. -/
def fieldParts? (cs : List Char) : Option (String × List Char) :=
  match cs with
  | ':' :: 'p' :: 'a' :: 'r' :: 'a' :: 'm' :: rest =>
    let head := rest.takeWhile (· != ':')
    match rest.dropWhile (· != ':') with
    | [] => none
    | _ :: text =>
      let name := ((trimRight head).reverse.takeWhile (!isBlank ·)).reverse
      if head.head?.any isBlank && !name.isEmpty && name.all isWordChar then
        some (String.ofList name, trimLeft text)
      else none
  | _ => none

/-- A heading under which parameters are listed. -/
def isHeading (cs : List Char) : Bool :=
  ["Args:", "Arguments:", "Parameters:", "Params:", "Attributes:"].contains (String.ofList cs)

/-- What follows a type in parentheses, if there is one. -/
def afterType? : List Char → Option (List Char)
  | '(' :: rest =>
    match rest.dropWhile (· != ')') with
    | [] => none
    | _ :: after => some after
  | cs => some cs

/-- The name and the text of an entry under a heading. Up to two stars before the name are not
part of it. -/
def listParts? (cs : List Char) : Option (String × List Char) :=
  let stars := cs.takeWhile (· == '*')
  let body := cs.dropWhile (· == '*')
  let name := body.takeWhile isWordChar
  if stars.length > 2 || name.isEmpty then none
  else
    (afterType? (trimLeft (body.dropWhile isWordChar))).bind fun after ↦
      match trimLeft after with
      | ':' :: text => some (String.ofList name, trimLeft text)
      | _ => none

/-- Where the reading of parameters stands. -/
structure DocReader where
  /-- The lines of each parameter so far. -/
  docs : Table (List (List Char))
  /-- The parameter that lines continue. -/
  current : Option String
  inSection : Bool
  sectionIndent : Nat
  entryIndent : Nat

namespace DocReader

def start : DocReader := ⟨[], none, false, 0, 0⟩

/-- A line that belongs to the current parameter, unless it is a field of another kind. -/
def continueWith (r : DocReader) (text : List Char) : DocReader :=
  match r.current with
  | some name =>
    if text.head? = some ':' then { r with current := none }
    else { r with docs := r.docs.insert name ((r.docs.get? name).getD [] ++ [text]) }
  | none => { r with current := none }

def step (r : DocReader) (line : List Char) : DocReader :=
  let text := trim line
  let indent := indentOf line
  match fieldParts? text with
  | some (name, first) =>
    { r with docs := r.docs.insert name [first], current := some name, inSection := false }
  | none =>
    if isHeading text then
      { r with inSection := true, sectionIndent := indent, current := none }
    else if text.isEmpty then r
    else if r.inSection then
      if indent ≤ r.sectionIndent then { r with inSection := false, current := none }
      else
        match listParts? text with
        | some (name, first) =>
          if r.current.isNone || indent ≤ r.entryIndent then
            { r with docs := r.docs.insert name [first], current := some name, entryIndent := indent }
          else r.continueWith text
        | none => r.continueWith text
    else r.continueWith text

end DocReader

/-- The documentation of each parameter that a shown documentation describes. -/
def parameterDocs (documentation : String) : Table String :=
  let reader := (splitLines documentation.toList).foldl DocReader.step .start
  reader.docs.map fun (name, lines) ↦ (name, String.ofList (trim (joinLines lines)))

end CallCompletion.Source
