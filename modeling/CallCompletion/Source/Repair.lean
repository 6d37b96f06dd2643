import CallCompletion.Text.Blank
import CallCompletion.Text.Lines

/-!
# Reading text in the middle of an edit

Text that does not parse is repaired line by line and read again. A statement that is left with an
open bracket is replaced by a stub at its indentation, together with the lines that continue it; any
other line that the parser rejects is replaced by a stub, and emptied if it was one already. The
number of lines never changes, so that every line stays in its place.

The parser is a parameter: a function from text to a result or to the line of an error, which may be
missing or lie outside the text.
-/

namespace CallCompletion.Source

open CallCompletion.Text

/-- A line of text, without what ends it. -/
abbrev Line := List Char

/-! ## Open brackets -/

/-- A string in which the scan stands: its quote character, and whether it is written three
times. -/
structure OpenQuote where
  mark : Char
  triple : Bool
  deriving DecidableEq, Repr

def OpenQuote.chars (q : OpenQuote) : List Char :=
  if q.triple then [q.mark, q.mark, q.mark] else [q.mark]

/-- What a scan for brackets remembers: the lines of the open brackets, innermost first, and the
string it stands in. -/
structure BracketScan where
  openers : List Nat
  quote : Option OpenQuote
  deriving DecidableEq, Repr

namespace BracketScan

def start : BracketScan := ⟨[], none⟩

def isOpening (c : Char) : Bool := c == '(' || c == '[' || c == '{'

def isClosing (c : Char) : Bool := c == ')' || c == ']' || c == '}'

/-- The quote that opens at a character, given what follows it. -/
def quoteAt (c : Char) (rest : Line) : Option OpenQuote :=
  if c == '"' || c == '\'' then some ⟨c, [c, c].isPrefixOf rest⟩ else none

/-- Scans what is left of line `idx`, after `skip` more characters of a token already seen. -/
def scanRest (idx : Nat) (scan : BracketScan) (skip : Nat) : Line → BracketScan
  | [] => scan
  | c :: rest =>
    match skip with
    | n + 1 => scanRest idx scan n rest
    | 0 =>
      match scan.quote with
      | some q =>
        if c = '\\' then scanRest idx scan 1 rest
        else if q.chars.isPrefixOf (c :: rest) then
          scanRest idx { scan with quote := none } (q.chars.length - 1) rest
        else scanRest idx scan 0 rest
      | none =>
        if c = '#' then scan
        else
          match quoteAt c rest with
          | some q => scanRest idx { scan with quote := some q } (q.chars.length - 1) rest
          | none =>
            if isOpening c then scanRest idx { scan with openers := idx :: scan.openers } 0 rest
            else if isClosing c then scanRest idx { scan with openers := scan.openers.tail } 0 rest
            else scanRest idx scan 0 rest

/-- Only a string in triple quotes goes on to the next line. -/
def endLine (scan : BracketScan) : BracketScan :=
  { scan with quote := scan.quote.filter OpenQuote.triple }

def scanLine (idx : Nat) (scan : BracketScan) (line : Line) : BracketScan :=
  (scanRest idx scan 0 line).endLine

/-- Scans lines, the first of which has the number `idx`. -/
def scanLines (idx : Nat) (scan : BracketScan) : List Line → BracketScan
  | [] => scan
  | line :: rest => scanLines (idx + 1) (scanLine idx scan line) rest

end BracketScan

/-- The line of the outermost bracket that is open at the end of line `stop`. -/
def openBracketLine (lines : List Line) (stop : Int) : Option Nat :=
  (BracketScan.scanLines 0 .start (lines.take (stop + 1).toNat)).openers.getLast?

/-! ## Statements -/

/-- A line that begins a statement at the given indentation or less. -/
def beginsStatement (indent : Nat) (line : Line) : Bool :=
  match trimLeft line with
  | [] => false
  | c :: _ => indentOf line ≤ indent && !BracketScan.isClosing c

/-- The number of the line after `start` that begins the next statement at its indentation or less;
the number of lines if there is none. -/
def statementEnd (lines : List Line) (start : Nat) : Nat :=
  let indent := indentOf (lines[start]?.getD [])
  start + 1 + ((lines.drop (start + 1)).takeWhile (!beginsStatement indent ·)).length

/-- The stub that takes the place of a line: its indentation and an empty statement. -/
def stub (line : Line) : Line := line.takeWhile isBlank ++ ['p', 'a', 's', 's']

/-! ## Repairs -/

/-- The number of the line an error is attributed to: the reported one, counted from one, or the
last line if there is no such line. -/
def blamedLine (count : Nat) (reported : Option Int) : Nat :=
  let idx := reported.getD 0 - 1
  if 0 ≤ idx ∧ idx < count then idx.toNat else count - 1

/-- Replaces the statement that starts at a line by a stub and empty lines. -/
def stubStatement (lines : List Line) (start : Nat) : List Line :=
  let stop := statementEnd lines start
  lines.take start ++ stub (lines[start]?.getD []) ::
    List.replicate (stop - start - 1) [] ++ lines.drop stop

/-- Replaces a line by its stub, or by an empty line if it is a stub already. -/
def stubLine (line : Line) : Line := if line = stub line then [] else stub line

/-- One repair after an error at the reported line. -/
def repair (lines : List Line) (reported : Option Int) : List Line :=
  let idx := blamedLine lines.length reported
  match openBracketLine lines idx with
  | some opener => stubStatement lines opener
  | none => lines.modify idx stubLine

/-- A parser: a result, or the line of the error if it has one. -/
abbrev LineParser (τ : Type) := List Char → Except (Option Int) τ

def readRepairing {τ : Type} (parse : LineParser τ) : Nat → List Line → Except (Option Int) τ
  | 0, lines => parse (joinLines lines)
  | rounds + 1, lines =>
    match parse (joinLines lines) with
    | .ok tree => .ok tree
    | .error reported =>
      if lines.isEmpty then .error reported else readRepairing parse rounds (repair lines reported)

/-- Lines that parse are not repaired. -/
theorem readRepairing_of_ok {τ : Type} {parse : LineParser τ} {lines : List Line} {tree : τ}
    (h : parse (joinLines lines) = .ok tree) (rounds : Nat) :
    readRepairing parse rounds lines = .ok tree := by
  cases rounds with
  | zero => exact h
  | succ rounds => simp only [readRepairing, h]

/-- The most repairs that are made. -/
def maxRepairs : Nat := 8

/-- The lines of a source text, from which NUL characters are dropped. -/
def sourceLines (source : List Char) : List Line := splitLines (source.filter (· != '\x00'))

theorem sourceLines_of_not_mem {source : List Char} (h : '\x00' ∉ source) :
    sourceLines source = splitLines source := by
  have hkept : ∀ c ∈ source, (c != '\x00') = true := by
    intro c hc
    exact bne_iff_ne.2 fun hzero ↦ h (hzero ▸ hc)
  rw [sourceLines, List.filter_eq_self.2 hkept]

/-- Reads a source text that may be in the middle of an edit. -/
def parseLeniently {τ : Type} (parse : LineParser τ) (source : List Char) :
    Except (Option Int) τ :=
  readRepairing parse maxRepairs (sourceLines source)

end CallCompletion.Source
