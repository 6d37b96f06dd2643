import CallCompletion.Proofs.Brackets
import Mathlib.Data.List.Forall2
import Mathlib.Logic.Function.Iterate

/-!
# Repairs keep lines in place

However often a text is repaired, and whatever the parser says about it, the lines stay where they
are: there are as many of them as before, and each one is the original line, or empty, or a stub at
some of the original indentation. One round changes the lines of one range only, which starts at
the line that is blamed or at the line of the outermost bracket open there.

The repair is also written by line numbers and positions, so that a line or a character which does
not exist is a failure. It never fails, and gives the same lines.
-/

namespace CallCompletion.Source

open CallCompletion.Text

/-! ## Lines after repairs -/

/-- What becomes of a line: it is kept, or emptied, or replaced by a stub at some of its
indentation. -/
inductive RepairOf (original : Line) : Line → Prop where
  | kept : RepairOf original original
  | emptied : RepairOf original []
  | stubbed {indent : Line} : indent <+: original.takeWhile isBlank →
      RepairOf original (indent ++ ['p', 'a', 's', 's'])

theorem repairOf_stub (line : Line) : RepairOf line (stub line) := .stubbed (List.prefix_refl _)

/-- The indentation of a stub is what stands before the empty statement. -/
theorem takeWhile_isBlank_stub {indent line : Line} (h : indent <+: line.takeWhile isBlank) :
    (indent ++ ['p', 'a', 's', 's']).takeWhile isBlank = indent := by
  have hblank : ∀ c ∈ indent, isBlank c = true := by
    intro c hc
    exact List.all_eq_true.1 List.all_takeWhile c (h.subset hc)
  rw [List.takeWhile_append_of_pos hblank]
  simp [isBlank]

/-- A repaired line that is repaired again is a repair of the original line. -/
theorem RepairOf.trans {original line line' : Line} (h : RepairOf original line)
    (h' : RepairOf line line') : RepairOf original line' := by
  cases h' with
  | kept => exact h
  | emptied => exact .emptied
  | stubbed hindent =>
    cases h with
    | kept => exact .stubbed hindent
    | emptied =>
      have hnil := List.prefix_nil.1 hindent
      exact .stubbed (hnil ▸ List.nil_prefix)
    | stubbed horiginal =>
      rw [takeWhile_isBlank_stub horiginal] at hindent
      exact .stubbed (hindent.trans horiginal)

/-- The lines from `start` up to `stop` are replaced, the first by its stub or by an empty line and
the others by empty lines; all other lines are as they were. -/
structure StubsRange (lines lines' : List Line) (start stop : Nat) : Prop where
  start_lt : start < stop
  stop_le : stop ≤ lines.length
  length_eq : lines'.length = lines.length
  outside : ∀ idx, idx < start ∨ stop ≤ idx → lines'[idx]? = lines[idx]?
  first : ∃ line, lines[start]? = some line ∧
    (lines'[start]? = some (stub line) ∨ lines'[start]? = some [])
  later : ∀ idx, start < idx → idx < stop → lines'[idx]? = some []

theorem StubsRange.repairOf {lines lines' : List Line} {start stop : Nat}
    (h : StubsRange lines lines' start stop) {idx : Nat} {line line' : Line}
    (hline : lines[idx]? = some line) (hline' : lines'[idx]? = some line') :
    RepairOf line line' := by
  by_cases hout : idx < start ∨ stop ≤ idx
  · have hsame : some line' = some line := by rw [← hline, ← hline', h.outside idx hout]
    exact Option.some.inj hsame ▸ .kept
  · rcases Nat.eq_or_lt_of_le (by omega : start ≤ idx) with rfl | hlater
    · obtain ⟨first, hfirst, hrepair⟩ := h.first
      obtain rfl : first = line := by simpa only [hline, Option.some.injEq, eq_comm] using hfirst
      rw [hline', Option.some.injEq, Option.some.injEq] at hrepair
      rcases hrepair with rfl | rfl
      · exact repairOf_stub first
      · exact .emptied
    · have hempty : some line' = some [] := by rw [← hline', h.later idx hlater (by omega)]
      exact Option.some.inj hempty ▸ .emptied

theorem StubsRange.forall₂ {lines lines' : List Line} {start stop : Nat}
    (h : StubsRange lines lines' start stop) : List.Forall₂ RepairOf lines lines' := by
  rw [List.forall₂_iff_get]
  refine ⟨h.length_eq.symm, fun idx hidx hidx' ↦ ?_⟩
  exact h.repairOf (List.getElem?_eq_getElem hidx) (List.getElem?_eq_getElem hidx')

/-! ## One repair -/

/-- The line an error is attributed to, among `count` lines: the reported one, counted from one, or
the last one if none is reported or there is no such line. -/
def Blames (count : Nat) (reported : Option Int) (idx : Nat) : Prop :=
  reported = some (idx + 1 : Int) ∧ idx < count ∨
    (∀ line, reported = some line → line < 1 ∨ (count : Int) < line) ∧ idx + 1 = count

theorem blames_blamedLine {count : Nat} (hcount : 0 < count) (reported : Option Int) :
    Blames count reported (blamedLine count reported) := by
  unfold Blames blamedLine
  cases reported with
  | none => simp; omega
  | some line =>
    simp only [Option.getD_some, Option.some.injEq, forall_eq']
    split <;> omega

theorem Blames.lt {count idx : Nat} {reported : Option Int} (h : Blames count reported idx) :
    idx < count := by
  rcases h with ⟨_, hlt⟩ | ⟨_, hlast⟩ <;> omega

theorem lt_statementEnd (lines : List Line) (start : Nat) : start < statementEnd lines start := by
  simp only [statementEnd]
  omega

theorem statementEnd_le {lines : List Line} {start : Nat} (h : start < lines.length) :
    statementEnd lines start ≤ lines.length := by
  have htaken : ((lines.drop (start + 1)).takeWhile
      (!beginsStatement (indentOf (lines[start]?.getD [])) ·)).length ≤
        (lines.drop (start + 1)).length := (List.takeWhile_prefix _).length_le
  rw [List.length_drop] at htaken
  simp only [statementEnd]
  omega

/-- Lines in which the range from `start` up to `stop` gives way to a line and empty lines. -/
theorem getElem?_splice {lines : List Line} {start stop : Nat} (hstart : start < stop)
    (hstop : stop ≤ lines.length) (line : Line) (idx : Nat) :
    (lines.take start ++ line :: List.replicate (stop - start - 1) [] ++ lines.drop stop)[idx]? =
      if idx < start ∨ stop ≤ idx then lines[idx]?
      else if idx = start then some line else some [] := by
  grind

/-- A statement is stubbed over the lines it takes. -/
theorem stubsRange_stubStatement {lines : List Line} {start : Nat} (h : start < lines.length) :
    StubsRange lines (stubStatement lines start) start (statementEnd lines start) := by
  have hstart := lt_statementEnd lines start
  have hstop := statementEnd_le h
  have hfirst : lines[start]? = some lines[start] := List.getElem?_eq_getElem h
  have hplace := getElem?_splice hstart hstop (stub (lines[start]?.getD []))
  refine ⟨hstart, hstop, ?_, ?_, ⟨lines[start], hfirst, Or.inl ?_⟩, ?_⟩
  · simp [stubStatement]
    omega
  · intro idx hidx
    rw [stubStatement, hplace, if_pos hidx]
  · rw [stubStatement, hplace, if_neg (by omega), if_pos rfl, hfirst, Option.getD_some]
  · intro idx hlater hidx
    rw [stubStatement, hplace, if_neg (by omega), if_neg (by omega)]

theorem stubsRange_modify {lines : List Line} {idx : Nat} (h : idx < lines.length) :
    StubsRange lines (lines.modify idx stubLine) idx (idx + 1) := by
  refine ⟨idx.lt_succ_self, h, List.length_modify .., ?_,
    ⟨lines[idx], List.getElem?_eq_getElem h, ?_⟩, ?_⟩
  · intro other hother
    have hne : idx ≠ other := by omega
    simp [hne]
  · have hplace : (lines.modify idx stubLine)[idx]? = some (stubLine lines[idx]) := by simp [h]
    rw [hplace, stubLine]
    split
    · exact Or.inr rfl
    · exact Or.inl rfl
  · intro other hlater hother
    omega

/-- The bottom of the stack is what lay there before, or the number of a line that was scanned. -/
theorem getLast?_openers_scanLines {idx line : Nat} {scan : BracketScan} {lines : List Line}
    (h : (BracketScan.scanLines idx scan lines).openers.getLast? = some line) :
    line < idx + lines.length ∨ scan.openers.getLast? = some line := by
  induction lines generalizing idx scan with
  | nil => exact Or.inr h
  | cons first rest ih =>
    rw [List.length_cons]
    rcases ih h with hlater | hfirst
    · exact Or.inl (by omega)
    · rw [BracketScan.scanLine_eq] at hfirst
      rcases Bracket.getLast?_foldl_push _ _ _ _ hfirst with rfl | hbefore
      · exact Or.inl (by omega)
      · exact Or.inr hbefore

theorem openBracketLine_lt {lines : List Line} {stop : Int} {opener : Nat}
    (h : openBracketLine lines stop = some opener) : opener < lines.length := by
  rcases getLast?_openers_scanLines h with hlt | hstart
  · rw [Nat.zero_add] at hlt
    exact Nat.lt_of_lt_of_le hlt (List.length_take_le' _ _)
  · cases hstart

/-- A repair replaces the lines of one range. It is the statement at the line of the outermost
bracket that is open at the blamed line, or the blamed line alone if no bracket is open there. -/
theorem stubsRange_repair {lines : List Line} (h : lines ≠ []) (reported : Option Int) :
    ∃ idx start stop, Blames lines.length reported idx ∧
      (openBracketLine lines idx = some start ∧ stop = statementEnd lines start ∨
        openBracketLine lines idx = none ∧ start = idx ∧ stop = idx + 1) ∧
      StubsRange lines (repair lines reported) start stop := by
  have hblames := blames_blamedLine (List.length_pos_iff.2 h) reported
  simp only [repair]
  generalize blamedLine lines.length reported = idx at hblames
  cases hopener : openBracketLine lines idx with
  | some opener =>
    exact ⟨idx, opener, _, hblames, Or.inl ⟨hopener, rfl⟩,
      stubsRange_stubStatement (openBracketLine_lt hopener)⟩
  | none =>
    exact ⟨idx, idx, _, hblames, Or.inr ⟨hopener, rfl, rfl⟩, stubsRange_modify hblames.lt⟩

/-! ## All rounds -/

/-- The lines after one round: those that parse are kept, and so is a text without lines. -/
def repairRound {τ : Type} (parse : LineParser τ) (lines : List Line) : List Line :=
  match parse (joinLines lines) with
  | .ok _ => lines
  | .error reported => if lines.isEmpty then lines else repair lines reported

/-- The lines of a source text after a number of rounds. -/
def linesAfter {τ : Type} (parse : LineParser τ) (source : List Char) (rounds : Nat) : List Line :=
  (repairRound parse)^[rounds] (sourceLines source)

theorem repairRound_of_ok {τ : Type} {parse : LineParser τ} {lines : List Line} {tree : τ}
    (h : parse (joinLines lines) = .ok tree) : repairRound parse lines = lines := by
  rw [repairRound, h]

theorem repairRound_nil {τ : Type} (parse : LineParser τ) : repairRound parse [] = [] := by
  unfold repairRound
  split <;> rfl

theorem repairRound_of_error {τ : Type} {parse : LineParser τ} {lines : List Line}
    {reported : Option Int} (h : parse (joinLines lines) = .error reported) (hne : lines ≠ []) :
    repairRound parse lines = repair lines reported := by
  simp [repairRound, h, hne]

/-- Reading with repairs is reading the lines after all rounds. -/
theorem readRepairing_eq {τ : Type} (parse : LineParser τ) (rounds : Nat) (lines : List Line) :
    readRepairing parse rounds lines = parse (joinLines ((repairRound parse)^[rounds] lines)) := by
  induction rounds generalizing lines with
  | zero => rfl
  | succ rounds ih =>
    rw [readRepairing, Function.iterate_succ_apply]
    cases hparse : parse (joinLines lines) with
    | ok tree =>
      rw [repairRound_of_ok hparse, Function.iterate_fixed (repairRound_of_ok hparse), hparse]
    | error reported =>
      by_cases hempty : lines = []
      · subst hempty
        rw [repairRound_nil, Function.iterate_fixed (repairRound_nil parse), hparse]
        rfl
      · simp [repairRound_of_error hparse hempty, hempty, ih]

/-- One round changes every line by a repair. -/
theorem forall₂_repairRound {τ : Type} (parse : LineParser τ) (lines : List Line) :
    List.Forall₂ RepairOf lines (repairRound parse lines) := by
  cases hparse : parse (joinLines lines) with
  | ok tree =>
    rw [repairRound_of_ok hparse]
    exact List.forall₂_same.2 fun _ _ ↦ .kept
  | error reported =>
    by_cases hempty : lines = []
    · subst hempty
      rw [repairRound_nil]
      exact .nil
    · obtain ⟨_, _, _, _, _, hrange⟩ := stubsRange_repair hempty reported
      rw [repairRound_of_error hparse hempty]
      exact hrange.forall₂

theorem RepairOf.forall₂_trans {original lines lines' : List Line}
    (h : List.Forall₂ RepairOf original lines) (h' : List.Forall₂ RepairOf lines lines') :
    List.Forall₂ RepairOf original lines' := by
  induction h generalizing lines' with
  | nil => exact h'
  | cons hfirst _ ih =>
    cases h' with
    | cons hfirst' hrest' => exact .cons (hfirst.trans hfirst') (ih hrest')

/-- Any number of rounds changes every line by a repair. -/
theorem forall₂_linesAfter {τ : Type} (parse : LineParser τ) (source : List Char) (rounds : Nat) :
    List.Forall₂ RepairOf (sourceLines source) (linesAfter parse source rounds) := by
  induction rounds with
  | zero => exact List.forall₂_same.2 fun _ _ ↦ .kept
  | succ rounds ih =>
    rw [linesAfter, Function.iterate_succ_apply']
    exact RepairOf.forall₂_trans ih (forall₂_repairRound parse _)

/-! ## The repair by line numbers and positions -/

theorem OpenQuote.length_chars_pos (q : OpenQuote) : 0 < q.chars.length := by
  unfold OpenQuote.chars
  split <;> simp

namespace Checked

/-- Scans a line from a position on. There is no result if a position is outside the line or if a
bracket is taken from an empty stack. -/
def scanFrom (idx : Nat) (cs : Line) (scan : BracketScan) (pos : Nat) : Option BracketScan :=
  if pos < cs.length then do
    let c ← cs[pos]?
    match scan.quote with
    | some q =>
      if c = '\\' then scanFrom idx cs scan (pos + 2)
      else if q.chars.isPrefixOf (cs.drop pos) then
        scanFrom idx cs { scan with quote := none } (pos + q.chars.length)
      else scanFrom idx cs scan (pos + 1)
    | none =>
      if c = '#' then some scan
      else
        match BracketScan.quoteAt c (cs.drop (pos + 1)) with
        | some q => scanFrom idx cs { scan with quote := some q } (pos + q.chars.length)
        | none =>
          if BracketScan.isOpening c then
            scanFrom idx cs { scan with openers := idx :: scan.openers } (pos + 1)
          else if BracketScan.isClosing c && !scan.openers.isEmpty then do
            let openers ← scan.openers.tail?
            scanFrom idx cs { scan with openers } (pos + 1)
          else scanFrom idx cs scan (pos + 1)
  else some scan
termination_by cs.length - pos
decreasing_by all_goals (try have := q.length_chars_pos); omega

/-- No position is outside the line, and no bracket is taken from an empty stack. -/
theorem scanFrom_eq (idx : Nat) (cs : Line) (scan : BracketScan) (pos : Nat) :
    scanFrom idx cs scan pos = some (BracketScan.scanRest idx scan 0 (cs.drop pos)) := by
  induction hleft : cs.length - pos using Nat.strongRecOn generalizing scan pos with
  | _ left ih =>
    by_cases hpos : pos < cs.length
    · have hnext (scan : BracketScan) (count : Nat) (hcount : 0 < count) :
          scanFrom idx cs scan (pos + count) =
            some (BracketScan.scanRest idx scan (count - 1) (cs.drop (pos + 1))) := by
        rw [ih (cs.length - (pos + count)) (by omega) scan (pos + count) rfl,
          BracketScan.scanRest_skip idx scan (count - 1), List.drop_drop]
        congr 3
        omega
      have hdrop : cs.drop pos = cs[pos] :: cs.drop (pos + 1) :=
        List.drop_eq_getElem_cons hpos
      have hchar : cs[pos]? = some cs[pos] := List.getElem?_eq_getElem hpos
      have hquoted (scan : BracketScan) (q : OpenQuote) := hnext scan _ q.length_chars_pos
      have hone (scan : BracketScan) := hnext scan 1 Nat.one_pos
      rw [scanFrom, if_pos hpos, hchar, hdrop]
      simp only [Option.bind_eq_bind, Option.bind_some, BracketScan.scanRest, hquoted, hone,
        hnext _ 2 Nat.two_pos, Nat.sub_self]
      cases hquote : scan.quote with
      | some q => grind
      | none =>
        cases hq : BracketScan.quoteAt cs[pos] (cs.drop (pos + 1)) with
        | some q => grind
        | none =>
          cases hopeners : scan.openers with
          | nil =>
            -- Closing a bracket when none is open leaves the empty stack as it is.
            have hpopped : { scan with openers := [] } = scan := by rw [← hopeners]
            grind
          | cons top below => grind
    · rw [scanFrom, if_neg hpos, List.drop_eq_nil_of_le (by omega), BracketScan.scanRest]

/-- Scans the line with the given number. -/
def scanLineAt (lines : List Line) (scan : BracketScan) (idx : Nat) : Option BracketScan := do
  let line ← lines[idx]?
  let scanned ← scanFrom idx line scan 0
  some scanned.endLine

/-- Scans the lines up to `stop` by their numbers. -/
def scanUpTo (lines : List Line) (stop : Nat) : Option BracketScan :=
  (List.range (min (stop + 1) lines.length)).foldlM (scanLineAt lines) .start

theorem foldlM_scanLineAt {lines : List Line} {count : Nat} (h : count ≤ lines.length) :
    (List.range count).foldlM (scanLineAt lines) .start =
      some (BracketScan.scanLines 0 .start (lines.take count)) := by
  induction count with
  | zero => rfl
  | succ count ih =>
    have hline : lines[count]? = some lines[count] := List.getElem?_eq_getElem h
    have hlength : (lines.take count).length = count := List.length_take_of_le (by omega)
    rw [List.range_succ, List.foldlM_append, ih (by omega), ← List.take_append_getElem h,
      BracketScan.scanLines_append, hlength, Nat.zero_add]
    simp [scanLineAt, hline, scanFrom_eq, BracketScan.scanLines, BracketScan.scanLine]

theorem scanUpTo_eq (lines : List Line) (stop : Nat) :
    scanUpTo lines stop = some (BracketScan.scanLines 0 .start (lines.take (stop + 1))) := by
  rw [scanUpTo, foldlM_scanLineAt (Nat.min_le_right _ _), ← List.take_eq_take_min]

/-- The line of the outermost open bracket, taken from the bottom of a stack that is not empty. -/
def openBracketLine (lines : List Line) (stop : Nat) : Option (Option Nat) := do
  let scan ← scanUpTo lines stop
  if scan.openers.isEmpty then some none
  else do
    let opener ← scan.openers[scan.openers.length - 1]?
    some (some opener)

/-- The checked search for an open bracket never leaves the lines. -/
theorem openBracketLine_eq (lines : List Line) (stop : Nat) :
    openBracketLine lines stop = some (Source.openBracketLine lines stop) := by
  have hcount : ((stop : Int) + 1).toNat = stop + 1 := by omega
  rw [openBracketLine, scanUpTo_eq, Source.openBracketLine, hcount, Option.bind_eq_bind,
    Option.bind_some]
  cases (BracketScan.scanLines 0 .start (lines.take (stop + 1))).openers with
  | nil => rfl
  | cons top below => simp [List.getLast?_eq_getElem?]

/-- The first of the given line numbers that begins a statement at the indentation or less; the
number of lines if there is none. -/
def firstStatement (lines : List Line) (indent : Nat) : List Nat → Option Nat
  | [] => some lines.length
  | idx :: rest => do
    let line ← lines[idx]?
    if isBlankLine line then firstStatement lines indent rest
    else if indentOf line ≤ indent then do
      let c ← (trimLeft line)[0]?
      if BracketScan.isClosing c then firstStatement lines indent rest else some idx
    else firstStatement lines indent rest

/-- The end of the statement at a line, each line looked up by its number. -/
def statementEnd (lines : List Line) (start : Nat) : Option Nat := do
  let first ← lines[start]?
  firstStatement lines (indentOf first)
    (List.range' (start + 1) (lines.length - (start + 1)))

theorem firstStatement_cons {lines : List Line} {idx : Nat} {line : Line}
    (hline : lines[idx]? = some line) (indent : Nat) (rest : List Nat) :
    firstStatement lines indent (idx :: rest) =
      if beginsStatement indent line then some idx else firstStatement lines indent rest := by
  have hblank : isBlankLine line = true ↔ trimLeft line = [] := by
    rw [trimLeft_nil_iff, isBlankLine, List.all_eq_true]
  rw [firstStatement, hline, beginsStatement]
  simp only [Option.bind_eq_bind, Option.bind_some, hblank]
  cases htrim : trimLeft line with
  | nil => simp
  | cons c more => grind

theorem firstStatement_eq {lines : List Line} {idx : Nat} (h : idx ≤ lines.length) (indent : Nat) :
    firstStatement lines indent (List.range' idx (lines.length - idx)) =
      some (idx + ((lines.drop idx).takeWhile (!beginsStatement indent ·)).length) := by
  induction hleft : lines.length - idx generalizing idx with
  | zero =>
    have hend : idx = lines.length := by omega
    simp [firstStatement, hend]
  | succ left ih =>
    have hidx : idx < lines.length := by omega
    rw [List.range'_succ, firstStatement_cons (List.getElem?_eq_getElem hidx),
      ih hidx (by omega), List.drop_eq_getElem_cons hidx]
    cases hbegins : beginsStatement indent lines[idx] with
    | true => rw [if_pos rfl, List.takeWhile_cons_of_neg (by simp [hbegins])]; rfl
    | false =>
      rw [if_neg Bool.false_ne_true, List.takeWhile_cons_of_pos (by simp [hbegins]),
        List.length_cons, Nat.succ_add_eq_add_succ]

/-- The checked search for the end of a statement never leaves the lines. -/
theorem statementEnd_eq {lines : List Line} {start : Nat} (h : start < lines.length) :
    statementEnd lines start = some (Source.statementEnd lines start) := by
  have hfirst : lines[start]? = some lines[start] := List.getElem?_eq_getElem h
  rw [statementEnd, hfirst, Option.bind_eq_bind, Option.bind_some, firstStatement_eq h]
  simp only [Source.statementEnd, hfirst, Option.getD_some]

/-- One repair, in which each line and each character is looked up by its place. -/
def repair (lines : List Line) (reported : Option Int) : Option (List Line) := do
  let idx := blamedLine lines.length reported
  match ← openBracketLine lines idx with
  | some opener => do
    let stop ← statementEnd lines opener
    let first ← lines[opener]?
    some (lines.take opener ++ stub first :: List.replicate (stop - opener - 1) [] ++
      lines.drop stop)
  | none => do
    let line ← lines[idx]?
    some (lines.set idx (stubLine line))

/-- Every line and every character that a repair looks up exists. -/
theorem repair_eq {lines : List Line} (h : lines ≠ []) (reported : Option Int) :
    repair lines reported = some (Source.repair lines reported) := by
  have hidx := (blames_blamedLine (List.length_pos_iff.2 h) reported).lt
  simp only [repair, Source.repair]
  generalize blamedLine lines.length reported = idx at hidx
  rw [openBracketLine_eq]
  cases hopener : Source.openBracketLine lines idx with
  | some opener =>
    have hlt := openBracketLine_lt hopener
    have hfirst : lines[opener]? = some lines[opener] := List.getElem?_eq_getElem hlt
    simp [statementEnd_eq hlt, stubStatement, hfirst]
  | none =>
    have hline : lines[idx]? = some lines[idx] := List.getElem?_eq_getElem hidx
    simp [hline, List.modify_eq_set_getElem?]

end Checked

/-! ## Every line stays in its place -/

/-- What one round makes of lines. Lines that parse are kept. After an error the repair looks up
only lines and characters that exist, and replaces the lines of one range: the statement at the line
of the outermost bracket that is open at the blamed line, or the blamed line alone. -/
structure RepairsInPlace {τ : Type} (parse : LineParser τ) (lines lines' : List Line) : Prop where
  of_ok : ∀ tree, parse (joinLines lines) = .ok tree → lines' = lines
  of_nil : lines = [] → lines' = []
  of_error : ∀ reported, parse (joinLines lines) = .error reported → lines ≠ [] →
    Checked.repair lines reported = some lines' ∧
      ∃ idx start stop, Blames lines.length reported idx ∧
        (openBracketLine lines idx = some start ∧ stop = statementEnd lines start ∨
          openBracketLine lines idx = none ∧ start = idx ∧ stop = idx + 1) ∧
        StubsRange lines lines' start stop

theorem repairsInPlace_repairRound {τ : Type} (parse : LineParser τ) (lines : List Line) :
    RepairsInPlace parse lines (repairRound parse lines) where
  of_ok _ htree := repairRound_of_ok htree
  of_nil hempty := hempty ▸ repairRound_nil parse
  of_error reported hreported hne := by
    rw [repairRound_of_error hreported hne]
    exact ⟨Checked.repair_eq hne reported, stubsRange_repair hne reported⟩

/-- However a text is parsed and however often it is repaired, there are as many lines as before,
each is a repair of the original one, and the next round changes the lines of one range only.
Reading leniently is reading the lines after all rounds. -/
theorem linesAfter_in_place {τ : Type} (parse : LineParser τ) (source : List Char) :
    parseLeniently parse source = parse (joinLines (linesAfter parse source maxRepairs)) ∧
    ∀ rounds,
      (linesAfter parse source rounds).length = (sourceLines source).length ∧
      List.Forall₂ RepairOf (sourceLines source) (linesAfter parse source rounds) ∧
      RepairsInPlace parse (linesAfter parse source rounds)
        (linesAfter parse source (rounds + 1)) := by
  refine ⟨readRepairing_eq parse maxRepairs (sourceLines source), fun rounds ↦ ?_⟩
  have hlines := forall₂_linesAfter parse source rounds
  have hround : linesAfter parse source (rounds + 1) =
      repairRound parse (linesAfter parse source rounds) := Function.iterate_succ_apply' ..
  refine ⟨hlines.length_eq.symm, hlines, ?_⟩
  rw [hround]
  exact repairsInPlace_repairRound parse _

-- A line is stubbed, then emptied, then stubbed at the margin, whatever line is reported.
example :
    (List.range 4).map (linesAfter (fun _ ↦ .error (some 7) : LineParser Unit) "a\n  b".toList) =
      [["a".toList, "  b".toList], ["a".toList, "  pass".toList], ["a".toList, []],
        ["a".toList, "pass".toList]] := by
  decide

end CallCompletion.Source
