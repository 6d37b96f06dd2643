import CallCompletion.Proofs.Brackets
import CallCompletion.Source.Engine
import Mathlib.Data.List.Chain

/-!
# Recovery of unfinished statements

A text in the middle of an edit is cut into blocks of lines. The brackets of a closed block nest on
their own; an unfinished block starts at the margin with a line that leaves a bracket open, and goes
on with lines that cannot begin a statement there. Whatever line at or after the first unfinished
block the parser blames, the bottom of the bracket stack is the first line of some unfinished block,
and the repair replaces just that block by a stub. So as many repairs as there are unfinished
blocks lead to the text in which each of them is a stub, and every other line is as it was.
-/

namespace CallCompletion.Source

open CallCompletion.Text

/-! ## Blocks -/

/-- A line that cannot begin a statement at the margin: it is blank, or indented, or begins with a
closing bracket. -/
def continuesStatement (line : Line) : Bool :=
  isBlankLine line || 0 < indentOf line || line.head?.any BracketScan.isClosing

/-- Lines whose brackets nest properly and never close below the depth they start at, with no string
open at the end. -/
structure ClosedBlock where
  lines : List Line
  nested : Bracket.depthAfter 0 (BracketScan.readLines none lines).1 = some 0
  string_ended : (BracketScan.readLines none lines).2 = none

/-- Lines that start at the margin with a line that opens a bracket which no later bracket of the
block closes. The later lines cannot begin a statement at the margin, and no string in triple quotes
is open at the end. -/
structure UnfinishedBlock where
  first : Line
  later : List Line
  at_margin : indentOf first = 0
  opens : ∃ before after : List Bracket,
    (BracketScan.readLine none first).1 = before ++ .opening :: after ∧
      (Bracket.depthAfter 0
        (after ++ (BracketScan.readLines (BracketScan.readLine none first).2 later).1)).isSome
  continued : ∀ line ∈ later, continuesStatement line = true
  string_ended : (BracketScan.readLines none (first :: later)).2 = none

/-- The lines that take the place of an unfinished block: an empty statement and empty lines. -/
def UnfinishedBlock.stubLines (block : UnfinishedBlock) : List Line :=
  ['p', 'a', 's', 's'] :: List.replicate block.later.length []

/-- A stubbed block leaves no bracket and no quote open. -/
theorem UnfinishedBlock.readLines_stubLines (block : UnfinishedBlock) :
    BracketScan.readLines none block.stubLines = ([], none) := by
  have hpass : BracketScan.readLine none ['p', 'a', 's', 's'] = ([], none) := by decide
  rw [stubLines, BracketScan.readLines, hpass]
  simp only [BracketScan.readLines_replicate_nil, List.append_nil]

/-- The stub of an unfinished block is closed. -/
def UnfinishedBlock.stubbed (block : UnfinishedBlock) : ClosedBlock where
  lines := block.stubLines
  nested := by rw [block.readLines_stubLines]; rfl
  string_ended := by rw [block.readLines_stubLines]

/-- A block of lines. -/
inductive Block where
  | closed (block : ClosedBlock)
  | unfinished (block : UnfinishedBlock)

namespace Block

/-- The lines of a block. -/
def lines : Block → List Line
  | .closed block => block.lines
  | .unfinished block => block.first :: block.later

/-- Whether a block is unfinished. -/
def isUnfinished : Block → Bool
  | .closed _ => false
  | .unfinished _ => true

/-- The block with a stub in its place if it is unfinished. -/
def stubbed : Block → Block
  | .closed block => .closed block
  | .unfinished block => .closed block.stubbed

/-- Whether a block begins with a line that can begin a statement at the margin. -/
def startsStatement (block : Block) : Bool :=
  block.lines.head?.any (!continuesStatement ·)

end Block

/-- The lines of blocks in a row. -/
def linesOf (blocks : List Block) : List Line := blocks.flatMap Block.lines

@[simp] theorem linesOf_cons (block : Block) (rest : List Block) :
    linesOf (block :: rest) = block.lines ++ linesOf rest := by
  simp [linesOf]

@[simp] theorem linesOf_append (left right : List Block) :
    linesOf (left ++ right) = linesOf left ++ linesOf right := by
  simp [linesOf]

/-- After an unfinished block a statement begins. -/
def Separated (blocks : List Block) : Prop :=
  blocks.IsChain fun left right ↦ left.isUnfinished = true → right.startsStatement = true

/-- The first line, counted from zero, of the first unfinished block. -/
def firstUnfinished? : List Block → Option Nat
  | [] => none
  | .unfinished _ :: _ => some 0
  | .closed block :: rest => (firstUnfinished? rest).map (block.lines.length + ·)

/-- The number of unfinished blocks. -/
def unfinishedCount (blocks : List Block) : Nat := blocks.countP Block.isUnfinished

theorem firstUnfinished?_lt {blocks : List Block} {start : Nat}
    (h : firstUnfinished? blocks = some start) : start < (linesOf blocks).length := by
  induction blocks generalizing start with
  | nil => simp [firstUnfinished?] at h
  | cons block rest ih =>
    cases block with
    | unfinished block =>
      have hstart : 0 = start := by simpa only [firstUnfinished?, Option.some.injEq] using h
      simp [← hstart, Block.lines]
    | closed block =>
      obtain ⟨offset, hoffset, hstart⟩ := Option.map_eq_some_iff.1 h
      have hrest := ih hoffset
      simp only [linesOf_cons, Block.lines, List.length_append]
      omega

theorem firstUnfinished?_eq_none_iff (blocks : List Block) :
    firstUnfinished? blocks = none ↔ unfinishedCount blocks = 0 := by
  induction blocks with
  | nil => simp [firstUnfinished?, unfinishedCount]
  | cons block rest ih =>
    cases block with
    | unfinished block => simp [firstUnfinished?, unfinishedCount, Block.isUnfinished]
    | closed block =>
      simpa [firstUnfinished?, unfinishedCount, Block.isUnfinished] using ih

theorem map_stubbed_of_count_eq_zero {blocks : List Block} (h : unfinishedCount blocks = 0) :
    blocks.map Block.stubbed = blocks := by
  have hclosed : ∀ block ∈ blocks, Block.isUnfinished block = false := by
    intro block hmem
    simpa using List.countP_eq_zero.1 h block hmem
  have hself : ∀ block ∈ blocks, Block.stubbed block = block := by
    intro block hmem
    cases block with
    | closed block => rfl
    | unfinished block => simpa [Block.isUnfinished] using hclosed _ hmem
  exact (List.map_congr_left hself).trans (List.map_id' blocks)

/-! ## Where a statement ends -/

theorem beginsStatement_zero (line : Line) :
    beginsStatement 0 line = !continuesStatement line := by
  cases line with
  | nil => rfl
  | cons c rest =>
    by_cases hc : isBlank c = true
    · -- An indented line begins no statement, whatever stands behind the margin.
      have hindent : 0 < indentOf (c :: rest) := by simp [indentOf, hc]
      have hcontinues : continuesStatement (c :: rest) = true := by
        simp [continuesStatement, hindent]
      rw [hcontinues]
      unfold beginsStatement
      split
      · rfl
      · simp [Nat.ne_of_gt hindent]
    · simp [beginsStatement, continuesStatement, trimLeft, indentOf, isBlankLine, hc]

/-- The statement at the first line of an unfinished block ends where the block ends. -/
theorem statementEnd_unfinished (front back : List Line) (block : UnfinishedBlock)
    (hback : ∀ line ∈ back.head?, continuesStatement line = false) :
    statementEnd (front ++ (block.first :: block.later) ++ back) front.length =
      front.length + 1 + block.later.length := by
  have hline : (front ++ (block.first :: block.later) ++ back)[front.length]? =
      some block.first := by simp
  have hdrop : (front ++ (block.first :: block.later) ++ back).drop (front.length + 1) =
      block.later ++ back := by
    have hsplit : front ++ (block.first :: block.later) ++ back =
        (front ++ [block.first]) ++ (block.later ++ back) := by simp
    rw [hsplit, List.drop_left' (by simp)]
  have hstop : back.takeWhile (!beginsStatement 0 ·) = [] := by
    cases back with
    | nil => rfl
    | cons line back =>
      have hbegins : beginsStatement 0 line = true := by
        rw [beginsStatement_zero, hback line rfl]
        rfl
      simp [hbegins]
  have hcontinued : ∀ line ∈ block.later, (!beginsStatement 0 line) = true := by
    intro line hmem
    rw [beginsStatement_zero, block.continued line hmem]
    rfl
  unfold statementEnd
  simp only [hline, Option.getD_some, block.at_margin, hdrop]
  rw [List.takeWhile_append_of_pos hcontinued, hstop, List.append_nil]

theorem UnfinishedBlock.stub_first (block : UnfinishedBlock) :
    stub block.first = ['p', 'a', 's', 's'] := by
  have hmargin : block.first.takeWhile isBlank = [] := List.eq_nil_of_length_eq_zero block.at_margin
  rw [stub, hmargin, List.nil_append]

/-- Stubbing the statement at the first line of an unfinished block replaces just that block. -/
theorem stubStatement_unfinished (front back : List Line) (block : UnfinishedBlock)
    (hback : ∀ line ∈ back.head?, continuesStatement line = false) :
    stubStatement (front ++ (block.first :: block.later) ++ back) front.length =
      front ++ block.stubLines ++ back := by
  have hstop := statementEnd_unfinished front back block hback
  have hline : (front ++ (block.first :: block.later) ++ back)[front.length]? =
      some block.first := by simp
  have htake : (front ++ (block.first :: block.later) ++ back).take front.length = front := by
    rw [List.append_assoc, List.take_left]
  have hdrop : (front ++ (block.first :: block.later) ++ back).drop
      (front.length + 1 + block.later.length) = back := by
    rw [List.drop_left']
    simp only [List.length_append, List.length_cons]
    omega
  have hcount : front.length + 1 + block.later.length - front.length - 1 = block.later.length := by
    omega
  unfold stubStatement
  simp only [hstop, hline, Option.getD_some, htake, hdrop, hcount, block.stub_first]
  simp [UnfinishedBlock.stubLines]

/-! ## The bottom of the bracket stack -/

/-- A number that is the first line of an unfinished block, when the lines count from `idx`. -/
def StartsUnfinished (idx : Nat) (blocks : List Block) (line : Nat) : Prop :=
  ∃ (before : List Block) (block : UnfinishedBlock) (after : List Block),
    blocks = before ++ .unfinished block :: after ∧ line = idx + (linesOf before).length

theorem StartsUnfinished.cons {idx line : Nat} {blocks : List Block} (block : Block)
    (h : StartsUnfinished (idx + block.lines.length) blocks line) :
    StartsUnfinished idx (block :: blocks) line := by
  obtain ⟨before, found, after, hblocks, hline⟩ := h
  refine ⟨block :: before, found, after, by rw [hblocks, List.cons_append], ?_⟩
  rw [hline, linesOf_cons, List.length_append, Nat.add_assoc]

theorem ClosedBlock.scanLines_eq (block : ClosedBlock) (idx : Nat) (openers : List Nat) :
    BracketScan.scanLines idx ⟨openers, none⟩ block.lines = ⟨openers, none⟩ := by
  obtain ⟨top, hlength, hscan⟩ :=
    BracketScan.scanLines_nested idx none block.lines block.nested [] openers rfl
  rw [List.length_eq_zero_iff.1 hlength, block.string_ended] at hscan
  exact hscan

/-- Inside a closed block the stack lies on top of what was there before. -/
theorem ClosedBlock.scanLines_take (block : ClosedBlock) (idx count : Nat) (openers : List Nat) :
    ∃ top : List Nat,
      (BracketScan.scanLines idx ⟨openers, none⟩ (block.lines.take count)).openers =
        top ++ openers := by
  have hsome : (Bracket.depthAfter 0
      (BracketScan.readLines none (block.lines.take count)).1).isSome := by
    have hnested := block.nested
    rw [← List.take_append_drop count block.lines, BracketScan.readLines_append] at hnested
    exact Bracket.isSome_depthAfter_of_append (Option.isSome_of_eq_some hnested)
  obtain ⟨reached, hreached⟩ := Option.isSome_iff_exists.1 hsome
  obtain ⟨top, _, hscan⟩ := BracketScan.scanLines_nested idx none _ hreached [] openers rfl
  exact ⟨top, by rw [List.nil_append] at hscan; rw [hscan]⟩

/-- No string goes on after an unfinished block. -/
theorem UnfinishedBlock.scanLines_eq (block : UnfinishedBlock) (idx : Nat) (openers : List Nat) :
    ∃ stack, BracketScan.scanLines idx ⟨openers, none⟩ (block.first :: block.later) =
      ⟨stack, none⟩ := by
  have hquote := BracketScan.quote_scanLines idx ⟨openers, none⟩ (block.first :: block.later)
  rw [block.string_ended] at hquote
  revert hquote
  cases BracketScan.scanLines idx ⟨openers, none⟩ (block.first :: block.later) with
  | mk stack quote =>
    rintro rfl
    exact ⟨stack, rfl⟩

/-- From its first line on, an unfinished block leaves a bracket at the bottom of the stack: one
that was there before, or one of its first line. -/
theorem UnfinishedBlock.getLast?_scanLines (block : UnfinishedBlock) (idx count : Nat)
    (openers : List Nat) :
    ∃ line, (BracketScan.scanLines idx ⟨openers, none⟩
        (block.first :: block.later.take count)).openers.getLast? = some line ∧
      (line = idx ∨ openers.getLast? = some line) := by
  obtain ⟨before, after, hfirst, hkept⟩ := block.opens
  have hsome : (Bracket.depthAfter 0 (after ++ (BracketScan.readLines
      (BracketScan.readLine none block.first).2 (block.later.take count)).1)).isSome := by
    rw [← List.take_append_drop count block.later, BracketScan.readLines_append,
      ← List.append_assoc] at hkept
    exact Bracket.isSome_depthAfter_of_append hkept
  obtain ⟨reached, hreached⟩ := Option.isSome_iff_exists.1 hsome
  rw [Bracket.depthAfter_append] at hreached
  obtain ⟨depth, hafter, hlater⟩ := Option.bind_eq_some_iff.1 hreached
  -- The bracket that stays open, with all that lies below it at the end of the first line.
  let bottom := (before ++ [Bracket.opening]).foldl (Bracket.push idx) openers
  have hbottom : bottom = idx :: before.foldl (Bracket.push idx) openers := by
    simp [bottom, Bracket.push]
  obtain ⟨top₁, hlength₁, htop₁⟩ := Bracket.foldl_push_append idx after hafter [] bottom rfl
  obtain ⟨top₂, _, hscan⟩ :=
    BracketScan.scanLines_nested (idx + 1) _ _ hlater top₁ bottom hlength₁
  have hline : BracketScan.scanLine idx ⟨openers, none⟩ block.first =
      ⟨top₁ ++ bottom, (BracketScan.readLine none block.first).2⟩ := by
    rw [BracketScan.scanLine_eq, ← htop₁]
    simp [hfirst, bottom]
  obtain ⟨line, hlast⟩ : ∃ line, bottom.getLast? = some line := by
    rw [hbottom]
    exact ⟨_, List.getLast?_cons⟩
  refine ⟨line, ?_, Bracket.getLast?_foldl_push idx _ openers line hlast⟩
  rw [BracketScan.scanLines, hline, hscan]
  simp [List.getLast?_append, hlast]

/-- Once the scan has met an unfinished block, or if the stack was not empty before, the bottom of
the stack is what lay there before, or the first line of an unfinished block. -/
theorem getLast?_scanLines_take (blocks : List Block) (idx count : Nat) (openers : List Nat)
    (hopen : openers ≠ [] ∨ ∃ start, firstUnfinished? blocks = some start ∧ start < count) :
    ∃ line, (BracketScan.scanLines idx ⟨openers, none⟩
        ((linesOf blocks).take count)).openers.getLast? = some line ∧
      (openers.getLast? = some line ∨ StartsUnfinished idx blocks line) := by
  induction blocks generalizing idx count openers with
  | nil =>
    have hne : openers ≠ [] := by simpa [firstUnfinished?] using hopen
    refine ⟨openers.getLast hne, ?_, Or.inl (List.getLast?_eq_some_getLast hne)⟩
    simpa [linesOf, BracketScan.scanLines] using List.getLast?_eq_some_getLast hne
  | cons block rest ih =>
    rw [linesOf_cons, List.take_append, BracketScan.scanLines_append]
    cases block with
    | closed block =>
      simp only [Block.lines]
      rcases Nat.le_total count block.lines.length with hle | hge
      · -- The scan ends inside the closed block, so the stack was not empty before.
        have hne : openers ≠ [] := by
          rcases hopen with hne | ⟨start, hstart, hlt⟩
          · exact hne
          · obtain ⟨offset, _, hoffset⟩ := Option.map_eq_some_iff.1 hstart
            omega
        obtain ⟨top, htop⟩ := block.scanLines_take idx count openers
        rw [Nat.sub_eq_zero_of_le hle, List.take_zero, BracketScan.scanLines, htop,
          List.getLast?_append_of_ne_nil _ hne]
        exact ⟨openers.getLast hne, List.getLast?_eq_some_getLast hne,
          Or.inl (List.getLast?_eq_some_getLast hne)⟩
      · rw [List.take_of_length_le hge, block.scanLines_eq]
        have hrest : openers ≠ [] ∨ ∃ start, firstUnfinished? rest = some start ∧
            start < count - block.lines.length := by
          rcases hopen with hne | ⟨start, hstart, hlt⟩
          · exact Or.inl hne
          · obtain ⟨offset, hfirst, hoffset⟩ := Option.map_eq_some_iff.1 hstart
            exact Or.inr ⟨offset, hfirst, by omega⟩
        obtain ⟨line, hlast, hline⟩ := ih (idx + block.lines.length) _ openers hrest
        exact ⟨line, hlast, hline.imp_right (StartsUnfinished.cons (.closed block))⟩
    | unfinished block =>
      have hstart : StartsUnfinished idx (.unfinished block :: rest) idx :=
        ⟨[], block, rest, rfl, rfl⟩
      cases count with
      | zero =>
        have hne : openers ≠ [] := by simpa using hopen
        refine ⟨openers.getLast hne, ?_, Or.inl (List.getLast?_eq_some_getLast hne)⟩
        simpa [BracketScan.scanLines] using List.getLast?_eq_some_getLast hne
      | succ count =>
        simp only [Block.lines, List.take_succ_cons, List.length_cons]
        obtain ⟨bottom, hbottom, hfrom⟩ := block.getLast?_scanLines idx count openers
        have hknown : openers.getLast? = some bottom ∨
            StartsUnfinished idx (.unfinished block :: rest) bottom :=
          hfrom.symm.imp_right (fun hidx : bottom = idx ↦ hidx ▸ hstart)
        rcases Nat.le_total count block.later.length with hle | hge
        · rw [Nat.sub_eq_zero_of_le (Nat.succ_le_succ hle), List.take_zero, BracketScan.scanLines]
          exact ⟨bottom, hbottom, hknown⟩
        · rw [List.take_of_length_le hge] at hbottom ⊢
          obtain ⟨stack, hstack⟩ := block.scanLines_eq idx openers
          rw [hstack] at hbottom ⊢
          have hne : stack ≠ [] := by
            rintro rfl
            simp at hbottom
          obtain ⟨line, hlast, hline⟩ := ih (idx + (block.later.length + 1))
            (count + 1 - (block.later.length + 1)) stack (Or.inl hne)
          refine ⟨line, hlast, ?_⟩
          rcases hline with hold | hnew
          · rw [hbottom, Option.some.injEq] at hold
            exact hold ▸ hknown
          · exact Or.inr (StartsUnfinished.cons (.unfinished block) hnew)

/-! ## One repair -/

/-- The line that is blamed lies within the lines, and not before the block. -/
theorem blamedLine_bounds {count start : Nat} (hstart : start < count) {line : Int}
    (hline : (start : Int) < line) :
    start ≤ blamedLine count (some line) ∧ blamedLine count (some line) < count := by
  unfold blamedLine
  simp only [Option.getD_some]
  split <;> omega

/-- What follows an unfinished block begins a statement, if anything follows it. -/
theorem Separated.head_after {before after : List Block} {block : UnfinishedBlock}
    (h : Separated (before ++ .unfinished block :: after)) :
    ∀ line ∈ (linesOf after).head?, continuesStatement line = false := by
  intro line hline
  cases after with
  | nil => simp [linesOf] at hline
  | cons next after =>
    have hnext : next.startsStatement = true :=
      (List.isChain_cons.1 (List.isChain_append.1 h).2.1).1 next rfl rfl
    unfold Block.startsStatement at hnext
    cases hlines : next.lines with
    | nil => simp [hlines] at hnext
    | cons first rest =>
      have hfirst : first = line := by simpa [hlines] using hline
      simpa [hlines, hfirst] using hnext

/-- A stub begins a statement and is closed, so it can stand where the unfinished block stood. -/
theorem Separated.stub {before after : List Block} {block : UnfinishedBlock}
    (h : Separated (before ++ .unfinished block :: after)) :
    Separated (before ++ .closed block.stubbed :: after) := by
  obtain ⟨hbefore, hrest, _⟩ := List.isChain_append.1 h
  refine List.isChain_append.2
    ⟨hbefore, List.isChain_cons.2 ⟨?_, (List.isChain_cons.1 hrest).2⟩, ?_⟩
  · intro next _ hclosed
    cases hclosed
  · intro last _ stubbed hstubbed _
    obtain rfl : Block.closed block.stubbed = stubbed := by simpa using hstubbed
    rfl

/-- A repair after an error at or after the first unfinished block stubs one unfinished block and
leaves all other lines alone. -/
theorem repair_eq_stub {blocks : List Block} (hseparated : Separated blocks) {start : Nat}
    (hstart : firstUnfinished? blocks = some start) {line : Int} (hline : (start : Int) < line) :
    ∃ (before : List Block) (block : UnfinishedBlock) (after : List Block),
      blocks = before ++ .unfinished block :: after ∧
        repair (linesOf blocks) (some line) =
          linesOf (before ++ .closed block.stubbed :: after) := by
  have hbounds := blamedLine_bounds (firstUnfinished?_lt hstart) hline
  have hcount : ((blamedLine (linesOf blocks).length (some line) : Int) + 1).toNat =
      blamedLine (linesOf blocks).length (some line) + 1 := by omega
  obtain ⟨opener, hopener, hfrom⟩ := getLast?_scanLines_take blocks 0
    (blamedLine (linesOf blocks).length (some line) + 1) []
    (Or.inr ⟨start, hstart, by omega⟩)
  have hfound : openBracketLine (linesOf blocks)
      (blamedLine (linesOf blocks).length (some line)) = some opener := by
    rw [openBracketLine, hcount]
    exact hopener
  obtain ⟨before, block, after, hblocks, hplace⟩ : StartsUnfinished 0 blocks opener := by
    simpa using hfrom
  refine ⟨before, block, after, hblocks, ?_⟩
  rw [Nat.zero_add] at hplace
  subst hblocks hplace
  unfold repair
  simp only [hfound]
  rw [linesOf_append, linesOf_cons, Block.lines, ← List.append_assoc,
    stubStatement_unfinished _ _ _ hseparated.head_after]
  simp [Block.lines, UnfinishedBlock.stubbed]

/-! ## All repairs -/

/-- Blocks some of which, one after another and in any order, were replaced by their stubs. -/
inductive PartlyStubbed (blocks : List Block) : List Block → Prop where
  | refl : PartlyStubbed blocks blocks
  | stub {before after : List Block} {block : UnfinishedBlock} :
      PartlyStubbed blocks (before ++ .unfinished block :: after) →
        PartlyStubbed blocks (before ++ .closed block.stubbed :: after)

theorem PartlyStubbed.map_stubbed {blocks stubbed : List Block} (h : PartlyStubbed blocks stubbed) :
    stubbed.map Block.stubbed = blocks.map Block.stubbed := by
  induction h with
  | refl => rfl
  | stub _ ih => simpa [Block.stubbed] using ih

theorem PartlyStubbed.separated {blocks stubbed : List Block} (h : PartlyStubbed blocks stubbed)
    (hseparated : Separated blocks) : Separated stubbed := by
  induction h with
  | refl => exact hseparated
  | stub _ ih => exact ih.stub

theorem PartlyStubbed.forall₂ {blocks stubbed : List Block} (h : PartlyStubbed blocks stubbed) :
    List.Forall₂ (fun block block' ↦ block' = block ∨ block' = block.stubbed) blocks stubbed := by
  induction h with
  | refl => exact List.forall₂_same.2 fun _ _ ↦ Or.inl rfl
  | @stub before after block _ ih =>
    have hbefore := List.forall₂_take_append _ _ _ ih
    obtain ⟨old, rest, hold, hrest, hdrop⟩ :=
      List.forall₂_cons_right_iff.1 (List.forall₂_drop_append _ _ _ ih)
    have hstub : Block.closed block.stubbed = old ∨ Block.closed block.stubbed = old.stubbed := by
      cases old with
      | closed old => simp [Block.stubbed] at hold
      | unfinished old =>
        have hsame : block = old := by simpa [Block.stubbed] using hold
        exact Or.inr (by rw [hsame, Block.stubbed])
    rw [← List.take_append_drop before.length blocks, hdrop]
    exact List.rel_append hbefore (.cons hstub hrest)

/-- A text cut into blocks. -/
structure Layout where
  blocks : List Block
  separated : Separated blocks

/-- The lines of a text in which a stub stands for every unfinished block. -/
def Layout.recovered (layout : Layout) : List Line := linesOf (layout.blocks.map Block.stubbed)

/-- A parser that rejects the text as long as an unfinished block remains in it, at or after the
first line of the first one. It reports lines counted from one. -/
def Layout.RejectedBy {τ : Type} (layout : Layout) (parse : LineParser τ) : Prop :=
  ∀ (blocks : List Block) (start : Nat), PartlyStubbed layout.blocks blocks →
    firstUnfinished? blocks = some start →
      ∃ line : Int, (start : Int) < line ∧ parse (joinLines (linesOf blocks)) = .error (some line)

/-- Once no unfinished block is left, the text is the recovered one. -/
theorem Layout.linesOf_eq_recovered (layout : Layout) {blocks : List Block}
    (hblocks : PartlyStubbed layout.blocks blocks) (hfirst : firstUnfinished? blocks = none) :
    linesOf blocks = layout.recovered := by
  have hcount := (firstUnfinished?_eq_none_iff blocks).1 hfirst
  rw [Layout.recovered, ← hblocks.map_stubbed, map_stubbed_of_count_eq_zero hcount]

/-- Every repair takes one unfinished block away, so the rounds are enough if and only if there are
as many of them as unfinished blocks. -/
theorem Layout.readRepairing_eq_ok_iff {τ : Type} (layout : Layout) (parse : LineParser τ)
    (tree : τ)
    (hrejected : layout.RejectedBy parse)
    (haccepted : parse (joinLines layout.recovered) = .ok tree)
    (rounds : Nat) (blocks : List Block) (hblocks : PartlyStubbed layout.blocks blocks) :
    readRepairing parse rounds (linesOf blocks) = .ok tree ↔ unfinishedCount blocks ≤ rounds := by
  induction rounds generalizing blocks with
  | zero =>
    rw [Nat.le_zero, ← firstUnfinished?_eq_none_iff]
    cases hfirst : firstUnfinished? blocks with
    | none =>
      rw [layout.linesOf_eq_recovered hblocks hfirst]
      simp only [readRepairing_of_ok haccepted]
    | some start =>
      obtain ⟨line, _, hline⟩ := hrejected blocks start hblocks hfirst
      simp [readRepairing, hline]
  | succ rounds ih =>
    cases hfirst : firstUnfinished? blocks with
    | none =>
      rw [(firstUnfinished?_eq_none_iff blocks).1 hfirst,
        layout.linesOf_eq_recovered hblocks hfirst]
      simp only [readRepairing_of_ok haccepted, Nat.zero_le]
    | some start =>
      obtain ⟨line, hafter, hline⟩ := hrejected blocks start hblocks hfirst
      obtain ⟨before, block, after, rfl, hrepair⟩ :=
        repair_eq_stub (hblocks.separated layout.separated) hfirst hafter
      have hne : (linesOf (before ++ .unfinished block :: after)).isEmpty = false := by
        simp [Block.lines]
      have hcount : unfinishedCount (before ++ .unfinished block :: after) =
          unfinishedCount (before ++ .closed block.stubbed :: after) + 1 := by
        simp [unfinishedCount, List.countP_cons, Block.isUnfinished, Nat.add_assoc]
      simp only [readRepairing, hline, hne, hrepair, Bool.false_eq_true, if_false]
      rw [ih _ hblocks.stub, hcount, Nat.add_le_add_iff_right]

/-- A source that is cut into blocks is read as the text in which every unfinished block is a stub,
if and only if at most eight blocks are unfinished. -/
theorem Layout.parseLeniently_eq_ok_iff {τ : Type} (parse : LineParser τ) (tree : τ)
    (source : List Char) (layout : Layout) (hnul : '\x00' ∉ source)
    (hlines : splitLines source = linesOf layout.blocks) (hrejected : layout.RejectedBy parse)
    (haccepted : parse (joinLines layout.recovered) = .ok tree) :
    parseLeniently parse source = .ok tree ↔ unfinishedCount layout.blocks ≤ 8 := by
  rw [parseLeniently, sourceLines_of_not_mem hnul, hlines]
  exact layout.readRepairing_eq_ok_iff parse tree hrejected haccepted maxRepairs layout.blocks .refl

/-! ## Two open statements -/

/-- Whether a result is a given error can be decided, whatever the results without error are. -/
instance decidableEqError {ε τ : Type} [DecidableEq ε] (result : Except ε τ) (error : ε) :
    Decidable (result = .error error) :=
  match result with
  | .ok _ => .isFalse nofun
  | .error found => decidable_of_iff (found = error) ⟨congrArg _, Except.error.inj⟩

/-- A call that is left open, with brackets in a string and in a comment. -/
def openCall : UnfinishedBlock where
  first := "f('(',".toList
  later := [" # (".toList]
  at_margin := by decide
  opens := ⟨[], [], by decide, by decide⟩
  continued := by decide
  string_ended := by decide

/-- A subscript that is left open. -/
def openSubscript : UnfinishedBlock where
  first := "g[".toList
  later := []
  at_margin := by decide
  opens := ⟨[], [], by decide, by decide⟩
  continued := by decide
  string_ended := by decide

/-- A statement that is complete. -/
def completeStatement : ClosedBlock where
  lines := ["z".toList]
  nested := by decide
  string_ended := by decide

/-- An open call and an open subscript before a complete statement. -/
def openStatements : Layout where
  blocks := [.unfinished openCall, .unfinished openSubscript, .closed completeStatement]
  separated := by
    unfold Separated
    simp only [List.isChain_cons_cons, List.isChain_singleton, and_true]
    decide

/-- The parser of modules blames the subscript as long as it is open, then the call. -/
theorem openStatements_rejectedBy : openStatements.RejectedBy moduleParser := by
  intro blocks start hstubbed hstart
  have hcases := hstubbed.forall₂
  simp only [openStatements, List.forall₂_cons_left_iff, List.forall₂_nil_left_iff, Block.stubbed,
    or_self] at hcases
  obtain ⟨first, _, hfirst, ⟨second, _, hsecond, ⟨_, _, rfl, rfl, rfl⟩, rfl⟩, rfl⟩ := hcases
  rcases hfirst with rfl | rfl <;> rcases hsecond with rfl | rfl
  · obtain rfl : 0 = start := Option.some.inj hstart
    exact ⟨3, by decide, by decide +kernel⟩
  · obtain rfl : 0 = start := Option.some.inj hstart
    exact ⟨1, by decide, by decide +kernel⟩
  · obtain rfl : 2 = start := Option.some.inj hstart
    exact ⟨3, by decide, by decide +kernel⟩
  · simp [firstUnfinished?] at hstart

theorem Layout.parseLeniently_openStatements : ∃ tree,
    moduleParser "pass\n\npass\nz".toList = .ok tree ∧
      parseLeniently moduleParser "f('(',\n # (\ng[\nz\n".toList = .ok tree := by
  have hreadable : (moduleParser "pass\n\npass\nz".toList).toOption.isSome := by
    decide +kernel
  cases htree : moduleParser "pass\n\npass\nz".toList with
  | error line =>
    rw [htree] at hreadable
    cases hreadable
  | ok tree =>
    refine ⟨tree, rfl, ?_⟩
    have hrecovered : joinLines openStatements.recovered = "pass\n\npass\nz".toList := by
      decide +kernel
    exact (Layout.parseLeniently_eq_ok_iff moduleParser tree _ openStatements (by decide)
      (by decide +kernel) openStatements_rejectedBy (by rw [hrecovered]; exact htree)).2 (by decide)

end CallCompletion.Source
