import CallCompletion.Source.Repair

/-!
# The brackets of lines

The scan for open brackets does two things at once: it finds the brackets outside strings and
comments, and it keeps the stack of the lines where they were opened. Here the two are taken apart.
What brackets there are depends on the text and on the string the scan stands in, but not on the
stack; the stack then follows from the brackets alone. Brackets that never close more than they
opened leave what lay below them on the stack as it was.
-/

namespace CallCompletion.Source

/-- A bracket outside strings and comments. -/
inductive Bracket where
  | opening
  | closing
  deriving DecidableEq, Repr

namespace Bracket

/-- What a bracket of line `idx` does to the lines of the open brackets. -/
def push (idx : Nat) (openers : List Nat) : Bracket → List Nat
  | .opening => idx :: openers
  | .closing => openers.tail

/-- The depth after some brackets, unless one of them closes below depth zero. -/
def depthAfter : Nat → List Bracket → Option Nat
  | depth, [] => some depth
  | depth, .opening :: rest => depthAfter (depth + 1) rest
  | 0, .closing :: _ => none
  | depth + 1, .closing :: rest => depthAfter depth rest

theorem depthAfter_append (depth : Nat) (left right : List Bracket) :
    depthAfter depth (left ++ right) = (depthAfter depth left).bind (depthAfter · right) := by
  fun_induction depthAfter depth left with
  | case1 depth => rfl
  | case2 depth rest ih => simpa only [List.cons_append, depthAfter] using ih
  | case3 rest => rfl
  | case4 depth rest ih => simpa only [List.cons_append, depthAfter] using ih

theorem isSome_depthAfter_of_append {depth : Nat} {left right : List Bracket}
    (h : (depthAfter depth (left ++ right)).isSome) : (depthAfter depth left).isSome := by
  rw [depthAfter_append] at h
  exact Option.isSome_of_isSome_bind h

/-- Brackets that stay above the depth they start at only exchange the top of the stack. -/
theorem foldl_push_append (idx : Nat) (brackets : List Bracket) {depth reached : Nat}
    (h : depthAfter depth brackets = some reached) (top bottom : List Nat)
    (htop : top.length = depth) :
    ∃ top' : List Nat, top'.length = reached ∧
      brackets.foldl (push idx) (top ++ bottom) = top' ++ bottom := by
  induction brackets generalizing depth top with
  | nil =>
    have hreached : depth = reached := by simpa only [depthAfter, Option.some.injEq] using h
    exact ⟨top, htop.trans hreached, rfl⟩
  | cons bracket rest ih =>
    cases bracket with
    | opening =>
      rw [List.foldl_cons]
      exact ih h (idx :: top) (by rw [List.length_cons, htop])
    | closing =>
      cases top with
      | nil =>
        subst htop
        simp [depthAfter] at h
      | cons line top =>
        subst htop
        rw [List.foldl_cons]
        exact ih h top rfl

/-- The bottom of the stack stays, unless it is popped and a bracket of the line takes its place. -/
theorem getLast?_foldl_push (idx : Nat) (brackets : List Bracket) (openers : List Nat) (line : Nat)
    (h : (brackets.foldl (push idx) openers).getLast? = some line) :
    line = idx ∨ openers.getLast? = some line := by
  induction brackets generalizing openers with
  | nil => exact Or.inr h
  | cons bracket rest ih =>
    rcases ih _ h with hidx | hbottom
    · exact Or.inl hidx
    · cases openers with
      | nil => cases bracket <;> simp_all [push]
      | cons top below =>
        cases bracket with
        | opening => exact Or.inr (by simpa [push] using hbottom)
        | closing =>
          right
          cases below with
          | nil => simp [push] at hbottom
          | cons next below => simpa [push] using hbottom

end Bracket

namespace BracketScan

/-! ## Reading brackets -/

/-- The brackets in what is left of a line, after `skip` more characters of a token already seen,
and the string that is open at its end. -/
def readRest (quote : Option OpenQuote) (skip : Nat) : Line → List Bracket × Option OpenQuote
  | [] => ([], quote)
  | c :: rest =>
    match skip with
    | n + 1 => readRest quote n rest
    | 0 =>
      match quote with
      | some q =>
        if c = '\\' then readRest quote 1 rest
        else if q.chars.isPrefixOf (c :: rest) then readRest none (q.chars.length - 1) rest
        else readRest quote 0 rest
      | none =>
        if c = '#' then ([], none)
        else
          match quoteAt c rest with
          | some q => readRest (some q) (q.chars.length - 1) rest
          | none =>
            let (brackets, left) := readRest none 0 rest
            if isOpening c then (.opening :: brackets, left)
            else if isClosing c then (.closing :: brackets, left)
            else (brackets, left)

/-- The brackets of a line that starts inside a string or not, and the string that goes on. -/
def readLine (quote : Option OpenQuote) (line : Line) : List Bracket × Option OpenQuote :=
  let (brackets, left) := readRest quote 0 line
  (brackets, left.filter OpenQuote.triple)

/-- The brackets of lines, and the string that is open at their end. -/
def readLines (quote : Option OpenQuote) : List Line → List Bracket × Option OpenQuote
  | [] => ([], quote)
  | line :: rest =>
    let (brackets, left) := readLine quote line
    let (more, left) := readLines left rest
    (brackets ++ more, left)

theorem readLines_append (quote : Option OpenQuote) (left right : List Line) :
    readLines quote (left ++ right) =
      ((readLines quote left).1 ++ (readLines (readLines quote left).2 right).1,
        (readLines (readLines quote left).2 right).2) := by
  induction left generalizing quote with
  | nil => simp [readLines]
  | cons line rest ih => simp [readLines, ih]

theorem readLines_replicate_nil (count : Nat) :
    readLines none (List.replicate count []) = ([], none) := by
  induction count with
  | zero => rfl
  | succ count ih => simp [List.replicate_succ, readLines, readLine, readRest, ih]

/-- Skipping characters is scanning from the first one after them. -/
theorem scanRest_skip (idx : Nat) (scan : BracketScan) (skip : Nat) (line : Line) :
    scanRest idx scan skip line = scanRest idx scan 0 (line.drop skip) := by
  induction skip generalizing line with
  | zero => rfl
  | succ skip ih =>
    cases line with
    | nil => simp [scanRest]
    | cons c rest => rw [scanRest, ih, List.drop_succ_cons]

/-! ## The stack follows the brackets -/

theorem scanRest_eq (idx : Nat) (scan : BracketScan) (skip : Nat) (line : Line) :
    scanRest idx scan skip line =
      ⟨(readRest scan.quote skip line).1.foldl (Bracket.push idx) scan.openers,
        (readRest scan.quote skip line).2⟩ := by
  fun_induction scanRest idx scan skip line with
  | case6 scan rest hquote =>
    -- A comment ends the line, whatever the stack is.
    simp only [readRest, hquote, if_true, List.foldl_nil]
    exact congrArg (BracketScan.mk scan.openers) hquote
  | _ => simp_all [readRest, Bracket.push]

theorem scanLine_eq (idx : Nat) (scan : BracketScan) (line : Line) :
    scanLine idx scan line =
      ⟨(readLine scan.quote line).1.foldl (Bracket.push idx) scan.openers,
        (readLine scan.quote line).2⟩ := by
  simp only [scanLine, scanRest_eq, endLine, readLine]

/-- The scan stands in a quote exactly when the lines leave one open. -/
theorem quote_scanLines (idx : Nat) (scan : BracketScan) (lines : List Line) :
    (scanLines idx scan lines).quote = (readLines scan.quote lines).2 := by
  induction lines generalizing idx scan with
  | nil => rfl
  | cons line rest ih => rw [scanLines, ih, scanLine_eq, readLines]

/-- Lines are scanned one part after the other. -/
theorem scanLines_append (idx : Nat) (scan : BracketScan) (left right : List Line) :
    scanLines idx scan (left ++ right) =
      scanLines (idx + left.length) (scanLines idx scan left) right := by
  induction left generalizing idx scan with
  | nil => rfl
  | cons line rest ih =>
    simp only [List.cons_append, scanLines, ih, List.length_cons]
    congr 1
    omega

/-- Lines whose brackets stay above the depth they start at only exchange the top of the stack. -/
theorem scanLines_nested (idx : Nat) (quote : Option OpenQuote) (lines : List Line)
    {depth reached : Nat} (h : Bracket.depthAfter depth (readLines quote lines).1 = some reached)
    (top bottom : List Nat) (htop : top.length = depth) :
    ∃ top' : List Nat, top'.length = reached ∧
      scanLines idx ⟨top ++ bottom, quote⟩ lines = ⟨top' ++ bottom, (readLines quote lines).2⟩ := by
  induction lines generalizing idx quote depth top with
  | nil =>
    have hreached : depth = reached := by
      simpa only [readLines, Bracket.depthAfter, Option.some.injEq] using h
    exact ⟨top, htop.trans hreached, rfl⟩
  | cons line rest ih =>
    simp only [readLines] at h
    rw [Bracket.depthAfter_append] at h
    obtain ⟨middle, hline, hrest⟩ := Option.bind_eq_some_iff.1 h
    obtain ⟨top₁, hlength₁, htop₁⟩ := Bracket.foldl_push_append idx _ hline top bottom htop
    obtain ⟨top₂, hlength₂, htop₂⟩ := ih (idx + 1) _ hrest top₁ hlength₁
    refine ⟨top₂, hlength₂, ?_⟩
    rw [scanLines, scanLine_eq]
    simp only [htop₁, htop₂, readLines]

end BracketScan

end CallCompletion.Source
