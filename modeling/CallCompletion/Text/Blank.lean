/-!
# Blank characters

Blank characters are the Unicode white space together with the four information separators
U+001C to U+001F. Trimming removes them from the ends of a text.
-/

namespace CallCompletion.Text

/-- Unicode white space and the information separators. -/
def isBlank (c : Char) : Bool :=
  let n := c.toNat
  (9 ≤ n && n ≤ 13) || (28 ≤ n && n ≤ 32) || n == 0x85 || n == 0xa0 || n == 0x1680 ||
    (0x2000 ≤ n && n ≤ 0x200a) || n == 0x2028 || n == 0x2029 || n == 0x202f || n == 0x205f ||
    n == 0x3000

/-- The text from its first character that is not blank on. -/
def trimLeft (cs : List Char) : List Char := cs.dropWhile isBlank

/-- The text up to its last character that is not blank. -/
def trimRight : List Char → List Char
  | [] => []
  | c :: cs =>
    match trimRight cs with
    | [] => if isBlank c then [] else [c]
    | rest => c :: rest

def trim (cs : List Char) : List Char := trimRight (trimLeft cs)

/-- `trim` on strings. -/
def trimmed (s : String) : String := String.ofList (trim s.toList)

def indentOf (line : List Char) : Nat := (line.takeWhile isBlank).length

def isBlankLine (line : List Char) : Bool := line.all isBlank

theorem trimLeft_nil_iff (cs : List Char) : trimLeft cs = [] ↔ ∀ c ∈ cs, isBlank c = true := by
  induction cs with
  | nil => simp [trimLeft]
  | cons c cs ih =>
    by_cases h : isBlank c = true
    · have hskip : trimLeft (c :: cs) = trimLeft cs := by simp [trimLeft, h]
      rw [hskip, ih]
      simp [h]
    · simp [trimLeft, h]

theorem takeWhile_append_trimLeft (cs : List Char) : cs.takeWhile isBlank ++ trimLeft cs = cs :=
  List.takeWhile_append_dropWhile

/-! ## Trimmed texts -/

theorem trimRight_append_cons {c : Char} (hc : isBlank c = false) (before after : List Char) :
    trimRight (before ++ c :: after) = before ++ c :: trimRight after := by
  induction before with
  | nil =>
    rw [List.nil_append, trimRight]
    cases trimRight after <;> simp [hc]
  | cons d before ih =>
    rw [List.cons_append, trimRight, ih]
    cases before <;> rfl

theorem trim_cons_of_blank {c : Char} (hc : isBlank c = true) (cs : List Char) :
    trim (c :: cs) = trim cs := by
  rw [trim, trimLeft, List.dropWhile_cons_of_pos hc]
  rfl

/-- Only what follows the last of two characters that are not blank can be trimmed. -/
theorem trim_cons_append_cons {first last : Char} (hfirst : isBlank first = false)
    (hlast : isBlank last = false) (middle after : List Char) :
    trim (first :: middle ++ last :: after) = first :: middle ++ last :: trimRight after := by
  rw [trim, trimLeft, List.cons_append, List.dropWhile_cons_of_neg (by simp [hfirst]),
    ← List.cons_append, trimRight_append_cons hlast]

theorem trim_of_not_blank {cs : List Char} (h : ∀ c ∈ cs, isBlank c = false) : trim cs = cs := by
  have hright : trimRight cs = cs := by
    induction cs with
    | nil => rfl
    | cons c rest ih =>
      obtain ⟨hc, hrest⟩ := List.forall_mem_cons.1 h
      rw [trimRight, ih hrest]
      cases rest <;> simp [hc]
  have hleft : trimLeft cs = cs := by
    cases cs with
    | nil => rfl
    | cons c rest => exact List.dropWhile_cons_of_neg (by simp [h c List.mem_cons_self])
  rw [trim, hleft, hright]

theorem trimRight_trimRight (cs : List Char) : trimRight (trimRight cs) = trimRight cs := by
  induction cs with
  | nil => rfl
  | cons c cs ih =>
    rw [trimRight]
    cases hrest : trimRight cs with
    | nil =>
      cases hblank : isBlank c with
      | true => rfl
      | false => simp [trimRight, hblank]
    | cons d ds =>
      rw [hrest] at ih
      simp only [trimRight] at ih ⊢
      rw [ih]

theorem isBlank_of_trimLeft {cs rest : List Char} {c : Char} (h : trimLeft cs = c :: rest) :
    isBlank c = false := by
  have hnot := List.head?_dropWhile_not isBlank cs
  rw [← trimLeft, h] at hnot
  exact hnot

/-- A trimmed text is kept by trimming. -/
theorem trim_trim (cs : List Char) : trim (trim cs) = trim cs := by
  have hleft : trimLeft (trim cs) = trim cs := by
    unfold trim
    cases hcs : trimLeft cs with
    | nil => rfl
    | cons c rest =>
      have hblank : isBlank c = false := isBlank_of_trimLeft hcs
      rw [show c :: rest = [] ++ c :: rest from rfl, trimRight_append_cons hblank, List.nil_append,
        trimLeft, List.dropWhile_cons_of_neg (by simp [hblank])]
  rw [trim, hleft, trim, trimRight_trimRight]

theorem trim_eq_nil_iff (cs : List Char) : trim cs = [] ↔ isBlankLine cs = true := by
  rw [isBlankLine, List.all_eq_true, ← trimLeft_nil_iff, trim]
  cases hcs : trimLeft cs with
  | nil => simp [trimRight]
  | cons c rest =>
    have hkept : trimRight (c :: rest) = c :: trimRight rest :=
      trimRight_append_cons (isBlank_of_trimLeft hcs) [] rest
    simp [hkept]

/-- A trimmed text does not start with a blank. -/
theorem isBlank_of_head?_trim {cs : List Char} {c : Char} (h : (trim cs).head? = some c) :
    isBlank c = false := by
  rw [trim] at h
  cases hcs : trimLeft cs with
  | nil =>
    rw [hcs] at h
    cases h
  | cons d rest =>
    have hblank : isBlank d = false := isBlank_of_trimLeft hcs
    have hkept : trimRight (d :: rest) = d :: trimRight rest :=
      trimRight_append_cons hblank [] rest
    rw [hcs, hkept] at h
    cases h
    exact hblank

theorem isBlank_of_getLast?_trim {cs : List Char} {c : Char} (h : (trim cs).getLast? = some c) :
    isBlank c = false := by
  rw [trim] at h
  generalize trimLeft cs = l at h
  induction l with
  | nil => cases h
  | cons d rest ih =>
    rw [trimRight] at h
    cases hrest : trimRight rest with
    | nil =>
      cases hblank : isBlank d with
      | true => simp [hrest, hblank] at h
      | false => simp_all
    | cons e more =>
      rw [hrest] at h ih
      exact ih h

theorem trim_blank_append {blanks : List Char} (h : isBlankLine blanks = true) (cs : List Char) :
    trim (blanks ++ cs) = trim cs := by
  induction blanks with
  | nil => rfl
  | cons c rest ih =>
    obtain ⟨hc, hrest⟩ := Bool.and_eq_true_iff.1 h
    rw [List.cons_append, trim_cons_of_blank hc, ih hrest]

theorem trimRight_append_blank {blanks : List Char} (h : isBlankLine blanks = true)
    (cs : List Char) : trimRight (cs ++ blanks) = trimRight cs := by
  induction cs with
  | nil =>
    rw [List.nil_append]
    induction blanks with
    | nil => rfl
    | cons c rest ih =>
      obtain ⟨hc, hrest⟩ := Bool.and_eq_true_iff.1 h
      simp only [trimRight, ih hrest, if_pos hc]
  | cons c rest ih => rw [List.cons_append, trimRight, trimRight, ih]

theorem trim_append_blank {blanks : List Char} (h : isBlankLine blanks = true) (cs : List Char) :
    trim (cs ++ blanks) = trim cs := by
  induction cs with
  | nil => exact (trim_eq_nil_iff blanks).2 h
  | cons c rest ih =>
    cases hc : isBlank c with
    | true => rw [List.cons_append, trim_cons_of_blank hc, trim_cons_of_blank hc, ih]
    | false =>
      have hkept (l : List Char) : trimLeft (c :: l) = c :: l :=
        List.dropWhile_cons_of_neg (by simp [hc])
      rw [trim, trim, List.cons_append, hkept, hkept, ← List.cons_append, trimRight_append_blank h]

/-- A text that starts and ends like a trimmed one is trimmed. -/
theorem trim_append_append {before after : List Char} (hbefore : trim before = before)
    (hafter : trim after = after) (hbne : before ≠ []) (hane : after ≠ []) (middle : List Char) :
    trim (before ++ middle ++ after) = before ++ middle ++ after := by
  obtain ⟨first, rest, rfl⟩ := List.exists_cons_of_ne_nil hbne
  obtain ⟨init, last, rfl⟩ : ∃ init last, after = init ++ [last] :=
    ⟨_, _, (List.dropLast_concat_getLast hane).symm⟩
  have hfirst : isBlank first = false := by
    apply isBlank_of_head?_trim
    rw [hbefore, List.head?_cons]
  have hlast : isBlank last = false := by
    apply isBlank_of_getLast?_trim
    rw [hafter, List.getLast?_concat]
  rw [← List.append_assoc, List.cons_append, List.cons_append, trim_cons_append_cons hfirst hlast]
  rfl

/-- Trimming drops blanks only. -/
theorem countP_trim (cs : List Char) :
    (trim cs).countP (!isBlank ·) = cs.countP (!isBlank ·) := by
  have hright : ∀ l : List Char, (trimRight l).countP (!isBlank ·) = l.countP (!isBlank ·) := by
    intro l
    induction l with
    | nil => rfl
    | cons c rest ih =>
      rw [trimRight]
      cases hrest : trimRight rest with
      | nil =>
        rw [hrest, List.countP_nil] at ih
        cases hblank : isBlank c <;> simp [hblank, ← ih]
      | cons d more =>
        rw [hrest] at ih
        rw [List.countP_cons, List.countP_cons (l := rest), ih]
  have hleft : (cs.takeWhile isBlank).countP (!isBlank ·) = 0 := by
    rw [List.countP_eq_zero]
    intro c hc
    have hblank : isBlank c = true := by
      have hall := List.all_takeWhile (l := cs) (p := isBlank)
      exact List.all_eq_true.1 hall c hc
    simp [hblank]
  have hsplit := congrArg (List.countP (!isBlank ·)) (takeWhile_append_trimLeft cs)
  rw [List.countP_append, hleft, Nat.zero_add] at hsplit
  rw [trim, hright, hsplit]

end CallCompletion.Text
