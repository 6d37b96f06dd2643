import CallCompletion.Proofs.CallText
import Mathlib.Logic.Function.Iterate

/-!
# Lists of example values

A line of values is read by a loop that skips separators one by one and takes values where they
start. Nothing of the line is lost: it is made up of separators and of values, each of them in
quotes or a longest run of characters that a bare value can hold. The loop ends unless it comes to
a blank that is no separator, where it stays. What is written behind a marker as a list of values
is read back as it was written, whatever stands on the lines below.
-/

namespace CallCompletion.Example

open CallCompletion.Text

/-! ## Markers -/

/-- The letters of a marker. -/
def IsMarkerWord (e g : Char) : Prop := (e = 'e' ∨ e = 'E') ∧ (g = 'g' ∨ g = 'G')

/-- A text that starts with a marker, and what follows the marker: a colon belongs to it, a blank
does not. -/
inductive Marks : List Char → List Char → Prop
  | colon {e g : Char} {after : List Char} :
    IsMarkerWord e g → Marks (e :: g :: ':' :: after) after
  | pointColon {e g : Char} {after : List Char} :
    IsMarkerWord e g → Marks (e :: g :: '.' :: ':' :: after) after
  | blank {e g c : Char} {after : List Char} :
    IsMarkerWord e g → isBlank c = true → Marks (e :: g :: c :: after) (c :: after)
  | pointBlank {e g c : Char} {after : List Char} :
    IsMarkerWord e g → isBlank c = true → Marks (e :: g :: '.' :: c :: after) (c :: after)

/-- Whether a word goes on at the end of a text; `inWord` tells it of the empty text. -/
def endsInWord (inWord : Bool) : List Char → Bool
  | [] => inWord
  | c :: rest => endsInWord (isWordChar c) rest

/-- A text with a marker somewhere, at the start of a word. -/
def HasMarker (inWord : Bool) (cs : List Char) : Prop :=
  ∃ before rest after, cs = before ++ rest ∧ endsInWord inWord before = false ∧ Marks rest after

/-- The leftmost marker of `before ++ rest` stands at the front of `rest`. -/
structure LeftmostMarker (inWord : Bool) (before rest : List Char) : Prop where
  apart : endsInWord inWord before = false
  marks : ∃ after, Marks rest after
  leftmost : ∀ k < before.length, endsInWord inWord (before.take k) = false →
    ¬ ∃ after, Marks (before.drop k ++ rest) after

theorem marks_of_afterMarker? {cs after : List Char} (h : afterMarker? cs = some after) :
    Marks cs after := by
  unfold afterMarker? at h
  split at h
  · next e g rest =>
    split at h
    · next hword =>
      have hword : IsMarkerWord e g := by simpa [IsMarkerWord] using hword
      split at h
      · cases h
        exact .colon hword
      · cases h
        exact .pointColon hword
      · next c more _ =>
        split at h
        · next hblank =>
          cases h
          exact .pointBlank hword hblank
        · cases h
      · next c more _ _ _ =>
        split at h
        · next hblank =>
          cases h
          exact .blank hword hblank
        · cases h
      · cases h
    · cases h
  · cases h

theorem Marks.afterMarker?_eq {cs after : List Char} (h : Marks cs after) :
    afterMarker? cs = some after := by
  have hletters {e g : Char} (hword : IsMarkerWord e g) :
      ((e == 'e' || e == 'E') && (g == 'g' || g == 'G')) = true := by
    simpa [IsMarkerWord] using hword
  have hcolon {c : Char} (hblank : isBlank c = true) : c ≠ ':' := by
    rintro rfl
    exact absurd hblank (by decide)
  have hpoint {c : Char} (hblank : isBlank c = true) : c ≠ '.' := by
    rintro rfl
    exact absurd hblank (by decide)
  cases h with
  | colon hword => exact if_pos (hletters hword)
  | pointColon hword => exact if_pos (hletters hword)
  | blank hword hblank =>
    apply (if_pos (hletters hword)).trans
    split
    · next heq => exact absurd (List.cons.inj heq).1 (hcolon hblank)
    · next heq => exact absurd (List.cons.inj heq).1 (hpoint hblank)
    · next heq => exact absurd (List.cons.inj heq).1 (hpoint hblank)
    · next heq =>
      cases heq
      exact if_pos hblank
    · next heq => cases heq
  | pointBlank hword hblank =>
    apply (if_pos (hletters hword)).trans
    split
    · next heq => cases heq
    · next heq => exact absurd (List.cons.inj (List.cons.inj heq).2).1 (hcolon hblank)
    · next heq =>
      cases heq
      exact if_pos hblank
    · next hother heq =>
      cases heq
      exact (hother _ _ rfl rfl).elim
    · next heq => cases heq

theorem exists_marks_iff {cs : List Char} :
    (∃ after, Marks cs after) ↔ (afterMarker? cs).isSome = true := by
  rw [Option.isSome_iff_exists]
  constructor
  · rintro ⟨after, hmarks⟩
    exact ⟨after, hmarks.afterMarker?_eq⟩
  · rintro ⟨after, hfound⟩
    exact ⟨after, marks_of_afterMarker? hfound⟩

/-- The leftmost marker is one that starts outside a word, with none before it. -/
theorem leftmostMarker_iff {inWord : Bool} {before rest : List Char} :
    LeftmostMarker inWord before rest ↔ endsInWord inWord before = false ∧
      (afterMarker? rest).isSome = true ∧
      ∀ k < before.length, endsInWord inWord (before.take k) = false →
        ¬ (afterMarker? (before.drop k ++ rest)).isSome = true := by
  simp only [← exists_marks_iff]
  exact ⟨fun h ↦ ⟨h.apart, h.marks, h.leftmost⟩, fun h ↦ ⟨h.1, h.2.1, h.2.2⟩⟩

instance (inWord : Bool) (before rest : List Char) :
    Decidable (LeftmostMarker inWord before rest) :=
  decidable_of_iff _ leftmostMarker_iff.symm

theorem LeftmostMarker.of_cons {inWord : Bool} {c : Char} {before rest : List Char}
    (h : LeftmostMarker inWord (c :: before) rest) :
    LeftmostMarker (isWordChar c) before rest where
  apart := h.apart
  marks := h.marks
  leftmost k hk := h.leftmost (k + 1) (Nat.succ_lt_succ hk)

/-- The search for a marker finds the leftmost one. -/
theorem LeftmostMarker.afterFirstMarker?_eq {inWord : Bool} {before rest after : List Char}
    (h : LeftmostMarker inWord before rest) (hmarks : Marks rest after) :
    afterFirstMarker? inWord (before ++ rest) = some after := by
  induction before generalizing inWord with
  | nil =>
    have hword : inWord = false := h.apart
    obtain ⟨c, more, rfl⟩ : ∃ c more, rest = c :: more := by
      cases hmarks <;> exact ⟨_, _, rfl⟩
    simp only [List.nil_append, afterFirstMarker?, hword, Bool.false_eq_true, if_false,
      hmarks.afterMarker?_eq]
  | cons c before ih =>
    have hnone : (if inWord then none else afterMarker? (c :: (before ++ rest))) = none := by
      cases hword : inWord with
      | true => rfl
      | false =>
        have hnot := h.leftmost 0 (Nat.succ_pos before.length) hword
        rw [exists_marks_iff, Option.not_isSome_iff_eq_none] at hnot
        exact hnot
    rw [List.cons_append, afterFirstMarker?, hnone]
    exact ih h.of_cons

/-- A text with a marker has a leftmost one. -/
theorem HasMarker.exists_leftmost {inWord : Bool} {cs : List Char} (h : HasMarker inWord cs) :
    ∃ before rest, cs = before ++ rest ∧ LeftmostMarker inWord before rest := by
  induction cs generalizing inWord with
  | nil =>
    obtain ⟨before, rest, after, hcs, _, hmarks⟩ := h
    rw [(List.nil_eq_append_iff.1 hcs).2] at hmarks
    cases hmarks
  | cons c cs ih =>
    by_cases hfront : inWord = false ∧ ∃ after, Marks (c :: cs) after
    · exact ⟨[], c :: cs, rfl, hfront.1, hfront.2, fun k hk ↦ absurd hk (Nat.not_lt_zero k)⟩
    · obtain ⟨before, rest, after, hcs, hapart, hmarks⟩ := h
      cases before with
      | nil =>
        rw [List.nil_append] at hcs
        exact absurd ⟨hapart, after, hcs ▸ hmarks⟩ hfront
      | cons d before =>
        obtain ⟨rfl, rfl⟩ := List.cons.inj hcs
        obtain ⟨before', rest', hcs', h'⟩ := ih ⟨before, rest, after, rfl, hapart, hmarks⟩
        refine ⟨c :: before', rest', congrArg (c :: ·) hcs', h'.apart, h'.marks, ?_⟩
        intro k hk hword hmark
        cases k with
        | zero =>
          rw [List.drop_zero, List.cons_append, ← hcs'] at hmark
          exact hfront ⟨hword, hmark⟩
        | succ k => exact h'.leftmost k (Nat.lt_of_succ_lt_succ hk) hword hmark

/-- The line of values behind a marker: from the first character that is not blank to the end of its
line. -/
def lineAfter (after : List Char) : List Char := (trimLeft after).takeWhile (· != '\n')

theorem LeftmostMarker.tokens?_eq {documentation : String} {before rest after : List Char}
    (hcs : documentation.toList = before ++ rest) (h : LeftmostMarker false before rest)
    (hmarks : Marks rest after) :
    tokens? documentation = (values? (lineAfter after)).map (·.map String.ofList) := by
  rw [tokens?, valueLine?, hcs, h.afterFirstMarker?_eq hmarks]
  rfl

/-! ## Values and what separates them -/

/-- A value as a list of examples spells it: bare, or between two quotes. -/
inductive Value where
  | bare (text : List Char)
  | quoted (quote : Char) (content : List Char)

/-- The characters of a value, with its quotes. -/
def Value.spelled : Value → List Char
  | bare text => text
  | quoted quote content => quote :: content ++ [quote]

/-- What is read for a value: a bare one stands for itself, a quoted one for a text. -/
def Value.token : Value → List Char
  | bare text => text
  | quoted _ content => stringLiteral content

/-- A value is one as a whole before the given rest of a line. A quoted value ends where its quote
comes next. A bare one is a longest run, and if it starts with a quote, then that quote does not
come again. -/
def Value.StandsBefore (after : List Char) : Value → Prop
  | bare text => text ≠ [] ∧ (∀ c ∈ text, isBare c = true) ∧ (∀ c ∈ after.head?, isBare c = false) ∧
      ∀ quote more, text = quote :: more → isQuote quote = true → quote ∉ more ++ after
  | quoted quote content => isQuote quote = true ∧ quote ∉ content

theorem isBare_of_isQuote {c : Char} (h : isQuote c = true) : isBare c = true := by
  simp only [isQuote, Bool.or_eq_true, beq_iff_eq] at h
  rcases h with rfl | rfl <;> decide

theorem not_isSeparator_of_isBare {c : Char} (h : isBare c = true) : isSeparator c = false := by
  rw [Bool.eq_false_iff]
  intro hseparator
  simp only [isSeparator, Bool.or_eq_true, beq_iff_eq] at hseparator
  rcases hseparator with ((((rfl | rfl) | rfl) | rfl) | rfl) | rfl <;> exact absurd h (by decide)

/-- A quoted value is read up to its closing quote. -/
theorem readValue_quoted {quote : Char} {content : List Char} (hquote : isQuote quote = true)
    (hcontent : quote ∉ content) (after : List Char) :
    readValue quote (content ++ quote :: after) = (stringLiteral content, after) := by
  have hinside : ∀ c ∈ content, (c != quote) = true := by
    intro c hc
    rw [bne_iff_ne]
    rintro rfl
    exact hcontent hc
  have hclosed : (content ++ quote :: after).contains quote = true := by simp
  rw [readValue, hquote, hclosed, Bool.and_self, if_pos rfl,
    List.takeWhile_append_of_pos hinside, List.dropWhile_append_of_pos hinside]
  simp

/-- A bare value is read as long as its characters are bare. -/
theorem readValue_bare {c : Char} {text after : List Char}
    (h : (Value.bare (c :: text)).StandsBefore after) :
    readValue c (text ++ after) = (c :: text, after) := by
  obtain ⟨_, hbare, hend, hquote⟩ := h
  have hopen : ¬ (isQuote c && (text ++ after).contains c) = true := by
    rw [Bool.and_eq_true, List.contains_iff_mem]
    rintro ⟨hc, hmem⟩
    exact hquote c text rfl hc hmem
  have hstop : after.takeWhile isBare = [] ∧ after.dropWhile isBare = after := by
    cases after with
    | nil => exact ⟨rfl, rfl⟩
    | cons d after => simp [hend d rfl]
  rw [readValue, if_neg hopen, ← List.cons_append, List.takeWhile_append_of_pos hbare,
    List.dropWhile_append_of_pos hbare, hstop.1, hstop.2, List.append_nil]

/-- A value is read as a whole. -/
theorem Value.StandsBefore.readValue_eq {v : Value} {after : List Char} (h : v.StandsBefore after) :
    ∃ c rest, v.spelled ++ after = c :: rest ∧ isBare c = true ∧
      readValue c rest = (v.token, after) := by
  cases v with
  | quoted quote content =>
    refine ⟨quote, content ++ quote :: after, ?_, isBare_of_isQuote h.1,
      readValue_quoted h.1 h.2 after⟩
    simp [Value.spelled]
  | bare text =>
    cases text with
    | nil => exact absurd rfl h.1
    | cons c text => exact ⟨c, text ++ after, rfl, h.2.1 c List.mem_cons_self, readValue_bare h⟩

/-- Whatever is read is a value that stands at the front. -/
theorem exists_value_of_isBare {c : Char} (h : isBare c = true) (rest : List Char) :
    ∃ v : Value, v.StandsBefore (readValue c rest).2 ∧
      c :: rest = v.spelled ++ (readValue c rest).2 ∧ (readValue c rest).1 = v.token := by
  by_cases hclosed : (isQuote c && rest.contains c) = true
  · rw [Bool.and_eq_true, List.contains_iff_mem] at hclosed
    obtain ⟨content, after, rfl, hcontent⟩ := List.eq_append_cons_of_mem hclosed.2
    rw [readValue_quoted hclosed.1 hcontent after]
    refine ⟨.quoted c content, ⟨hclosed.1, hcontent⟩, ?_, rfl⟩
    simp [Value.spelled]
  · rw [readValue, if_neg hclosed]
    have hrest : (c :: rest).takeWhile isBare ++ (c :: rest).dropWhile isBare = c :: rest :=
      List.takeWhile_append_dropWhile
    refine ⟨.bare ((c :: rest).takeWhile isBare), ⟨?_, ?_, ?_, ?_⟩, hrest.symm, rfl⟩
    · simp [h]
    · exact List.all_eq_true.1 List.all_takeWhile
    · intro d hd
      have hnot := List.head?_dropWhile_not isBare (c :: rest)
      rw [hd] at hnot
      exact hnot
    · intro quote more htext hquote hmem
      rw [htext, List.cons_append] at hrest
      obtain ⟨rfl, hmore⟩ := List.cons.inj hrest
      rw [Bool.and_eq_true, List.contains_iff_mem] at hclosed
      exact hclosed ⟨hquote, hmore ▸ hmem⟩

theorem values?_separators {gap : List Char} (h : ∀ c ∈ gap, isSeparator c = true)
    (line : List Char) : values? (gap ++ line) = values? line := by
  induction gap with
  | nil => rfl
  | cons c gap ih =>
    rw [List.cons_append, values?, if_pos (h c List.mem_cons_self)]
    exact ih fun d hd ↦ h d (List.mem_cons_of_mem c hd)

theorem Value.StandsBefore.values?_eq {v : Value} {after : List Char} (h : v.StandsBefore after) :
    values? (v.spelled ++ after) = (values? after).map (v.token :: ·) := by
  obtain ⟨c, rest, hline, hbare, hread⟩ := h.readValue_eq
  rw [hline, values?, not_isSeparator_of_isBare hbare, if_neg Bool.false_ne_true, dif_pos hbare,
    hread]

/-- Values, each followed by a gap. -/
def layOut (pieces : List (Value × List Char)) : List Char :=
  pieces.flatMap fun piece ↦ piece.1.spelled ++ piece.2

theorem layOut_cons (v : Value) (gap : List Char) (more : List (Value × List Char)) :
    layOut ((v, gap) :: more) = v.spelled ++ (gap ++ layOut more) := by
  rw [layOut, List.flatMap_cons, List.append_assoc, layOut]

/-- Each value stands as a whole before what follows it, and the gaps hold separators only. -/
def FitTogether : List (Value × List Char) → Prop
  | [] => True
  | (v, gap) :: more =>
    v.StandsBefore (gap ++ layOut more) ∧ (∀ c ∈ gap, isSeparator c = true) ∧ FitTogether more

/-- A line that can be read is made up of values and separators, in exactly one way as far as the
values that are read go. -/
theorem values?_eq_some_iff {line : List Char} {tokens : List (List Char)} :
    values? line = some tokens ↔ ∃ lead pieces, line = lead ++ layOut pieces ∧
      (∀ c ∈ lead, isSeparator c = true) ∧ FitTogether pieces ∧
      tokens = pieces.map fun piece ↦ piece.1.token := by
  constructor
  · intro h
    fun_induction values? line generalizing tokens with
    | case1 =>
      cases h
      exact ⟨[], [], rfl, by simp, trivial, rfl⟩
    | case2 c rest hseparator ih =>
      obtain ⟨lead, pieces, hrest, hlead, hfit, htokens⟩ := ih h
      refine ⟨c :: lead, pieces, congrArg (c :: ·) hrest, ?_, hfit, htokens⟩
      exact List.forall_mem_cons.2 ⟨hseparator, hlead⟩
    | case3 c rest _ hbare ih =>
      obtain ⟨more, hmore, rfl⟩ := Option.map_eq_some_iff.1 h
      obtain ⟨gap, pieces, hafter, hgap, hfit, rfl⟩ := ih hmore
      obtain ⟨v, hv, hline, htoken⟩ := exists_value_of_isBare hbare rest
      rw [hafter] at hv hline
      refine ⟨[], (v, gap) :: pieces, ?_, by simp, ⟨hv, hgap, hfit⟩, ?_⟩
      · rw [hline, List.nil_append, layOut_cons]
      · rw [htoken, List.map_cons]
    | case4 => cases h
  · rintro ⟨lead, pieces, rfl, hlead, hfit, rfl⟩
    rw [values?_separators hlead]
    clear hlead
    induction pieces with
    | nil => rw [layOut, List.flatMap_nil, values?, List.map_nil]
    | cons piece more ih =>
      obtain ⟨v, gap⟩ := piece
      obtain ⟨hv, hgap, hmore⟩ := hfit
      rw [layOut_cons, hv.values?_eq, values?_separators hgap, ih hmore]
      rfl

/-! ## The loop over a line -/

/-- The loop that reads a line: what is left of the line, and the values found so far. -/
structure Scan where
  left : List Char
  found : List (List Char)

/-- One round of the loop: it skips a separator, or else reads a value, even where none stands. -/
def Scan.step (s : Scan) : Scan :=
  match s.left with
  | [] => s
  | c :: rest =>
    if isSeparator c then ⟨rest, s.found⟩
    else ⟨(readValue c rest).2, s.found ++ [(readValue c rest).1]⟩

/-- The loop over a line after some rounds. -/
def Scan.after (rounds : Nat) (line : List Char) : Scan := Scan.step^[rounds] ⟨line, []⟩

/-- The loop looks for a value that starts with the given character. -/
def Scan.LooksAt (s : Scan) (c : Char) : Prop := s.left.head? = some c ∧ isSeparator c = false

/-- The blanks that separate values. -/
def separatingBlanks : List Char := [' ', '\t', '\r', '\x0c', '\x0b']

theorem mem_separatingBlanks_iff {c : Char} (h : isBlank c = true) :
    c ∈ separatingBlanks ↔ isSeparator c = true := by
  have hcomma : c ≠ ',' := by
    rintro rfl
    exact absurd h (by decide)
  simp [separatingBlanks, isSeparator, hcomma, or_assoc]

theorem Scan.step_separator {c : Char} (h : isSeparator c = true) (rest : List Char)
    (found : List (List Char)) : step ⟨c :: rest, found⟩ = ⟨rest, found⟩ :=
  if_pos h

theorem Scan.step_value {c : Char} (h : ¬ isSeparator c = true) (rest : List Char)
    (found : List (List Char)) : step ⟨c :: rest, found⟩ =
      ⟨(readValue c rest).2, found ++ [(readValue c rest).1]⟩ :=
  if_neg h

theorem Scan.iterate_step_of_ended {s : Scan} (h : s.left = []) (n : Nat) : step^[n] s = s := by
  have hstep : step s = s := by
    rw [step, h]
  exact Function.iterate_fixed hstep n

/-- At a blank that is no separator nothing is read, so that the loop stays where it is. -/
theorem Scan.left_step_of_blank {s : Scan} {c : Char} (h : s.LooksAt c)
    (hblank : isBlank c = true) : s.step.left = s.left := by
  obtain ⟨rest, hleft⟩ : ∃ rest, s.left = c :: rest := List.head?_eq_some_iff.1 h.1
  have hbare : isBare c = false := by simp [isBare, hblank]
  have hquote : isQuote c = false := by
    rw [Bool.eq_false_iff]
    intro hopens
    rw [isBare_of_isQuote hopens] at hbare
    cases hbare
  simp only [step, hleft, h.2, readValue, hquote, Bool.false_and, Bool.false_eq_true, if_false,
    List.dropWhile_cons, hbare]

/-- At a blank that separates nothing, no round ever moves on. -/
theorem Scan.left_iterate_step_of_blank {s : Scan} {c : Char} (h : s.LooksAt c)
    (hblank : isBlank c = true) (n : Nat) : (step^[n] s).left = s.left := by
  induction n with
  | zero => rfl
  | succ n ih =>
    have hlooks : (step^[n] s).LooksAt c := by
      rw [LooksAt, ih]
      exact h
    rw [Function.iterate_succ_apply', left_step_of_blank hlooks hblank, ih]

/-- Where the values of a line can be read, the loop ends with them. -/
theorem Scan.exists_ended {line : List Char} {tokens : List (List Char)}
    (h : values? line = some tokens) (found : List (List Char)) :
    ∃ n, step^[n] ⟨line, found⟩ = ⟨[], found ++ tokens⟩ := by
  fun_induction values? line generalizing tokens found with
  | case1 =>
    cases h
    refine ⟨0, ?_⟩
    rw [List.append_nil, Function.iterate_zero, id_eq]
  | case2 c rest hseparator ih =>
    obtain ⟨n, hn⟩ := ih h found
    refine ⟨n + 1, ?_⟩
    rw [Function.iterate_succ_apply, step_separator hseparator, hn]
  | case3 c rest hseparator _ ih =>
    obtain ⟨more, hmore, rfl⟩ := Option.map_eq_some_iff.1 h
    obtain ⟨n, hn⟩ := ih hmore (found ++ [(readValue c rest).1])
    refine ⟨n + 1, ?_⟩
    rw [Function.iterate_succ_apply, step_value hseparator, hn, List.append_assoc,
      List.singleton_append]
  | case4 => cases h

/-- Where they cannot be read, the loop comes to a blank that is no separator. -/
theorem Scan.exists_looksAt_blank {line : List Char} (h : values? line = none)
    (found : List (List Char)) :
    ∃ n c, (step^[n] ⟨line, found⟩).LooksAt c ∧ isBlank c = true := by
  fun_induction values? line generalizing found with
  | case1 => cases h
  | case2 c rest hseparator ih =>
    obtain ⟨n, d, hn⟩ := ih h found
    refine ⟨n + 1, d, ?_⟩
    rwa [Function.iterate_succ_apply, step_separator hseparator]
  | case3 c rest hseparator _ ih =>
    obtain ⟨n, d, hn⟩ := ih (Option.map_eq_none_iff.1 h) (found ++ [(readValue c rest).1])
    refine ⟨n + 1, d, ?_⟩
    rwa [Function.iterate_succ_apply, step_value hseparator]
  | case4 c rest hseparator hbare =>
    have hblank : isBlank c = true := by
      have hcomma : c ≠ ',' := by
        rintro rfl
        exact hseparator rfl
      simpa [isBare, hcomma] using hbare
    exact ⟨0, c, ⟨rfl, by simpa using hseparator⟩, hblank⟩

/-- A loop that has ended stays as it is. -/
theorem Scan.after_add_of_ended {line : List Char} {n : Nat} (h : (after n line).left = [])
    (m : Nat) : after (m + n) line = after n line := by
  rw [after, Function.iterate_add_apply]
  exact iterate_step_of_ended h m

/-- A loop that comes to a blank that is no separator does not end, neither before nor after. -/
theorem Scan.not_ended_of_blank {line : List Char} {n : Nat} {c : Char}
    (h : (after n line).LooksAt c) (hblank : isBlank c = true) (m : Nat) :
    (after m line).left ≠ [] := by
  intro hended
  have hleft : (after (m + n) line).left = (after n line).left := by
    rw [after, Function.iterate_add_apply]
    exact left_iterate_step_of_blank h hblank m
  have hhead := h.1
  rw [← hleft, Nat.add_comm, after_add_of_ended hended, hended] at hhead
  cases hhead

/-- The rounds end exactly when every blank they meet separates. -/
theorem Scan.ends_iff (line : List Char) :
    (∃ n, (after n line).left = []) ↔
      ∀ n c, (after n line).LooksAt c → isBlank c = true → c ∈ separatingBlanks := by
  constructor
  · rintro ⟨m, hended⟩ n c hlooks hblank
    exact absurd hended (not_ended_of_blank hlooks hblank m)
  · intro h
    cases hvalues : values? line with
    | some tokens =>
      obtain ⟨n, hn⟩ := exists_ended hvalues []
      exact ⟨n, congrArg Scan.left hn⟩
    | none =>
      obtain ⟨n, c, hlooks, hblank⟩ := exists_looksAt_blank hvalues []
      have hseparator := (mem_separatingBlanks_iff hblank).1 (h n c hlooks hblank)
      exact absurd hseparator (by simp [hlooks.2])

/-- The values of a line are those that the loop has found when it ends. -/
theorem Scan.values?_eq_some_iff_ended {line : List Char} {tokens : List (List Char)} :
    values? line = some tokens ↔ ∃ n, after n line = ⟨[], tokens⟩ := by
  constructor
  · intro h
    exact exists_ended h []
  · rintro ⟨n, hn⟩
    have hended : (after n line).left = [] := congrArg Scan.left hn
    cases hvalues : values? line with
    | none =>
      obtain ⟨m, c, hlooks, hblank⟩ := exists_looksAt_blank hvalues []
      exact absurd hended (not_ended_of_blank hlooks hblank n)
    | some others =>
      obtain ⟨m, hm⟩ := exists_ended hvalues []
      have hended' : (after m line).left = [] := congrArg Scan.left hm
      have hlast : after n line = after m line := by
        rw [← after_add_of_ended hended m, Nat.add_comm, after_add_of_ended hended' n]
      have hfound : others = tokens := congrArg Scan.found (hm.symm.trans (hlast.symm.trans hn))
      rw [hfound]

theorem map_toList_eq_iff {texts : List (List Char)} {tokens : List String} :
    tokens.map String.toList = texts ↔ tokens = texts.map String.ofList := by
  constructor
  · rintro rfl
    simp
  · rintro rfl
    simp

/-- What follows the leftmost marker of a documentation is read by a loop that ends unless it comes
to a blank that is no separator. Its end gives the examples, and nothing of the line is lost. -/
theorem examples_of_hasMarker {documentation : String} (h : HasMarker false documentation.toList) :
    ∃ before rest after, documentation.toList = before ++ rest ∧
      LeftmostMarker false before rest ∧ Marks rest after ∧
      ((∃ n, (Scan.after n (lineAfter after)).left = []) ↔
        ∀ n c, (Scan.after n (lineAfter after)).LooksAt c → isBlank c = true →
          c ∈ separatingBlanks) ∧
      ∀ tokens,
        (tokens? documentation = some tokens ↔
          ∃ n, Scan.after n (lineAfter after) = ⟨[], tokens.map String.toList⟩) ∧
        (tokens? documentation = some tokens ↔
          ∃ lead pieces, lineAfter after = lead ++ layOut pieces ∧
            (∀ c ∈ lead, isSeparator c = true) ∧ FitTogether pieces ∧
            tokens = pieces.map fun piece ↦ String.ofList piece.1.token) := by
  obtain ⟨before, rest, hcs, hleftmost⟩ := h.exists_leftmost
  obtain ⟨after, hmarks⟩ := hleftmost.marks
  have htokens (tokens : List String) : tokens? documentation = some tokens ↔
      values? (lineAfter after) = some (tokens.map String.toList) := by
    rw [hleftmost.tokens?_eq hcs hmarks, Option.map_eq_some_iff]
    constructor
    · rintro ⟨texts, htexts, hmap⟩
      rw [htexts, map_toList_eq_iff.2 hmap.symm]
    · intro hvalues
      exact ⟨_, hvalues, (map_toList_eq_iff.1 rfl).symm⟩
  refine ⟨before, rest, after, hcs, hleftmost, hmarks, Scan.ends_iff (lineAfter after), ?_⟩
  intro tokens
  constructor
  · rw [htokens, Scan.values?_eq_some_iff_ended]
  · rw [htokens, values?_eq_some_iff]
    simp only [map_toList_eq_iff, List.map_map, Function.comp_def]

theorem examples_of_hasMarker_unclosed :
    HasMarker false "a text, eg: 'a b',7 \"x".toList ∧
    ∃ before rest after, "a text, eg: 'a b',7 \"x".toList = before ++ rest ∧
      LeftmostMarker false before rest ∧ Marks rest after ∧
      (∃ n, Scan.after n (lineAfter after) =
        ⟨[], ["\"a b\"".toList, "7".toList, "\"x".toList]⟩) := by
  have hmarker : HasMarker false "a text, eg: 'a b',7 \"x".toList :=
    ⟨"a text, ".toList, "eg: 'a b',7 \"x".toList, " 'a b',7 \"x".toList, by decide, by decide,
      .colon ⟨Or.inl rfl, Or.inl rfl⟩⟩
  have htokens : tokens? "a text, eg: 'a b',7 \"x" = some ["\"a b\"", "7", "\"x"] := by
    decide +kernel
  obtain ⟨before, rest, after, hcs, hleftmost, hmarks, _, h⟩ := examples_of_hasMarker hmarker
  exact ⟨hmarker, before, rest, after, hcs, hleftmost, hmarks, (h _).1.1 htokens⟩

/-- A blank that is no separator, where the loop stays. -/
example : tokens? "eg: 7\u00a08" = none := by decide +kernel

/-! ## Lists behind a marker -/

theorem exists_marks_append {cs rest : List Char} (hlength : 4 ≤ cs.length)
    (h : ∃ after, Marks (cs ++ rest) after) (other : List Char) :
    ∃ after, Marks (cs ++ other) after := by
  obtain ⟨a, b, c, d, cs, rfl⟩ : ∃ a b c d cs', cs = a :: b :: c :: d :: cs' := by
    rcases cs with _ | ⟨a, _ | ⟨b, _ | ⟨c, _ | ⟨d, cs⟩⟩⟩⟩
    case cons.cons.cons.cons => exact ⟨a, b, c, d, cs, rfl⟩
    all_goals simp at hlength
  obtain ⟨after, hmarks⟩ := h
  cases hmarks with
  | colon hword => exact ⟨_, .colon hword⟩
  | pointColon hword => exact ⟨_, .pointColon hword⟩
  | blank hword hblank => exact ⟨_, .blank hword hblank⟩
  | pointBlank hword hblank => exact ⟨_, .pointBlank hword hblank⟩

/-- What follows a marker with a colon has no bearing on whether it is the leftmost one. -/
theorem LeftmostMarker.of_colon {inWord : Bool} {before : List Char} {e g : Char}
    {after : List Char} (h : LeftmostMarker inWord before (e :: g :: ':' :: after))
    (other : List Char) : LeftmostMarker inWord before (e :: g :: ':' :: other) where
  apart := h.apart
  marks := by
    obtain ⟨_, hmarks⟩ := h.marks
    cases hmarks with
    | colon hword => exact ⟨_, .colon hword⟩
    | blank hword hblank => exact ⟨_, .blank hword hblank⟩
  leftmost := by
    intro k hk hword hmark
    -- Four characters decide about a marker, and all four of them stand in front of `other`.
    have hlength : 4 ≤ (before.drop k ++ [e, g, ':']).length := by
      rw [List.length_append, List.length_drop]
      simp only [List.length_cons, List.length_nil]
      omega
    have hsplit (cs : List Char) : before.drop k ++ e :: g :: ':' :: cs =
        before.drop k ++ [e, g, ':'] ++ cs := by simp
    rw [hsplit] at hmark
    have hearlier := exists_marks_append hlength hmark after
    rw [← hsplit] at hearlier
    exact h.leftmost k hk hword hearlier

/-- A value that can be listed: a bare one does not start with a quote, and a quoted one stays on
one line. -/
def Value.Listable : Value → Prop
  | bare text => text ≠ [] ∧ (∀ c ∈ text, isBare c = true) ∧ ∀ c ∈ text.head?, isQuote c = false
  | quoted quote content => isQuote quote = true ∧ quote ∉ content ∧ '\n' ∉ content

theorem Value.Listable.standsBefore {v : Value} (h : v.Listable) {after : List Char}
    (hafter : ∀ c ∈ after.head?, isBare c = false) : v.StandsBefore after := by
  cases v with
  | bare text =>
    obtain ⟨hne, hbare, hhead⟩ := h
    refine ⟨hne, hbare, hafter, ?_⟩
    rintro quote more rfl hquote
    exact absurd hquote (by simp [hhead quote rfl])
  | quoted quote content => exact ⟨h.1, h.2.1⟩

theorem Value.Listable.newline_not_mem {v : Value} (h : v.Listable) : '\n' ∉ v.spelled := by
  have hnewline : ¬ isBare '\n' = true := by decide
  cases v with
  | bare text => exact fun hmem ↦ hnewline (h.2.1 '\n' hmem)
  | quoted quote content =>
    have hquote : '\n' ≠ quote := by
      rintro rfl
      exact hnewline (isBare_of_isQuote h.1)
    simp [Value.spelled, hquote, h.2.2]

/-- Values as a list of examples shows them. -/
def listing (values : List Value) : String :=
  ", ".intercalate (values.map fun v ↦ String.ofList v.spelled)

theorem toList_listing (first : Value) (others : List Value) :
    (listing (first :: others)).toList =
      first.spelled ++ others.flatMap fun v ↦ ',' :: ' ' :: v.spelled := by
  have hcomma : (", " : String).toList = [',', ' '] := by decide
  rw [listing, String.toList_intercalate, hcomma, List.map_map, List.map_cons,
    intercalate_cons_eq_flatMap, List.flatMap_map]
  simp

theorem newline_not_mem_listing {first : Value} {others : List Value}
    (h : ∀ v ∈ first :: others, v.Listable) : '\n' ∉ (listing (first :: others)).toList := by
  rw [toList_listing, List.mem_append, List.mem_flatMap]
  rintro (hfirst | ⟨v, hv, hmem⟩)
  · exact (h first List.mem_cons_self).newline_not_mem hfirst
  · simp only [List.mem_cons, Char.reduceEq, false_or] at hmem
    exact (h v (List.mem_cons_of_mem first hv)).newline_not_mem hmem

/-- A listing is read back as its values. -/
theorem values?_listing {first : Value} {others : List Value}
    (h : ∀ v ∈ first :: others, v.Listable) :
    values? (listing (first :: others)).toList = some ((first :: others).map Value.token) := by
  rw [toList_listing]
  induction others generalizing first with
  | nil =>
    have hstands : first.StandsBefore [] :=
      (h first List.mem_cons_self).standsBefore (by simp)
    rw [List.flatMap_nil, hstands.values?_eq, values?]
    rfl
  | cons second others ih =>
    have hcomma : ∀ c ∈ [',', ' '], isSeparator c = true := by simp [isSeparator]
    have hmore := ih fun v hv ↦ h v (List.mem_cons_of_mem first hv)
    rw [← values?_separators hcomma] at hmore
    have hstands : first.StandsBefore
        ([',', ' '] ++ (second.spelled ++ others.flatMap fun v ↦ ',' :: ' ' :: v.spelled)) := by
      apply (h first List.mem_cons_self).standsBefore
      rintro c ⟨⟩
      decide
    calc values? (first.spelled ++ (second :: others).flatMap fun v ↦ ',' :: ' ' :: v.spelled)
        = values? (first.spelled ++ ([',', ' '] ++ (second.spelled ++
            others.flatMap fun v ↦ ',' :: ' ' :: v.spelled))) := by rw [List.flatMap_cons]; rfl
      _ = some (first.token :: (second :: others).map Value.token) := by
          rw [hstands.values?_eq, hmore]
          rfl

theorem toList_marked (text below : String) : ("eg: " ++ text ++ "\n" ++ below).toList =
    'e' :: 'g' :: ':' :: ' ' :: (text.toList ++ '\n' :: below.toList) := by
  simp

theorem lineAfter_listing {first : Value} {others : List Value}
    (h : ∀ v ∈ first :: others, v.Listable) (rest : List Char) :
    lineAfter (' ' :: ((listing (first :: others)).toList ++ '\n' :: rest)) =
      (listing (first :: others)).toList := by
  have hline : ∀ c ∈ (listing (first :: others)).toList, (c != '\n') = true := by
    intro c hc
    rw [bne_iff_ne]
    rintro rfl
    exact newline_not_mem_listing h hc
  have hfirst : first.StandsBefore [] := (h first List.mem_cons_self).standsBefore (by simp)
  obtain ⟨c, text, hspelled, hbare, _⟩ := hfirst.readValue_eq
  rw [List.append_nil] at hspelled
  have hblank : isBlank c = false := by
    simp only [isBare, Bool.and_eq_true, Bool.not_eq_true'] at hbare
    exact hbare.1
  have htrim : trimLeft (' ' :: ((listing (first :: others)).toList ++ '\n' :: rest)) =
      (listing (first :: others)).toList ++ '\n' :: rest := by
    have hspace : isBlank ' ' = true := by decide
    rw [toList_listing, hspelled]
    simp only [trimLeft, List.dropWhile_cons, hspace, if_true, List.cons_append, hblank,
      Bool.false_eq_true, if_false]
  rw [lineAfter, htrim, List.takeWhile_append_of_pos hline]
  simp

/-- A list of values behind the leftmost marker is read back as it was written, whatever stands
below it. -/
theorem examples_listing {before below : String} {first : Value} {others : List Value}
    (hlistable : ∀ v ∈ first :: others, v.Listable)
    (hmarker : LeftmostMarker false before.toList
      ("eg: " ++ listing (first :: others) ++ "\n" ++ below).toList) (other : String) :
    tokens? (before ++ "eg: " ++ listing (first :: others) ++ "\n" ++ other) =
        some ((first :: others).map fun v ↦ String.ofList v.token) ∧
      first? (before ++ "eg: " ++ listing (first :: others) ++ "\n" ++ other) =
        some (some (String.ofList first.token)) := by
  rw [toList_marked] at hmarker
  have hdocumentation : (before ++ "eg: " ++ listing (first :: others) ++ "\n" ++ other).toList =
      before.toList ++ 'e' :: 'g' :: ':' :: ' ' ::
        ((listing (first :: others)).toList ++ '\n' :: other.toList) := by
    simp
  have htokens : tokens? (before ++ "eg: " ++ listing (first :: others) ++ "\n" ++ other) =
      some ((first :: others).map fun v ↦ String.ofList v.token) := by
    rw [(hmarker.of_colon _).tokens?_eq hdocumentation (.colon ⟨Or.inl rfl, Or.inl rfl⟩),
      lineAfter_listing hlistable, values?_listing hlistable, Option.map_some, List.map_map]
    rfl
  refine ⟨htokens, ?_⟩
  rw [first?, htokens]
  rfl

theorem examples_listing_quotes :
    tokens? "legs, eg: 'a, \"\\', 5', \"\"\n'eg: 7" =
        some ["\"a, \\\"\\\\\"", "5'", "\"\""] ∧
      first? "legs, eg: 'a, \"\\', 5', \"\"\n'eg: 7" = some (some "\"a, \\\"\\\\\"") := by
  have hlistable : ∀ v ∈ [.quoted '\'' ['a', ',', ' ', '"', '\\'], .bare ['5', '\''],
      .quoted '"' []], Value.Listable v := by
    simp [Value.Listable, isBare, isBlank, isQuote]
  have hmarker : LeftmostMarker false "legs, ".toList
      ("eg: " ++ listing [.quoted '\'' ['a', ',', ' ', '"', '\\'], .bare ['5', '\''],
        .quoted '"' []] ++ "\n" ++ "").toList := by decide +kernel
  exact examples_listing hlistable hmarker "'eg: 7"

end CallCompletion.Example
