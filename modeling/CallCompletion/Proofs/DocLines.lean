import CallCompletion.Proofs.TableEntries
import CallCompletion.Source.Docstring

/-!
# Lines of documentation

The documentation of parameters is read line by line. What a line does depends on its indentation
and on its trimmed text: a field or a heading is known by its text alone, every other line that is
not blank either ends a section, starts an entry of one, or continues the current parameter. Blank
lines do nothing.
-/

namespace CallCompletion.Text

/-! ## Texts put together from lines -/

theorem splitLines_append_newline {line : List Char} (h : ∀ c ∈ line, isLineEnd c = false)
    (rest : List Char) : splitLines (line ++ '\n' :: rest) = line :: splitLines rest := by
  induction line with
  | nil => simp [splitLines, isLineEnd]
  | cons c line ih =>
    obtain ⟨hc, hline⟩ := List.forall_mem_cons.1 h
    have hreturn : c ≠ '\r' := by
      rintro rfl
      cases hc
    simp [splitLines, hreturn, hc, ih hline]

theorem splitLines_of_not_isLineEnd {line : List Char} (h : ∀ c ∈ line, isLineEnd c = false)
    (hne : line ≠ []) : splitLines line = [line] := by
  induction line with
  | nil => exact absurd rfl hne
  | cons c line ih =>
    obtain ⟨hc, hline⟩ := List.forall_mem_cons.1 h
    have hreturn : c ≠ '\r' := by
      rintro rfl
      cases hc
    cases line with
    | nil => simp [splitLines, hc]
    | cons d line => simp [splitLines, hreturn, hc, ih hline (List.cons_ne_nil d line)]

/-- A text is split into the lines it was put together from, except that an empty last line is
lost. -/
theorem splitLines_joinLines {lines : List (List Char)}
    (h : ∀ line ∈ lines, ∀ c ∈ line, isLineEnd c = false) :
    splitLines (joinLines lines) = lines ∨ splitLines (joinLines lines) ++ [[]] = lines := by
  induction lines with
  | nil => exact .inl rfl
  | cons line lines ih =>
    obtain ⟨hline, hlines⟩ := List.forall_mem_cons.1 h
    cases lines with
    | nil =>
      cases line with
      | nil => exact .inr rfl
      | cons c line =>
        exact .inl (splitLines_of_not_isLineEnd hline (List.cons_ne_nil c line))
    | cons next lines =>
      rw [joinLines_cons_of_ne_nil (List.cons_ne_nil next lines), splitLines_append_newline hline]
      rcases ih hlines with heq | heq
      · exact .inl (congrArg (line :: ·) heq)
      · exact .inr (congrArg (line :: ·) heq)

end CallCompletion.Text

namespace CallCompletion.Source

open CallCompletion.Text

/-- The documentation that consists of lines. -/
def shownLines (lines : List (List Char)) : String := String.ofList (joinLines lines)

/-- No line holds a character that ends lines. -/
def AreLines (lines : List (List Char)) : Prop := ∀ line ∈ lines, ∀ c ∈ line, isLineEnd c = false

instance (lines : List (List Char)) : Decidable (AreLines lines) :=
  decidable_of_iff (lines.all (·.all (!isLineEnd ·)) = true) (by simp [AreLines])

theorem AreLines.of_subset {lines more : List (List Char)} (h : AreLines more)
    (hsubset : lines ⊆ more) : AreLines lines :=
  fun line hline ↦ h line (hsubset hline)

/-- A line that is neither blank nor a field nor a heading. -/
structure IsProse (line : List Char) : Prop where
  not_blank : isBlankLine line = false
  no_field : fieldParts? (trim line) = none
  no_heading : isHeading (trim line) = false

instance (line : List Char) : Decidable (IsProse line) :=
  decidable_of_iff (isBlankLine line = false ∧ Option.isNone (fieldParts? (trim line)) = true ∧
      isHeading (trim line) = false)
    ⟨fun h ↦ ⟨h.1, Option.isNone_iff_eq_none.1 h.2.1, h.2.2⟩,
      fun h ↦ ⟨h.not_blank, Option.isNone_iff_eq_none.2 h.no_field, h.no_heading⟩⟩

theorem IsProse.isEmpty_trim {line : List Char} (h : IsProse line) :
    (trim line).isEmpty = false := by
  rw [← Bool.not_eq_true, List.isEmpty_iff, trim_eq_nil_iff, h.not_blank]
  exact Bool.false_ne_true

theorem fieldParts?_of_head? {text : List Char} (h : text.head? ≠ some ':') :
    fieldParts? text = none := by
  unfold fieldParts?
  split
  · exact absurd rfl h
  · rfl

/-- The headings of sections. -/
def headings : List (List Char) :=
  ["Args:".toList, "Arguments:".toList, "Parameters:".toList, "Params:".toList,
    "Attributes:".toList]

theorem isHeading_iff (text : List Char) : isHeading text = true ↔ text ∈ headings := by
  simp only [headings, isHeading, List.contains_iff_mem, List.mem_cons, List.not_mem_nil, or_false,
    ← String.toList_inj, String.toList_ofList]

theorem fieldParts?_of_isHeading {text : List Char} (h : isHeading text = true) :
    fieldParts? text = none := by
  apply fieldParts?_of_head?
  have hheads : ∀ t ∈ headings, t.head? ≠ some ':' := by decide
  exact hheads text ((isHeading_iff text).1 h)

/-- A heading is one word. -/
theorem isHeading_of_mem_space {text : List Char} (h : ' ' ∈ text) : isHeading text = false := by
  rw [← Bool.not_eq_true, isHeading_iff]
  have hwords : ∀ t ∈ headings, ' ' ∉ t := by decide
  exact fun hmem ↦ hwords text hmem h

theorem isBlankLine_of_trim_ne_nil {line : List Char} (h : trim line ≠ []) :
    isBlankLine line = false := by
  rw [← Bool.not_eq_true, ← trim_eq_nil_iff]
  exact h

namespace DocReader

/-! ## One line -/

theorem step_of_isBlankLine {line : List Char} (h : isBlankLine line = true) (r : DocReader) :
    r.step line = r := by
  rw [step, (trim_eq_nil_iff line).2 h]
  rfl

/-- A field starts the documentation of its parameter anew, and ends a section. -/
theorem step_of_field {line first : List Char} {name : String}
    (h : fieldParts? (trim line) = some (name, first)) (r : DocReader) :
    r.step line =
      { r with docs := r.docs.insert name [first], current := some name, inSection := false } := by
  simp only [step, h]

/-- A heading starts a section at its own indentation. -/
theorem step_of_heading {line : List Char} (h : isHeading (trim line) = true) (r : DocReader) :
    r.step line =
      { r with inSection := true, sectionIndent := indentOf line, current := none } := by
  simp only [step, fieldParts?_of_isHeading h, h, if_true]

theorem step_of_outside {r : DocReader} {line : List Char} (h : IsProse line)
    (hsection : r.inSection = false) : r.step line = r.continueWith (trim line) := by
  simp only [step, h.no_field, h.no_heading, h.isEmpty_trim, hsection, Bool.false_eq_true, if_false]

/-- The state in which no parameter is continued and no section is open. -/
def close (r : DocReader) : DocReader := { r with inSection := false, current := none }

/-- A section ends at a line that is not indented more than its heading. -/
theorem step_of_shallow {r : DocReader} {line : List Char} (h : IsProse line)
    (hsection : r.inSection = true) (hindent : indentOf line ≤ r.sectionIndent) :
    r.step line = r.close := by
  simp only [step, h.no_field, h.no_heading, h.isEmpty_trim, hsection, hindent, Bool.false_eq_true,
    if_false, if_true]
  rfl

/-- An entry of a section starts its documentation anew. -/
theorem step_of_entry {r : DocReader} {line first : List Char} {name : String} (h : IsProse line)
    (hsection : r.inSection = true) (hindent : r.sectionIndent < indentOf line)
    (hentry : listParts? (trim line) = some (name, first))
    (hnew : r.current = none ∨ indentOf line ≤ r.entryIndent) :
    r.step line =
      { r with
        docs := r.docs.insert name [first], current := some name,
        entryIndent := indentOf line } := by
  have hstarts : (r.current.isNone || decide (indentOf line ≤ r.entryIndent)) = true := by
    rcases hnew with hnone | hle
    · simp [hnone]
    · simp [hle]
  simp only [step, h.no_field, h.no_heading, h.isEmpty_trim, hsection, Nat.not_le.2 hindent, hentry,
    hstarts, Bool.false_eq_true, if_false, if_true]

/-- A line below an entry goes on with it. -/
theorem step_of_deeper {r : DocReader} {line : List Char} (h : IsProse line)
    (hindent : r.sectionIndent < indentOf line)
    (hold : listParts? (trim line) = none ∨ r.current ≠ none ∧ r.entryIndent < indentOf line) :
    r.step line = r.continueWith (trim line) := by
  cases hsection : r.inSection with
  | false => exact step_of_outside h hsection
  | true =>
    simp only [step, h.no_field, h.no_heading, h.isEmpty_trim, hsection, Nat.not_le.2 hindent,
      Bool.false_eq_true, if_false, if_true]
    rcases hold with hnone | ⟨hcurrent, hdeeper⟩
    · rw [hnone]
    · have hgoes : (r.current.isNone || decide (indentOf line ≤ r.entryIndent)) = false := by
        simp [Option.isSome_iff_ne_none, hcurrent, hdeeper]
      cases listParts? (trim line) with
      | none => rfl
      | some entry => simp only [hgoes, Bool.false_eq_true, if_false]

/-- What a line can do that is neither blank nor a field nor a heading. -/
theorem step_cases {line : List Char} (h : IsProse line) (r : DocReader) :
    r.step line = r.continueWith (trim line) ∨
      r.inSection = true ∧ indentOf line ≤ r.sectionIndent ∧ r.step line = r.close ∨
      r.inSection = true ∧ r.sectionIndent < indentOf line ∧
        ∃ name first, listParts? (trim line) = some (name, first) ∧
          r.step line =
            { r with
              docs := r.docs.insert name [first], current := some name,
              entryIndent := indentOf line } := by
  cases hsection : r.inSection with
  | false => exact .inl (step_of_outside h hsection)
  | true =>
    rcases Nat.lt_or_ge r.sectionIndent (indentOf line) with hdeep | hshallow
    · cases hentry : listParts? (trim line) with
      | none => exact .inl (step_of_deeper h hdeep (.inl hentry))
      | some entry =>
        by_cases hnew : r.current = none ∨ indentOf line ≤ r.entryIndent
        · refine .inr (.inr ⟨rfl, hdeep, entry.1, entry.2, rfl, ?_⟩)
          rw [step_of_entry h hsection hdeep hentry hnew, hsection]
        · rw [not_or, Nat.not_le] at hnew
          exact .inl (step_of_deeper h hdeep (.inr hnew))
    · exact .inr (.inl ⟨rfl, hshallow, step_of_shallow h hsection hshallow⟩)

theorem continueWith_of_none {r : DocReader} (h : r.current = none) (text : List Char) :
    r.continueWith text = r := by
  obtain ⟨docs, current, inSection, sectionIndent, entryIndent⟩ := r
  cases h
  rfl

theorem continueWith_of_colon {text : List Char} (h : text.head? = some ':') (r : DocReader) :
    r.continueWith text = { r with current := none } := by
  rw [continueWith]
  cases r.current with
  | none => rfl
  | some name => simp only [h, if_true]

/-! ## Many lines -/

/-- What is known after reading lines. -/
def read (r : DocReader) (lines : List (List Char)) : DocReader := lines.foldl step r

theorem read_nil (r : DocReader) : r.read [] = r := rfl

theorem read_cons (r : DocReader) (line : List Char) (lines : List (List Char)) :
    r.read (line :: lines) = (r.step line).read lines := rfl

theorem read_append (r : DocReader) (lines more : List (List Char)) :
    r.read (lines ++ more) = (r.read lines).read more := List.foldl_append

/-- Where no section is open and no parameter is current, nothing is found before a field or a
heading. -/
theorem read_of_idle {r : DocReader} {lines : List (List Char)} (hsection : r.inSection = false)
    (hcurrent : r.current = none)
    (h : ∀ line ∈ lines, fieldParts? (trim line) = none ∧ isHeading (trim line) = false) :
    r.read lines = r := by
  induction lines with
  | nil => rfl
  | cons line lines ih =>
    obtain ⟨hline, hlines⟩ := List.forall_mem_cons.1 h
    have hstep : r.step line = r := by
      cases hblank : isBlankLine line with
      | true => exact step_of_isBlankLine hblank r
      | false =>
        rw [step_of_outside ⟨hblank, hline.1, hline.2⟩ hsection, continueWith_of_none hcurrent]
    rw [read_cons, hstep, ih hlines]

/-- Blank lines between others change nothing. -/
theorem read_filter (r : DocReader) (lines : List (List Char)) :
    r.read (lines.filter (!isBlankLine ·)) = r.read lines := by
  induction lines generalizing r with
  | nil => rfl
  | cons line lines ih =>
    cases hblank : isBlankLine line with
    | true =>
      rw [List.filter_cons_of_neg (by simp [hblank]), read_cons, step_of_isBlankLine hblank, ih]
    | false =>
      rw [List.filter_cons_of_pos (by simp [hblank]), read_cons, read_cons, ih]

/-- The documentation that a reading has found. -/
def result (r : DocReader) : Table String :=
  r.docs.map fun e ↦ (e.1, String.ofList (trim (joinLines e.2)))

end DocReader

/-- The documentation of parameters is what is found by reading the lines. -/
theorem parameterDocs_shownLines {lines : List (List Char)} (h : AreLines lines) :
    parameterDocs (shownLines lines) = (DocReader.start.read lines).result := by
  have hdocs : parameterDocs (shownLines lines) =
      (DocReader.start.read (splitLines (joinLines lines))).result := by
    rw [parameterDocs, shownLines, String.toList_ofList]
    rfl
  rw [hdocs]
  rcases splitLines_joinLines h with heq | heq
  · rw [heq]
  · -- The last line is empty, and so it does nothing.
    nth_rewrite 2 [← heq]
    rw [DocReader.read_append, DocReader.read_cons, DocReader.step_of_isBlankLine rfl,
      DocReader.read_nil]

namespace DocReader

/-! ## Lines that continue a parameter -/

/-- A line that goes on with the current parameter: it is no field of another kind, and in a section
it stands deeper than the entry it belongs to. -/
structure ContinuedBy (r : DocReader) (line : List Char) : Prop where
  isProse : IsProse line
  unmarked : (trim line).head? ≠ some ':'
  deeper : r.inSection = true → r.sectionIndent < indentOf line ∧ r.entryIndent < indentOf line

/-- A line that continues an entry is added to its documentation. -/
theorem step_of_continuedBy {r : DocReader} {line : List Char} {name : String}
    (hcurrent : r.current = some name) (h : r.ContinuedBy line) :
    r.step line =
      { r with docs := r.docs.insert name ((r.docs.get? name).getD [] ++ [trim line]) } := by
  have hcontinue : r.continueWith (trim line) =
      { r with docs := r.docs.insert name ((r.docs.get? name).getD [] ++ [trim line]) } := by
    simp only [continueWith, hcurrent, h.unmarked, if_false]
  rw [← hcontinue]
  cases hsection : r.inSection with
  | false => exact step_of_outside h.isProse hsection
  | true =>
    obtain ⟨hdeep, hdeeper⟩ := h.deeper hsection
    exact step_of_deeper h.isProse hdeep (.inr ⟨by simp [hcurrent], hdeeper⟩)

/-- Lines that continue a parameter are added to it, one after the other. -/
theorem read_of_continuedBy {r : DocReader} {name : String} {docs : Table (List (List Char))}
    {known : List (List Char)} {lines : List (List Char)} (hcurrent : r.current = some name)
    (hdocs : r.docs = docs.insert name known) (h : ∀ line ∈ lines, r.ContinuedBy line) :
    r.read lines = { r with docs := docs.insert name (known ++ lines.map trim) } := by
  induction lines generalizing r known with
  | nil =>
    rw [read_nil, List.map_nil, List.append_nil, ← hdocs]
  | cons line lines ih =>
    obtain ⟨hline, hlines⟩ := List.forall_mem_cons.1 h
    have hstep : r.step line = { r with docs := docs.insert name (known ++ [trim line]) } := by
      rw [step_of_continuedBy hcurrent hline, hdocs, Table.get?_insert, if_pos rfl,
        Option.getD_some, Table.insert_insert]
    -- What makes a line continue a parameter is not changed by other such lines.
    have hmore : ∀ other ∈ lines, (r.step line).ContinuedBy other := by
      intro other hother
      rw [hstep]
      exact ⟨(hlines other hother).isProse, (hlines other hother).unmarked,
        (hlines other hother).deeper⟩
    rw [read_cons, ih (by rw [hstep]; exact hcurrent) (by rw [hstep]) hmore, hstep,
      List.append_assoc, List.map_cons, List.singleton_append]

end DocReader

end CallCompletion.Source
