import CallCompletion.Proofs.DocLines
import CallCompletion.Snippet.Example

/-!
# Prose after the documentation of parameters

The entries of a section end at the first line that is not indented, so that prose after a section
adds nothing to them. A field has no such end: the lines of a paragraph after it are added to it up
to the first one that starts with a colon, whatever blank lines stand between.
-/

namespace CallCompletion.Text

theorem countP_joinLines (lines : List (List Char)) :
    (joinLines lines).countP (!isBlank ·) = lines.flatten.countP (!isBlank ·) := by
  induction lines with
  | nil => rfl
  | cons line lines ih =>
    cases lines with
    | nil => simp [joinLines]
    | cons next lines =>
      have hblank : isBlank '\n' = true := by decide
      calc
        (joinLines (line :: next :: lines)).countP (!isBlank ·)
            = line.countP (!isBlank ·) + (joinLines (next :: lines)).countP (!isBlank ·) := by
          rw [joinLines_cons_of_ne_nil (List.cons_ne_nil next lines), List.countP_append,
            List.countP_cons_of_neg (by simp [hblank])]
        _ = line.countP (!isBlank ·) + (next :: lines).flatten.countP (!isBlank ·) := by rw [ih]
        _ = (line :: next :: lines).flatten.countP (!isBlank ·) := by
          rw [← List.countP_append, ← List.flatten_cons]

/-- A text is changed by lines that are added to it and are not blank. -/
theorem trim_joinLines_append_ne {lines added : List (List Char)} (hne : added ≠ [])
    (h : ∀ line ∈ added, isBlankLine line = false) :
    trim (joinLines (lines ++ added)) ≠ trim (joinLines lines) := by
  intro heq
  have hcount := congrArg (List.countP (!isBlank ·)) heq
  rw [countP_trim, countP_trim, countP_joinLines, countP_joinLines, List.flatten_append,
    List.countP_append] at hcount
  obtain ⟨line, rest, rfl⟩ := List.exists_cons_of_ne_nil hne
  have hline : 0 < line.countP (!isBlank ·) := by
    have hsome : ¬ ∀ c ∈ line, isBlank c = true := by
      rw [← List.all_eq_true, ← isBlankLine, h line List.mem_cons_self]
      exact Bool.false_ne_true
    rw [List.countP_pos_iff]
    simpa using hsome
  rw [List.flatten_cons, List.countP_append] at hcount
  omega

end CallCompletion.Text

namespace CallCompletion.Source

open CallCompletion.Text

/-! ## Blocks of documentation -/

/-- A heading and the lines of its section, none of which is a field. -/
structure IsSection (block : List (List Char)) : Prop where
  heading : block.head?.any (isHeading <| trim ·) = true
  no_field : ∀ line ∈ block, fieldParts? (trim line) = none

/-- A field and the lines that continue it, with blank lines among them. The documentation of the
field consists of the given texts. -/
structure IsField (name : String) (texts : List (List Char)) (block : List (List Char)) : Prop where
  field : ∃ line first more, block = line :: more ∧ fieldParts? (trim line) = some (name, first) ∧
    texts = first :: (more.filter (!isBlankLine ·)).map trim
  continued : ∀ line ∈ block.tail, isBlankLine line = false →
    IsProse line ∧ (trim line).head? ≠ some ':'

/-- A paragraph of prose that is not indented. -/
def IsParagraph (lines : List (List Char)) : Prop :=
  ∀ line ∈ lines, IsProse line ∧ indentOf line = 0

instance (lines : List (List Char)) : Decidable (IsParagraph lines) := List.decidableBAll _ _

/-- The lines of a paragraph before the first one that starts with a colon. -/
def taken (paragraph : List (List Char)) : List (List Char) :=
  (paragraph.map trim).takeWhile (·.head? != some ':')

theorem taken_eq_nil_iff {paragraph : List (List Char)} :
    taken paragraph = [] ↔ ∀ line ∈ paragraph.head?, (trim line).head? = some ':' := by
  cases paragraph with
  | nil => simp [taken]
  | cons line paragraph => simp [taken, List.takeWhile_cons]

/-- Lines the first of which, apart from blank ones, is not indented or else is a field or a
heading. -/
def StartsAnew (lines : List (List Char)) : Prop :=
  ∀ line ∈ (lines.filter (!isBlankLine ·)).head?,
    indentOf line = 0 ∨ fieldParts? (trim line) ≠ none ∨ isHeading (trim line) = true

instance (lines : List (List Char)) : Decidable (StartsAnew lines) :=
  inferInstanceAs (Decidable (∀ line ∈ (lines.filter (!isBlankLine ·)).head?,
    indentOf line = 0 ∨ fieldParts? (trim line) ≠ none ∨ isHeading (trim line) = true))

namespace DocReader

/-! ## Prose after a section -/

/-- A paragraph cannot continue a parameter: a section is open, which the paragraph ends, or there
is no current parameter. -/
def Settled (r : DocReader) : Prop := r.inSection = true ∨ r.current = none

variable {r : DocReader} {line : List Char} {lines : List (List Char)}

theorem settled_close (r : DocReader) : r.close.Settled := .inr rfl

theorem Settled.continueWith (h : r.Settled) (text : List Char) :
    (r.continueWith text).Settled := by
  unfold DocReader.continueWith
  split
  · next name hcurrent =>
    split
    · exact .inr rfl
    · exact h
  · exact .inr rfl

/-- After a line without a field, a paragraph still cannot continue a parameter. -/
theorem Settled.step (h : r.Settled) (hfield : fieldParts? (trim line) = none) :
    (r.step line).Settled := by
  cases hheading : isHeading (trim line) with
  | true =>
    rw [step_of_heading hheading]
    exact .inl rfl
  | false =>
    cases hblank : isBlankLine line with
    | true =>
      rw [step_of_isBlankLine hblank]
      exact h
    | false =>
      rcases step_cases ⟨hblank, hfield, hheading⟩ r with
        hstep | ⟨-, -, hstep⟩ | ⟨hsection, -, name, first, -, hstep⟩
      · rw [hstep]
        exact h.continueWith _
      · rw [hstep]
        exact settled_close r
      · rw [hstep]
        exact .inl hsection

/-- After lines without a field, a paragraph still cannot continue a parameter. -/
theorem Settled.read (h : r.Settled) (hlines : ∀ line ∈ lines, fieldParts? (trim line) = none) :
    (r.read lines).Settled := by
  induction lines generalizing r with
  | nil => exact h
  | cons line lines ih =>
    obtain ⟨hline, hlines⟩ := List.forall_mem_cons.1 hlines
    exact ih (h.step hline) hlines

theorem settled_read_section (r : DocReader) (h : IsSection lines) : (r.read lines).Settled := by
  cases lines with
  | nil => cases h.heading
  | cons heading lines =>
    have hsettled : (r.step heading).Settled := by
      rw [step_of_heading h.heading]
      exact .inl rfl
    exact hsettled.read fun line hline ↦ h.no_field line (List.mem_cons_of_mem heading hline)

theorem Settled.step_of_paragraph (h : r.Settled) (hprose : IsProse line)
    (hindent : indentOf line = 0) : r.step line = r.close := by
  cases hsection : r.inSection with
  | true =>
    apply step_of_shallow hprose hsection
    rw [hindent]
    exact Nat.zero_le _
  | false =>
    have hcurrent : r.current = none := h.resolve_left (by simp [hsection])
    rw [step_of_outside hprose hsection, continueWith_of_none hcurrent, close, ← hsection,
      ← hcurrent]

/-- A paragraph after a section ends it and changes nothing else. -/
theorem Settled.read_paragraph (h : r.Settled) (hlines : IsParagraph lines) (hne : lines ≠ []) :
    r.read lines = r.close := by
  induction lines generalizing r with
  | nil => exact absurd rfl hne
  | cons line lines ih =>
    obtain ⟨⟨hprose, hindent⟩, hlines⟩ := List.forall_mem_cons.1 hlines
    rw [read_cons, h.step_of_paragraph hprose hindent]
    by_cases hlast : lines = []
    · rw [hlast, read_nil]
    · rw [ih (settled_close r) hlines hlast]
      rfl

/-- A section that a paragraph has ended is ended by whatever starts anew, too. -/
theorem Settled.docs_read_close (h : r.Settled) (hlines : StartsAnew lines) :
    (r.close.read lines).docs = (r.read lines).docs := by
  rw [← read_filter, ← read_filter r]
  cases hfilter : lines.filter (!isBlankLine ·) with
  | nil => rfl
  | cons line rest =>
    have hblank : isBlankLine line = false := by
      have hmem : line ∈ lines.filter (!isBlankLine ·) := by simp [hfilter]
      simpa using (List.mem_filter.1 hmem).2
    have hstarts := hlines line (by simp [hfilter])
    have hstep : r.close.step line = r.step line := by
      cases hfield : fieldParts? (trim line) with
      | some entry =>
        rw [step_of_field hfield, step_of_field hfield]
        rfl
      | none =>
        cases hheading : isHeading (trim line) with
        | true =>
          rw [step_of_heading hheading, step_of_heading hheading]
          rfl
        | false =>
          have hindent : indentOf line = 0 := by simpa [hfield, hheading] using hstarts
          have hprose : IsProse line := ⟨hblank, hfield, hheading⟩
          rw [h.step_of_paragraph hprose hindent,
            (settled_close r).step_of_paragraph hprose hindent]
          rfl
    rw [read_cons, read_cons, hstep]

/-! ## Prose after a field -/

/-- A reading that has just come from a field. -/
structure InField (r : DocReader) (name : String) (docs : Table (List (List Char)))
    (texts : List (List Char)) : Prop where
  current : r.current = some name
  outside : r.inSection = false
  docs_eq : r.docs = docs.insert name texts

variable {name : String} {texts : List (List Char)}

theorem inField_read (r : DocReader) (h : IsField name texts lines) :
    (r.read lines).InField name r.docs texts := by
  obtain ⟨line, first, more, rfl, hfield, rfl⟩ := h.field
  have hstep := step_of_field hfield r
  have hcontinued : ∀ l ∈ more.filter (!isBlankLine ·), (r.step line).ContinuedBy l := by
    intro l hl
    obtain ⟨hmem, hblank⟩ := List.mem_filter.1 hl
    obtain ⟨hprose, hunmarked⟩ := h.continued l hmem (by simpa using hblank)
    rw [hstep]
    exact ⟨hprose, hunmarked, nofun⟩
  rw [read_cons, ← read_filter,
    read_of_continuedBy (by rw [hstep]) (by rw [hstep]) hcontinued, hstep]
  exact ⟨rfl, rfl, rfl⟩

/-- The lines of a paragraph are added to a field up to the first one that starts with a colon. -/
theorem InField.docs_read_paragraph {docs : Table (List (List Char))}
    (h : r.InField name docs texts) (hlines : ∀ line ∈ lines, IsProse line) :
    (r.read lines).docs = docs.insert name (texts ++ taken lines) := by
  induction lines generalizing r texts with
  | nil =>
    rw [read_nil, h.docs_eq]
    exact congrArg _ (List.append_nil texts).symm
  | cons line lines ih =>
    obtain ⟨hprose, hrest⟩ := List.forall_mem_cons.1 hlines
    by_cases hmark : (trim line).head? = some ':'
    · have hstep : r.step line = { r with current := none } := by
        rw [step_of_outside hprose h.outside, continueWith_of_colon hmark]
      have hidle : (r.step line).read lines = r.step line := by
        apply read_of_idle
        · rw [hstep]
          exact h.outside
        · rw [hstep]
        · exact fun l hl ↦ ⟨(hrest l hl).no_field, (hrest l hl).no_heading⟩
      have htaken : taken (line :: lines) = [] := taken_eq_nil_iff.2 (by simpa using hmark)
      rw [read_cons, hidle, hstep, htaken, h.docs_eq, List.append_nil]
    · have hcontinued : r.ContinuedBy line := by
        refine ⟨hprose, hmark, fun hsection ↦ ?_⟩
        rw [h.outside] at hsection
        cases hsection
      have hstep : r.step line = { r with docs := docs.insert name (texts ++ [trim line]) } := by
        rw [step_of_continuedBy h.current hcontinued, h.docs_eq, Table.get?_insert, if_pos rfl,
          Option.getD_some, Table.insert_insert]
      have hnext : (r.step line).InField name docs (texts ++ [trim line]) := by
        rw [hstep]
        exact ⟨h.current, h.outside, rfl⟩
      have htaken : taken (line :: lines) = trim line :: taken lines := by
        simp [taken, hmark]
      rw [read_cons, ih hnext hrest, htaken, List.append_assoc, List.singleton_append]

theorem result_of_insert {before : DocReader} (h : r.docs = before.docs.insert name texts) :
    r.result = before.result.insert name (String.ofList (trim (joinLines texts))) := by
  rw [result, h]
  exact Table.map_insert (fun lines ↦ String.ofList (trim (joinLines lines))) before.docs name texts

end DocReader

/-! ## Documentation with and without a paragraph -/

variable {front block paragraph after : List (List Char)}

theorem parameterDocs_section_paragraph (hlines : AreLines (front ++ block ++ paragraph ++ after))
    (hblock : IsSection block) (hparagraph : IsParagraph paragraph) (hafter : StartsAnew after) :
    parameterDocs (shownLines (front ++ block ++ paragraph ++ after)) =
      parameterDocs (shownLines (front ++ block ++ after)) := by
  have hwithout : AreLines (front ++ block ++ after) := by
    apply hlines.of_subset
    rw [List.append_assoc (front ++ block)]
    exact List.append_subset.2 ⟨List.subset_append_left _ _,
      List.subset_append_of_subset_right _ (List.subset_append_right paragraph after)⟩
  rw [parameterDocs_shownLines hlines, parameterDocs_shownLines hwithout, DocReader.read_append,
    DocReader.read_append, DocReader.read_append _ (front ++ block), DocReader.read_append]
  have hsettled := DocReader.settled_read_section (DocReader.start.read front) hblock
  by_cases hne : paragraph = []
  · rw [hne, DocReader.read_nil]
  · rw [hsettled.read_paragraph hparagraph hne, DocReader.result, DocReader.result,
      hsettled.docs_read_close hafter]

/-- What the lines of a field document, alone and with a paragraph after them. -/
theorem parameterDocs_field_paragraph {name : String} {texts : List (List Char)}
    (hlines : AreLines (front ++ block ++ paragraph)) (hblock : IsField name texts block)
    (hparagraph : IsParagraph paragraph) :
    ∃ docs : Table String,
      parameterDocs (shownLines (front ++ block)) =
        docs.insert name (String.ofList (trim (joinLines texts))) ∧
      parameterDocs (shownLines (front ++ block ++ paragraph)) =
        docs.insert name (String.ofList (trim (joinLines (texts ++ taken paragraph)))) := by
  have hfield := DocReader.inField_read (DocReader.start.read front) hblock
  have hprose : ∀ line ∈ paragraph, IsProse line := fun line hline ↦ (hparagraph line hline).1
  refine ⟨(DocReader.start.read front).result, ?_, ?_⟩
  · rw [parameterDocs_shownLines (hlines.of_subset (List.subset_append_left _ paragraph)),
      DocReader.read_append, DocReader.result_of_insert hfield.docs_eq]
  · rw [parameterDocs_shownLines hlines, DocReader.read_append, DocReader.read_append,
      DocReader.result_of_insert (hfield.docs_read_paragraph hprose)]

theorem isBlankLine_of_mem_taken (hparagraph : IsParagraph paragraph) :
    ∀ line ∈ taken paragraph, isBlankLine line = false := by
  intro line hline
  obtain ⟨original, horiginal, rfl⟩ := List.mem_map.1 ((List.takeWhile_prefix _).subset hline)
  apply isBlankLine_of_trim_ne_nil
  rw [trim_trim, ne_eq, trim_eq_nil_iff, (hparagraph original horiginal).1.not_blank]
  exact Bool.false_ne_true

/-- A paragraph after a section changes nothing: the parameters are those of the documentation
without it, whatever stands before the section, and after the paragraph if it starts anew. A
paragraph after a field is added to the documentation of that parameter up to its first line that
starts with a colon, even if blank lines stand between, so that the parameters stay as they are only
if the paragraph starts with such a line. -/
theorem parameterDocs_prose (front paragraph : List (List Char)) (h : IsParagraph paragraph) :
    (∀ block after, AreLines (front ++ block ++ paragraph ++ after) → IsSection block →
      StartsAnew after →
      parameterDocs (shownLines (front ++ block ++ paragraph ++ after)) =
        parameterDocs (shownLines (front ++ block ++ after))) ∧
    ∀ block name texts, AreLines (front ++ block ++ paragraph) → IsField name texts block →
      (parameterDocs (shownLines (front ++ block))).get? name =
        some (String.ofList (trim (joinLines texts))) ∧
      parameterDocs (shownLines (front ++ block ++ paragraph)) =
        (parameterDocs (shownLines (front ++ block))).insert name
          (String.ofList (trim (joinLines (texts ++ taken paragraph)))) ∧
      (parameterDocs (shownLines (front ++ block ++ paragraph)) =
          parameterDocs (shownLines (front ++ block)) ↔
        ∀ line ∈ paragraph.head?, (trim line).head? = some ':') := by
  constructor
  · intro block after hlines hblock hafter
    exact parameterDocs_section_paragraph hlines hblock h hafter
  · intro block name texts hlines hblock
    obtain ⟨docs, halone, hwith⟩ := parameterDocs_field_paragraph hlines hblock h
    rw [halone, hwith, Table.get?_insert, if_pos rfl, Table.insert_insert]
    refine ⟨rfl, rfl, ?_⟩
    rw [← taken_eq_nil_iff]
    constructor
    · intro heq
      have hvalue := congrArg (Table.get? · name) heq
      simp only [Table.get?_insert, if_true, Option.some.injEq, String.ofList_inj] at hvalue
      by_contra hne
      exact trim_joinLines_append_ne hne (isBlankLine_of_mem_taken h) hvalue
    · intro hnone
      rw [hnone, List.append_nil]

/-- A section with one entry. -/
def speedSection : List (List Char) := ["Args:".toList, "    speed: how fast".toList, []]

/-- A field with a line that continues it. -/
def speedField : List (List Char) := [":param speed: how".toList, "  fast".toList, []]

/-- A paragraph with an example in it. -/
def slowParagraph : List (List Char) := ["Slows down for 0,".toList, "eg: 5 in rain.".toList]

theorem isField_speedField : IsField "speed" ["how".toList, "fast".toList] speedField where
  field := ⟨_, "how".toList, _, rfl, by decide +kernel, by decide +kernel⟩
  continued := by decide +kernel

theorem parameterDocs_prose_speed :
    parameterDocs (shownLines (["Moves.".toList] ++ speedSection ++ slowParagraph ++
        [[], "Returns:".toList, "    time: the time".toList])) = [("speed", "how fast")] ∧
      parameterDocs (shownLines (["Moves.".toList] ++ speedField)) = [("speed", "how\nfast")] ∧
      parameterDocs (shownLines (["Moves.".toList] ++ speedField ++ slowParagraph)) =
        [("speed", "how\nfast\nSlows down for 0,\neg: 5 in rain.")] := by
  obtain ⟨hsection, hfield⟩ :=
    parameterDocs_prose ["Moves.".toList] slowParagraph (by decide +kernel)
  have hsame := hsection speedSection [[], "Returns:".toList, "    time: the time".toList]
    (by decide +kernel) ⟨by decide +kernel, by decide +kernel⟩ (by decide +kernel)
  obtain ⟨-, hadded, -⟩ := hfield speedField "speed" _ (by decide +kernel) isField_speedField
  rw [hsame, hadded]
  decide +kernel

/-- A paragraph after a field becomes part of it, and an example in the paragraph becomes that of
the parameter. -/
theorem parameterDocs_paragraph_after_field :
    parameterDocs "Moves.\n\n:param speed: how fast\n\nSlows down, eg: 5" =
        [("speed", "how fast\nSlows down, eg: 5")] ∧
      parameterDocs "Moves.\n\n:param speed: how fast" = [("speed", "how fast")] ∧
      Example.first? "how fast\nSlows down, eg: 5" = some (some "5") ∧
      Example.first? "how fast" = some none := by
  decide +kernel

end CallCompletion.Source
