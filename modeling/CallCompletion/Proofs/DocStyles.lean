import CallCompletion.Proofs.DocLines
import CallCompletion.Text.Identifier

/-!
# Two styles of documentation

Parameters are documented by fields, or by entries of a section. A parameter whose name consists of
word characters is read alike from both: it is documented by the first line and by the lines that
continue it, even if they look like entries themselves. A name with another character, such as a
combining mark or the middle dot, is not recognised in either style, although identifiers may hold
it.
-/

namespace CallCompletion.Source

open CallCompletion.Text

/-- Lines that are trimmed and not empty make up such a text. -/
theorem trim_joinLines {lines : List (List Char)}
    (h : ∀ line ∈ lines, trim line = line ∧ line ≠ []) :
    trim (joinLines lines) = joinLines lines ∧ (lines ≠ [] → joinLines lines ≠ []) := by
  induction lines with
  | nil => exact ⟨rfl, fun hne ↦ absurd rfl hne⟩
  | cons line lines ih =>
    obtain ⟨⟨htrimmed, hne⟩, hlines⟩ := List.forall_mem_cons.1 h
    obtain ⟨hrest, hrestne⟩ := ih hlines
    cases lines with
    | nil => exact ⟨htrimmed, fun _ ↦ hne⟩
    | cons next lines =>
      have hnext : joinLines (next :: lines) ≠ [] := hrestne (List.cons_ne_nil next lines)
      rw [joinLines_cons_of_ne_nil (List.cons_ne_nil next lines), ← List.singleton_append,
        ← List.append_assoc]
      exact ⟨trim_append_append htrimmed hrest hne hnext ['\n'], fun _ ↦ by simp⟩

/-! ## Parameters and how they are listed -/

/-- A parameter with its documentation. -/
structure DocumentedParameter where
  name : String
  /-- The text that describes the type. -/
  type : Option (List Char)
  first : List Char
  /-- The lines that continue the first one. -/
  more : List (List Char)
  isIdentifier_name : isIdentifier name.toList = true
  type_unmarked : ∀ text ∈ type, ':' ∉ text ∧ ')' ∉ text
  first_trimmed : trim first = first
  first_ne_nil : first ≠ []
  more_trimmed : ∀ line ∈ more, trim line = line
  more_ne_nil : ∀ line ∈ more, line ≠ []
  more_unmarked : ∀ line ∈ more, line.head? ≠ some ':'
  more_no_heading : ∀ line ∈ more, isHeading line = false

namespace DocumentedParameter

/-- What stands before the name in a field: the type, if there is one. -/
def beforeName (p : DocumentedParameter) : List Char := ' ' :: (p.type.map (· ++ [' '])).getD []

/-- The parameter as a field, such as `:param type name: first`. -/
def fieldText (p : DocumentedParameter) : List Char :=
  [':', 'p', 'a', 'r', 'a', 'm'] ++ (p.beforeName ++ p.name.toList ++ ':' :: ' ' :: p.first)

/-- What stands after the name in an entry: the type, if there is one, and the first line. -/
def afterName (p : DocumentedParameter) : List Char :=
  (p.type.map ([' ', '('] ++ · ++ [')'])).getD [] ++ ':' :: ' ' :: p.first

/-- The parameter as an entry of a section, such as `name (type): first`. -/
def entryText (p : DocumentedParameter) : List Char := p.name.toList ++ p.afterName

/-- The documentation of the parameter. -/
def documentation (p : DocumentedParameter) : String :=
  String.ofList (joinLines (p.first :: p.more))

/-- Whether the name consists of word characters. -/
def hasWordName (p : DocumentedParameter) : Bool := p.name.toList.all isWordChar

end DocumentedParameter

/-- The documentation of parameters. -/
def documented (parameters : List DocumentedParameter) : Table String :=
  parameters.map fun p ↦ (p.name, p.documentation)

/-- Lines that list parameters as fields, at any indentation; blank lines may stand between them. -/
def ListsFields (parameters : List DocumentedParameter) (lines : List (List Char)) : Prop :=
  (lines.filter (!isBlankLine ·)).map trim = parameters.flatMap fun p ↦ p.fieldText :: p.more

instance (parameters : List DocumentedParameter) (lines : List (List Char)) :
    Decidable (ListsFields parameters lines) :=
  inferInstanceAs (Decidable (_ = _))

/-- Lines that list parameters as entries of a section: each entry is indented, not deeper than the
one before it, and the lines that continue it are indented deeper. -/
inductive ListsEntries : Nat → List DocumentedParameter → List (List Char) → Prop
  | nil {bound : Nat} : ListsEntries bound [] []
  | cons {bound : Nat} {p : DocumentedParameter} {parameters : List DocumentedParameter}
      {line : List Char} {more rest : List (List Char)} (htext : trim line = p.entryText)
      (hindented : 0 < indentOf line) (hbound : indentOf line ≤ bound)
      (hmore : more.map trim = p.more)
      (hdeeper : ∀ l ∈ more, indentOf line < indentOf l)
      (hrest : ListsEntries (indentOf line) parameters rest) :
      ListsEntries bound (p :: parameters) (line :: more ++ rest)

/-- Lines that list parameters in a section; blank lines may stand between them. -/
def ListsSection (parameters : List DocumentedParameter) (lines : List (List Char)) : Prop :=
  ∃ heading entries bound, lines.filter (!isBlankLine ·) = heading :: entries ∧
    isHeading (trim heading) = true ∧ indentOf heading = 0 ∧ ListsEntries bound parameters entries

/-! ## Reading one entry -/

namespace DocumentedParameter

variable (p : DocumentedParameter)

theorem space_mem_fieldText : ' ' ∈ p.fieldText := by
  simp [fieldText]

theorem space_mem_entryText : ' ' ∈ p.entryText := by
  simp [entryText, afterName]

theorem colon_not_mem_name : ':' ∉ p.name.toList :=
  not_mem_of_isIdentifier p.isIdentifier_name (by decide +kernel) (by decide +kernel)

theorem name_ne_nil : p.name.toList ≠ [] := by
  intro hnil
  have hname := p.isIdentifier_name
  rw [hnil] at hname
  cases hname

theorem isEmpty_name : p.name.toList.isEmpty = false := by
  rw [← Bool.not_eq_true, List.isEmpty_iff]
  exact p.name_ne_nil

theorem isBlank_of_mem_name {c : Char} (h : c ∈ p.name.toList) : isBlank c = false :=
  isBlank_of_mem_identifier p.isIdentifier_name h

theorem trimLeft_space_first : trimLeft (' ' :: p.first) = p.first := by
  have hfirst := p.first_trimmed
  obtain ⟨c, rest, hcons⟩ := List.exists_cons_of_ne_nil p.first_ne_nil
  have hhead : (trim p.first).head? = some c := by
    rw [hfirst, hcons, List.head?_cons]
  have hblank : isBlank c = false := isBlank_of_head?_trim hhead
  rw [hcons, trimLeft, List.dropWhile_cons_of_pos (by decide),
    List.dropWhile_cons_of_neg (by simp [hblank])]

/-- The last word of a text that ends in a name. -/
theorem lastWord_append_name {before : List Char} (h : before.getLast?.all isBlank = true) :
    ((trimRight (before ++ p.name.toList)).reverse.takeWhile (!isBlank ·)).reverse =
      p.name.toList := by
  have hkept : trimRight (before ++ p.name.toList) = before ++ p.name.toList := by
    have hlast := List.dropLast_concat_getLast p.name_ne_nil
    have hblank := p.isBlank_of_mem_name (List.getLast_mem p.name_ne_nil)
    rw [← hlast, ← List.append_assoc, trimRight_append_cons hblank]
    rfl
  have hname : ∀ c ∈ p.name.toList.reverse, (!isBlank c) = true := by
    intro c hc
    rw [p.isBlank_of_mem_name (List.mem_reverse.1 hc), Bool.not_false]
  have hstop : before.reverse.takeWhile (!isBlank ·) = [] := by
    rw [← List.head?_reverse] at h
    cases hrev : before.reverse with
    | nil => rfl
    | cons c rest =>
      have hc : isBlank c = true := by simpa [hrev] using h
      simp [hc]
  rw [hkept, List.reverse_append, List.takeWhile_append_of_pos hname, hstop, List.append_nil,
    List.reverse_reverse]

theorem isBlank_getLast?_beforeName : p.beforeName.getLast?.all isBlank = true := by
  unfold beforeName
  cases p.type with
  | none => rfl
  | some text =>
    rw [Option.map_some, Option.getD_some, ← List.cons_append, List.getLast?_concat]
    rfl

theorem colon_not_mem_beforeName : ':' ∉ p.beforeName := by
  unfold beforeName
  cases htype : p.type with
  | none => simp
  | some text => simp [(p.type_unmarked text htype).1]

/-- A field is read if and only if its name consists of word characters. -/
theorem fieldParts?_fieldText :
    fieldParts? p.fieldText = if p.hasWordName then some (p.name, p.first) else none := by
  have hhead : ∀ c ∈ p.beforeName ++ p.name.toList, (c != ':') = true := by
    intro c hc
    apply bne_iff_ne.2
    intro heq
    rw [heq, List.mem_append] at hc
    exact hc.elim p.colon_not_mem_beforeName p.colon_not_mem_name
  have hspace : (p.beforeName ++ p.name.toList).head?.any isBlank = true := rfl
  unfold fieldParts? hasWordName fieldText
  simp only [List.cons_append, List.nil_append, List.takeWhile_append_of_pos hhead,
    List.dropWhile_append_of_pos hhead,
    List.takeWhile_cons_of_neg (p := (· != ':')) (a := ':') (by simp),
    List.dropWhile_cons_of_neg (p := (· != ':')) (a := ':') (by simp), List.append_nil,
    p.lastWord_append_name p.isBlank_getLast?_beforeName, hspace, p.isEmpty_name,
    String.ofList_toList, p.trimLeft_space_first, Bool.true_and, Bool.not_false]

theorem stars_entryText :
    p.entryText.takeWhile (· == '*') = [] ∧ p.entryText.dropWhile (· == '*') = p.entryText := by
  obtain ⟨c, rest, hcons⟩ := List.exists_cons_of_ne_nil p.name_ne_nil
  have hstar : c ≠ '*' := by
    intro heq
    have hmem : '*' ∈ p.name.toList := by simp [hcons, heq]
    exact not_mem_of_isIdentifier p.isIdentifier_name (by decide +kernel) (by decide +kernel) hmem
  rw [entryText, hcons]
  simp [hstar]

theorem word_afterName :
    p.afterName.takeWhile isWordChar = [] ∧ p.afterName.dropWhile isWordChar = p.afterName := by
  have hspace : isWordChar ' ' = false := by decide +kernel
  have hcolon : isWordChar ':' = false := by decide +kernel
  unfold afterName
  cases p.type with
  | none => simp [hcolon]
  | some text => simp [hspace]

theorem afterType?_afterName :
    afterType? (trimLeft p.afterName) = some (':' :: ' ' :: p.first) := by
  unfold afterName
  cases htype : p.type with
  | none => simp [trimLeft, afterType?, isBlank]
  | some text =>
    have hinside : ∀ c ∈ text, (c != ')') = true := by
      intro c hc
      apply bne_iff_ne.2
      intro heq
      exact (p.type_unmarked text htype).2 (heq ▸ hc)
    simp [trimLeft, isBlank, afterType?, List.dropWhile_append_of_pos hinside]

/-- An entry is read if its name consists of word characters. -/
theorem listParts?_entryText (h : p.hasWordName = true) :
    listParts? p.entryText = some (p.name, p.first) := by
  have hword : ∀ c ∈ p.name.toList, isWordChar c = true := List.all_eq_true.1 h
  have hname : p.entryText.takeWhile isWordChar = p.name.toList := by
    rw [entryText, List.takeWhile_append_of_pos hword, p.word_afterName.1, List.append_nil]
  have hafter : p.entryText.dropWhile isWordChar = p.afterName := by
    rw [entryText, List.dropWhile_append_of_pos hword, p.word_afterName.2]
  have htrim : trimLeft (':' :: ' ' :: p.first) = ':' :: ' ' :: p.first :=
    List.dropWhile_cons_of_neg (by decide)
  unfold listParts?
  simp only [p.stars_entryText, hname, hafter, p.isEmpty_name, p.afterType?_afterName, htrim,
    Option.bind_some, p.trimLeft_space_first, String.ofList_toList]
  simp

theorem isProse_of_more {line : List Char} (h : trim line ∈ p.more) : IsProse line where
  not_blank := isBlankLine_of_trim_ne_nil (p.more_ne_nil _ h)
  no_field := fieldParts?_of_head? (p.more_unmarked _ h)
  no_heading := p.more_no_heading _ h

theorem isProse_of_entryText {line : List Char} (h : trim line = p.entryText) : IsProse line where
  not_blank := by
    apply isBlankLine_of_trim_ne_nil
    rw [h]
    exact List.ne_nil_of_mem p.space_mem_entryText
  no_field := by
    apply fieldParts?_of_head?
    obtain ⟨c, rest, hcons⟩ := List.exists_cons_of_ne_nil p.name_ne_nil
    rw [h, entryText, hcons, List.cons_append, List.head?_cons]
    intro heq
    cases heq
    exact p.colon_not_mem_name (by simp [hcons])
  no_heading := by
    rw [h]
    exact isHeading_of_mem_space p.space_mem_entryText

theorem isProse_of_fieldText {line : List Char} (h : trim line = p.fieldText)
    (hname : p.hasWordName = false) : IsProse line where
  not_blank := by
    apply isBlankLine_of_trim_ne_nil
    rw [h]
    exact List.cons_ne_nil _ _
  no_field := by
    rw [h, p.fieldParts?_fieldText, hname]
    rfl
  no_heading := by
    rw [h]
    exact isHeading_of_mem_space p.space_mem_fieldText

/-- The lines that document the parameter. -/
def lines : List (List Char) := p.first :: p.more

theorem trim_joinLines_lines : trim (joinLines p.lines) = joinLines p.lines := by
  have hall : ∀ line ∈ p.lines, trim line = line ∧ line ≠ [] := by
    intro line hline
    rcases List.mem_cons.1 hline with rfl | hline
    · exact ⟨p.first_trimmed, p.first_ne_nil⟩
    · exact ⟨p.more_trimmed line hline, p.more_ne_nil line hline⟩
  exact (trim_joinLines hall).1

end DocumentedParameter

/-! ## Reading lists of parameters -/

/-- The lines of each of some parameters. -/
def documentedLines (parameters : List DocumentedParameter) : Table (List (List Char)) :=
  parameters.map fun p ↦ (p.name, p.lines)

/-- After one of some parameters with different names is entered, the others are still new. -/
theorem not_mem_names_insert {p : DocumentedParameter} {parameters : List DocumentedParameter}
    {docs : Table (List (List Char))} (hnodup : ((p :: parameters).map (·.name)).Nodup)
    (hfresh : ∀ q ∈ p :: parameters, q.name ∉ docs.names) (value : List (List Char)) :
    ∀ q ∈ parameters, q.name ∉ (docs.insert p.name value).names := by
  intro q hq
  obtain ⟨hp, hothers⟩ := List.forall_mem_cons.1 hfresh
  have hne : q.name ≠ p.name := by
    intro heq
    have hmem : q.name ∈ parameters.map (·.name) := List.mem_map_of_mem hq
    rw [heq] at hmem
    exact (List.nodup_cons.1 hnodup).1 hmem
  rw [Table.names_insert, if_neg hp, List.mem_append, List.mem_singleton, not_or]
  exact ⟨hothers q hq, hne⟩

namespace DocReader

variable {r : DocReader} {parameters : List DocumentedParameter} {lines : List (List Char)}

/-- One parameter listed as a field: its lines are entered if its name is recognised, and passed
over if not. -/
theorem read_field {p : DocumentedParameter} {line : List Char} (hsection : r.inSection = false)
    (hline : trim line = p.fieldText) (hlines : lines.map trim = p.more) :
    (r.read (line :: lines)).inSection = false ∧
      (r.read (line :: lines)).docs =
        if p.hasWordName then r.docs.insert p.name p.lines else r.docs := by
  have hprose : ∀ l ∈ lines, IsProse l := by
    intro l hl
    exact p.isProse_of_more (hlines ▸ List.mem_map_of_mem hl)
  cases hname : p.hasWordName with
  | true =>
    have hfield : fieldParts? (trim line) = some (p.name, p.first) := by
      rw [hline, p.fieldParts?_fieldText, hname]
      rfl
    have hstep := step_of_field hfield r
    have hcontinued : ∀ l ∈ lines, (r.step line).ContinuedBy l := by
      intro l hl
      rw [hstep]
      exact ⟨hprose l hl, p.more_unmarked _ (hlines ▸ List.mem_map_of_mem hl), nofun⟩
    rw [read_cons, read_of_continuedBy (by rw [hstep]) (by rw [hstep]) hcontinued, hstep, hlines]
    exact ⟨rfl, rfl⟩
  | false =>
    have hcolon : (trim line).head? = some ':' := by
      rw [hline]
      rfl
    have hstep : r.step line = { r with current := none } := by
      rw [step_of_outside (p.isProse_of_fieldText hline hname) hsection,
        continueWith_of_colon hcolon]
    have hidle : (r.step line).read lines = r.step line := by
      apply read_of_idle
      · rw [hstep]
        exact hsection
      · rw [hstep]
      · exact fun l hl ↦ ⟨(hprose l hl).no_field, (hprose l hl).no_heading⟩
    rw [read_cons, hidle, hstep]
    exact ⟨hsection, rfl⟩

/-- Of parameters listed as fields those are found whose names consist of word characters. -/
theorem docs_read_fields (hsection : r.inSection = false)
    (hlines : lines.map trim = parameters.flatMap fun p ↦ p.fieldText :: p.more)
    (hnodup : (parameters.map (·.name)).Nodup)
    (hfresh : ∀ p ∈ parameters, p.name ∉ r.docs.names) :
    (r.read lines).docs = r.docs ++ documentedLines (parameters.filter (·.hasWordName)) := by
  induction parameters generalizing r lines with
  | nil =>
    rw [List.map_eq_nil_iff.1 hlines, read_nil]
    exact (List.append_nil _).symm
  | cons p parameters ih =>
    rw [List.flatMap_cons, List.cons_append] at hlines
    obtain ⟨line, rest, rfl, hline, hrest⟩ := List.map_eq_cons_iff.1 hlines
    obtain ⟨more, others, rfl, hmore, hothers⟩ := List.map_eq_append_iff.1 hrest
    obtain ⟨hp, hfresh'⟩ := List.forall_mem_cons.1 hfresh
    obtain ⟨hclosed, hdocs⟩ := read_field hsection hline hmore
    rw [← List.cons_append, read_append]
    cases hname : p.hasWordName with
    | true =>
      rw [hname, if_pos rfl] at hdocs
      rw [ih hclosed hothers (List.nodup_cons.1 hnodup).2, hdocs, List.filter_cons_of_pos hname,
        Table.insert_of_not_mem _ hp, List.append_assoc]
      · rfl
      · rw [hdocs]
        exact not_mem_names_insert hnodup hfresh p.lines
    | false =>
      rw [hname, if_neg Bool.false_ne_true] at hdocs
      rw [ih hclosed hothers (List.nodup_cons.1 hnodup).2, hdocs,
        List.filter_cons_of_neg (by simp [hname])]
      rw [hdocs]
      exact hfresh'

/-- All parameters listed in a section are found if their names consist of word characters. -/
theorem docs_read_entries {bound : Nat} (h : ListsEntries bound parameters lines)
    (hsection : r.inSection = true) (hindent : r.sectionIndent = 0)
    (hcurrent : r.current = none ∨ bound ≤ r.entryIndent)
    (hnodup : (parameters.map (·.name)).Nodup)
    (hfresh : ∀ p ∈ parameters, p.name ∉ r.docs.names)
    (hwords : ∀ p ∈ parameters, p.hasWordName = true) :
    (r.read lines).docs = r.docs ++ documentedLines parameters := by
  induction h generalizing r with
  | nil => exact (List.append_nil _).symm
  | @cons bound p parameters line more rest htext hindented hbound hmore hdeeper _ ih =>
    obtain ⟨hword, hwords'⟩ := List.forall_mem_cons.1 hwords
    have hnew := not_mem_names_insert hnodup hfresh p.lines
    have hentry : listParts? (trim line) = some (p.name, p.first) := by
      rw [htext, p.listParts?_entryText hword]
    have hdeep : r.sectionIndent < indentOf line := by rwa [hindent]
    have hstarts : r.current = none ∨ indentOf line ≤ r.entryIndent :=
      hcurrent.imp_right (Nat.le_trans hbound)
    have hstep := step_of_entry (p.isProse_of_entryText htext) hsection hdeep hentry hstarts
    have hcontinued : ∀ l ∈ more, (r.step line).ContinuedBy l := by
      intro l hl
      have hmem : trim l ∈ p.more := hmore ▸ List.mem_map_of_mem hl
      rw [hstep]
      exact ⟨p.isProse_of_more hmem, p.more_unmarked _ hmem,
        fun _ ↦ ⟨Nat.lt_trans hdeep (hdeeper l hl), hdeeper l hl⟩⟩
    have hread : (r.step line).read more =
        { r with
          docs := r.docs.insert p.name p.lines, current := some p.name,
          entryIndent := indentOf line } := by
      rw [read_of_continuedBy (by rw [hstep]) (by rw [hstep]) hcontinued, hstep, hmore]
      rfl
    rw [read_append, read_cons, hread, ih]
    · rw [Table.insert_of_not_mem _ (hfresh p List.mem_cons_self), List.append_assoc]
      rfl
    · exact hsection
    · exact hindent
    · exact .inr (Nat.le_refl _)
    · exact (List.nodup_cons.1 hnodup).2
    · exact hnew
    · exact hwords'

/-! ## Names that are found -/

/-- The names known so far consist of word characters. -/
structure KnowsWords (r : DocReader) : Prop where
  names : ∀ name ∈ r.docs.names, name.toList.all isWordChar = true
  current : ∀ name ∈ r.current, name.toList.all isWordChar = true

theorem KnowsWords.enter (hr : r.KnowsWords) {name : String}
    (hname : name.toList.all isWordChar = true) (value : List (List Char)) :
    ∀ other ∈ (r.docs.insert name value).names, other.toList.all isWordChar = true := by
  intro other hother
  rw [Table.names_insert] at hother
  split at hother
  · exact hr.names other hother
  · rcases List.mem_append.1 hother with hother | hother
    · exact hr.names other hother
    · rw [List.mem_singleton.1 hother]
      exact hname

theorem isWord_of_fieldParts? {text first : List Char} {name : String}
    (h : fieldParts? text = some (name, first)) : name.toList.all isWordChar = true := by
  simp only [fieldParts?] at h
  split at h
  · split at h
    · cases h
    · split at h
      · next hword =>
        cases h
        rw [String.toList_ofList]
        exact (Bool.and_eq_true_iff.1 hword).2
      · cases h
  · cases h

theorem isWord_of_listParts? {text first : List Char} {name : String}
    (h : listParts? text = some (name, first)) : name.toList.all isWordChar = true := by
  simp only [listParts?] at h
  split at h
  · cases h
  · obtain ⟨after, -, hafter⟩ := Option.bind_eq_some_iff.1 h
    split at hafter
    · cases hafter
      rw [String.toList_ofList]
      exact List.all_takeWhile
    · cases hafter

theorem KnowsWords.continueWith (hr : r.KnowsWords) (text : List Char) :
    (r.continueWith text).KnowsWords := by
  unfold DocReader.continueWith
  split
  · next name hcurrent =>
    split
    · exact ⟨hr.names, nofun⟩
    · exact ⟨hr.enter (hr.current name hcurrent) _, hr.current⟩
  · exact ⟨hr.names, nofun⟩

theorem KnowsWords.step (hr : r.KnowsWords) (line : List Char) : (r.step line).KnowsWords := by
  cases hfield : fieldParts? (trim line) with
  | some entry =>
    have hname := isWord_of_fieldParts? hfield
    rw [step_of_field hfield]
    exact ⟨hr.enter hname _, fun name hmem ↦ Option.mem_some_iff.1 hmem ▸ hname⟩
  | none =>
    cases hheading : isHeading (trim line) with
    | true =>
      rw [step_of_heading hheading]
      exact ⟨hr.names, nofun⟩
    | false =>
      cases hblank : isBlankLine line with
      | true =>
        rw [step_of_isBlankLine hblank]
        exact hr
      | false =>
        rcases step_cases ⟨hblank, hfield, hheading⟩ r with
          hstep | ⟨-, -, hstep⟩ | ⟨-, -, name, first, hentry, hstep⟩
        · rw [hstep]
          exact hr.continueWith _
        · rw [hstep]
          exact ⟨hr.names, nofun⟩
        · have hname := isWord_of_listParts? hentry
          rw [hstep]
          exact ⟨hr.enter hname _, fun other hmem ↦ Option.mem_some_iff.1 hmem ▸ hname⟩

/-- Whatever is read, only words become names of parameters. -/
theorem KnowsWords.read (hr : r.KnowsWords) (lines : List (List Char)) :
    (r.read lines).KnowsWords := by
  induction lines generalizing r with
  | nil => exact hr
  | cons line lines ih => exact ih (hr.step line)

theorem knowsWords_start : start.KnowsWords := ⟨nofun, nofun⟩

theorem names_result : r.result.names = r.docs.names := by
  rw [result, Table.names, Table.names, List.map_map]
  rfl

theorem result_of_docs (h : r.docs = documentedLines parameters) :
    r.result = documented parameters := by
  rw [result, h, documentedLines, documented, List.map_map]
  apply List.map_congr_left
  intro p _
  exact congrArg (fun text ↦ (p.name, String.ofList text)) p.trim_joinLines_lines

end DocReader

/-! ## Both styles -/

/-- A documentation that is read back whole names its parameters by words. -/
theorem hasWordName_of_parameterDocs {lines : List (List Char)}
    {parameters : List DocumentedParameter}
    (hlines : AreLines lines) (h : parameterDocs (shownLines lines) = documented parameters) :
    ∀ p ∈ parameters, p.hasWordName = true := by
  intro p hp
  apply (DocReader.knowsWords_start.read lines).names
  rw [← DocReader.names_result, ← parameterDocs_shownLines hlines, h, Table.names, documented,
    List.map_map]
  exact List.mem_map_of_mem hp

variable {parameters : List DocumentedParameter} {summary lines : List (List Char)}

/-- Fields are read back for the parameters that are named by words. -/
theorem parameterDocs_fields (hlines : AreLines (summary ++ lines))
    (hsummary : ∀ line ∈ summary,
      fieldParts? (trim line) = none ∧ isHeading (trim line) = false)
    (hnodup : (parameters.map (·.name)).Nodup) (h : ListsFields parameters lines) :
    parameterDocs (shownLines (summary ++ lines)) =
      documented (parameters.filter (·.hasWordName)) := by
  rw [parameterDocs_shownLines hlines, DocReader.read_append, DocReader.read_of_idle rfl rfl hsummary,
    ← DocReader.read_filter]
  apply DocReader.result_of_docs
  rw [DocReader.docs_read_fields rfl h hnodup fun _ _ ↦ List.not_mem_nil]
  rfl

/-- A section is read back if its parameters are named by words. -/
theorem parameterDocs_section (hlines : AreLines (summary ++ lines))
    (hsummary : ∀ line ∈ summary,
      fieldParts? (trim line) = none ∧ isHeading (trim line) = false)
    (hnodup : (parameters.map (·.name)).Nodup) (h : ListsSection parameters lines)
    (hwords : ∀ p ∈ parameters, p.hasWordName = true) :
    parameterDocs (shownLines (summary ++ lines)) = documented parameters := by
  obtain ⟨heading, entries, bound, hfilter, hheading, hindent, hentries⟩ := h
  rw [parameterDocs_shownLines hlines, DocReader.read_append, DocReader.read_of_idle rfl rfl hsummary,
    ← DocReader.read_filter, hfilter, DocReader.read_cons, DocReader.step_of_heading hheading]
  apply DocReader.result_of_docs
  rw [DocReader.docs_read_entries hentries rfl hindent (.inl rfl) hnodup
    (fun _ _ ↦ List.not_mem_nil) hwords]
  rfl

/-- Fields and sections carry the same documentation. After any summary, parameters with different
names are found in either style, each with its first line and the lines that continue it, if and
only if their names consist of word characters; of the fields, those with such names are found in
any case. -/
theorem parameterDocs_styles (parameters : List DocumentedParameter)
    (hnodup : (parameters.map (·.name)).Nodup) (summary fields entries : List (List Char))
    (hlines : AreLines (summary ++ fields ++ entries))
    (hsummary : ∀ line ∈ summary,
      fieldParts? (trim line) = none ∧ isHeading (trim line) = false)
    (hfields : ListsFields parameters fields) (hentries : ListsSection parameters entries) :
    parameterDocs (shownLines (summary ++ fields)) =
        documented (parameters.filter (·.hasWordName)) ∧
      (parameterDocs (shownLines (summary ++ fields)) = documented parameters ↔
        ∀ p ∈ parameters, p.hasWordName = true) ∧
      (parameterDocs (shownLines (summary ++ entries)) = documented parameters ↔
        ∀ p ∈ parameters, p.hasWordName = true) := by
  have hfieldlines : AreLines (summary ++ fields) :=
    hlines.of_subset (List.subset_append_left _ entries)
  have hentrylines : AreLines (summary ++ entries) := by
    apply hlines.of_subset
    rw [List.append_assoc]
    exact List.append_subset.2 ⟨List.subset_append_left summary _,
      List.subset_append_of_subset_right summary (List.subset_append_right fields entries)⟩
  have hfound := parameterDocs_fields hfieldlines hsummary hnodup hfields
  refine ⟨hfound, ⟨hasWordName_of_parameterDocs hfieldlines, ?_⟩,
    ⟨hasWordName_of_parameterDocs hentrylines, ?_⟩⟩
  · intro hwords
    rw [hfound, List.filter_eq_self.2 hwords]
  · exact parameterDocs_section hentrylines hsummary hnodup hentries

/-- A parameter whose documentation goes on with lines that look like entries. -/
def speedParameter : DocumentedParameter where
  name := "speed"
  type := some "int or None".toList
  first := "how fast".toList
  more := ["note: in steps".toList, "eg: 5".toList]
  isIdentifier_name := by decide +kernel
  type_unmarked := by decide +kernel
  first_trimmed := by decide +kernel
  first_ne_nil := by decide +kernel
  more_trimmed := by decide +kernel
  more_ne_nil := by decide +kernel
  more_unmarked := by decide +kernel
  more_no_heading := by decide +kernel

/-- A parameter that is named like a heading. -/
def headingParameter : DocumentedParameter where
  name := "Args"
  type := none
  first := "the rest".toList
  more := []
  isIdentifier_name := by decide +kernel
  type_unmarked := by decide
  first_trimmed := by decide +kernel
  first_ne_nil := by decide +kernel
  more_trimmed := by decide
  more_ne_nil := by decide
  more_unmarked := by decide
  more_no_heading := by decide

/-- The two parameters as fields. -/
def speedFields : List (List Char) :=
  [[], ":param int or None speed: how fast".toList, "    note: in steps".toList, [],
   "  eg: 5".toList, ":param Args: the rest".toList]

/-- The two parameters as entries of a section. -/
def speedEntries : List (List Char) :=
  ["Args:".toList, "    speed (int or None): how fast".toList, [], "      note: in steps".toList,
   "        eg: 5".toList, "  Args: the rest".toList]

theorem listsSection_speedEntries :
    ListsSection [speedParameter, headingParameter] speedEntries := by
  refine ⟨"Args:".toList, speedEntries.tail.filter (!isBlankLine ·), 4, by decide +kernel,
    by decide +kernel, by decide +kernel, ?_⟩
  refine @ListsEntries.cons 4 speedParameter [headingParameter]
    "    speed (int or None): how fast".toList
    ["      note: in steps".toList, "        eg: 5".toList] ["  Args: the rest".toList]
    (by decide +kernel) (by decide +kernel) (by decide +kernel) (by decide +kernel)
    (by decide +kernel) ?_
  exact @ListsEntries.cons _ headingParameter [] "  Args: the rest".toList [] []
    (by decide +kernel) (by decide +kernel) (by decide +kernel) rfl (by decide) .nil

theorem parameterDocs_styles_speed :
    parameterDocs (shownLines (["Moves.".toList] ++ speedFields)) =
        [("speed", "how fast\nnote: in steps\neg: 5"), ("Args", "the rest")] ∧
      parameterDocs (shownLines (["Moves.".toList] ++ speedEntries)) =
        [("speed", "how fast\nnote: in steps\neg: 5"), ("Args", "the rest")] := by
  obtain ⟨-, hfields, hentries⟩ := parameterDocs_styles [speedParameter, headingParameter]
    (by decide +kernel) ["Moves.".toList] speedFields speedEntries (by decide +kernel)
    (by decide +kernel) (by decide +kernel) listsSection_speedEntries
  have hdocumented : documented [speedParameter, headingParameter] =
      [("speed", "how fast\nnote: in steps\neg: 5"), ("Args", "the rest")] := by
    decide +kernel
  rw [← hdocumented]
  exact ⟨hfields.2 (by decide +kernel), hentries.2 (by decide +kernel)⟩

/-- A name with the middle dot is an identifier. As a field its parameter is not found, and as an
entry it becomes a part of the one before it. -/
theorem parameterDocs_middleDot :
    isIdentifier "l·l".toList = true ∧
      parameterDocs ":param a: first\n:param l·l: second" = [("a", "first")] ∧
      parameterDocs "Args:\n    a: first\n    l·l: second" = [("a", "first\nl·l: second")] := by
  decide +kernel

end CallCompletion.Source
