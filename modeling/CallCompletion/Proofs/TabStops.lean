import CallCompletion.Snippet.Synthesis

/-!
# Tab stops and the text that a template inserts

A template is read from left to right as plain characters and tab stops. The text that it inserts
is shorter than the template as soon as it holds a tab stop or an escape, so that a text stands for
itself in a template exactly if it holds neither. A name in a placeholder is given back exactly if
closing braces stand only at its end and no backslash in it is taken along with what follows.
-/

namespace CallCompletion.Template

open CallCompletion.Text

/-! ## Pieces of a template -/

/-- A tab stop: its number as it is written, and its placeholder if a colon announces one. -/
structure Stop where
  number : List Char
  placeholder : Option (List Char)
  deriving DecidableEq, Repr

/-- A piece of a template. -/
inductive Piece where
  | plain (c : Char)
  | stop (s : Stop)
  deriving DecidableEq, Repr

/-- The text that a piece inserts. -/
def Piece.inserted : Piece → List Char
  | .plain c => [c]
  | .stop s => s.placeholder.getD []

/-- The number and the placeholder of a piece that has one. -/
def Piece.named? : Piece → Option (String × String)
  | .plain _ => none
  | .stop s => s.placeholder.map fun text ↦ (String.ofList s.number, String.ofList text)

/-- The stop that was read, given what follows its dollar sign and its placeholder. -/
def stopRead (cs text : List Char) : Stop :=
  match cs with
  | '{' :: body =>
    { number := body.takeWhile isDecimalDigit
      placeholder := if (body.dropWhile isDecimalDigit).head? = some ':' then some text else none }
  | _ => { number := cs.takeWhile isDecimalDigit, placeholder := none }

/-- The pieces of a template, from left to right. -/
def pieces (cs : List Char) : List Piece :=
  match cs with
  | [] => []
  | c :: rest =>
    if c = '$' then
      match _h : tabStop? rest with
      | some (text, after) => .stop (stopRead rest text) :: pieces after
      | none => .plain c :: pieces rest
    else .plain c :: pieces rest
termination_by cs.length
decreasing_by
  · have := length_tabStop?_le _h
    simp only [List.length_cons]
    omega
  · simp
  · simp

/-- The numbers and placeholders of the stops `${n:text}` of a template. -/
def namedStops (template : String) : List (String × String) :=
  (pieces template.toList).filterMap Piece.named?

theorem pieces_cons_of_ne {c : Char} (h : c ≠ '$') (rest : List Char) :
    pieces (c :: rest) = .plain c :: pieces rest := by
  rw [pieces, if_neg h]

theorem pieces_of_stop {rest text after : List Char} (h : tabStop? rest = some (text, after)) :
    pieces ('$' :: rest) = .stop (stopRead rest text) :: pieces after := by
  rw [pieces, if_pos rfl]
  split
  · next hstop =>
    rw [h] at hstop
    cases hstop
    rfl
  · next hnone =>
    rw [h] at hnone
    cases hnone

theorem pieces_of_none {rest : List Char} (h : tabStop? rest = none) :
    pieces ('$' :: rest) = .plain '$' :: pieces rest := by
  rw [pieces, if_pos rfl]
  split
  · next hstop =>
    rw [h] at hstop
    cases hstop
  · rfl

/-- Only a stop that a colon announces has a placeholder that is not empty. -/
theorem inserted_stopRead {rest text after : List Char} (h : tabStop? rest = some (text, after)) :
    (Piece.stop (stopRead rest text)).inserted = text := by
  unfold tabStop? at h
  split at h
  · next body =>
    split at h
    · cases h
    · split at h
      · next hcolon => simp [Piece.inserted, stopRead, hcolon]
      · next hbrace =>
        cases h
        simp [Piece.inserted, stopRead, hbrace]
      · cases h
  · next hbrace =>
    split at h
    · cases h
    · cases h
      simp [Piece.inserted, stopRead]

/-- A template is expanded piece by piece. -/
theorem expandStops_eq_flatMap (cs : List Char) :
    expandStops cs = (pieces cs).flatMap Piece.inserted := by
  fun_induction expandStops cs with
  | case1 => simp [pieces]
  | case2 rest text after hstop ih =>
    rw [pieces_of_stop hstop, List.flatMap_cons, inserted_stopRead hstop, ih]
  | case3 rest hnone ih =>
    rw [pieces_of_none hnone, List.flatMap_cons, ih]
    rfl
  | case4 c rest hc ih =>
    rw [pieces_cons_of_ne hc, List.flatMap_cons, ih]
    rfl

theorem pieces_append_of_not_mem {cs : List Char} (h : '$' ∉ cs) (rest : List Char) :
    pieces (cs ++ rest) = cs.map .plain ++ pieces rest := by
  induction cs with
  | nil => rfl
  | cons c cs ih =>
    have hc : c ≠ '$' := fun heq ↦ h (heq ▸ List.mem_cons_self)
    have hcs : '$' ∉ cs := fun hmem ↦ h (List.mem_cons_of_mem c hmem)
    rw [List.cons_append, pieces_cons_of_ne hc, ih hcs]
    rfl

theorem flatMap_inserted_plain (cs : List Char) :
    (cs.map Piece.plain).flatMap Piece.inserted = cs := by
  rw [List.flatMap_map]
  exact List.flatMap_singleton' cs

theorem expandStops_append_of_not_mem {cs : List Char} (h : '$' ∉ cs) (rest : List Char) :
    expandStops (cs ++ rest) = cs ++ expandStops rest := by
  rw [expandStops_eq_flatMap, pieces_append_of_not_mem h, List.flatMap_append,
    flatMap_inserted_plain, ← expandStops_eq_flatMap]

/-! ## Texts that stand for themselves -/

/-- A character that a backslash makes plain. -/
def isEscapable (c : Char) : Bool := c == '$' || c == '}' || c == '\\'

/-- No tab stop stands in a text. -/
def StopFree (cs : List Char) : Prop := ∀ rest, '$' :: rest <:+ cs → tabStop? rest = none

/-- No backslash of a text makes a character plain. -/
def EscapeFree (cs : List Char) : Prop :=
  ∀ c rest, '\\' :: c :: rest <:+ cs → isEscapable c = false

theorem StopFree.of_suffix {cs ds : List Char} (h : StopFree cs) (hsuffix : ds <:+ cs) :
    StopFree ds :=
  fun rest hrest ↦ h rest (hrest.trans hsuffix)

theorem EscapeFree.of_suffix {cs ds : List Char} (h : EscapeFree cs) (hsuffix : ds <:+ cs) :
    EscapeFree ds :=
  fun c rest hrest ↦ h c rest (hrest.trans hsuffix)

theorem EscapeFree.of_append_left {cs ds : List Char} (h : EscapeFree (cs ++ ds)) :
    EscapeFree cs := by
  rintro c rest ⟨before, rfl⟩
  apply h c (rest ++ ds)
  exact ⟨before, by simp⟩

/-- A placeholder and what follows it make up the text together with the brace between them. -/
theorem eq_of_placeholderText? {cs text rest : List Char}
    (h : placeholderText? cs = some (text, rest)) : cs = text ++ '}' :: rest := by
  fun_induction placeholderText? cs generalizing text rest with
  | case1 | case3 | case4 => cases h
  | case2 r =>
    cases h
    rfl
  | case5 c r _ ih | case6 c r _ _ _ ih =>
    obtain ⟨⟨t, r'⟩, hread, heq⟩ := Option.map_eq_some_iff.1 h
    cases heq
    rw [ih hread]
    rfl

/-- A tab stop is longer than the text it inserts. -/
theorem length_tabStop?_lt {cs text rest : List Char} (h : tabStop? cs = some (text, rest)) :
    text.length + rest.length < cs.length := by
  unfold tabStop? at h
  split at h
  · next body =>
    have hlength := (List.dropWhile_suffix isDecimalDigit (l := body)).length_le
    split at h
    · cases h
    · split at h
      · next t ht =>
        rw [ht, eq_of_placeholderText? h] at hlength
        simp only [List.length_cons, List.length_append] at hlength ⊢
        omega
      · next r hr =>
        cases h
        rw [hr] at hlength
        simp only [List.length_cons, List.length_nil] at hlength ⊢
        omega
      · cases h
  · split at h
    · cases h
    · next hdigits =>
      cases h
      have hsplit := congrArg List.length
        (List.takeWhile_append_dropWhile (p := isDecimalDigit) (l := cs))
      have hpos : 0 < (cs.takeWhile isDecimalDigit).length :=
        List.length_pos_iff.2 (by simpa using hdigits)
      simp only [List.length_append, List.length_nil] at hsplit ⊢
      omega

theorem length_expandStops_le (cs : List Char) : (expandStops cs).length ≤ cs.length := by
  fun_induction expandStops cs with
  | case1 => exact Nat.le_refl 0
  | case2 rest text after hstop ih =>
    have hlt := length_tabStop?_lt hstop
    simp only [List.length_append, List.length_cons]
    omega
  | case3 rest _ ih | case4 c rest _ ih => simpa using ih

/-- Expanding a tab stop takes away characters. -/
theorem stopFree_of_length_le {cs : List Char} (h : cs.length ≤ (expandStops cs).length) :
    StopFree cs := by
  fun_induction expandStops cs with
  | case1 =>
    intro rest hrest
    simp at hrest
  | case2 rest text after hstop ih =>
    have hlt := length_tabStop?_lt hstop
    have hle := length_expandStops_le after
    simp only [List.length_append, List.length_cons] at h
    omega
  | case3 rest hnone ih =>
    intro suffix hsuffix
    rcases List.suffix_cons_iff.1 hsuffix with hwhole | hrest
    · cases hwhole
      exact hnone
    · exact ih (by simpa using h) suffix hrest
  | case4 c rest hc ih =>
    intro suffix hsuffix
    rcases List.suffix_cons_iff.1 hsuffix with hwhole | hrest
    · cases hwhole
      exact absurd rfl hc
    · exact ih (by simpa using h) suffix hrest

/-- Without tab stops, nothing is expanded. -/
theorem expandStops_of_stopFree {cs : List Char} (h : StopFree cs) : expandStops cs = cs := by
  fun_induction expandStops cs with
  | case1 => rfl
  | case2 rest text after hstop ih =>
    have hnone := h rest (List.suffix_refl _)
    rw [hstop] at hnone
    cases hnone
  | case3 rest hnone ih | case4 c rest hc ih => rw [ih (h.of_suffix (List.suffix_cons _ _))]

theorem length_unescape_le (cs : List Char) : (unescape cs).length ≤ cs.length := by
  fun_induction unescape cs with
  | case1 | case2 => simp
  | case3 c rest _ ih =>
    simp only [List.length_cons]
    omega
  | case4 c rest _ ih | case5 c rest _ _ ih => simpa using ih

/-- Taking away an escape takes away its backslash. -/
theorem escapeFree_of_length_le {cs : List Char} (h : cs.length ≤ (unescape cs).length) :
    EscapeFree cs := by
  fun_induction unescape cs with
  | case1 | case2 =>
    intro c rest hrest
    have hlength := hrest.length_le
    simp at hlength
  | case3 c rest _ ih =>
    have hle := length_unescape_le rest
    simp only [List.length_cons] at h
    omega
  | case4 c rest hc ih =>
    intro d suffix hsuffix
    rcases List.suffix_cons_iff.1 hsuffix with hwhole | hrest
    · cases hwhole
      simpa [isEscapable] using hc
    · exact ih (by simpa using h) d suffix hrest
  | case5 c rest hbackslash hpair ih =>
    intro d suffix hsuffix
    rcases List.suffix_cons_iff.1 hsuffix with hwhole | hrest
    · cases hwhole
      exact (hpair d suffix rfl rfl).elim
    · exact ih (by simpa using h) d suffix hrest

/-- Without escapes, nothing is unescaped. -/
theorem unescape_of_escapeFree {cs : List Char} (h : EscapeFree cs) : unescape cs = cs := by
  fun_induction unescape cs with
  | case1 | case2 => rfl
  | case3 c rest hc ih =>
    have hplain := h c rest (List.suffix_refl _)
    simp_all [isEscapable]
  | case4 c rest _ ih | case5 c rest _ _ ih => rw [ih (h.of_suffix (List.suffix_cons _ _))]

/-- A text stands for itself in a template exactly if it holds no tab stop and no escape. -/
theorem plainText_eq_self_iff (cs : List Char) :
    plainText cs = cs ↔ StopFree cs ∧ EscapeFree cs := by
  constructor
  · intro h
    have hlength : cs.length ≤ (unescape (expandStops cs)).length :=
      Nat.le_of_eq (congrArg List.length h).symm
    have hstops : StopFree cs :=
      stopFree_of_length_le (Nat.le_trans hlength (length_unescape_le _))
    rw [expandStops_of_stopFree hstops] at hlength
    exact ⟨hstops, escapeFree_of_length_le hlength⟩
  · rintro ⟨hstops, hescapes⟩
    rw [plainText, expandStops_of_stopFree hstops, unescape_of_escapeFree hescapes]

/-! ## Placeholders -/

/-- The digits of a tab stop's number. -/
theorem isDecimalDigit_of_mem_number {n : Int} (hn : 0 ≤ n) {c : Char}
    (hc : c ∈ (toString n).toList) : isDecimalDigit c = true := by
  rw [Int.toString_eq_repr, Int.repr_eq_if, if_pos hn, Nat.toList_repr] at hc
  have hdigit : c.isDigit = true := Nat.isDigit_of_mem_toDigits (by decide) (by decide) hc
  simp [isDecimalDigit, digitValue?, hdigit]

theorem number_ne_nil {n : Int} (hn : 0 ≤ n) : (toString n).toList ≠ [] := by
  rw [Int.toString_eq_repr, Int.repr_eq_if, if_pos hn, Nat.toList_repr]
  exact Nat.toDigits_ne_nil

/-- How a placeholder of a number is written, up to its text. -/
def opening (n : Int) : List Char := '$' :: '{' :: (toString n).toList ++ [':']

theorem toList_placeholder (name : String) (n : Int) :
    (placeholder name n).toList = opening n ++ name.toList ++ ['}'] := by
  simp [placeholder, opening]

theorem takeWhile_number {n : Int} (hn : 0 ≤ n) (text : List Char) :
    ((toString n).toList ++ ':' :: text).takeWhile isDecimalDigit = (toString n).toList := by
  have hdigits : ∀ c ∈ (toString n).toList, isDecimalDigit c = true :=
    fun c hc ↦ isDecimalDigit_of_mem_number hn hc
  rw [List.takeWhile_append_of_pos hdigits, List.takeWhile_cons_of_neg (by decide),
    List.append_nil]

theorem dropWhile_number {n : Int} (hn : 0 ≤ n) (text : List Char) :
    ((toString n).toList ++ ':' :: text).dropWhile isDecimalDigit = ':' :: text := by
  have hdigits : ∀ c ∈ (toString n).toList, isDecimalDigit c = true :=
    fun c hc ↦ isDecimalDigit_of_mem_number hn hc
  rw [List.dropWhile_append_of_pos hdigits, List.dropWhile_cons_of_neg (by decide)]

theorem tabStop?_opening {n : Int} (hn : 0 ≤ n) (text : List Char) :
    tabStop? ('{' :: (toString n).toList ++ ':' :: text) = placeholderText? text := by
  simp only [List.cons_append, tabStop?, takeWhile_number hn, dropWhile_number hn,
    List.isEmpty_iff, number_ne_nil hn, if_false]

theorem opening_append (n : Int) (cs : List Char) :
    opening n ++ cs = '$' :: ('{' :: (toString n).toList ++ ':' :: cs) := by
  simp [opening]

theorem not_mem_opening {n : Int} (hn : 0 ≤ n) {c : Char} (hc : isDecimalDigit c = false)
    (hplain : c ∉ ['$', '{', ':']) : c ∉ opening n := by
  intro hmem
  simp only [opening, List.cons_append, List.mem_cons, List.mem_append, List.not_mem_nil,
    or_false] at hmem
  rcases hmem with rfl | rfl | hdigit | rfl
  · exact hplain (by simp)
  · exact hplain (by simp)
  · rw [isDecimalDigit_of_mem_number hn hdigit] at hc
    cases hc
  · exact hplain (by simp)

/-- A placeholder that is closed is read as one stop with its number. -/
theorem pieces_opening_of_some {n : Int} (hn : 0 ≤ n) {cs text rest : List Char}
    (h : placeholderText? cs = some (text, rest)) :
    pieces (opening n ++ cs) = .stop ⟨(toString n).toList, some text⟩ :: pieces rest := by
  have hstop : tabStop? ('{' :: (toString n).toList ++ ':' :: cs) = some (text, rest) := by
    rw [tabStop?_opening hn, h]
  have hread : stopRead ('{' :: (toString n).toList ++ ':' :: cs) text =
      ⟨(toString n).toList, some text⟩ := by
    simp only [List.cons_append, stopRead, takeWhile_number hn, dropWhile_number hn]
    rfl
  rw [opening_append, pieces_of_stop hstop, hread]

theorem expandStops_opening_of_some {n : Int} (hn : 0 ≤ n) {cs text rest : List Char}
    (h : placeholderText? cs = some (text, rest)) :
    expandStops (opening n ++ cs) = text ++ expandStops rest := by
  rw [expandStops_eq_flatMap, pieces_opening_of_some hn h, List.flatMap_cons,
    ← expandStops_eq_flatMap]
  rfl

theorem expandStops_opening_of_none {n : Int} (hn : 0 ≤ n) {cs : List Char}
    (h : placeholderText? cs = none) :
    expandStops (opening n ++ cs) = opening n ++ expandStops cs := by
  have hstop : tabStop? ('{' :: (toString n).toList ++ ':' :: cs) = none := by
    rw [tabStop?_opening hn, h]
  have hdollar : '$' ∉ '{' :: (toString n).toList ++ [':'] := by
    intro hmem
    have hdigit : '$' ∈ (toString n).toList := by simpa using hmem
    have := isDecimalDigit_of_mem_number hn hdigit
    revert this
    decide
  rw [opening_append, expandStops_eq_flatMap, pieces_of_none hstop, List.flatMap_cons,
    ← expandStops_eq_flatMap, List.append_cons, expandStops_append_of_not_mem hdollar]
  simp [opening, Piece.inserted]

/-! ## Names in placeholders -/

theorem placeholderText?_append_of_not_mem {cs : List Char} (hbrace : '}' ∉ cs)
    (hbackslash : '\\' ∉ cs) (rest : List Char) :
    placeholderText? (cs ++ rest) = (placeholderText? rest).map fun (t, r) ↦ (cs ++ t, r) := by
  induction cs with
  | nil => simp
  | cons c cs ih =>
    have hc : c ≠ '}' := fun heq ↦ hbrace (heq ▸ List.mem_cons_self)
    have hc' : c ≠ '\\' := fun heq ↦ hbackslash (heq ▸ List.mem_cons_self)
    rw [List.cons_append, placeholderText?, ih (fun h ↦ hbrace (List.mem_cons_of_mem c h))
      (fun h ↦ hbackslash (List.mem_cons_of_mem c h)), Option.map_map]
    · rfl
    · exact fun heq ↦ hc heq
    · exact fun heq ↦ absurd heq hc'
    · exact fun _ _ heq ↦ absurd heq hc'

theorem unescape_append_of_not_mem {cs : List Char} (h : '\\' ∉ cs) (rest : List Char) :
    unescape (cs ++ rest) = cs ++ unescape rest := by
  induction cs with
  | nil => rfl
  | cons c cs ih =>
    have hc : c ≠ '\\' := fun heq ↦ h (heq ▸ List.mem_cons_self)
    rw [List.cons_append, unescape, ih fun hmem ↦ h (List.mem_cons_of_mem c hmem)]
    · rfl
    · exact fun heq _ ↦ hc heq
    · exact fun _ _ heq ↦ absurd heq hc

theorem StopFree.of_not_mem {cs : List Char} (h : '$' ∉ cs) : StopFree cs :=
  fun _ hrest ↦ absurd (hrest.subset List.mem_cons_self) h

theorem EscapeFree.of_not_mem {cs : List Char} (h : '\\' ∉ cs) : EscapeFree cs :=
  fun _ _ hrest ↦ absurd (hrest.subset List.mem_cons_self) h

/-- A text that no brace closes, and in which every backslash is followed by a character on its line
that it does not make plain. -/
structure Settled (body : List Char) : Prop where
  unclosed : '}' ∉ body
  paired : ∀ rest, '\\' :: rest <:+ body →
    ∃ c, rest.head? = some c ∧ c ≠ '\n' ∧ isEscapable c = false

/-- A name that a placeholder gives back: a settled text, and closing braces at its end. -/
def KeepsName (name : List Char) : Prop :=
  ∃ body count, name = body ++ List.replicate count '}' ∧ Settled body

theorem Settled.of_suffix {body rest : List Char} (h : Settled body) (hsuffix : rest <:+ body) :
    Settled rest where
  unclosed := fun hmem ↦ h.unclosed (hsuffix.subset hmem)
  paired := fun more hmore ↦ h.paired more (hmore.trans hsuffix)

/-- A settled text is read up to the brace that closes it. -/
theorem placeholderText?_of_settled {body : List Char} (h : Settled body) (rest : List Char) :
    placeholderText? (body ++ '}' :: rest) = some (body, rest) := by
  induction body using placeholderText?.induct with
  | case1 => simp [placeholderText?]
  | case2 => exact absurd List.mem_cons_self h.unclosed
  | case3 =>
    obtain ⟨c, hc, -⟩ := h.paired [] (List.suffix_refl _)
    cases hc
  | case4 more =>
    obtain ⟨c, hc, hline, -⟩ := h.paired _ (List.suffix_refl _)
    cases hc
    exact absurd rfl hline
  | case5 c more hc ih =>
    have hmore : Settled more :=
      h.of_suffix ((List.suffix_cons c more).trans (List.suffix_cons _ _))
    simp [placeholderText?, hc, ih hmore]
  | case6 c more hbrace hlast hpair ih =>
    have hmore : Settled more := h.of_suffix (List.suffix_cons c more)
    have hbackslash : c ≠ '\\' := by
      intro heq
      cases more with
      | nil => exact hlast heq rfl
      | cons d more => exact hpair d more heq rfl
    rw [← List.singleton_append, List.append_assoc,
      placeholderText?_append_of_not_mem (by simpa using Ne.symm hbrace)
        (by simpa using Ne.symm hbackslash), ih hmore]
    rfl

theorem EscapeFree.cons {c : Char} {rest : List Char} (hrest : EscapeFree rest)
    (h : c = '\\' → ∀ d, rest.head? = some d → isEscapable d = false) :
    EscapeFree (c :: rest) := by
  intro d more hmore
  rcases List.suffix_cons_iff.1 hmore with hwhole | htail
  · cases hwhole
    exact h rfl d rfl
  · exact hrest d more htail

theorem Settled.escapeFree_append {body : List Char} (h : Settled body) (count : Nat) :
    EscapeFree (body ++ List.replicate count '}') := by
  induction body with
  | nil =>
    apply EscapeFree.of_not_mem
    intro hmem
    simpa using List.eq_of_mem_replicate hmem
  | cons c body ih =>
    apply (ih (h.of_suffix (List.suffix_cons c body))).cons
    rintro rfl d hd
    obtain ⟨e, he, -, hplain⟩ := h.paired body (List.suffix_refl _)
    have hhead : (body ++ List.replicate count '}').head? = some e := by
      rw [List.head?_append, he]
      rfl
    rw [hhead] at hd
    cases hd
    exact hplain

/-- A placeholder inserts the name that it keeps. -/
theorem KeepsName.plainText_eq {name : List Char} (h : KeepsName name) {n : Int} (hn : 0 ≤ n) :
    plainText (opening n ++ name ++ ['}']) = name := by
  obtain ⟨body, count, rfl, hbody⟩ := h
  have hshape : opening n ++ (body ++ List.replicate count '}') ++ ['}'] =
      opening n ++ (body ++ '}' :: List.replicate count '}') := by
    rw [← List.replicate_succ, List.replicate_succ', List.append_assoc, List.append_assoc]
  have hbraces : StopFree (List.replicate count '}') := by
    apply StopFree.of_not_mem
    intro hmem
    simpa using List.eq_of_mem_replicate hmem
  rw [plainText, hshape, expandStops_opening_of_some hn (placeholderText?_of_settled hbody _),
    expandStops_of_stopFree hbraces, unescape_of_escapeFree (hbody.escapeFree_append count)]

/-- A placeholder whose text holds no escape is settled. -/
theorem settled_of_placeholderText? {cs text rest : List Char}
    (h : placeholderText? cs = some (text, rest)) (hfree : EscapeFree text) : Settled text := by
  fun_induction placeholderText? cs generalizing text rest with
  | case1 | case3 | case4 => cases h
  | case2 r =>
    cases h
    exact ⟨List.not_mem_nil, fun rest hrest ↦ by simp at hrest⟩
  | case5 c r hc ih =>
    obtain ⟨⟨t, r'⟩, hread, heq⟩ := Option.map_eq_some_iff.1 h
    cases heq
    have hplain : isEscapable c = false := hfree c t (List.suffix_refl _)
    have htail : Settled t :=
      ih hread (hfree.of_suffix ((List.suffix_cons c t).trans (List.suffix_cons _ _)))
    have hbrace : c ≠ '}' := by
      rintro rfl
      cases hplain
    have hbackslash : c ≠ '\\' := by
      rintro rfl
      cases hplain
    refine ⟨by simp [Ne.symm hbrace, htail.unclosed], fun more hmore ↦ ?_⟩
    rcases List.suffix_cons_iff.1 hmore with hwhole | hmore
    · cases hwhole
      exact ⟨c, rfl, hc, hplain⟩
    · rcases List.suffix_cons_iff.1 hmore with hwhole | hmore
      · cases hwhole
        exact absurd rfl hbackslash
      · exact htail.paired more hmore
  | case6 c r hbrace hlast hpair ih =>
    obtain ⟨⟨t, r'⟩, hread, heq⟩ := Option.map_eq_some_iff.1 h
    cases heq
    have htail : Settled t := ih hread (hfree.of_suffix (List.suffix_cons c t))
    refine ⟨by simp [Ne.symm hbrace, htail.unclosed], fun more hmore ↦ ?_⟩
    rcases List.suffix_cons_iff.1 hmore with hwhole | hmore
    · cases hwhole
      -- What follows a backslash was read together with it.
      cases r with
      | nil => exact (hlast rfl rfl).elim
      | cons d r => exact (hpair d r rfl rfl).elim
    · exact htail.paired more hmore

/-- Only a run of one character is the same with that character at either end. -/
theorem eq_replicate_of_append_singleton {c : Char} {cs : List Char} (h : cs ++ [c] = c :: cs) :
    cs = List.replicate cs.length c := by
  induction cs with
  | nil => rfl
  | cons d cs ih =>
    obtain ⟨rfl, htail⟩ := List.cons.inj h
    rw [List.length_cons, List.replicate_succ, ← ih htail]

/-- A placeholder that is not closed is not read as one: the name would have to start with the
opening of the placeholder, and so would the rest of the name, and so on. -/
theorem plainText_ne_of_unclosed {n : Int} (hn : 0 ≤ n) {name : List Char}
    (h : placeholderText? (name ++ ['}']) = none) :
    plainText (opening n ++ name ++ ['}']) ≠ name := by
  intro hname
  have hbackslash : '\\' ∉ opening n := not_mem_opening hn (by decide) (by decide)
  have hbrace : '}' ∉ opening n := not_mem_opening hn (by decide) (by decide)
  have hopened : plainText (opening n ++ name ++ ['}']) =
      opening n ++ plainText (name ++ ['}']) := by
    rw [plainText, List.append_assoc, expandStops_opening_of_none hn h,
      unescape_append_of_not_mem hbackslash]
    rfl
  obtain ⟨inner, hinner⟩ : ∃ inner, name = opening n ++ inner :=
    ⟨_, hname.symm.trans hopened⟩
  have hunclosed : placeholderText? (inner ++ ['}']) = none := by
    rw [hinner, List.append_assoc, placeholderText?_append_of_not_mem hbrace hbackslash] at h
    simpa using h
  have hsame : plainText (opening n ++ inner ++ ['}']) = inner := by
    have hname' := hopened.symm.trans hname
    rw [hinner] at hname'
    exact List.append_cancel_left hname'
  exact plainText_ne_of_unclosed hn hunclosed hsame
termination_by name.length
decreasing_by
  rw [hinner]
  simp only [opening, List.length_append, List.length_cons]
  omega

/-- A placeholder gives back exactly the names with closing braces only at the end and with no
backslash that is taken along with what follows it. -/
theorem plainText_placeholder_eq_iff {n : Int} (hn : 0 ≤ n) (name : List Char) :
    plainText (opening n ++ name ++ ['}']) = name ↔ KeepsName name := by
  refine ⟨fun hname ↦ ?_, fun h ↦ h.plainText_eq hn⟩
  cases hread : placeholderText? (name ++ ['}']) with
  | none => exact absurd hname (plainText_ne_of_unclosed hn hread)
  | some read =>
    obtain ⟨text, rest⟩ := read
    have hspelled : name ++ ['}'] = text ++ '}' :: rest := eq_of_placeholderText? hread
    have hlength : name.length = text.length + rest.length := by
      have := congrArg List.length hspelled
      simp only [List.length_append, List.length_cons, List.length_nil] at this
      omega
    rw [plainText, List.append_assoc, expandStops_opening_of_some hn hread] at hname
    -- The inserted text is as long as the name only if nothing in it was expanded or unescaped.
    have hkept : name.length ≤ (text ++ expandStops rest).length := by
      have := length_unescape_le (text ++ expandStops rest)
      rw [hname] at this
      exact this
    have hstops : StopFree rest := by
      apply stopFree_of_length_le
      rw [List.length_append] at hkept
      omega
    rw [expandStops_of_stopFree hstops] at hname hkept
    have hescapes : EscapeFree (text ++ rest) := by
      apply escapeFree_of_length_le
      rw [hname, List.length_append]
      omega
    have hparts : text ++ rest = name := by
      rw [← hname, unescape_of_escapeFree hescapes]
    have hbraces : rest = List.replicate rest.length '}' := by
      apply eq_replicate_of_append_singleton
      rw [← hparts, List.append_assoc] at hspelled
      exact List.append_cancel_left hspelled
    exact ⟨text, rest.length, by rw [← hbraces, hparts],
      settled_of_placeholderText? hread hescapes.of_append_left⟩

/-! ## Texts and names on strings -/

theorem strip_eq_iff (template text : String) :
    strip template = text ↔ plainText template.toList = text.toList := by
  rw [strip, ← String.toList_inj, String.toList_ofList]

/-- A text inserts itself exactly when it holds neither tab stops nor escapes. -/
theorem strip_eq_self_iff (text : String) :
    strip text = text ↔ StopFree text.toList ∧ EscapeFree text.toList := by
  rw [strip_eq_iff, plainText_eq_self_iff]

theorem strip_placeholder_eq_iff (name : String) {n : Int} (hn : 0 ≤ n) :
    strip (placeholder name n) = name ↔ KeepsName name.toList := by
  rw [strip_eq_iff, toList_placeholder, plainText_placeholder_eq_iff hn]

end CallCompletion.Template

namespace CallCompletion

open Template

/-! ## Arguments -/

/-- An example is inserted as it stands exactly if it holds no tab stop and no escape. Without an
example and a literal, the name of the parameter is inserted exactly if a placeholder gives it
back. -/
theorem strip_synthesize_eq_iff (p : Parameter) (config : SnippetConfig) (n : Int) (hn : 1 ≤ n) :
    (∀ e, Example.first? p.documentation = some (some e) →
      ∃ argument, synthesize p config n = .ok argument ∧
        (strip argument = e ↔ StopFree e.toList ∧ EscapeFree e.toList)) ∧
    (Example.first? p.documentation = some none → typedDefault p config = .ok none →
      ∃ argument, synthesize p config n = .ok argument ∧
        (strip argument = p.name ↔ KeepsName p.name.toList)) := by
  constructor
  · intro e hexample
    refine ⟨e, ?_, strip_eq_self_iff e⟩
    rw [synthesize, hexample]
  · intro hexample hliteral
    have hstop : 0 ≤ (if config.numberedPlaceholders then n else 1) := by
      split <;> omega
    refine ⟨placeholder p.name (if config.numberedPlaceholders then n else 1), ?_,
      strip_placeholder_eq_iff p.name hstop⟩
    simp only [synthesize, hexample, hliteral]

/-- A parameter whose example holds a brace, a dollar sign and a backslash, none of them with a
meaning in a template. -/
def boundedParameter : Parameter := { name := "range", documentation := "eg: $\x7bx\\n\x7d, 1" }

/-- A parameter without a type whose name ends in a brace. -/
def bracedParameter : Parameter := { name := "$1\\n\x7d" }

theorem strip_synthesize_boundedParameter :
    (∃ argument, synthesize boundedParameter {} 2 = .ok argument ∧
      strip argument = "$\x7bx\\n\x7d") ∧
    ∃ argument, synthesize bracedParameter {} 2 = .ok argument ∧
      strip argument = "$1\\n\x7d" := by
  constructor
  · have hexample :
        Example.first? boundedParameter.documentation = some (some "$\x7bx\\n\x7d") := by
      decide +kernel
    obtain ⟨argument, hargument, hstrip⟩ :=
      (strip_synthesize_eq_iff boundedParameter {} 2 (by decide)).1 _ hexample
    refine ⟨argument, hargument, hstrip.2 ?_⟩
    rw [← strip_eq_self_iff]
    decide +kernel
  · have hexample : Example.first? bracedParameter.documentation = some none := by
      decide +kernel
    obtain ⟨argument, hargument, hstrip⟩ :=
      (strip_synthesize_eq_iff bracedParameter {} 2 (by decide)).2 hexample rfl
    refine ⟨argument, hargument, hstrip.2 ?_⟩
    rw [← strip_placeholder_eq_iff _ (n := 2) (by decide)]
    decide +kernel

/-- An example that looks like a tab stop is lost, a quoted one loses the backslashes of its
literal, and a name that holds a brace or ends in a backslash is inserted as another text. -/
theorem strip_synthesize_ne :
    (Example.first? "eg: $1" = some (some "$1") ∧
      synthesize { name := "x", documentation := "eg: $1" } {} 1 = .ok "$1" ∧ strip "$1" = "") ∧
    (Example.first? "eg: 'C:\\dir'" = some (some "\"C:\\\\dir\"") ∧
      synthesize { name := "x", documentation := "eg: 'C:\\dir'" } {} 1 =
        .ok "\"C:\\\\dir\"" ∧
      strip "\"C:\\\\dir\"" = "\"C:\\dir\"") ∧
    (synthesize { name := "a\x7db" } {} 1 = .ok "$\x7b1:a\x7db\x7d" ∧
      strip "$\x7b1:a\x7db\x7d" = "ab\x7d") ∧
    synthesize { name := "a\\" } {} 1 = .ok "$\x7b1:a\\\x7d" ∧
      strip "$\x7b1:a\\\x7d" = "$\x7b1:a\x7d" := by
  have hstop : Example.first? "eg: $1" = some (some "$1") := by decide +kernel
  have hquoted : Example.first? "eg: 'C:\\dir'" = some (some "\"C:\\\\dir\"") := by
    decide +kernel
  have hnone : Example.first? "" = some none := by decide +kernel
  refine ⟨⟨hstop, ?_, by decide +kernel⟩, ⟨hquoted, ?_, by decide +kernel⟩,
    ⟨?_, by decide +kernel⟩, ?_, by decide +kernel⟩
  · simp only [synthesize, hstop]
  · simp only [synthesize, hquoted]
  · simp only [synthesize, hnone, typedDefault]
    rfl
  · simp only [synthesize, hnone, typedDefault]
    rfl

end CallCompletion
