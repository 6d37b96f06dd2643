import CallCompletion.Proofs.TabStops

/-!
# Escaped texts

A text is made plain for a template by a backslash before each dollar sign, closing brace and
backslash. In a placeholder such a text is given back as it was. Outside of placeholders, tab
stops are expanded before backslashes are taken away, and a backslash does not keep a dollar sign
from being read as a stop: the dollar sign and the number behind it are lost, and the backslash is
left. All other texts are given back.
-/

namespace CallCompletion.Template

open CallCompletion.Text

/-- A text with a backslash before each character that has a meaning in a template. -/
def escaped (cs : List Char) : List Char :=
  cs.flatMap fun c ↦ if isEscapable c then ['\\', c] else [c]

/-- `escaped` on strings. -/
def escape (text : String) : String := String.ofList (escaped text.toList)

/-- No dollar sign of a text stands right before a digit. -/
def Unnumbered (cs : List Char) : Prop :=
  ∀ c rest, '$' :: c :: rest <:+ cs → isDecimalDigit c = false

theorem escaped_cons_of_escapable {c : Char} (h : isEscapable c = true) (cs : List Char) :
    escaped (c :: cs) = '\\' :: c :: escaped cs := by
  rw [escaped, List.flatMap_cons, if_pos h]
  rfl

theorem escaped_cons_of_not_escapable {c : Char} (h : isEscapable c = false) (cs : List Char) :
    escaped (c :: cs) = c :: escaped cs := by
  rw [escaped, List.flatMap_cons, if_neg (by simp [h])]
  rfl

theorem ne_of_not_escapable {c : Char} (h : isEscapable c = false) :
    c ≠ '$' ∧ c ≠ '}' ∧ c ≠ '\\' := by
  simpa [isEscapable, and_assoc] using h

theorem not_escapable_of_isDecimalDigit {c : Char} (h : isDecimalDigit c = true) :
    isEscapable c = false := by
  rw [Bool.eq_false_iff]
  intro hescapable
  simp only [isEscapable, Bool.or_eq_true, beq_iff_eq] at hescapable
  rcases hescapable with (rfl | rfl) | rfl <;> exact absurd h (by decide)

/-! ## Taking the backslashes away -/

theorem unescape_pair {c : Char} (h : isEscapable c = true) (rest : List Char) :
    unescape ('\\' :: c :: rest) = c :: unescape rest := by
  have hplain : (c = '$' || c = '}' || c = '\\') = true := by simpa [isEscapable] using h
  rw [unescape, if_pos hplain]

theorem unescape_cons_of_ne {c : Char} (h : c ≠ '\\') (rest : List Char) :
    unescape (c :: rest) = c :: unescape rest := by
  have hbackslash : '\\' ∉ [c] := by simpa using Ne.symm h
  exact unescape_append_of_not_mem hbackslash rest

/-- An escaped text is read back. -/
theorem unescape_escaped (cs : List Char) : unescape (escaped cs) = cs := by
  induction cs with
  | nil => rfl
  | cons c cs ih =>
    cases hescapable : isEscapable c with
    | true => rw [escaped_cons_of_escapable hescapable, unescape_pair hescapable, ih]
    | false =>
      rw [escaped_cons_of_not_escapable hescapable,
        unescape_cons_of_ne (ne_of_not_escapable hescapable).2.2, ih]

/-- A character in front of a text adds at most itself to what is left without backslashes. It can
only take away the backslash that it makes plain. -/
theorem length_unescape_cons (c : Char) (cs : List Char) :
    (unescape cs).length ≤ (unescape (c :: cs)).length ∧
      (unescape (c :: cs)).length ≤ (unescape cs).length + 1 := by
  induction cs generalizing c with
  | nil =>
    by_cases hc : c = '\\'
    · subst hc
      decide
    · simp [unescape_cons_of_ne hc, unescape]
  | cons d rest ih =>
    by_cases hc : c = '\\'
    · subst hc
      cases hescapable : isEscapable d with
      | true =>
        obtain ⟨hlower, hupper⟩ := ih d
        rw [unescape_pair hescapable, List.length_cons]
        omega
      | false =>
        have hplain : ¬ (d = '$' || d = '}' || d = '\\') = true := by
          simpa [isEscapable] using hescapable
        rw [unescape, if_neg hplain, List.length_cons]
        omega
    · rw [unescape_cons_of_ne hc, List.length_cons]
      omega

/-! ## Placeholders -/

/-- An escaped text does not close a placeholder, and the brace behind it does. -/
theorem placeholderText?_escaped (cs rest : List Char) :
    placeholderText? (escaped cs ++ rest) =
      (placeholderText? rest).map fun (t, r) ↦ (escaped cs ++ t, r) := by
  induction cs with
  | nil => simp [escaped]
  | cons c cs ih =>
    cases hescapable : isEscapable c with
    | true =>
      have hline : c ≠ '\n' := by
        rintro rfl
        exact absurd hescapable (by decide)
      rw [escaped_cons_of_escapable hescapable, List.cons_append, List.cons_append,
        placeholderText?, if_neg hline, ih, Option.map_map]
      rfl
    | false =>
      obtain ⟨-, hbrace, hbackslash⟩ := ne_of_not_escapable hescapable
      rw [escaped_cons_of_not_escapable hescapable, ← List.singleton_append, List.append_assoc,
        placeholderText?_append_of_not_mem (by simpa using Ne.symm hbrace)
          (by simpa using Ne.symm hbackslash), ih, Option.map_map]
      rfl

theorem placeholderText?_escaped_eq_none (cs : List Char) :
    placeholderText? (escaped cs) = none := by
  have hend := placeholderText?_escaped cs []
  rwa [List.append_nil] at hend

/-- An escaped text in a tab stop inserts the text. -/
theorem plainText_placeholder_escaped (cs : List Char) {n : Int} (hn : 0 ≤ n) :
    plainText (opening n ++ escaped cs ++ ['}']) = cs := by
  have hread : placeholderText? (escaped cs ++ ['}']) = some (escaped cs, []) := by
    rw [placeholderText?_escaped]
    simp [placeholderText?]
  rw [plainText, List.append_assoc, expandStops_opening_of_some hn hread, expandStops,
    List.append_nil, unescape_escaped]

/-! ## Outside of placeholders -/

/-- The digits at the front of a text are those at the front of the escaped text. -/
theorem digits_escaped (cs : List Char) :
    (escaped cs).takeWhile isDecimalDigit = cs.takeWhile isDecimalDigit ∧
      (escaped cs).dropWhile isDecimalDigit = escaped (cs.dropWhile isDecimalDigit) := by
  induction cs with
  | nil => exact ⟨rfl, rfl⟩
  | cons c cs ih =>
    cases hdigit : isDecimalDigit c with
    | true =>
      have hescapable := not_escapable_of_isDecimalDigit hdigit
      simp [escaped_cons_of_not_escapable hescapable, hdigit, ih]
    | false =>
      cases hescapable : isEscapable c with
      | true =>
        have hbackslash : isDecimalDigit '\\' = false := by decide
        simp [escaped_cons_of_escapable hescapable, hdigit, hbackslash]
      | false => simp [escaped_cons_of_not_escapable hescapable, hdigit]

/-- A character other than a backslash at the front of an escaped text stands there by itself. -/
theorem eq_cons_of_escaped {cs rest : List Char} {c : Char} (h : escaped cs = c :: rest)
    (hc : c ≠ '\\') : isEscapable c = false ∧ ∃ more, cs = c :: more ∧ rest = escaped more := by
  cases cs with
  | nil => cases h
  | cons d more =>
    cases hescapable : isEscapable d with
    | true =>
      rw [escaped_cons_of_escapable hescapable] at h
      exact absurd (List.cons.inj h).1.symm hc
    | false =>
      rw [escaped_cons_of_not_escapable hescapable] at h
      obtain ⟨rfl, rfl⟩ := List.cons.inj h
      exact ⟨hescapable, more, rfl, rfl⟩

/-- Braces make no stop of an escaped text, because the one that would close the stop has a
backslash before it. A number does. -/
theorem tabStop?_escaped (cs : List Char) :
    tabStop? (escaped cs) = if (cs.takeWhile isDecimalDigit).isEmpty then none
      else some ([], escaped (cs.dropWhile isDecimalDigit)) := by
  unfold tabStop?
  split
  · next body hbody =>
    obtain ⟨-, more, rfl, rfl⟩ := eq_cons_of_escaped hbody (by decide)
    rw [List.takeWhile_cons_of_neg (by decide), List.isEmpty_nil, if_pos rfl,
      (digits_escaped more).2]
    split
    · rfl
    · split
      · next text htext =>
        obtain ⟨-, inner, -, rfl⟩ := eq_cons_of_escaped htext (by decide)
        exact placeholderText?_escaped_eq_none inner
      · next rest hrest => exact absurd (eq_cons_of_escaped hrest (by decide)).1 (by decide)
      · rfl
  · rw [(digits_escaped cs).1, (digits_escaped cs).2]

theorem expandStops_dollar_of_none {rest : List Char} (h : tabStop? rest = none) :
    expandStops ('$' :: rest) = '$' :: expandStops rest := by
  rw [expandStops_eq_flatMap, pieces_of_none h, List.flatMap_cons, ← expandStops_eq_flatMap]
  rfl

theorem expandStops_dollar_of_some {rest text after : List Char}
    (h : tabStop? rest = some (text, after)) :
    expandStops ('$' :: rest) = text ++ expandStops after := by
  rw [expandStops_eq_flatMap, pieces_of_stop h, List.flatMap_cons, inserted_stopRead h,
    ← expandStops_eq_flatMap]

theorem expandStops_cons_of_ne {c : Char} (h : c ≠ '$') (rest : List Char) :
    expandStops (c :: rest) = c :: expandStops rest := by
  have hdollar : '$' ∉ [c] := by simpa using Ne.symm h
  exact expandStops_append_of_not_mem hdollar rest

/-- A character is given back unless it is a dollar sign before a number. -/
theorem plainText_escaped_cons {c : Char} {cs : List Char}
    (h : c = '$' → cs.takeWhile isDecimalDigit = []) :
    plainText (escaped (c :: cs)) = c :: plainText (escaped cs) := by
  cases hescapable : isEscapable c with
  | false =>
    obtain ⟨hdollar, -, hbackslash⟩ := ne_of_not_escapable hescapable
    rw [escaped_cons_of_not_escapable hescapable, plainText, expandStops_cons_of_ne hdollar,
      unescape_cons_of_ne hbackslash, plainText]
  | true =>
    have hexpand : expandStops (c :: escaped cs) = c :: expandStops (escaped cs) := by
      by_cases hdollar : c = '$'
      · subst hdollar
        apply expandStops_dollar_of_none
        rw [tabStop?_escaped, h rfl, List.isEmpty_nil, if_pos rfl]
      · exact expandStops_cons_of_ne hdollar _
    rw [escaped_cons_of_escapable hescapable, plainText, expandStops_cons_of_ne (by decide),
      hexpand, unescape_pair hescapable, plainText]

/-- Of a dollar sign before a number, only the backslash is left. -/
theorem plainText_escaped_number {cs : List Char} (h : cs.takeWhile isDecimalDigit ≠ []) :
    plainText (escaped ('$' :: cs)) =
      unescape ('\\' :: expandStops (escaped (cs.dropWhile isDecimalDigit))) := by
  have hstop : tabStop? (escaped cs) = some ([], escaped (cs.dropWhile isDecimalDigit)) := by
    rw [tabStop?_escaped, if_neg (by simpa using h)]
  rw [escaped_cons_of_escapable (by decide), plainText, expandStops_cons_of_ne (by decide),
    expandStops_dollar_of_some hstop, List.nil_append]

theorem plainText_nil : plainText [] = [] := by
  rw [plainText, expandStops, unescape]

/-- Nothing is added to an escaped text. -/
theorem length_plainText_escaped_le (cs : List Char) :
    (plainText (escaped cs)).length ≤ cs.length := by
  match cs with
  | [] => exact Nat.le_of_eq (congrArg List.length plainText_nil)
  | c :: cs =>
    by_cases hnumber : c = '$' ∧ cs.takeWhile isDecimalDigit ≠ []
    · obtain ⟨rfl, hdigits⟩ := hnumber
      have hdrop := (List.dropWhile_suffix isDecimalDigit (l := cs)).length_le
      have hrest := length_plainText_escaped_le (cs.dropWhile isDecimalDigit)
      have hbackslash :=
        (length_unescape_cons '\\' (expandStops (escaped (cs.dropWhile isDecimalDigit)))).2
      rw [plainText_escaped_number hdigits, List.length_cons]
      rw [plainText] at hrest
      omega
    · have hrest := length_plainText_escaped_le cs
      rw [plainText_escaped_cons (by simpa using hnumber), List.length_cons, List.length_cons]
      omega
termination_by cs.length

/-- The text behind a dollar sign with a number is one character shorter at the least, and the
backslash that is left does not make up for both of them. -/
theorem plainText_escaped_number_ne {cs : List Char} (h : cs.takeWhile isDecimalDigit ≠ []) :
    plainText (escaped ('$' :: cs)) ≠ '$' :: cs := by
  intro hsame
  have hlength := congrArg List.length hsame
  have hsplit := congrArg List.length
    (List.takeWhile_append_dropWhile (p := isDecimalDigit) (l := cs))
  have hpos : 0 < (cs.takeWhile isDecimalDigit).length := List.length_pos_iff.2 h
  have hrest := length_plainText_escaped_le (cs.dropWhile isDecimalDigit)
  have hbackslash :=
    (length_unescape_cons '\\' (expandStops (escaped (cs.dropWhile isDecimalDigit)))).2
  rw [plainText_escaped_number h, List.length_cons] at hlength
  rw [plainText] at hrest
  rw [List.length_append] at hsplit
  omega

theorem unnumbered_cons_iff {c : Char} {cs : List Char} :
    Unnumbered (c :: cs) ↔ (c = '$' → cs.takeWhile isDecimalDigit = []) ∧ Unnumbered cs := by
  constructor
  · intro h
    refine ⟨?_, fun d rest hrest ↦ h d rest (hrest.trans (List.suffix_cons c cs))⟩
    rintro rfl
    cases cs with
    | nil => rfl
    | cons d rest => exact List.takeWhile_cons_of_neg (by simp [h d rest (List.suffix_refl _)])
  · rintro ⟨hfront, hcs⟩ d rest hrest
    rcases List.suffix_cons_iff.1 hrest with hwhole | htail
    · obtain ⟨rfl, rfl⟩ := List.cons.inj hwhole
      simpa [List.takeWhile_cons] using hfront rfl
    · exact hcs d rest htail

/-- An escaped text is given back exactly if no dollar sign in it has a number. -/
theorem plainText_escaped_eq_iff (cs : List Char) :
    plainText (escaped cs) = cs ↔ Unnumbered cs := by
  induction cs with
  | nil => exact ⟨fun _ c rest hrest ↦ by simp at hrest, fun _ ↦ plainText_nil⟩
  | cons c cs ih =>
    by_cases hnumber : c = '$' ∧ cs.takeWhile isDecimalDigit ≠ []
    · obtain ⟨rfl, hdigits⟩ := hnumber
      refine iff_of_false (plainText_escaped_number_ne hdigits) ?_
      intro h
      exact hdigits ((unnumbered_cons_iff.1 h).1 rfl)
    · have hfront : c = '$' → cs.takeWhile isDecimalDigit = [] := by simpa using hnumber
      rw [plainText_escaped_cons hfront, unnumbered_cons_iff, List.cons.injEq, ih]
      exact and_congr_left fun _ ↦ iff_of_true rfl hfront

/-- Stripping undoes escaping in every placeholder. Outside of placeholders it does so exactly for
the texts in which no dollar sign stands right before a digit. -/
theorem strip_escape_eq_iff (text : String) :
    (strip (escape text) = text ↔ Unnumbered text.toList) ∧
      ∀ n : Nat, strip (placeholder (escape text) n) = text := by
  constructor
  · rw [strip_eq_iff, escape, String.toList_ofList, plainText_escaped_eq_iff]
  · intro n
    rw [strip_eq_iff, toList_placeholder, escape, String.toList_ofList,
      plainText_placeholder_escaped _ (Int.natCast_nonneg n)]

/-- A price that is escaped loses its dollar sign and its digits; in a placeholder it is kept. -/
theorem strip_escape_price :
    escape "$1" = "\\$1" ∧ strip (escape "$1") = "\\" ∧ strip (escape "$1") ≠ "$1" ∧
      strip (placeholder (escape "$1") 1) = "$1" := by
  decide +kernel

end CallCompletion.Template
