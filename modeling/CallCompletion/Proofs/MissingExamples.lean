import CallCompletion.Proofs.ExampleLists

/-!
# Documentation without an example

A documentation has no example exactly if it has no marker, or if the leftmost marker is followed by
nothing that could be a value: by blanks only, or by a line of separators. The letters of a marker
alone do not make one. They have to start a word, and a colon or a blank has to follow them, with
or without a point in between.
-/

namespace CallCompletion.Example

open CallCompletion.Text

/-! ## Letters that make no marker -/

/-- The letters of a marker between two texts do not make a marker: they end another word or stand
inside one, or something follows them that is neither a colon nor a blank. -/
inductive InOtherWord : List Char → List Char → Prop
  | afterWord {before rest : List Char} {c : Char} :
    isWordChar c = true → InOtherWord (before ++ [c]) rest
  | goesOn {before rest : List Char} {c : Char} :
    c ≠ ':' → c ≠ '.' → isBlank c = false → InOtherWord before (c :: rest)
  | goesOnBehindPoint {before rest : List Char} {c : Char} :
    c ≠ ':' → isBlank c = false → InOtherWord before ('.' :: c :: rest)
  | ends {before : List Char} : InOtherWord before []
  | endsWithPoint {before : List Char} : InOtherWord before ['.']

theorem endsInWord_append_singleton (inWord : Bool) (before : List Char) (c : Char) :
    endsInWord inWord (before ++ [c]) = isWordChar c := by
  induction before generalizing inWord with
  | nil => rfl
  | cons d before ih => exact ih (isWordChar d)

theorem exists_of_endsInWord {before : List Char} (h : endsInWord false before = true) :
    ∃ front c, before = front ++ [c] ∧ isWordChar c = true := by
  rcases List.eq_nil_or_concat before with rfl | ⟨front, c, rfl⟩
  · cases h
  · rw [List.concat_eq_append] at h ⊢
    rw [endsInWord_append_singleton] at h
    exact ⟨front, c, rfl, h⟩

/-- What follows a marker is a colon or a blank, perhaps behind a point. -/
theorem Marks.not_inOtherWord {before rest after : List Char} {e g : Char}
    (hmarks : Marks (e :: g :: rest) after) (hapart : endsInWord false before = false) :
    ¬ InOtherWord before rest := by
  have hpoint : isBlank '.' = false := by decide
  intro h
  cases h with
  | afterWord hword =>
    rw [endsInWord_append_singleton, hword] at hapart
    cases hapart
  | goesOn hcolon hdot hblank =>
    cases hmarks with
    | colon => exact hcolon rfl
    | pointColon => exact hdot rfl
    | blank _ hc => simp [hblank] at hc
    | pointBlank => exact hdot rfl
  | goesOnBehindPoint hcolon hblank =>
    cases hmarks with
    | pointColon => exact hcolon rfl
    | blank _ hc => simp [hpoint] at hc
    | pointBlank _ hc => simp [hblank] at hc
  | ends => cases hmarks
  | endsWithPoint =>
    cases hmarks with
    | blank _ hc => simp [hpoint] at hc

/-- Letters that make no marker stand in another word. -/
theorem exists_marks_or_inOtherWord {e g : Char} (hword : IsMarkerWord e g)
    (before rest : List Char) :
    (endsInWord false before = false ∧ ∃ after, Marks (e :: g :: rest) after) ∨
      InOtherWord before rest := by
  cases hapart : endsInWord false before with
  | true =>
    obtain ⟨front, c, rfl, hc⟩ := exists_of_endsInWord hapart
    exact .inr (.afterWord hc)
  | false =>
    cases rest with
    | nil => exact .inr .ends
    | cons c rest =>
      by_cases hcolon : c = ':'
      · subst hcolon
        exact .inl ⟨rfl, rest, .colon hword⟩
      cases hblank : isBlank c with
      | true => exact .inl ⟨rfl, c :: rest, .blank hword hblank⟩
      | false =>
        by_cases hdot : c = '.'
        · subst hdot
          cases rest with
          | nil => exact .inr .endsWithPoint
          | cons d rest =>
            by_cases hcolon' : d = ':'
            · subst hcolon'
              exact .inl ⟨rfl, rest, .pointColon hword⟩
            cases hblank' : isBlank d with
            | true => exact .inl ⟨rfl, d :: rest, .pointBlank hword hblank'⟩
            | false => exact .inr (.goesOnBehindPoint hcolon' hblank')
        · exact .inr (.goesOn hcolon hdot hblank)

theorem Marks.exists_letters {cs after : List Char} (h : Marks cs after) :
    ∃ e g rest, cs = e :: g :: rest ∧ IsMarkerWord e g := by
  cases h with
  | colon hword => exact ⟨_, _, _, rfl, hword⟩
  | pointColon hword => exact ⟨_, _, _, rfl, hword⟩
  | blank hword _ => exact ⟨_, _, _, rfl, hword⟩
  | pointBlank hword _ => exact ⟨_, _, _, rfl, hword⟩

/-- A text has no marker exactly if the letters stand in other words wherever they occur. -/
theorem not_hasMarker_iff {cs : List Char} :
    ¬ HasMarker false cs ↔ ∀ before e g rest, cs = before ++ e :: g :: rest → IsMarkerWord e g →
      InOtherWord before rest := by
  constructor
  · intro hnone before e g rest hcs hword
    rcases exists_marks_or_inOtherWord hword before rest with ⟨hapart, after, hmarks⟩ | hother
    · exact absurd ⟨before, _, after, hcs, hapart, hmarks⟩ hnone
    · exact hother
  · rintro hall ⟨before, rest, after, hcs, hapart, hmarks⟩
    obtain ⟨e, g, more, rfl, hword⟩ := hmarks.exists_letters
    exact hmarks.not_inOtherWord hapart (hall before e g more hcs hword)

/-! ## Lines without a value -/

theorem hasMarker_of_afterFirstMarker? {inWord : Bool} {cs after : List Char}
    (h : afterFirstMarker? inWord cs = some after) : HasMarker inWord cs := by
  induction cs generalizing inWord with
  | nil => cases h
  | cons c cs ih =>
    rw [afterFirstMarker?] at h
    split at h
    · next found hfound =>
      cases inWord with
      | true => cases hfound
      | false => exact ⟨[], c :: cs, found, rfl, rfl, marks_of_afterMarker? hfound⟩
    · obtain ⟨before, rest, found, rfl, hapart, hmarks⟩ := ih h
      exact ⟨c :: before, rest, found, rfl, hapart, hmarks⟩

/-- A line holds no values exactly when nothing but separators stands on it. -/
theorem values?_eq_nil_iff {line : List Char} :
    values? line = some [] ↔ ∀ c ∈ line, isSeparator c = true := by
  constructor
  · intro h
    obtain ⟨lead, pieces, rfl, hlead, -, hpieces⟩ := values?_eq_some_iff.1 h
    obtain rfl : pieces = [] := List.map_eq_nil_iff.1 hpieces.symm
    simpa [layOut] using hlead
  · intro h
    have hline := values?_separators h []
    rwa [List.append_nil, values?] at hline

/-- There is no first example exactly when there are none at all. -/
theorem first?_eq_none_iff_tokens? {documentation : String} :
    first? documentation = some none ↔ tokens? documentation = some [] := by
  rw [first?, Option.map_eq_some_iff]
  constructor
  · rintro ⟨tokens, htokens, hhead⟩
    rw [htokens, List.head?_eq_none_iff.1 hhead]
  · intro h
    exact ⟨[], h, rfl⟩

theorem tokens?_of_not_hasMarker {documentation : String}
    (h : ¬ HasMarker false documentation.toList) : tokens? documentation = some [] := by
  have hnone : afterFirstMarker? false documentation.toList = none := by
    cases hfound : afterFirstMarker? false documentation.toList with
    | none => rfl
    | some after => exact absurd (hasMarker_of_afterFirstMarker? hfound) h
  rw [tokens?, valueLine?, hnone, Option.map_none]

theorem LeftmostMarker.tokens?_eq_nil_iff {documentation : String} {before rest after : List Char}
    (hcs : documentation.toList = before ++ rest) (h : LeftmostMarker false before rest)
    (hmarks : Marks rest after) :
    tokens? documentation = some [] ↔ ∀ c ∈ lineAfter after, isSeparator c = true := by
  rw [h.tokens?_eq hcs hmarks, Option.map_eq_some_iff, ← values?_eq_nil_iff]
  constructor
  · rintro ⟨texts, htexts, hmap⟩
    rw [htexts, List.map_eq_nil_iff.1 hmap]
  · intro hvalues
    exact ⟨[], hvalues, rfl⟩

theorem lineAfter_of_blank {after : List Char} (h : ∀ c ∈ after, isBlank c = true) :
    lineAfter after = [] := by
  rw [lineAfter, (trimLeft_nil_iff after).2 h, List.takeWhile_nil]

/-- The reading of a documentation ends without an example exactly if there is no marker, or only
blanks follow the leftmost one, or the line behind it holds only separators. Letters that stand in
other words have no part in this: where there are no others there is no marker, and the marker that
is found never stands at such letters. -/
theorem first?_eq_none_iff (documentation : String) :
    (first? documentation = some none ↔
      ¬ HasMarker false documentation.toList ∨
      ∃ before rest after, documentation.toList = before ++ rest ∧
        LeftmostMarker false before rest ∧ Marks rest after ∧
        ((∀ c ∈ after, isBlank c = true) ∨ ∀ c ∈ lineAfter after, isSeparator c = true)) ∧
    (¬ HasMarker false documentation.toList ↔
      ∀ before e g rest, documentation.toList = before ++ e :: g :: rest → IsMarkerWord e g →
        InOtherWord before rest) ∧
    ∀ before e g rest, InOtherWord before rest →
      ¬ LeftmostMarker false before (e :: g :: rest) := by
  refine ⟨?_, not_hasMarker_iff, ?_⟩
  · rw [first?_eq_none_iff_tokens?]
    constructor
    · intro htokens
      by_cases hmarker : HasMarker false documentation.toList
      · obtain ⟨before, rest, hcs, hleftmost⟩ := hmarker.exists_leftmost
        obtain ⟨after, hmarks⟩ := hleftmost.marks
        have hline := (hleftmost.tokens?_eq_nil_iff hcs hmarks).1 htokens
        exact .inr ⟨before, rest, after, hcs, hleftmost, hmarks, .inr hline⟩
      · exact .inl hmarker
    · rintro (hnone | ⟨before, rest, after, hcs, hleftmost, hmarks, hblank | hline⟩)
      · exact tokens?_of_not_hasMarker hnone
      · rw [hleftmost.tokens?_eq_nil_iff hcs hmarks, lineAfter_of_blank hblank]
        simp
      · exact (hleftmost.tokens?_eq_nil_iff hcs hmarks).2 hline
  · intro before e g rest hother hleftmost
    obtain ⟨after, hmarks⟩ := hleftmost.marks
    exact hmarks.not_inOtherWord hleftmost.apart hother

/-- Other words with the letters, and a marker behind them. -/
example : first? "leg: 1, eggs: 2, _eg: 3, eg.x 4, eg" = some none ∧
    first? "leg: 1, eggs: 2, _eg: 3, eg.x 4, Eg.: 5" = some (some "5") := by
  decide +kernel

/-- A marker with a line of separators behind it, and one with nothing but blanks. -/
example : first? "eg. ,\t,\n5" = some none ∧ first? "EG \n " = some none := by decide +kernel

end CallCompletion.Example
