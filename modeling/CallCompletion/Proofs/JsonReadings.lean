import CallCompletion.Data.Json

/-!
# Readings of one JSON text

How a text is read depends on what stands in for halves of surrogate pairs and on how many digits an
integer may have. Neither of them moves the point that a reader has come to. So two readings of one
text go side by side, up to an integer that is too long for the stricter of them.
-/

namespace CallCompletion.Data.Json

open CallCompletion.Numeral
open CallCompletion.Text

/-! ## Two readings side by side -/

/-- A strict and a loose reading of one text: both refuse it, both read the same characters of it,
or the strict one has met an integer of too many digits. -/
inductive SideBySide (strict loose : Options) {α : Type} : Reading α → Reading α → Prop
  | refused (r : Refusal) : SideBySide strict loose (.error r) (.error r)
  | read {a b : α} (rest : List Char) :
    (strict.standIn = loose.standIn → a = b) →
      SideBySide strict loose (.ok (a, rest)) (.ok (b, rest))
  | tooLong (count left : Nat) (other : Reading α) :
    strict.digitLimit ≠ loose.digitLimit →
      SideBySide strict loose (.error ⟨.tooManyDigits count, left⟩) other

/-- The loose reading has the limit of the strict one, or none. -/
def IsLooser (strict loose : Options) : Prop :=
  loose.digitLimit = strict.digitLimit ∨ loose.digitLimit = none

namespace SideBySide

variable {strict loose : Options} {α β : Type}

theorem map {x y : Reading α} (h : SideBySide strict loose x y) {f f' : α → β}
    (hf : ∀ a b, (strict.standIn = loose.standIn → a = b) →
      strict.standIn = loose.standIn → f a = f' b) :
    SideBySide strict loose (x.map fun (a, rest) ↦ (f a, rest))
      (y.map fun (a, rest) ↦ (f' a, rest)) := by
  cases h with
  | refused r => exact .refused r
  | read rest hsame => exact .read rest (hf _ _ hsame)
  | tooLong count left other hlimit => exact .tooLong count left _ hlimit

/-- What is done with a reading goes on side by side. -/
theorem bind {x y : Reading α} (h : SideBySide strict loose x y)
    {next next' : α × List Char → Reading β}
    (hnext : ∀ a b rest, (strict.standIn = loose.standIn → a = b) →
      SideBySide strict loose (next (a, rest)) (next' (b, rest))) :
    SideBySide strict loose (x.bind next) (y.bind next') := by
  cases h with
  | refused r => exact .refused r
  | read rest hsame => exact hnext _ _ rest hsame
  | tooLong count left other hlimit => exact .tooLong count left _ hlimit

/-- Texts differ at most in what stands in for halves. -/
theorem readText (opening rest : List Char) :
    SideBySide strict loose (readText strict opening rest) (readText loose opening rest) := by
  unfold Json.readText
  -- The code points are the same, whatever stands in for the halves among them.
  cases readCodes opening (rest.length + 1) [] rest with
  | error r => exact .refused r
  | ok reading =>
    refine .read reading.2 fun hstandIn ↦ ?_
    rw [hstandIn]

theorem ite {c : Prop} [Decidable c] {x x' y y' : Reading α} (hthen : SideBySide strict loose x y)
    (helse : SideBySide strict loose x' y') :
    SideBySide strict loose (if c then x else x') (if c then y else y') := by
  split
  · exact hthen
  · exact helse

/-- A number that has been read is checked for its length. -/
theorem checked (hlimit : IsLooser strict loose) (whole fraction : List Char)
    (exponent : Option Int) (cs : List Char) (reading : Value × List Char) :
    SideBySide strict loose
      (if isTooLong strict whole fraction exponent then refuse (.tooManyDigits whole.length) cs
        else .ok reading)
      (if isTooLong loose whole fraction exponent then refuse (.tooManyDigits whole.length) cs
        else .ok reading) := by
  rcases hlimit with hsame | hnone
  · simp only [isTooLong, hsame]
    exact .ite (.refused _) (.read reading.2 fun _ ↦ rfl)
  · have hloose : isTooLong loose whole fraction exponent = false := by simp [isTooLong, hnone]
    rw [hloose, if_neg Bool.false_ne_true]
    split
    · rename_i hlong
      refine .tooLong _ _ _ fun heq ↦ ?_
      simp [isTooLong, heq, hnone] at hlong
    · exact .read reading.2 fun _ ↦ rfl

/-- Numbers are where the limit is met. -/
theorem readNumber (hlimit : IsLooser strict loose) (cs : List Char) :
    SideBySide strict loose (readNumber strict cs) (readNumber loose cs) := by
  unfold Json.readNumber
  exact .ite (.refused _) (checked hlimit _ _ _ _ _)

mutual

theorem readValue (hlimit : IsLooser strict loose) : ∀ (bound : Nat) (cs : List Char),
    SideBySide strict loose (readValue strict bound cs) (readValue loose bound cs)
  | 0, cs => .refused _
  | bound + 1, cs => by
    unfold Json.readValue
    split
    · exact (readText _ _).map fun s s' hs h ↦ congrArg Value.text (hs h)
    · split
      · exact .read _ fun _ ↦ rfl
      · exact (readItems hlimit bound _).map fun items items' hitems h ↦
          congrArg Value.list (hitems h)
    · split
      · exact .read _ fun _ ↦ rfl
      · exact (readEntries hlimit bound _).map fun entries entries' hentries h ↦
          congrArg (Value.table ∘ Table.ofEntries) (hentries h)
    · split
      · exact .read _ fun _ ↦ rfl
      · exact readNumber hlimit cs

theorem readItems (hlimit : IsLooser strict loose) : ∀ (bound : Nat) (cs : List Char),
    SideBySide strict loose (readItems strict bound cs) (readItems loose bound cs)
  | 0, cs => .refused _
  | bound + 1, cs => by
    unfold Json.readItems
    refine (readValue hlimit bound cs).bind fun v v' rest hv ↦ ?_
    dsimp only
    split
    · exact .read _ fun h ↦ congrArg ([·]) (hv h)
    · refine (readItems hlimit bound _).map fun items items' hitems h ↦ ?_
      rw [hv h, hitems h]
    · exact .refused _

theorem readEntries (hlimit : IsLooser strict loose) : ∀ (bound : Nat) (cs : List Char),
    SideBySide strict loose (readEntries strict bound cs) (readEntries loose bound cs)
  | 0, cs => .refused _
  | bound + 1, cs => by
    unfold Json.readEntries
    split
    · refine (readText _ _).bind fun name name' rest hname ↦ ?_
      dsimp only
      split
      · refine (readValue hlimit bound _).bind fun v v' rest hv ↦ ?_
        dsimp only
        split
        · refine .read _ fun h ↦ ?_
          rw [hname h, hv h]
        · refine (readEntries hlimit bound _).map fun entries entries' hentries h ↦ ?_
          rw [hname h, hv h, hentries h]
        · exact .refused _
      · exact .refused _
    · exact .refused _

end

end SideBySide

/-! ## Whole texts -/

/-- Two readings of a whole text: both refuse it, both read it, or the strict one meets an integer
of too many digits. -/
theorem readWith_cases {strict loose : Options} (hlimit : IsLooser strict loose)
    (text : List Char) :
    (∃ r, readWith strict text = .error r ∧ readWith loose text = .error r) ∨
      (∃ v v', readWith strict text = .ok v ∧ readWith loose text = .ok v' ∧
        (strict.standIn = loose.standIn → v = v')) ∨
      strict.digitLimit ≠ loose.digitLimit ∧
        ∃ count left, readWith strict text = .error ⟨.tooManyDigits count, left⟩ := by
  unfold readWith
  by_cases hmark : text.head? = some '\uFEFF'
  · rw [if_pos hmark, if_pos hmark]
    exact .inl ⟨_, rfl, rfl⟩
  · rw [if_neg hmark, if_neg hmark]
    have hvalue := SideBySide.readValue hlimit (text.length + 1) (skipSpace text)
    generalize readValue strict (text.length + 1) (skipSpace text) = x,
      readValue loose (text.length + 1) (skipSpace text) = y at hvalue ⊢
    cases hvalue with
    | refused r => exact .inl ⟨r, rfl, rfl⟩
    | tooLong count left other hne => exact .inr (.inr ⟨hne, count, left, rfl⟩)
    | @read v v' rest hsame =>
      dsimp only
      split
      · exact .inr (.inl ⟨v, v', rfl, rfl, hsame⟩)
      · exact .inl ⟨_, rfl, rfl⟩

/-- Under the limit the same value is read, or an integer of too many digits is met. -/
theorem readWith_limited {standIn : StandIn} {text : List Char} {v : Value}
    (h : readWith (.unlimited standIn) text = .ok v) :
    readWith (.limited standIn) text = .ok v ∨
      ∃ count left, readWith (.limited standIn) text = .error ⟨.tooManyDigits count, left⟩ := by
  have hlimit : IsLooser (.limited standIn) (.unlimited standIn) := .inr rfl
  rcases readWith_cases hlimit text with ⟨r, -, hr⟩ | ⟨w, w', hw, hw', hsame⟩ | ⟨-, hlong⟩
  · rw [h] at hr
    cases hr
  · rw [h] at hw'
    cases hw'
    rw [hw, hsame rfl]
    exact .inl rfl
  · exact .inr hlong

/-- What stands in for halves does not decide whether a text is read. -/
theorem exists_readWith_limited {standIn : StandIn} {text : List Char} {v : Value}
    (h : readWith (.limited standIn) text = .ok v) (other : StandIn) :
    ∃ v', readWith (.limited other) text = .ok v' := by
  have hlimit : IsLooser (.limited standIn) (.limited other) := .inl rfl
  rcases readWith_cases hlimit text with ⟨r, hr, -⟩ | ⟨w, w', -, hw', -⟩ | ⟨hne, -⟩
  · rw [h] at hr
    cases hr
  · exact ⟨w', hw'⟩
  · exact absurd rfl hne

/-- A text that is read without a limit is read as the same value under the limit, unless it holds
an integer of too many digits. -/
theorem readWith_limited_eq_ok_iff {text : List Char} {s : StandIn → Value}
    (hs : ∀ standIn, readWith (.unlimited standIn) text = .ok (s standIn)) {standIn : StandIn}
    {v : Value} :
    readWith (.limited standIn) text = .ok v ↔ (∃ v, read text = .ok v) ∧ v = s standIn := by
  constructor
  · intro h
    refine ⟨exists_readWith_limited h .shared, ?_⟩
    rcases readWith_limited (hs standIn) with hv | ⟨count, left, hlong⟩
    · exact Except.ok.inj (h.symm.trans hv)
    · rw [h] at hlong
      cases hlong
  · rintro ⟨⟨shared, hshared⟩, rfl⟩
    obtain ⟨v, hv⟩ := exists_readWith_limited hshared standIn
    rcases readWith_limited (hs standIn) with hsame | ⟨count, left, hlong⟩
    · exact hsame
    · rw [hv] at hlong
      cases hlong

end CallCompletion.Data.Json
