/-!
# Halves of surrogate pairs

The code points from U+D800 to U+DFFF are no characters. An escape can write one all the same, and
a text that holds one cannot be written as UTF-8. Where such a text is handled as characters, a
stand-in takes the place of each half: either the same for all of them, or one of its own for each.
The two ways differ at the halves and nowhere else, so that both together tell which text it was.
-/

namespace CallCompletion.Text

/-- The first half of a character beyond the basic plane. -/
def isHighHalf (n : Nat) : Bool := 0xD800 ≤ n && n < 0xDC00

/-- The second half of a character beyond the basic plane. -/
def isLowHalf (n : Nat) : Bool := 0xDC00 ≤ n && n < 0xE000

/-- Half of a surrogate pair. -/
def isHalf (n : Nat) : Bool := isHighHalf n || isLowHalf n

theorem isHalf_iff {n : Nat} : isHalf n = true ↔ 0xD800 ≤ n ∧ n < 0xE000 := by
  simp only [isHalf, isHighHalf, isLowHalf, Bool.or_eq_true, Bool.and_eq_true, decide_eq_true_eq]
  omega

theorem isHalf_toNat (c : Char) : isHalf c.toNat = false := by
  have hvalid : c.toNat < 0xD800 ∨ 0xDFFF < c.toNat ∧ c.toNat < 0x110000 := c.valid
  rw [← Bool.not_eq_true, isHalf_iff]
  omega

/-! ## Stand-ins -/

/-- What takes the place of a half. -/
inductive StandIn where
  /-- The replacement character. -/
  | shared
  /-- A private character for each half. -/
  | own
  deriving DecidableEq, Repr

/-- The private character for the first half. -/
def firstOwn : Nat := 0xF0000

/-- The character of a code point, or what stands in for it. -/
def StandIn.char (standIn : StandIn) (n : Nat) : Char :=
  if isHalf n then
    match standIn with
    | .shared => '\uFFFD'
    | .own => Char.ofNat (firstOwn + (n - 0xD800))
  else Char.ofNat n

/-- The characters of a text that is given by its code points. -/
def StandIn.chars (standIn : StandIn) (codes : List Nat) : List Char := codes.map standIn.char

@[simp]
theorem StandIn.char_toNat (standIn : StandIn) (c : Char) : standIn.char c.toNat = c := by
  simp [StandIn.char, isHalf_toNat]

@[simp]
theorem StandIn.chars_map_toNat (standIn : StandIn) (cs : List Char) :
    standIn.chars (cs.map Char.toNat) = cs := by
  simp [StandIn.chars, Function.comp_def]

/-- What can be found in one way only, and suits both stand-ins, is found with each of them. -/
theorem StandIn.exists_forall_iff {α : Type} {found : α → Prop}
    (hone : ∀ a b, found a → found b → a = b) {suits : StandIn → α → Prop} :
    (∃ a, found a ∧ ∀ standIn, suits standIn a) ↔ ∀ standIn, ∃ a, found a ∧ suits standIn a := by
  constructor
  · rintro ⟨a, ha, h⟩ standIn
    exact ⟨a, ha, h standIn⟩
  · intro h
    obtain ⟨a, ha, -⟩ := h .shared
    refine ⟨a, ha, fun standIn ↦ ?_⟩
    obtain ⟨b, hb, hsuits⟩ := h standIn
    rwa [hone a b ha hb]

/-- The characters of a text that is given by its code points, if there is no half among them. -/
def characters? (codes : List Nat) : Option (List Char) :=
  if codes.any isHalf then none else some (codes.map Char.ofNat)

@[simp]
theorem characters?_map_toNat (cs : List Char) : characters? (cs.map Char.toNat) = some cs := by
  simp [characters?, isHalf_toNat, Function.comp_def]

theorem length_of_characters? {codes : List Nat} {cs : List Char}
    (h : characters? codes = some cs) :
    cs.length = codes.length := by
  unfold characters? at h
  split at h
  · cases h
  · cases h
    exact List.length_map Char.ofNat

/-- The code point for which one character stands in if all halves share it, and the other if each
has its own. -/
def codeBehind (shared own : Char) : Nat :=
  if shared = own then shared.toNat else 0xD800 + (own.toNat - firstOwn)

/-- The code points of a text, given both ways of standing in. -/
def codesBehind (shared own : List Char) : List Nat := List.zipWith codeBehind shared own

theorem toNat_ofNat {n : Nat} (h : n.isValidChar) : (Char.ofNat n).toNat = n := by
  rw [Char.ofNat, dif_pos h]
  rfl

theorem codeBehind_char {n : Nat} (h : n < 0x110000) :
    codeBehind (StandIn.shared.char n) (StandIn.own.char n) = n := by
  cases hhalf : isHalf n with
  | false =>
    have hvalid : n.isValidChar := by
      rw [← Bool.not_eq_true, isHalf_iff] at hhalf
      unfold Nat.isValidChar
      omega
    simp [codeBehind, StandIn.char, hhalf, toNat_ofNat hvalid]
  | true =>
    have hrange := isHalf_iff.1 hhalf
    have hown : (Char.ofNat (firstOwn + (n - 0xD800))).toNat = firstOwn + (n - 0xD800) :=
      toNat_ofNat (by unfold Nat.isValidChar firstOwn; omega)
    have hne : '\uFFFD' ≠ Char.ofNat (firstOwn + (n - 0xD800)) := by
      intro heq
      have hcode := congrArg Char.toNat heq
      rw [hown] at hcode
      change 0xFFFD = 0xF0000 + (n - 0xD800) at hcode
      omega
    simp only [codeBehind, StandIn.char, hhalf, if_true, if_neg hne, hown]
    omega

/-- Both ways of standing in together give the text back. -/
theorem codesBehind_chars {codes : List Nat} (h : ∀ n ∈ codes, n < 0x110000) :
    codesBehind (StandIn.shared.chars codes) (StandIn.own.chars codes) = codes := by
  induction codes with
  | nil => rfl
  | cons n rest ih =>
    obtain ⟨hn, hrest⟩ := List.forall_mem_cons.1 h
    change codeBehind _ _ :: codesBehind (StandIn.shared.chars rest) (StandIn.own.chars rest) = _
    rw [codeBehind_char hn, ih hrest]

/-- A text that is the same with either stand-in holds no half. -/
theorem isHalf_of_chars_eq {codes : List Nat} (h : ∀ n ∈ codes, n < 0x110000)
    (hsame : StandIn.shared.chars codes = StandIn.own.chars codes) :
    codes.any isHalf = false := by
  have hcodes : (StandIn.own.chars codes).map Char.toNat = codes := by
    calc (StandIn.own.chars codes).map Char.toNat
        = codesBehind (StandIn.own.chars codes) (StandIn.own.chars codes) := by
          rw [codesBehind, List.zipWith_self]
          simp [codeBehind]
      _ = codesBehind (StandIn.shared.chars codes) (StandIn.own.chars codes) := by rw [hsame]
      _ = codes := codesBehind_chars h
  rw [← hcodes]
  simp [isHalf_toNat]

/-! ## Texts with halves -/

/-- Halves that follow one another in a text, and the position of the first of them. -/
structure HalfRun where
  position : Nat
  codes : List Nat
  deriving DecidableEq, Repr

/-- The first halves in a text that is given by its code points. -/
def firstHalves (codes : List Nat) : HalfRun :=
  ⟨codes.findIdx isHalf, (codes.dropWhile (!isHalf ·)).takeWhile isHalf⟩

/-- A text that holds a half. -/
structure HalvedText where
  codes : List Nat
  hasHalf : codes.any isHalf = true
  deriving DecidableEq, Repr

end CallCompletion.Text
