import CallCompletion.Snippet.Literal
import Mathlib.Algebra.Ring.Parity
import Mathlib.Data.List.DropRight

/-!
# What string literals stand for

A text is made a literal by a backslash before each backslash, then one before each quote, and a
quote at either end. Read from left to right, a backslash taking the next character along, the
literal ends at its last quote, whatever follows it, and stands for just that text. So no two texts
have the same literal, and none can close its literal early.

Whether a quote is taken along can also be seen from the backslashes right before it: their number
is odd for each quote inside the literal, and even for the one that closes it.
-/

namespace CallCompletion.Literal

open CallCompletion.Example

/-! ## Backslashes before marks -/

/-- A text with a backslash before each occurrence of a mark. -/
def backslashed (mark : Char) (cs : List Char) : List Char :=
  cs.flatMap fun c ↦ if c = mark then ['\\', c] else [c]

/-- What stands between the quotes of a literal. -/
def quotedBody (cs : List Char) : List Char := backslashed '"' (backslashed '\\' cs)

/-- How a character is written between the quotes. -/
def quotedChar (c : Char) : List Char := if c = '\\' ∨ c = '"' then ['\\', c] else [c]

/-- The two replacements in a row are one that looks at each character by itself. -/
theorem quotedBody_eq_flatMap (cs : List Char) : quotedBody cs = cs.flatMap quotedChar := by
  have hchar (c : Char) : backslashed '"' (if c = '\\' then ['\\', c] else [c]) = quotedChar c := by
    by_cases hbackslash : c = '\\'
    · subst hbackslash
      rfl
    · simp [backslashed, quotedChar, hbackslash]
  rw [quotedBody, backslashed, backslashed, List.flatMap_assoc]
  exact List.flatMap_congr fun c _ ↦ hchar c

theorem quotedBody_cons (c : Char) (cs : List Char) :
    quotedBody (c :: cs) = quotedChar c ++ quotedBody cs := by
  rw [quotedBody_eq_flatMap, List.flatMap_cons, ← quotedBody_eq_flatMap]

theorem toList_string (v : String) :
    (string v).toList = '"' :: quotedBody v.toList ++ ['"'] := by
  have hchars : (fun c ↦ if c == '\\' || c == '"' then ['\\', c] else [c]) = quotedChar := by
    funext c
    simp [quotedChar]
  rw [string, String.toList_ofList, stringLiteral, hchars, quotedBody_eq_flatMap]

/-! ## Reading from left to right -/

/-- The text that is written with backslashes: each takes the next character along and stands for
it. A backslash with nothing behind it stands for no text. -/
def pairsRead : List Char → Option (List Char)
  | [] => some []
  | ['\\'] => none
  | '\\' :: c :: rest => (pairsRead rest).map (c :: ·)
  | c :: rest => (pairsRead rest).map (c :: ·)

/-- The value of what follows the opening quote of a literal, and what is left after its closing
quote, the first one that no backslash takes along. -/
def bodyRead : List Char → Option (List Char × List Char)
  | [] => none
  | '"' :: rest => some ([], rest)
  | ['\\'] => none
  | '\\' :: c :: rest => (bodyRead rest).map fun (value, left) ↦ (c :: value, left)
  | c :: rest => (bodyRead rest).map fun (value, left) ↦ (c :: value, left)

/-- The value of the literal at the front of a text, and what follows it. -/
def literalRead : List Char → Option (List Char × List Char)
  | '"' :: rest => bodyRead rest
  | _ => none

theorem pairsRead_quotedChar_append (c : Char) (rest : List Char) :
    pairsRead (quotedChar c ++ rest) = (pairsRead rest).map (c :: ·) := by
  unfold quotedChar
  split
  · rfl
  · next hplain => simp [pairsRead, (not_or.1 hplain).1]

theorem bodyRead_quotedChar_append (c : Char) (rest : List Char) :
    bodyRead (quotedChar c ++ rest) =
      (bodyRead rest).map fun (value, left) ↦ (c :: value, left) := by
  unfold quotedChar
  split
  · rfl
  · next hplain => simp [bodyRead, (not_or.1 hplain).1, (not_or.1 hplain).2]

/-- The body of a literal is read back pair by pair. -/
theorem pairsRead_quotedBody (cs : List Char) : pairsRead (quotedBody cs) = some cs := by
  induction cs with
  | nil => rfl
  | cons c cs ih =>
    rw [quotedBody_cons, pairsRead_quotedChar_append, ih]
    rfl

theorem bodyRead_quotedBody_append (cs rest : List Char) :
    bodyRead (quotedBody cs ++ '"' :: rest) = some (cs, rest) := by
  induction cs with
  | nil => rfl
  | cons c cs ih =>
    rw [quotedBody_cons, List.append_assoc, bodyRead_quotedChar_append, ih]
    rfl

/-- A literal is read up to its last quote, whatever follows it. -/
theorem literalRead_string_append (v : String) (rest : List Char) :
    literalRead ((string v).toList ++ rest) = some (v.toList, rest) := by
  rw [toList_string, List.append_assoc, List.singleton_append, List.cons_append]
  exact bodyRead_quotedBody_append v.toList rest

/-! ## Backslashes before quotes -/

/-- The number of backslashes at the end of a text. -/
def backslashesAtEnd (cs : List Char) : Nat := (cs.rtakeWhile (· == '\\')).length

/-- What stands in front counts only if all that follows are backslashes. -/
theorem backslashesAtEnd_append (front cs : List Char) :
    backslashesAtEnd (front ++ cs) =
      if backslashesAtEnd cs = cs.length then backslashesAtEnd front + cs.length
      else backslashesAtEnd cs := by
  simp only [backslashesAtEnd, List.rtakeWhile, List.reverse_append, List.takeWhile_append,
    List.length_reverse]
  split
  · simp [Nat.add_comm]
  · rfl

/-- A written character ends with two backslashes or with none. -/
theorem even_backslashesAtEnd_quotedChar (c : Char) : Even (backslashesAtEnd (quotedChar c)) := by
  unfold quotedChar
  split
  · next hmarked => rcases hmarked with rfl | rfl <;> decide
  · next hplain => simp [backslashesAtEnd, List.rtakeWhile, (not_or.1 hplain).1]

/-- A written character in front keeps the parity, also where all that follows are backslashes. -/
theorem even_backslashesAtEnd_append (c : Char) (cs : List Char) :
    Even (backslashesAtEnd (quotedChar c ++ cs)) ↔ Even (backslashesAtEnd cs) := by
  rw [backslashesAtEnd_append]
  split
  · next hall => rw [hall, Nat.even_add, iff_true_left (even_backslashesAtEnd_quotedChar c)]
  · rfl

/-- The quote that closes a literal has an even number of backslashes before it. -/
theorem even_backslashesAtEnd_quotedBody (cs : List Char) :
    Even (backslashesAtEnd (quotedBody cs)) := by
  induction cs with
  | nil => exact Even.zero
  | cons c cs ih => rwa [quotedBody_cons, even_backslashesAtEnd_append]

/-- A written character with a quote in it is a quote with its backslash. -/
theorem eq_of_quotedChar_eq {c : Char} {before after : List Char}
    (h : quotedChar c = before ++ '"' :: after) : before = ['\\'] := by
  unfold quotedChar at h
  split at h
  · cases before with
    | nil => cases h
    | cons first before =>
      obtain ⟨rfl, hrest⟩ := List.cons.inj h
      cases before with
      | nil => rfl
      | cons second before => simp at hrest
  · next hplain =>
    cases before with
    | nil => exact absurd (Or.inr (List.cons.inj h).1) hplain
    | cons first before => simp at h

/-- Every quote inside a literal has an odd number of backslashes before it. -/
theorem odd_backslashesAtEnd_of_quotedBody {cs before after : List Char}
    (h : quotedBody cs = before ++ '"' :: after) : Odd (backslashesAtEnd before) := by
  induction cs generalizing before with
  | nil => simp [quotedBody, backslashed] at h
  | cons c cs ih =>
    rw [quotedBody_cons] at h
    rcases List.append_eq_append_iff.1 h with ⟨more, rfl, hmore⟩ | ⟨more, hchar, hmore⟩
    · rw [← Nat.not_even_iff_odd, even_backslashesAtEnd_append, Nat.not_even_iff_odd]
      exact ih hmore
    · cases more with
      | nil =>
        -- The quote is the first character behind this one.
        have hodd : Odd (backslashesAtEnd []) := ih hmore.symm
        exact absurd hodd (by decide)
      | cons first more =>
        obtain ⟨rfl, -⟩ := List.cons.inj hmore
        rw [eq_of_quotedChar_eq hchar]
        decide

/-! ## Literals and their texts -/

/-- A literal has a quote at either end. What stands in between is the text with a backslash before
each backslash and then before each quote; every quote in it has an odd number of backslashes
before it, the closing quote has an even number, and read with its backslashes it is the text. So
the literal is read as its text up to its end, whatever follows, and no two texts have the same
one. -/
theorem string_stands_for_text :
    (∀ v : String,
      (string v).toList = '"' :: quotedBody v.toList ++ ['"'] ∧
      (∀ before after, quotedBody v.toList = before ++ '"' :: after →
        Odd (backslashesAtEnd before)) ∧
      Even (backslashesAtEnd (quotedBody v.toList)) ∧
      pairsRead (quotedBody v.toList) = some v.toList ∧
      ∀ rest, literalRead ((string v).toList ++ rest) = some (v.toList, rest)) ∧
    Function.Injective string := by
  constructor
  · intro v
    refine ⟨toList_string v, ?_, even_backslashesAtEnd_quotedBody _, pairsRead_quotedBody _,
      literalRead_string_append v⟩
    intro before after hsplit
    exact odd_backslashesAtEnd_of_quotedBody hsplit
  · intro v w hsame
    have hread : some (v.toList, []) = some (w.toList, ([] : List Char)) := by
      rw [← literalRead_string_append v [], ← literalRead_string_append w [], hsame]
    exact String.toList_inj.1 (congrArg Prod.fst (Option.some.inj hread))

-- A quote between backslashes, and a backslash at the end.
example : string "\\\"\\" = "\"\\\\\\\"\\\\\"" := by decide

end CallCompletion.Literal
