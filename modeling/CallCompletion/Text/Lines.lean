/-!
# Lines of a text

A line ends at a line feed, a carriage return (alone or with a line feed), a vertical tab, a form
feed, one of the separators U+001C to U+001E, U+0085, U+2028 or U+2029. A text that ends with such
a character has no empty last line.
-/

namespace CallCompletion.Text

/-- A character that ends a line. -/
def isLineEnd (c : Char) : Bool :=
  let n := c.toNat
  (10 ≤ n && n ≤ 13) || (28 ≤ n && n ≤ 30) || n == 0x85 || n == 0x2028 || n == 0x2029

def splitLines : List Char → List (List Char)
  | [] => []
  | '\r' :: '\n' :: rest => [] :: splitLines rest
  | c :: rest =>
    if isLineEnd c then [] :: splitLines rest
    else
      match splitLines rest with
      | [] => [[c]]
      | line :: lines => (c :: line) :: lines

/-- The lines of a text, each with what ends it. -/
def splitLinesKeeping : List Char → List (List Char)
  | [] => []
  | '\r' :: '\n' :: rest => ['\r', '\n'] :: splitLinesKeeping rest
  | c :: rest =>
    if isLineEnd c then [c] :: splitLinesKeeping rest
    else
      match splitLinesKeeping rest with
      | [] => [[c]]
      | line :: lines => (c :: line) :: lines

/-- The pieces of a text between the occurrences of a character. -/
def splitAtChar (sep : Char) : List Char → List (List Char)
  | [] => [[]]
  | c :: rest =>
    if c = sep then [] :: splitAtChar sep rest
    else
      match splitAtChar sep rest with
      | [] => [[c]]
      | piece :: pieces => (c :: piece) :: pieces

/-- The lines put together again, a line feed between each two. -/
def joinLines : List (List Char) → List Char
  | [] => []
  | [line] => line
  | line :: lines => line ++ '\n' :: joinLines lines

/-- Carriage returns, alone or before a line feed, are read as line feeds. -/
def plainNewlines : List Char → List Char
  | [] => []
  | '\r' :: '\n' :: rest => '\n' :: plainNewlines rest
  | '\r' :: rest => '\n' :: plainNewlines rest
  | c :: rest => c :: plainNewlines rest

theorem plainNewlines_cons {c : Char} (hc : c ≠ '\r') (rest : List Char) :
    plainNewlines (c :: rest) = c :: plainNewlines rest := by
  simp [plainNewlines, hc]

/-- Without carriage returns the line ends are plain already. -/
theorem plainNewlines_of_not_mem {cs : List Char} (h : '\r' ∉ cs) : plainNewlines cs = cs := by
  induction cs with
  | nil => rfl
  | cons c rest ih =>
    simp only [List.mem_cons, not_or] at h
    rw [plainNewlines_cons (fun hc ↦ h.1 hc.symm), ih h.2]

theorem joinLines_cons_of_ne_nil {line : List Char} {lines : List (List Char)} (h : lines ≠ []) :
    joinLines (line :: lines) = line ++ '\n' :: joinLines lines := by
  cases lines with
  | nil => exact absurd rfl h
  | cons next lines => rfl

theorem splitAtChar_ne_nil (sep : Char) (cs : List Char) : splitAtChar sep cs ≠ [] := by
  fun_cases splitAtChar sep cs <;> simp

/-- Each occurrence of the character separates the pieces before it from those after it. -/
theorem splitAtChar_append_cons (sep : Char) (before after : List Char) :
    splitAtChar sep (before ++ sep :: after) =
      splitAtChar sep before ++ splitAtChar sep after := by
  induction before with
  | nil => simp [splitAtChar]
  | cons c rest ih =>
    obtain ⟨piece, pieces, hrest⟩ := List.exists_cons_of_ne_nil (splitAtChar_ne_nil sep rest)
    rw [List.cons_append, splitAtChar, splitAtChar, ih, hrest]
    split <;> rfl

/-- A text without the character is its own only piece. -/
theorem splitAtChar_of_not_mem {sep : Char} {cs : List Char} (h : sep ∉ cs) :
    splitAtChar sep cs = [cs] := by
  induction cs with
  | nil => rfl
  | cons c rest ih =>
    simp only [List.mem_cons, not_or] at h
    rw [splitAtChar, if_neg (Ne.symm h.1), ih h.2]

/-- What stands before the first occurrence of the character belongs to the first piece. -/
theorem splitAtChar_append_of_not_mem {sep : Char} {word : List Char} (h : sep ∉ word)
    (cs : List Char) : splitAtChar sep (word ++ cs) =
      (word ++ cs.takeWhile (· != sep)) :: (splitAtChar sep cs).tail := by
  induction word with
  | nil =>
    rw [List.nil_append, List.nil_append]
    induction cs with
    | nil => rfl
    | cons c rest ih =>
      by_cases hc : c = sep
      · simp [splitAtChar, hc]
      · rw [splitAtChar, if_neg hc, ih]
        simp [hc]
  | cons c word ih =>
    simp only [List.mem_cons, not_or] at h
    rw [List.cons_append, splitAtChar, if_neg (Ne.symm h.1), ih h.2]
    rfl

/-- Lines that hold no line feed are the pieces of what they are put together to. -/
theorem splitAtChar_joinLines {lines : List (List Char)} (h : ∀ line ∈ lines, '\n' ∉ line)
    (hne : lines ≠ []) : splitAtChar '\n' (joinLines lines) = lines := by
  induction lines with
  | nil => exact absurd rfl hne
  | cons line rest ih =>
    obtain ⟨hline, hrest⟩ := List.forall_mem_cons.1 h
    by_cases hlast : rest = []
    · subst hlast
      exact splitAtChar_of_not_mem hline
    · rw [joinLines_cons_of_ne_nil hlast, splitAtChar_append_cons, splitAtChar_of_not_mem hline,
        ih hrest hlast, List.singleton_append]

end CallCompletion.Text
