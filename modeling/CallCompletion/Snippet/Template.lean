import CallCompletion.Text.Word

/-!
# Snippet templates

A template is text with tab stops: `$n`, `${n}`, and `${n:text}` for a stop with a placeholder. A
backslash before a dollar sign, a closing brace or a backslash makes it plain.
-/

namespace CallCompletion.Template

open CallCompletion.Text

/-- A tab stop whose placeholder is a name. -/
def placeholder (name : String) (tabStop : Int) : String :=
  "$\x7b" ++ toString tabStop ++ ":" ++ name ++ "\x7d"

/-- The placeholder of a stop up to its closing brace, and what follows. A backslash takes the next
character along, unless that is a line feed. -/
def placeholderText? : List Char → Option (List Char × List Char)
  | [] => none
  | '}' :: rest => some ([], rest)
  | ['\\'] => none
  | '\\' :: c :: rest =>
    if c = '\n' then none else (placeholderText? rest).map fun (t, r) ↦ ('\\' :: c :: t, r)
  | c :: rest => (placeholderText? rest).map fun (t, r) ↦ (c :: t, r)

/-- A tab stop, given what follows its dollar sign: its placeholder, and what follows the stop. -/
def tabStop? (cs : List Char) : Option (List Char × List Char) :=
  match cs with
  | '{' :: body =>
    if (body.takeWhile isDecimalDigit).isEmpty then none
    else
      match body.dropWhile isDecimalDigit with
      | ':' :: text => placeholderText? text
      | '}' :: rest => some ([], rest)
      | _ => none
  | _ =>
    if (cs.takeWhile isDecimalDigit).isEmpty then none
    else some ([], cs.dropWhile isDecimalDigit)

theorem length_placeholderText?_le {cs text rest : List Char}
    (h : placeholderText? cs = some (text, rest)) : rest.length ≤ cs.length := by
  fun_induction placeholderText? cs generalizing text rest with
  | case1 => simp at h
  | case2 r => simp at h; simp [← h.2]
  | case3 => simp at h
  | case4 => simp at h
  | case5 c r hc ih =>
    simp only [Option.map_eq_some_iff] at h
    obtain ⟨⟨t, r'⟩, h', he⟩ := h
    simp only [Prod.mk.injEq] at he
    have := ih h'
    simp only [List.length_cons, ← he.2]
    omega
  | case6 c r _ _ _ ih =>
    simp only [Option.map_eq_some_iff] at h
    obtain ⟨⟨t, r'⟩, h', he⟩ := h
    simp only [Prod.mk.injEq] at he
    have := ih h'
    simp only [List.length_cons, ← he.2]
    omega

theorem length_tabStop?_le {cs text rest : List Char} (h : tabStop? cs = some (text, rest)) :
    rest.length ≤ cs.length := by
  unfold tabStop? at h
  split at h
  · rename_i body
    have hd := (List.dropWhile_suffix (p := isDecimalDigit) (l := body)).length_le
    split at h
    · simp at h
    · split at h
      · rename_i t ht
        have := length_placeholderText?_le h
        rw [ht] at hd
        simp only [List.length_cons] at hd ⊢
        omega
      · rename_i r hr
        simp only [Option.some.injEq, Prod.mk.injEq] at h
        rw [hr] at hd
        simp only [List.length_cons] at hd ⊢
        rw [← h.2]
        omega
      · simp at h
  · split at h
    · simp at h
    · simp only [Option.some.injEq, Prod.mk.injEq] at h
      rw [← h.2]
      exact (List.dropWhile_suffix (p := isDecimalDigit)).length_le

/-- Replaces every tab stop by its placeholder. -/
def expandStops (cs : List Char) : List Char :=
  match cs with
  | [] => []
  | c :: rest =>
    if c = '$' then
      match _h : tabStop? rest with
      | some (text, after) => text ++ expandStops after
      | none => c :: expandStops rest
    else c :: expandStops rest
termination_by cs.length
decreasing_by
  · have := length_tabStop?_le _h
    simp only [List.length_cons]
    omega
  · simp
  · simp

/-- Takes away the backslashes that make a character plain. -/
def unescape : List Char → List Char
  | [] => []
  | ['\\'] => ['\\']
  | '\\' :: c :: rest =>
    if c = '$' || c = '}' || c = '\\' then c :: unescape rest else '\\' :: unescape (c :: rest)
  | c :: rest => c :: unescape rest

def plainText (cs : List Char) : List Char := unescape (expandStops cs)

/-- `plainText` on strings. -/
def strip (template : String) : String := String.ofList (plainText template.toList)

end CallCompletion.Template
