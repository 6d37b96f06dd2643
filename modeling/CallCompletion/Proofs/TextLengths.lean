import CallCompletion.Proofs.Unaltered
import Mathlib.Algebra.Order.BigOperators.Group.List
import Mathlib.Algebra.Order.Group.Nat
import Mathlib.Algebra.GroupWithZero.Nat

/-!
# Lengths of tokens and literals

The tokens of a text are pieces of it that do not overlap, so that together they are no longer than
the text. What a string token stands for is shorter than the token, since its quotes do not count
and no escape stands for more characters than it has.
-/

namespace CallCompletion.Source

open CallCompletion.Text

/-! ## Escapes -/

theorem suffix_of_hexDigits? {count value value' : Nat} {cs rest : List Char}
    (h : hexDigits? count value cs = some (value', rest)) : rest <:+ cs := by
  fun_induction hexDigits? count value cs with
  | case1 => cases h; exact List.suffix_refl _
  | case2 => cases h
  | case3 n value c cs ih =>
    obtain ⟨d, -, h⟩ := Option.bind_eq_some_iff.1 h
    exact (ih d h).trans (List.suffix_cons c cs)

/-- An escape of hexadecimal digits stands for one number. -/
theorem suffix_of_hexEscape {count : Nat} {rest after : List Char} {codes : List Nat}
    (h : (hexDigits? count 0 rest).map (fun read ↦ ([read.1], read.2)) = some (codes, after)) :
    codes.length = 1 ∧ after <:+ rest := by
  obtain ⟨⟨v, later⟩, hdigits, hread⟩ := Option.map_eq_some_iff.1 h
  dsimp only at hread
  cases hread
  exact ⟨rfl, suffix_of_hexDigits? hdigits⟩

theorem length_octalDigits (count value : Nat) (cs : List Char) :
    (octalDigits count value cs).2.length ≤ cs.length := by
  fun_induction octalDigits count value cs with
  | case1 n value c cs _ ih => exact Nat.le_succ_of_le ih
  | case2 => exact Nat.le_refl _
  | case3 => exact Nat.le_refl _

theorem suffix_of_namedCharacter? {names : CharacterNames} {rest after : List Char} {named : Char}
    (h : namedCharacter? names rest = some (named, after)) : after <:+ rest := by
  unfold namedCharacter? at h
  split at h
  · next inner =>
    split at h
    · next closing later hlater =>
      obtain ⟨_, -, heq⟩ := Option.map_eq_some_iff.1 h
      cases heq
      have hdropped : closing :: after <:+ inner := hlater ▸ List.dropWhile_suffix _
      exact ((List.suffix_cons closing after).trans hdropped).trans (List.suffix_cons '{' inner)
    · cases h
  · cases h

/-- A character that makes an escape of a backslash before it. -/
def beginsEscape (wide : Bool) (c : Char) : Bool :=
  c == '\n' || (escapeLetter? c).isSome || ('0' ≤ c && c ≤ '7') || c == 'x' || wide && c == 'u' ||
    wide && c == 'U' || wide && c == 'N'

/-- A backslash before any other character stands for itself. -/
theorem readEscape_of_not_begins {names : CharacterNames} {wide : Bool} {c : Char}
    (h : beginsEscape wide c = false) (rest : List Char) :
    readEscape names wide c rest = some (['\\'.toNat, c.toNat], rest) := by
  simp only [beginsEscape, Bool.or_eq_false_iff, Option.isSome_eq_false_iff,
    Option.isNone_iff_eq_none] at h
  obtain ⟨⟨⟨⟨⟨⟨hline, hletter⟩, hoctal⟩, hx⟩, hu⟩, hU⟩, hN⟩ := h
  simp only [readEscape, hline, hletter, hoctal, hx, hu, hU, hN, Bool.false_eq_true, if_false]

/-- An escape stands for one character at most. -/
theorem length_of_readEscape_of_begins {names : CharacterNames} {wide : Bool} {c : Char}
    {rest after : List Char} {codes : List Nat} (hc : beginsEscape wide c = true)
    (h : readEscape names wide c rest = some (codes, after)) :
    codes.length ≤ 1 ∧ after.length ≤ rest.length := by
  have hhex {count : Nat} (h : (hexDigits? count 0 rest).map (fun read ↦ ([read.1], read.2)) =
      some (codes, after)) : codes.length ≤ 1 ∧ after.length ≤ rest.length :=
    ⟨(suffix_of_hexEscape h).1.le, (suffix_of_hexEscape h).2.length_le⟩
  unfold readEscape at h
  split at h
  · cases h
    exact ⟨Nat.zero_le 1, Nat.le_refl _⟩
  split at h
  · cases h
    exact ⟨Nat.le_refl 1, Nat.le_refl _⟩
  split at h
  · next hoctal =>
    simp only [octalDigits, hoctal, if_true, Option.some.injEq, Prod.mk.injEq] at h
    obtain ⟨rfl, rfl⟩ := h
    exact ⟨Nat.le_refl 1, length_octalDigits _ _ rest⟩
  split at h
  · exact hhex h
  split at h
  · exact hhex h
  split at h
  · obtain ⟨⟨v, later⟩, hdigits, hread⟩ := Option.bind_eq_some_iff.1 h
    dsimp only at hread
    split at hread <;> cases hread
    exact ⟨Nat.le_refl 1, (suffix_of_hexDigits? hdigits).length_le⟩
  split at h
  · obtain ⟨⟨named, later⟩, hnamed, heq⟩ := Option.map_eq_some_iff.1 h
    cases heq
    exact ⟨Nat.le_refl 1, (suffix_of_namedCharacter? hnamed).length_le⟩
  · simp_all [beginsEscape]

/-- An escape stands for no more characters than it has. -/
theorem length_of_readEscape {names : CharacterNames} {wide : Bool} {c : Char}
    {rest after : List Char} {codes : List Nat}
    (h : readEscape names wide c rest = some (codes, after)) :
    codes.length + after.length ≤ rest.length + 2 := by
  cases hc : beginsEscape wide c with
  | true =>
    have hshort := length_of_readEscape_of_begins hc h
    omega
  | false =>
    rw [readEscape_of_not_begins hc] at h
    cases h
    exact Nat.le_of_eq (Nat.add_comm 2 rest.length)

/-- Decoding never makes a text longer. -/
theorem length_of_decodeEscapesUpTo {names : CharacterNames} {wide : Bool} {fuel : Nat}
    {cs : List Char} {codes : List Nat} (h : decodeEscapesUpTo names wide fuel cs = some codes) :
    codes.length ≤ cs.length := by
  fun_induction decodeEscapesUpTo names wide fuel cs generalizing codes with
  | case1 => cases h; exact Nat.zero_le _
  | case2 => cases h; exact Nat.zero_le _
  | case3 => cases h; exact Nat.le_refl _
  | case4 fuel c rest ih =>
    obtain ⟨⟨first, after⟩, hescape, h⟩ := Option.bind_eq_some_iff.1 h
    obtain ⟨more, hmore, rfl⟩ := Option.map_eq_some_iff.1 h
    have hfirst := length_of_readEscape hescape
    have hrest := ih _ hmore
    simp only [List.length_append, List.length_cons]
    omega
  | case5 fuel c rest _ _ ih =>
    obtain ⟨more, hmore, rfl⟩ := Option.map_eq_some_iff.1 h
    exact Nat.succ_le_succ (ih hmore)

theorem length_of_decodeText? {names : CharacterNames} {raw : Bool} {cs : List Char}
    {codes : List Nat} (h : decodeText? names raw cs = some codes) :
    codes.length ≤ cs.length := by
  unfold decodeText? at h
  split at h
  · cases h
    exact (List.length_map _).le
  · exact length_of_decodeEscapesUpTo h

/-! ## String tokens -/

theorem length_body_ofToken_lt {text : List Char} (h : text ≠ []) (line : Nat) :
    (RawString.ofToken text line).body.length < text.length := by
  have hquoted := (List.dropWhile_suffix (l := text) fun c ↦ !(c == '\'' || c == '"')).length_le
  have hpos := List.length_pos_of_ne_nil h
  unfold RawString.ofToken
  dsimp only
  rw [List.length_take]
  apply lt_of_le_of_lt (Nat.min_le_left _ _)
  split
  · split <;> omega
  · omega

/-- The code points of a part that is no field. -/
def TextPart.codes : TextPart → List Nat
  | .literal codes => codes
  | .field _ => []

theorem exists_of_joinStrings_cons {read : LiteralReader} {bytes : Bool} {s : RawString}
    {rest : List RawString} {joined : List TextPart × List Nat}
    (h : joinStrings read bytes (s :: rest) = .ok joined) :
    ∃ here more, (here = [] ∨ textParts read s = .ok here) ∧
      joinStrings read bytes rest = .ok more ∧ joined.1 = here ++ more.1 := by
  have hrest {here : List TextPart × List Nat} (hhere : here.1 = [] ∨ textParts read s = .ok here.1)
      (h : (do
        if s.isBytes != bytes then .error .following
        let more ← joinStrings read bytes rest
        return (here.1 ++ more.1, here.2 ++ more.2) : Except LiteralFault _) = .ok joined) :
      ∃ here more, (here = [] ∨ textParts read s = .ok here) ∧
        joinStrings read bytes rest = .ok more ∧ joined.1 = here ++ more.1 := by
    split at h
    · cases h
    · obtain ⟨more, hmore, h⟩ := Fault.bind_eq_ok_iff.1 h
      cases h
      exact ⟨here.1, more, hhere, hmore, rfl⟩
  unfold joinStrings at h
  dsimp only at h
  split at h
  · cases h
  · split at h
    · obtain ⟨here, hhere, h⟩ := Fault.bind_eq_ok_iff.1 h
      obtain ⟨b, -, rfl⟩ := Fault.map_eq_ok_iff.1 hhere
      exact hrest (.inl rfl) h
    · obtain ⟨here, hhere, h⟩ := Fault.bind_eq_ok_iff.1 h
      obtain ⟨parts, hparts, rfl⟩ := Fault.map_eq_ok_iff.1 hhere
      exact hrest (.inr hparts) h

theorem length_of_textParts {read : LiteralReader} {s : RawString} {parts : List TextPart}
    (hplain : s.isFormatted = false) (h : textParts read s = .ok parts) :
    (parts.flatMap TextPart.codes).length ≤ s.body.length := by
  unfold textParts at h
  rw [if_neg (by simp [hplain])] at h
  split at h
  · next codes hcodes =>
    cases h
    simpa [TextPart.codes] using length_of_decodeText? hcodes
  · cases h

/-- Texts that are not formatted stand for no more characters than there are between their
quotes. -/
theorem length_of_joinStrings {read : LiteralReader} {bytes : Bool} {tokens : List RawString}
    {joined : List TextPart × List Nat} (hplain : ∀ s ∈ tokens, s.isFormatted = false)
    (h : joinStrings read bytes tokens = .ok joined) :
    (joined.1.flatMap TextPart.codes).length ≤ (tokens.map (·.body.length)).sum := by
  induction tokens generalizing joined with
  | nil =>
    cases h
    exact Nat.le_refl _
  | cons s rest ih =>
    obtain ⟨hs, hrest⟩ := List.forall_mem_cons.1 hplain
    obtain ⟨here, more, hhere, hmore, hjoined⟩ := exists_of_joinStrings_cons h
    have hlater := ih hrest hmore
    have hfirst : (here.flatMap TextPart.codes).length ≤ s.body.length := by
      rcases hhere with rfl | hhere
      · exact Nat.zero_le _
      · exact length_of_textParts hs hhere
    rw [hjoined, List.flatMap_append, List.length_append, List.map_cons, List.sum_cons]
    exact Nat.add_le_add hfirst hlater

/-- There are fewer characters between the quotes of string tokens than in the tokens. -/
theorem sum_length_body_lt {tokens : List Token} (hne : tokens ≠ [])
    (hspelled : ∀ t ∈ tokens, t.text ≠ "") :
    (tokens.map fun t ↦ (RawString.ofToken t.text.toList t.line).body.length).sum <
      (tokens.map (·.text.length)).sum := by
  apply List.sum_lt_sum_of_ne_nil hne
  intro t ht
  rw [← String.length_toList]
  exact length_body_ofToken_lt (by simpa using hspelled t ht) t.line

/-! ## Tokens -/

/-- The number of characters in tokens. -/
def spelledLength (tokens : List Token) : Nat := (tokens.map (·.text.length)).sum

theorem spelledLength_append (tokens more : List Token) :
    spelledLength (tokens ++ more) = spelledLength tokens + spelledLength more := by
  rw [spelledLength, List.map_append, List.sum_append, spelledLength, spelledLength]

theorem measureMargin_suffix {line l : Nat} {m m' : Margin} {cs rest : List Char}
    (h : measureMargin line m cs = .ok (m', l, rest)) : rest <:+ cs := by
  fun_induction measureMargin line m cs with
  | case1 line m cs ih => exact (ih h).trans (List.suffix_cons ' ' cs)
  | case2 line m cs ih => exact (ih h).trans (List.suffix_cons '\t' cs)
  | case3 line m cs ih => exact (ih h).trans (List.suffix_cons '\x0c' cs)
  | case4 => cases h
  | case5 line m cs _ ih =>
    exact (ih h).trans ((List.suffix_cons '\n' cs).trans (List.suffix_cons '\\' _))
  | case6 => cases h
  | case7 =>
    cases h
    exact List.suffix_rfl

theorem spelledLength_of_readLineStart {cur next : Cursor} {ts : List Token} {atStart : Bool}
    (h : readLineStart cur = .ok (ts, next, atStart)) :
    spelledLength ts + next.rest.length ≤ cur.rest.length ∧ ∀ t ∈ ts, t.kind ≠ .string := by
  unfold readLineStart at h
  split at h
  · cases h
  next margin line rest hmargin =>
  have hlength := (measureMargin_suffix hmargin).length_le
  have hcomment := (skipComment_suffix rest).length_le
  unfold Cursor.enterLine at h
  split at h
  · next after hafter =>
    cases h
    rw [hafter, List.length_cons] at hcomment
    have hafter : after.length ≤ cur.rest.length := by omega
    simpa [spelledLength, Cursor.afterNewline] using hafter
  · split at h
    · cases h
      simpa [spelledLength] using hcomment.trans hlength
    · split at h
      · split at h
        · cases h
        · next kinds margins hkinds =>
          cases h
          constructor
          · simpa [spelledLength, Cursor.token, Function.comp_def] using hlength
          · rw [List.forall_mem_map]
            intro kind hkind
            rcases stepMargin_kinds hkinds kind hkind with rfl | ⟨rfl, -⟩ <;> simp [Cursor.token]
      · cases h
        simpa [spelledLength] using hlength

theorem Cursor.spelled_of_readFrom {cur next : Cursor} {c : Char} {after : List Char} {t : Token}
    (h : cur.readFrom c after = .ok (t, next)) :
    t.text.length + next.rest.length = after.length + 1 ∧ t.text ≠ "" := by
  unfold Cursor.readFrom at h
  split at h
  · cases h
  · next l hlexeme =>
    obtain ⟨hspelling, hne⟩ := readLexeme_spelling hlexeme
    obtain ⟨htext, hrest⟩ := Cursor.kept_of_emit h
    rw [htext, hrest, String.length_ofList, ← List.length_append, hspelling, List.length_cons]
    exact ⟨rfl, by simpa using hne⟩

/-- A token is spelled by characters that are then no longer ahead. -/
theorem spelledLength_of_readToken {cur next : Cursor} {read : Option Token} {atStart : Bool}
    (h : readToken cur = .ok (read, next, atStart)) :
    spelledLength read.toList + next.rest.length ≤ cur.rest.length ∧
      ∀ t ∈ read, t.kind = .string → t.text ≠ "" := by
  have hcontent : (skipComment (cur.rest.dropWhile isSpacer)).length ≤ cur.rest.length :=
    ((skipComment_suffix _).trans (List.dropWhile_suffix _)).length_le
  unfold readToken at h
  generalize skipComment (cur.rest.dropWhile isSpacer) = content at h hcontent
  unfold Cursor.readContent at h
  split at h
  · split at h <;> cases h
    simp [spelledLength, Cursor.token]
  · rw [List.length_cons] at hcontent
    have hrest := Nat.le_of_succ_le hcontent
    split at h <;> cases h <;> simpa [spelledLength, Cursor.token, Cursor.afterNewline] using hrest
  · cases h
  · cases h
    rw [List.length_cons, List.length_cons] at hcontent
    have hrest := Nat.le_of_succ_le (Nat.le_of_succ_le hcontent)
    simpa [spelledLength] using hrest
  · cases h
  · obtain ⟨⟨t, later⟩, hread, heq⟩ := Fault.map_eq_ok_iff.1 h
    cases heq
    obtain ⟨hlength, hne⟩ := Cursor.spelled_of_readFrom hread
    rw [List.length_cons, ← hlength] at hcontent
    simpa [spelledLength, hne] using hcontent

/-- What a reader has read so far, with what is left, makes up no more than a text of `n`
characters; strings have been read with their quotes, and the end of the text has not been read. -/
structure ReadsWithin (n : Nat) (cur : Cursor) (read : List Token) : Prop where
  length : spelledLength read + cur.rest.length ≤ n
  quoted : ∀ t ∈ read, t.kind = .string → t.text ≠ ""
  unfinished : ∀ t ∈ read, t.kind ≠ .finish

theorem ReadsWithin.append {n : Nat} {cur next : Cursor} {read : List Token}
    (h : ReadsWithin n cur read) (ts : List Token)
    (hlength : spelledLength ts + next.rest.length ≤ cur.rest.length)
    (hquoted : ∀ t ∈ ts, t.kind = .string → t.text ≠ "")
    (hunfinished : ∀ t ∈ ts, t.kind ≠ .finish) :
    ReadsWithin n next (read ++ ts) where
  length := by
    have hread := h.length
    rw [spelledLength_append]
    omega
  quoted := List.forall_mem_append.2 ⟨h.quoted, hquoted⟩
  unfinished := List.forall_mem_append.2 ⟨h.unfinished, hunfinished⟩

/-- What a reader has read at the end, up to the token that says so. -/
theorem exists_readsWithin_of_readAll {n : Nat} (fuel : Nat) {cur : Cursor} {atStart : Bool}
    {acc : Array Token} (h : ReadsWithin n cur acc.toList) :
    ∃ last read, ReadsWithin n last read ∧
      ((readAll fuel cur atStart acc).tokens.toList = read ∨
        ∃ t, t.kind = .finish ∧ t.text.length ≤ last.rest.length ∧
          (readAll fuel cur atStart acc).tokens.toList = read ++ [t]) := by
  induction fuel generalizing cur atStart acc with
  | zero => exact ⟨cur, acc.toList, h, .inl rfl⟩
  | succ fuel ih =>
    cases atStart with
    | true =>
      simp only [readAll]
      cases hread : readLineStart cur with
      | error b => exact ⟨cur, acc.toList, h, .inl rfl⟩
      | ok step =>
        obtain ⟨ts, next, atStart⟩ := step
        obtain ⟨hlength, hstrings⟩ := spelledLength_of_readLineStart hread
        have hmore := h.append ts hlength (fun t ht hkind ↦ absurd hkind (hstrings t ht))
          (finish_not_mem_of_readLineStart hread)
        exact ih (by simpa using hmore)
    | false =>
      simp only [readAll]
      cases hread : readToken cur with
      | error b => exact ⟨cur, acc.toList, h, .inl rfl⟩
      | ok step =>
        obtain ⟨found, next, atStart⟩ := step
        obtain ⟨hlength, hquoted⟩ := spelledLength_of_readToken hread
        cases found with
        | none =>
          have hmore := h.append [] hlength (by simp) (by simp)
          exact ih (by simpa using hmore)
        | some t =>
          dsimp only
          split
          · next hfinish =>
            refine ⟨cur, acc.toList, h, .inr ⟨t, hfinish, ?_, by simp⟩⟩
            have hspelled : t.text.length + next.rest.length ≤ cur.rest.length := by
              simpa [spelledLength] using hlength
            omega
          · next hfinish =>
            have hmore := h.append [t] hlength (by simpa using hquoted) (by simpa using hfinish)
            exact ih (by simpa using hmore)

section Tokenize

variable (line : Nat) (text : List Char)

/-- All tokens of a text are spelled within its length. -/
theorem exists_readsWithin_of_tokenizeFrom :
    ∃ last read, ReadsWithin text.length last read ∧
      ((tokenizeFrom line text).tokens.toList = read ∨
        ∃ t, t.kind = .finish ∧ t.text.length ≤ last.rest.length ∧
          (tokenizeFrom line text).tokens.toList = read ++ [t]) := by
  apply exists_readsWithin_of_readAll
  exact ⟨by simp [spelledLength], by simp, by simp⟩

/-- The tokens of a text are together no longer than the text. -/
theorem spelledLength_tokenizeFrom :
    spelledLength (tokenizeFrom line text).tokens.toList ≤ text.length := by
  obtain ⟨last, read, hread, htokens | ⟨t, -, hshort, htokens⟩⟩ :=
    exists_readsWithin_of_tokenizeFrom line text
  · rw [htokens]
    exact Nat.le_of_add_right_le hread.length
  · have hlength := hread.length
    have hlast : spelledLength [t] = t.text.length := by simp [spelledLength]
    rw [htokens, spelledLength_append, hlast]
    omega

theorem quoted_tokenizeFrom :
    ∀ t ∈ (tokenizeFrom line text).tokens.toList, t.kind = .string → t.text ≠ "" := by
  obtain ⟨last, read, hread, htokens | ⟨t, hfinish, -, htokens⟩⟩ :=
    exists_readsWithin_of_tokenizeFrom line text
  · rw [htokens]
    exact hread.quoted
  · rw [htokens, List.forall_mem_append]
    exact ⟨hread.quoted, by simp [hfinish]⟩

/-- The token for the end of the text is the last one. -/
theorem getLast?_tokenizeFrom {t : Token} (ht : t ∈ (tokenizeFrom line text).tokens.toList)
    (hkind : t.kind = .finish) : (tokenizeFrom line text).tokens.toList.getLast? = some t := by
  obtain ⟨last, read, hread, htokens | ⟨u, -, -, htokens⟩⟩ :=
    exists_readsWithin_of_tokenizeFrom line text
  · rw [htokens] at ht
    exact absurd hkind (hread.unfinished t ht)
  · rw [htokens] at ht ⊢
    rcases List.mem_append.1 ht with ht | ht
    · exact absurd hkind (hread.unfinished t ht)
    · rw [List.getLast?_append, List.mem_singleton.1 ht]
      rfl

end Tokenize

theorem length_plainNewlines_le (cs : List Char) : (plainNewlines cs).length ≤ cs.length := by
  fun_induction plainNewlines cs with
  | case1 => exact Nat.le_refl _
  | case2 rest ih => exact Nat.succ_le_succ (Nat.le_succ_of_le ih)
  | case3 rest _ ih => exact Nat.succ_le_succ ih
  | case4 c rest _ _ ih => exact Nat.succ_le_succ ih

end CallCompletion.Source
