import CallCompletion.Source.Parser
import Mathlib.Data.List.Find

/-!
# Reading one token

Every reader of a token stops at a line feed or fails there, except inside a string, and a string
does not end with one. So a line feed added to the end of a text changes no token that is read
before it. The characters of a token and what follows it make up the text it was read from.
-/

namespace CallCompletion.Source

open CallCompletion.Text

/-! ## Words and operators -/

theorem takeWhile_append_newline {p : Char → Bool} (hp : p '\n' = false) (cs : List Char) :
    (cs ++ ['\n']).takeWhile p = cs.takeWhile p := by
  induction cs with
  | nil => simp [hp]
  | cons c rest ih => simp only [List.cons_append, List.takeWhile_cons, ih]

theorem dropWhile_append_newline {p : Char → Bool} (hp : p '\n' = false) (cs : List Char) :
    (cs ++ ['\n']).dropWhile p = cs.dropWhile p ++ ['\n'] := by
  induction cs with
  | nil => simp [hp]
  | cons c rest ih =>
    simp only [List.cons_append, List.dropWhile_cons, ih]
    split <;> rfl

theorem isPrefixOf_append_newline {word : List Char} (hword : '\n' ∉ word) (cs : List Char) :
    word.isPrefixOf (cs ++ ['\n']) = word.isPrefixOf cs := by
  induction word generalizing cs with
  | nil => simp
  | cons w word ih =>
    have hw : w ≠ '\n' := fun h ↦ hword (h ▸ List.mem_cons_self)
    have hrest : '\n' ∉ word := fun h ↦ hword (List.mem_cons_of_mem w h)
    cases cs with
    | nil => simp [List.isPrefixOf, hw]
    | cons c cs => simp only [List.cons_append, List.isPrefixOf, ih hrest]

theorem drop_append_newline_of_isPrefixOf {word cs : List Char} (h : word.isPrefixOf cs = true) :
    (cs ++ ['\n']).drop word.length = cs.drop word.length ++ ['\n'] :=
  List.drop_append_of_le_length (List.isPrefixOf_iff_prefix.1 h).length_le

theorem find?_isPrefixOf_append_newline (words : List String)
    (hwords : ∀ word ∈ words, '\n' ∉ word.toList) (cs : List Char) :
    words.find? (fun word ↦ word.toList.isPrefixOf (cs ++ ['\n'])) =
      words.find? fun word ↦ word.toList.isPrefixOf cs := by
  apply List.find?_congr
  intro word hmem
  exact isPrefixOf_append_newline (hwords word hmem) cs

theorem head?_any_append_newline {p : Char → Bool} (hp : p '\n' = false) (cs : List Char) :
    (cs ++ ['\n']).head?.any p = cs.head?.any p := by
  cases cs with
  | nil => simp [hp]
  | cons c rest => rfl

/-- A line feed added to what is left after a token. -/
def extendRest (read : List Char × List Char) : List Char × List Char :=
  (read.1, read.2 ++ ['\n'])

theorem readOperator_append_newline (c : Char) (rest : List Char) :
    readOperator c (rest ++ ['\n']) = extendRest (readOperator c rest) := by
  have hfind := find?_isPrefixOf_append_newline longOperators (by decide) (c :: rest)
  unfold readOperator
  rw [← List.cons_append, hfind]
  cases hop : longOperators.find? (fun op ↦ op.toList.isPrefixOf (c :: rest)) with
  | none => rfl
  | some op =>
    have hfits := List.find?_some hop
    simp only [extendRest, ← String.length_toList, drop_append_newline_of_isPrefixOf hfits]

/-! ## Numbers -/

/-- Digits end before a line feed. -/
theorem digitsFrom_append_newline {isD : Char → Bool} (hD : isD '\n' = false) (need : Bool)
    (cs : List Char) :
    digitsFrom isD need (cs ++ ['\n']) = (digitsFrom isD need cs).map extendRest := by
  induction cs generalizing need with
  | nil => cases need <;> simp [digitsFrom, hD, extendRest]
  | cons c rest ih =>
    simp only [List.cons_append, digitsFrom, ih]
    split
    · cases digitsFrom isD false rest <;> rfl
    · split
      · cases digitsFrom isD true rest <;> rfl
      · split <;> rfl

theorem endsNumber_append_newline (rest : List Char) :
    endsNumber (rest ++ ['\n']) = endsNumber rest := by
  cases rest with
  | nil => decide
  | cons c rest =>
    have hfind := find?_isPrefixOf_append_newline
      ["and", "else", "for", "if", "in", "is", "or", "not"] (by decide) (c :: rest)
    have hany := congrArg Option.isSome hfind
    rw [List.isSome_find?, List.isSome_find?] at hany
    simp only [endsNumber, List.cons_append] at hany ⊢
    rw [hany]

theorem basedDigits_append_newline {isD : Char → Bool} (hD : isD '\n' = false)
    (text rest : List Char) :
    basedDigits isD text (rest ++ ['\n']) = (basedDigits isD text rest).map extendRest := by
  unfold basedDigits
  rw [digitsFrom_append_newline hD]
  cases digitsFrom isD true rest with
  | none => rfl
  | some read =>
    simp only [Option.map_some, Option.bind_some, extendRest, endsNumber_append_newline,
      head?_any_append_newline (p := Char.isDigit) rfl]
    split <;> rfl

theorem basedNumber_append_newline (mark : List Char) {isD : Char → Bool} (hD : isD '\n' = false)
    (rest : List Char) :
    basedNumber mark isD (rest ++ ['\n']) = (basedNumber mark isD rest).map extendRest := by
  cases rest with
  | nil => exact basedDigits_append_newline hD mark []
  | cons c rest =>
    by_cases hc : c = '_'
    · subst hc
      exact basedDigits_append_newline hD (mark ++ ['_']) rest
    · simpa [basedNumber, hc] using basedDigits_append_newline hD mark (c :: rest)

theorem finishNumber_append_newline (text rest : List Char) :
    finishNumber text (rest ++ ['\n']) = (finishNumber text rest).map extendRest := by
  cases rest with
  | nil => simp [finishNumber, extendRest, endsNumber, couldExtendName]
  | cons c rest =>
    have hends := endsNumber_append_newline (c :: rest)
    rw [List.cons_append] at hends
    simp only [List.cons_append, finishNumber, endsNumber_append_newline, hends]
    split
    · split <;> rfl
    · split <;> rfl

theorem digitsFrom_bind_append_newline {f : List Char → List Char → Option (List Char × List Char)}
    (hf : ∀ ds r, f ds (r ++ ['\n']) = (f ds r).map extendRest) (cs : List Char) :
    ((digitsFrom Char.isDigit true (cs ++ ['\n'])).bind fun read ↦ f read.1 read.2) =
      ((digitsFrom Char.isDigit true cs).bind fun read ↦ f read.1 read.2).map extendRest := by
  rw [digitsFrom_append_newline rfl]
  cases digitsFrom Char.isDigit true cs with
  | none => rfl
  | some read => exact hf read.1 read.2

theorem exponentPart_append_newline (text rest : List Char) :
    exponentPart text (rest ++ ['\n']) = (exponentPart text rest).map extendRest := by
  cases rest with
  | nil => simp [exponentPart, finishNumber, extendRest, endsNumber, couldExtendName]
  | cons e after =>
    have hends := endsNumber_append_newline (e :: after)
    have hfinish := finishNumber_append_newline text (e :: after)
    rw [List.cons_append] at hends hfinish
    cases after with
    | nil =>
      simp only [List.nil_append] at hends hfinish
      simp only [List.cons_append, List.nil_append, exponentPart, hfinish, hends]
      by_cases he : (e == 'e' || e == 'E') = true
      · -- The mark of an exponent extends the number, so the digits must not be missing.
        have hletter : endsNumber [e] = false := by
          rcases Bool.or_eq_true_iff.1 he with h | h <;> rw [eq_of_beq h] <;> decide
        simp [he, hletter]
      · simp [he]
    | cons s digits =>
      have hsigned := digitsFrom_bind_append_newline
        (fun ds r ↦ finishNumber_append_newline (text ++ e :: s :: ds) r) digits
      have hplain := digitsFrom_bind_append_newline
        (fun ds r ↦ finishNumber_append_newline (text ++ e :: ds) r) (s :: digits)
      simp only [List.cons_append] at hends hfinish hplain
      simp only [List.cons_append, exponentPart, hsigned, hplain, hends, hfinish]
      split
      · split
        · rfl
        · split
          · rfl
          · split <;> rfl
      · rfl

theorem fractionPart_append_newline (text rest : List Char) :
    fractionPart text (rest ++ ['\n']) = (fractionPart text rest).map extendRest := by
  cases rest with
  | nil => exact exponentPart_append_newline text []
  | cons c after =>
    by_cases hc : c = '.'
    · subst hc
      simp only [List.cons_append, fractionPart, head?_any_append_newline (p := Char.isDigit) rfl]
      split
      · exact digitsFrom_bind_append_newline
          (fun ds r ↦ exponentPart_append_newline (text ++ '.' :: ds) r) after
      · exact exponentPart_append_newline (text ++ ['.']) after
    · simpa [fractionPart, hc] using exponentPart_append_newline text (c :: after)

theorem decimalNumber_append_newline (cs : List Char) :
    decimalNumber (cs ++ ['\n']) = (decimalNumber cs).map extendRest := by
  unfold decimalNumber
  rw [digitsFrom_append_newline rfl]
  cases digitsFrom Char.isDigit true cs with
  | none => rfl
  | some read =>
    simp only [Option.map_some, Option.bind_some, extendRest, fractionPart_append_newline,
      head?_any_append_newline
        (p := fun c ↦ c == '.' || c == 'e' || c == 'E' || c == 'j' || c == 'J') rfl]
    split <;> rfl

/-- Numbers end before a line feed. -/
theorem readNumber_append_newline (cs : List Char) :
    readNumber (cs ++ ['\n']) = (readNumber cs).map extendRest := by
  have hdecimal := decimalNumber_append_newline cs
  cases cs with
  | nil => exact hdecimal
  | cons c rest =>
    by_cases hpoint : c = '.'
    · subst hpoint
      exact fractionPart_append_newline [] ('.' :: rest)
    by_cases hzero : c = '0'
    · subst hzero
      cases rest with
      | nil => exact hdecimal
      | cons x digits =>
        -- No digit of any base is a line feed, which is all that the bases have to share.
        have hbased (isD : Char → Bool) (hD : isD '\n' = false) :=
          basedNumber_append_newline ['0', x] hD digits
        simp only [List.cons_append] at hdecimal
        simp only [List.cons_append, readNumber, hdecimal]
        split
        · exact hbased _ (by decide)
        · split
          · exact hbased _ (by decide)
          · split
            · exact hbased _ (by decide)
            · rfl
    · simpa [readNumber, hpoint, hzero] using hdecimal

/-! ## Strings -/

/-- A character that takes no other along is not a backslash. -/
theorem ne_backslash {c : Char} {rest : List Char} (halone : c = '\\' → rest = [] → False)
    (hpair : ∀ d after, c = '\\' → rest = d :: after → False) : c ≠ '\\' := by
  intro hc
  cases rest with
  | nil => exact halone hc rfl
  | cons d after => exact hpair d after hc rfl

theorem shortStringRest_cons {q c : Char} (hc : c ≠ '\\') (rest : List Char) :
    shortStringRest q (c :: rest) =
      if c == '\n' then none
      else if c == q then some ([c], rest)
      else (shortStringRest q rest).map fun read ↦ (c :: read.1, read.2) := by
  simp [shortStringRest, hc]

theorem longStringRest_cons {q c : Char} (hc : c ≠ '\\') (rest : List Char) :
    longStringRest q (c :: rest) =
      if c == q && [q, q].isPrefixOf rest then some ([q, q, q], rest.drop 2)
      else (longStringRest q rest).map fun read ↦ (c :: read.1, read.2) := by
  simp [longStringRest, hc]

theorem shortStringRest_append_newline (q : Char) (cs : List Char) :
    shortStringRest q (cs ++ ['\n']) = (shortStringRest q cs).map extendRest := by
  fun_induction shortStringRest q cs with
  | case1 => rfl
  | case2 => rfl
  | case3 c rest ih =>
    simp only [List.cons_append, shortStringRest, ih]
    cases shortStringRest q rest <;> rfl
  | case4 c rest halone hpair hc =>
    rw [List.cons_append, shortStringRest_cons (ne_backslash halone hpair), if_pos hc]
    rfl
  | case5 c rest halone hpair hc hq =>
    rw [List.cons_append, shortStringRest_cons (ne_backslash halone hpair), if_neg hc, if_pos hq]
    rfl
  | case6 c rest halone hpair hc hq ih =>
    rw [List.cons_append, shortStringRest_cons (ne_backslash halone hpair), if_neg hc, if_neg hq,
      ih]
    cases shortStringRest q rest <;> rfl

theorem longStringRest_append_newline {q : Char} (hq : q ≠ '\n') (cs : List Char) :
    longStringRest q (cs ++ ['\n']) = (longStringRest q cs).map extendRest := by
  have hquotes : '\n' ∉ [q, q] := by simp [hq.symm]
  fun_induction longStringRest q cs with
  | case1 => simp [longStringRest]
  | case2 => rfl
  | case3 c rest ih =>
    simp only [List.cons_append, longStringRest, ih]
    cases longStringRest q rest <;> rfl
  | case4 c rest halone hpair hc =>
    have hdrop := drop_append_newline_of_isPrefixOf (Bool.and_eq_true_iff.1 hc).2
    rw [List.cons_append, longStringRest_cons (ne_backslash halone hpair),
      isPrefixOf_append_newline hquotes, if_pos hc]
    exact congrArg (fun r ↦ some ([q, q, q], r)) hdrop
  | case5 c rest halone hpair hc ih =>
    rw [List.cons_append, longStringRest_cons (ne_backslash halone hpair),
      isPrefixOf_append_newline hquotes, if_neg hc, ih]
    cases longStringRest q rest <;> rfl

theorem readString_append_newline {q : Char} (hq : q ≠ '\n') (rest : List Char) :
    readString q (rest ++ ['\n']) = (readString q rest).map extendRest := by
  have hquotes : '\n' ∉ [q, q] := by simp [hq.symm]
  unfold readString
  rw [isPrefixOf_append_newline hquotes]
  split
  · next htriple =>
    have hdrop : (rest ++ ['\n']).drop 2 = rest.drop 2 ++ ['\n'] :=
      drop_append_newline_of_isPrefixOf htriple
    rw [hdrop, longStringRest_append_newline hq]
    cases longStringRest q (rest.drop 2) <;> rfl
  · rw [shortStringRest_append_newline]
    cases shortStringRest q rest <;> rfl

theorem stringStart?_append_newline (c : Char) (after : List Char) :
    stringStart? c (after ++ ['\n']) =
      (stringStart? c after).map fun (mark, q, body) ↦ (mark, q, body ++ ['\n']) := by
  have htake := takeWhile_append_newline (p := couldExtendName) rfl (c :: after)
  have hdrop := dropWhile_append_newline (p := couldExtendName) rfl (c :: after)
  rw [List.cons_append] at htake hdrop
  unfold stringStart?
  simp only [htake, hdrop]
  split
  · rfl
  · cases (c :: after).dropWhile couldExtendName with
    | nil => simp
    | cons q rest =>
      simp only [List.cons_append]
      split <;> rfl

theorem quote_of_stringStart? {c q : Char} {after mark body : List Char}
    (h : stringStart? c after = some (mark, q, body)) : q = '\'' ∨ q = '"' := by
  unfold stringStart? at h
  split at h
  · next hc =>
    cases h
    simpa using hc
  · split at h
    · dsimp only at h
      split at h
      · next hq =>
        cases h
        simp only [Bool.and_eq_true, Bool.or_eq_true, beq_iff_eq] at hq
        exact hq.2
      · cases h
    · cases h

/-! ## Tokens -/

/-- A line feed added to what is left after a token. -/
def Lexeme.extend (l : Lexeme) : Lexeme := { l with rest := l.rest ++ ['\n'] }

theorem wordLexeme_append_newline (word rest : List Char) :
    wordLexeme word (rest ++ ['\n']) = (wordLexeme word rest).map Lexeme.extend := by
  unfold wordLexeme
  split <;> rfl

/-- The token at hand is the same when a line feed follows the text. -/
theorem readLexeme_append_newline (c : Char) (after : List Char) :
    readLexeme c (after ++ ['\n']) = (readLexeme c after).map Lexeme.extend := by
  unfold readLexeme
  rw [stringStart?_append_newline]
  cases hstart : stringStart? c after with
  | some start =>
    obtain ⟨mark, q, body⟩ := start
    have hq : q ≠ '\n' := by
      rcases quote_of_stringStart? hstart with rfl | rfl <;> decide
    simp only [Option.map_some, readString_append_newline hq]
    cases readString q body <;> rfl
  | none =>
    have htake := takeWhile_append_newline (p := couldExtendName) rfl (c :: after)
    have hdrop := dropWhile_append_newline (p := couldExtendName) rfl (c :: after)
    have hnumber := readNumber_append_newline (c :: after)
    rw [List.cons_append] at htake hdrop hnumber
    simp only [Option.map_none, htake, hdrop, hnumber, wordLexeme_append_newline,
      readOperator_append_newline, head?_any_append_newline (p := Char.isDigit) rfl]
    split
    · rfl
    · split
      · cases readNumber (c :: after) <;> rfl
      · rfl

/-! ## Spelling -/

theorem digitsFrom_spelling {isD : Char → Bool} {need : Bool} {cs : List Char}
    {read : List Char × List Char} (h : digitsFrom isD need cs = some read) :
    read.1 ++ read.2 = cs ∧ (need = true → read.1 ≠ []) := by
  fun_induction digitsFrom isD need cs generalizing read with
  | case1 => cases h
  | case2 need hneed =>
    cases h
    simp [hneed]
  | case3 need c rest hc ih =>
    obtain ⟨found, hfound, rfl⟩ := Option.map_eq_some_iff.1 h
    simp [(ih hfound).1]
  | case4 need c rest hc hunder ih =>
    obtain ⟨found, hfound, rfl⟩ := Option.map_eq_some_iff.1 h
    simp [(ih hfound).1]
  | case5 => cases h
  | case6 need c rest hc hunder hneed =>
    cases h
    simp [hneed]

/-- A reading that goes on from a text already read. -/
def Continues (text rest : List Char) (read : List Char × List Char) : Prop :=
  ∃ more, read.1 = text ++ more ∧ more ++ read.2 = rest

theorem Continues.of_digits (lead : List Char) {text rest ds after : List Char}
    {read : List Char × List Char} (hdigits : ds ++ after = rest)
    (h : Continues (text ++ lead ++ ds) after read) : Continues text (lead ++ rest) read := by
  obtain ⟨more, hread, hrest⟩ := h
  refine ⟨lead ++ ds ++ more, ?_, ?_⟩
  · simp [hread]
  · simp [hrest, hdigits]

theorem finishNumber_continues {text rest : List Char} {read : List Char × List Char}
    (h : finishNumber text rest = some read) : Continues text rest read := by
  unfold finishNumber at h
  split at h
  · next c after =>
    split at h
    · split at h <;> cases h
      exact ⟨[c], rfl, rfl⟩
    · split at h <;> cases h
      exact ⟨[], by simp, rfl⟩
  · cases h
    exact ⟨[], by simp, rfl⟩

theorem exponentPart_continues {text rest : List Char} {read : List Char × List Char}
    (h : exponentPart text rest = some read) : Continues text rest read := by
  unfold exponentPart at h
  split at h
  · next e after =>
    split at h
    · split at h
      · next s digits =>
        split at h
        · obtain ⟨found, hfound, h⟩ := Option.bind_eq_some_iff.1 h
          have hdigits := (digitsFrom_spelling hfound).1
          exact .of_digits [e, s] hdigits (by simpa using finishNumber_continues h)
        · split at h
          · obtain ⟨found, hfound, h⟩ := Option.bind_eq_some_iff.1 h
            have hdigits := (digitsFrom_spelling hfound).1
            exact .of_digits [e] hdigits (by simpa using finishNumber_continues h)
          · split at h <;> cases h
            exact ⟨[], by simp, rfl⟩
      · cases h
    · exact finishNumber_continues h
  · cases h
    exact ⟨[], by simp, rfl⟩

theorem fractionPart_point_continues {text after : List Char} {read : List Char × List Char}
    (h : fractionPart text ('.' :: after) = some read) : Continues (text ++ ['.']) after read := by
  unfold fractionPart at h
  split at h
  · next hpoint =>
    cases hpoint
    split at h
    · obtain ⟨found, hfound, h⟩ := Option.bind_eq_some_iff.1 h
      have hdigits := (digitsFrom_spelling hfound).1
      exact .of_digits [] hdigits (by simpa using exponentPart_continues h)
    · exact exponentPart_continues h
  · next hpoint => exact absurd rfl (hpoint after)

theorem fractionPart_continues {text rest : List Char} {read : List Char × List Char}
    (h : fractionPart text rest = some read) : Continues text rest read := by
  by_cases hpoint : ∃ after, rest = '.' :: after
  · obtain ⟨after, rfl⟩ := hpoint
    exact .of_digits ['.'] (List.nil_append _) (by simpa using fractionPart_point_continues h)
  · have hplain : fractionPart text rest = exponentPart text rest := by
      rw [fractionPart]
      exact fun after hrest ↦ hpoint ⟨after, hrest⟩
    exact exponentPart_continues (hplain ▸ h)

/-- A decimal number is spelled by what was read. -/
theorem decimalNumber_spelling {cs : List Char} {read : List Char × List Char}
    (h : decimalNumber cs = some read) : read.1 ++ read.2 = cs ∧ read.1 ≠ [] := by
  obtain ⟨found, hfound, h⟩ := Option.bind_eq_some_iff.1 h
  obtain ⟨hdigits, hne⟩ := digitsFrom_spelling hfound
  dsimp only at h
  split at h
  · cases h
  · obtain ⟨more, hread, hrest⟩ := fractionPart_continues h
    refine ⟨?_, ?_⟩
    · rw [hread, List.append_assoc, hrest, hdigits]
    · simp [hread, hne rfl]

theorem basedNumber_continues {mark rest : List Char} {isD : Char → Bool}
    {read : List Char × List Char} (h : basedNumber mark isD rest = some read) :
    Continues mark rest read := by
  have hbody {text body : List Char} (h : basedDigits isD text body = some read) :
      Continues text body read := by
    obtain ⟨found, hfound, h⟩ := Option.bind_eq_some_iff.1 h
    dsimp only at h
    split at h <;> cases h
    exact ⟨found.1, rfl, (digitsFrom_spelling hfound).1⟩
  unfold basedNumber at h
  split at h
  · exact .of_digits ['_'] (List.nil_append _) (by simpa using hbody h)
  · exact hbody h

/-- The characters of a number and what follows it make up the text it was read from. -/
theorem readNumber_spelling {cs : List Char} {read : List Char × List Char}
    (h : readNumber cs = some read) : read.1 ++ read.2 = cs ∧ read.1 ≠ [] := by
  unfold readNumber at h
  split at h
  · obtain ⟨more, hread, hrest⟩ := fractionPart_point_continues h
    simp [hread, hrest]
  · next x rest =>
    have hbased {isD : Char → Bool} (h : basedNumber ['0', x] isD rest = some read) :
        read.1 ++ read.2 = '0' :: x :: rest ∧ read.1 ≠ [] := by
      obtain ⟨more, hread, hrest⟩ := basedNumber_continues h
      simp [hread, hrest]
    split at h
    · exact hbased h
    · split at h
      · exact hbased h
      · split at h
        · exact hbased h
        · exact decimalNumber_spelling h
  · exact decimalNumber_spelling h

theorem shortStringRest_spelling {q : Char} {cs : List Char} {read : List Char × List Char}
    (h : shortStringRest q cs = some read) : read.1 ++ read.2 = cs := by
  fun_induction shortStringRest q cs generalizing read with
  | case1 => cases h
  | case2 => cases h
  | case3 c rest ih =>
    obtain ⟨found, hfound, rfl⟩ := Option.map_eq_some_iff.1 h
    simp [ih hfound]
  | case4 => cases h
  | case5 => cases h; rfl
  | case6 c rest _ _ _ _ ih =>
    obtain ⟨found, hfound, rfl⟩ := Option.map_eq_some_iff.1 h
    simp [ih hfound]

theorem longStringRest_spelling {q : Char} {cs : List Char} {read : List Char × List Char}
    (h : longStringRest q cs = some read) : read.1 ++ read.2 = cs := by
  fun_induction longStringRest q cs generalizing read with
  | case1 => cases h
  | case2 => cases h
  | case3 c rest ih =>
    obtain ⟨found, hfound, rfl⟩ := Option.map_eq_some_iff.1 h
    simp [ih hfound]
  | case4 c rest _ _ hc =>
    cases h
    obtain ⟨hquote, hpair⟩ := Bool.and_eq_true_iff.1 hc
    obtain ⟨after, rfl⟩ := List.isPrefixOf_iff_prefix.1 hpair
    simp [eq_of_beq hquote]
  | case5 c rest _ _ _ ih =>
    obtain ⟨found, hfound, rfl⟩ := Option.map_eq_some_iff.1 h
    simp [ih hfound]

/-- A string is spelled by what was read. -/
theorem readString_spelling {q : Char} {rest : List Char} {read : List Char × List Char}
    (h : readString q rest = some read) : read.1 ++ read.2 = q :: rest ∧ read.1 ≠ [] := by
  unfold readString at h
  split at h
  · next htriple =>
    obtain ⟨found, hfound, rfl⟩ := Option.map_eq_some_iff.1 h
    obtain ⟨after, rfl⟩ := List.isPrefixOf_iff_prefix.1 htriple
    simpa using longStringRest_spelling hfound
  · obtain ⟨found, hfound, rfl⟩ := Option.map_eq_some_iff.1 h
    simpa using shortStringRest_spelling hfound

theorem stringStart?_spelling {c q : Char} {after mark body : List Char}
    (h : stringStart? c after = some (mark, q, body)) : mark ++ q :: body = c :: after := by
  unfold stringStart? at h
  split at h
  · cases h
    rfl
  · split at h
    · next hrest =>
      dsimp only at h
      split at h <;> cases h
      rw [← hrest, List.takeWhile_append_dropWhile]
    · cases h

theorem readOperator_spelling (c : Char) (rest : List Char) :
    (readOperator c rest).1 ++ (readOperator c rest).2 = c :: rest ∧
      (readOperator c rest).1 ≠ [] := by
  unfold readOperator
  split
  · next op hop =>
    have hlong : ∀ op ∈ longOperators, op.toList ≠ [] := by decide
    have hfits := List.find?_some hop
    obtain ⟨after, hafter⟩ := List.isPrefixOf_iff_prefix.1 hfits
    refine ⟨?_, hlong op (List.mem_of_find?_eq_some hop)⟩
    rw [← hafter, ← String.length_toList, List.drop_left]
  · simp

theorem wordLexeme_spelling {word rest : List Char} {l : Lexeme}
    (h : wordLexeme word rest = .ok l) :
    l.text = word ∧ l.rest = rest := by
  unfold wordLexeme at h
  split at h <;> cases h
  exact ⟨rfl, rfl⟩

/-- The characters of a token and what follows it make up the text it was read from. -/
theorem readLexeme_spelling {c : Char} {after : List Char} {l : Lexeme}
    (h : readLexeme c after = .ok l) : l.text ++ l.rest = c :: after ∧ l.text ≠ [] := by
  unfold readLexeme at h
  split at h
  · next mark q body hstart =>
    split at h <;> cases h
    next s rest hread =>
    obtain ⟨hspell, hne⟩ := readString_spelling hread
    refine ⟨?_, by simp [hne]⟩
    rw [← stringStart?_spelling hstart, ← hspell, List.append_assoc]
  · split at h
    · next hword =>
      obtain ⟨htext, hrest⟩ := wordLexeme_spelling h
      refine ⟨by rw [htext, hrest, List.takeWhile_append_dropWhile], ?_⟩
      simp [htext, (Bool.and_eq_true_iff.1 hword).2]
    · split at h
      · split at h <;> cases h
        next hread => exact readNumber_spelling hread
      · cases h
        exact readOperator_spelling c after

end CallCompletion.Source
