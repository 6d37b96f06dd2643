import CallCompletion.Proofs.TextLengths
import CallCompletion.Snippet.Literal
import Mathlib.Data.List.Infix

/-!
# What block literals stand for

A block literal puts a text between triple quotes or between backquotes as it is. Reading it gives
the text back if and only if nothing in the text has a meaning of its own there. Between triple
quotes a run of three quotes, a quote or a backslash at the end, a backslash that makes an escape, a
carriage return and NUL do; between backquotes a backquote, a backslash, the start of a substitution
and a carriage return do.

Both directions rest on lengths: an escape is always longer than what it stands for, so a literal
that has one stands for a text shorter than what is written in it.
-/

namespace CallCompletion.Source

open CallCompletion.Text

/-! ## Texts in triple quotes -/

/-- The line ends of a text can be read without those of what follows it. -/
theorem plainNewlines_append {rest : List Char} (hreturn : '\r' ∉ rest)
    (hline : rest.head? ≠ some '\n') (cs : List Char) :
    plainNewlines (cs ++ rest) = plainNewlines cs ++ rest := by
  fun_induction plainNewlines cs with
  | case1 => exact plainNewlines_of_not_mem hreturn
  | case2 more ih => simp only [List.cons_append, plainNewlines, ih]
  | case3 more hmore ih =>
    have hnext : ∀ after, more ++ rest ≠ '\n' :: after := by
      intro after hafter
      cases more with
      | nil => exact hline (congrArg List.head? hafter)
      | cons c more => exact hmore more (by rw [(List.cons.inj hafter).1])
    rw [List.cons_append, plainNewlines, ih, List.cons_append]
    exact hnext
  | case4 c more _ hc ih => rw [List.cons_append, plainNewlines_cons hc, ih, List.cons_append]

/-- The text that a spelling stands for if it is one string literal and nothing else. -/
def literalText? [names : CharacterNames] (spelling : List Char) : Option (List Char) :=
  if '\x00' ∈ spelling then none
  else
    match plainNewlines spelling with
    | [] => none
    | c :: after =>
      match readLexeme c after with
      | .error _ => none
      | .ok l =>
        let token := RawString.ofToken l.text 1
        if l.kind = .string ∧ l.rest = [] ∧ token.isBytes = false ∧ token.isFormatted = false then
          (decodeText? names token.isRaw token.body).bind characters?
        else none

/-- The quotes around a text of several lines. -/
def tripleQuote : List Char := ['"', '"', '"']

theorem ofToken_tripleQuote (body : List Char) (line : Nat) :
    RawString.ofToken (tripleQuote ++ body ++ tripleQuote) line =
      ⟨false, false, false, false, body, line⟩ := by
  simp [RawString.ofToken, tripleQuote]

theorem readLexeme_tripleQuote (rest : List Char) :
    readLexeme '"' ('"' :: '"' :: rest) =
      match longStringRest '"' rest with
      | some (s, left) => .ok ⟨.string, '"' :: '"' :: '"' :: s, left⟩
      | none => .error .unterminatedString := by
  cases h : longStringRest '"' rest <;> simp [readLexeme, stringStart?, readString, h]

/-- A text in triple quotes is read if its quotes end it, and stands for what its escapes do. -/
theorem literalText?_eq_some_iff [names : CharacterNames] {body text : List Char} :
    literalText? (tripleQuote ++ body ++ tripleQuote) = some text ↔
      '\x00' ∉ body ∧
        longStringRest '"' (plainNewlines body ++ tripleQuote) =
          some (plainNewlines body ++ tripleQuote, []) ∧
        (decodeText? names false (plainNewlines body)).bind characters? = some text := by
  have hplain : plainNewlines (tripleQuote ++ body ++ tripleQuote) =
      '"' :: '"' :: '"' :: (plainNewlines body ++ tripleQuote) := by
    rw [plainNewlines_append (by decide) (by decide)]
    rfl
  have hnul : '\x00' ∈ tripleQuote ++ body ++ tripleQuote ↔ '\x00' ∈ body := by
    simp [tripleQuote]
  simp only [literalText?, hnul, hplain, readLexeme_tripleQuote]
  cases hread : longStringRest '"' (plainNewlines body ++ tripleQuote) with
  | none => simp
  | some read =>
    obtain ⟨s, left⟩ := read
    have hspelling : s ++ left = plainNewlines body ++ tripleQuote := longStringRest_spelling hread
    by_cases hleft : left = []
    · have hbody : s = plainNewlines body ++ tripleQuote := by
        simpa only [hleft, List.append_nil] using hspelling
      have htoken : RawString.ofToken ('"' :: '"' :: '"' :: (plainNewlines body ++ tripleQuote)) 1 =
          ⟨false, false, false, false, plainNewlines body, 1⟩ :=
        ofToken_tripleQuote (plainNewlines body) 1
      simp [hbody, hleft, htoken]
    · simp [hleft]

/-! ## Escapes that stand for themselves -/

theorem ne_of_not_beginsEscape {wide : Bool} {c : Char} (h : beginsEscape wide c = false) :
    c ≠ '\\' ∧ c ≠ '"' := by
  constructor <;> rintro rfl <;> simp [beginsEscape, escapeLetter?] at h

/-- No backslash of a text makes an escape. -/
def KeepsBackslashes (cs : List Char) : Prop :=
  ∀ c, ['\\', c] <:+: cs → beginsEscape true c = false

theorem keepsBackslashes_nil : KeepsBackslashes [] := by
  intro c hc
  cases List.infix_nil.1 hc

theorem keepsBackslashes_cons_iff {c : Char} {rest : List Char} :
    KeepsBackslashes (c :: rest) ↔
      (c = '\\' → ∀ d ∈ rest.head?, beginsEscape true d = false) ∧ KeepsBackslashes rest := by
  simp only [KeepsBackslashes, List.infix_cons_iff, or_imp, forall_and]
  apply and_congr_left'
  cases rest <;> grind

theorem keepsBackslashes_pair_iff {c : Char} {rest : List Char} :
    KeepsBackslashes ('\\' :: c :: rest) ↔ beginsEscape true c = false ∧ KeepsBackslashes rest := by
  rw [keepsBackslashes_cons_iff, keepsBackslashes_cons_iff]
  constructor
  · rintro ⟨hc, _, hrest⟩
    exact ⟨hc rfl c rfl, hrest⟩
  · rintro ⟨hc, hrest⟩
    have hne := (ne_of_not_beginsEscape hc).1
    refine ⟨fun _ d hd ↦ ?_, fun hbackslash ↦ absurd hbackslash hne, hrest⟩
    obtain rfl : c = d := Option.some.inj hd
    exact hc

/-- A text that is not longer than what its escapes stand for has none. -/
theorem decodeEscapesUpTo_of_length_le {names : CharacterNames} {fuel : Nat} {cs : List Char}
    {codes : List Nat} (h : decodeEscapesUpTo names true fuel cs = some codes)
    (hlength : cs.length ≤ codes.length) :
    codes = cs.map Char.toNat ∧ KeepsBackslashes cs := by
  fun_induction decodeEscapesUpTo names true fuel cs generalizing codes with
  | case1 cs =>
    cases h
    obtain rfl : cs = [] := List.eq_nil_of_length_eq_zero (Nat.le_zero.1 hlength)
    exact ⟨rfl, keepsBackslashes_nil⟩
  | case2 =>
    cases h
    exact ⟨rfl, keepsBackslashes_nil⟩
  | case3 =>
    cases h
    exact ⟨rfl, keepsBackslashes_cons_iff.2 ⟨by simp, keepsBackslashes_nil⟩⟩
  | case4 fuel c rest ih =>
    obtain ⟨⟨first, after⟩, hescape, h⟩ := Option.bind_eq_some_iff.1 h
    obtain ⟨more, hmore, rfl⟩ := Option.map_eq_some_iff.1 h
    have hmore_length := length_of_decodeEscapesUpTo hmore
    simp only [List.length_append, List.length_cons] at hlength
    cases hc : beginsEscape true c with
    | true =>
      have hshort := length_of_readEscape_of_begins hc hescape
      omega
    | false =>
      rw [readEscape_of_not_begins hc] at hescape
      cases hescape
      rw [List.length_cons, List.length_singleton] at hlength
      obtain ⟨rfl, hrest⟩ := ih _ hmore (by omega)
      exact ⟨rfl, keepsBackslashes_pair_iff.2 ⟨hc, hrest⟩⟩
  | case5 fuel c rest halone hpair ih =>
    obtain ⟨more, hmore, rfl⟩ := Option.map_eq_some_iff.1 h
    obtain ⟨rfl, hrest⟩ := ih hmore (Nat.le_of_succ_le_succ hlength)
    have hc : c ≠ '\\' := ne_backslash halone hpair
    exact ⟨rfl, keepsBackslashes_cons_iff.2 ⟨fun hbackslash ↦ absurd hbackslash hc, hrest⟩⟩

/-- A text whose backslashes begin no escape stands for itself. -/
theorem decodeEscapesUpTo_of_keepsBackslashes {names : CharacterNames} {fuel : Nat}
    {cs : List Char} (h : KeepsBackslashes cs) (hfuel : cs.length ≤ fuel) :
    decodeEscapesUpTo names true fuel cs = some (cs.map Char.toNat) := by
  fun_induction decodeEscapesUpTo names true fuel cs with
  | case1 cs =>
    obtain rfl : cs = [] := List.eq_nil_of_length_eq_zero (Nat.le_zero.1 hfuel)
    rfl
  | case2 => rfl
  | case3 => rfl
  | case4 fuel c rest ih =>
    obtain ⟨hc, hrest⟩ := keepsBackslashes_pair_iff.1 h
    have hmore := ih rest hrest (by simp only [List.length_cons] at hfuel; omega)
    simp [readEscape_of_not_begins hc, hmore]
  | case5 fuel c rest _ _ ih =>
    rw [ih (keepsBackslashes_cons_iff.1 h).2 (Nat.le_of_succ_le_succ hfuel)]
    rfl

/-- What stands between the quotes is the text itself if and only if it has no escapes. -/
theorem characters?_decodeText?_iff {names : CharacterNames} {body text : List Char}
    (hlength : body.length ≤ text.length) :
    (decodeText? names false body).bind characters? = some text ↔
      text = body ∧ KeepsBackslashes body := by
  rw [decodeText?, if_neg Bool.false_ne_true, Option.bind_eq_some_iff]
  constructor
  · rintro ⟨codes, hcodes, htext⟩
    rw [length_of_characters? htext] at hlength
    obtain ⟨rfl, hkeeps⟩ := decodeEscapesUpTo_of_length_le hcodes hlength
    rw [characters?_map_toNat] at htext
    exact ⟨(Option.some.inj htext).symm, hkeeps⟩
  · rintro ⟨rfl, hkeeps⟩
    exact ⟨_, decodeEscapesUpTo_of_keepsBackslashes hkeeps (Nat.le_refl _),
      characters?_map_toNat text⟩

/-! ## Where the closing quotes stand -/

/-- The quotes after a text without escapes are the first three in a row. -/
theorem longStringRest_tripleQuote_iff {text : List Char} (h : KeepsBackslashes text) :
    longStringRest '"' (text ++ tripleQuote) = some (text ++ tripleQuote, []) ↔
      ¬ tripleQuote <:+: text ∧ text.getLast? ≠ some '"' ∧ text.getLast? ≠ some '\\' := by
  induction text using longStringRest.induct '"' with
  | case1 => simp [longStringRest, tripleQuote]
  | case2 => simp [longStringRest, tripleQuote]
  | case3 c rest ih =>
    obtain ⟨hc, hrest⟩ := keepsBackslashes_pair_iff.1 h
    obtain ⟨hbackslash, hquote⟩ := ne_of_not_beginsEscape hc
    have hinfix : tripleQuote <:+: '\\' :: c :: rest ↔ tripleQuote <:+: rest := by
      simp [List.infix_cons_iff, tripleQuote, List.cons_prefix_cons, hquote.symm]
    rw [List.cons_append, List.cons_append, longStringRest, hinfix]
    cases rest with
    | nil => simp [longStringRest, tripleQuote, hbackslash, hquote]
    | cons d more => simpa using ih hrest
  | case4 c rest _ _ hclosing =>
    obtain ⟨hc, hquotes⟩ := Bool.and_eq_true_iff.1 hclosing
    obtain rfl : c = '"' := eq_of_beq hc
    obtain ⟨after, rfl⟩ := List.isPrefixOf_iff_prefix.1 hquotes
    have hinfix : tripleQuote <:+: '"' :: (['"', '"'] ++ after) := ⟨[], after, rfl⟩
    have hread : longStringRest '"' ('"' :: (['"', '"'] ++ after) ++ tripleQuote) =
        some (tripleQuote, after ++ tripleQuote) := by
      simp [longStringRest, tripleQuote]
    rw [hread, iff_false_right (fun hopen ↦ hopen.1 hinfix)]
    simp [tripleQuote]
  | case5 c rest halone hpair hclosing ih =>
    have hc : c ≠ '\\' := ne_backslash halone hpair
    have hinfix : tripleQuote <:+: c :: rest ↔ tripleQuote <:+: rest := by
      rw [List.infix_cons_iff, or_iff_right]
      rintro ⟨after, hafter⟩
      obtain ⟨rfl, rfl⟩ := List.cons.inj hafter
      exact hclosing (by simp)
    rw [List.cons_append, longStringRest_cons hc, hinfix]
    split
    · next hends =>
      -- The text ends with a quote, which closes it together with two of the quotes that follow.
      obtain ⟨hquote, hquotes⟩ := Bool.and_eq_true_iff.1 hends
      obtain rfl : c = '"' := eq_of_beq hquote
      rcases rest with _ | ⟨d, _ | ⟨e, more⟩⟩
      · simp [tripleQuote]
      · obtain rfl : '"' = d := by simpa [tripleQuote] using hquotes
        simp [tripleQuote]
      · have hprefix : ['"', '"'].isPrefixOf (d :: e :: more) = true := by
          simpa [List.cons_prefix_cons] using hquotes
        exact absurd (Bool.and_eq_true_iff.2 ⟨hquote, hprefix⟩) hclosing
    · next hends =>
      have hrest := ih (keepsBackslashes_cons_iff.1 h).2
      cases rest with
      | nil =>
        have hquote : c ≠ '"' := by simpa [tripleQuote] using hends
        simp [longStringRest, tripleQuote, hc, hquote]
      | cons d more => simpa using hrest

/-- A text in which nothing has a meaning of its own between triple quotes. -/
structure StandsInTripleQuotes (text : List Char) : Prop where
  no_nul : '\x00' ∉ text
  no_return : '\r' ∉ text
  no_closing : ¬ tripleQuote <:+: text
  last_ne_quote : text.getLast? ≠ some '"'
  last_ne_backslash : text.getLast? ≠ some '\\'
  keeps_backslashes : KeepsBackslashes text

/-- A text in triple quotes is read as itself if and only if nothing in it has a meaning of its own
there. -/
theorem literalText?_eq_self_iff [CharacterNames] (text : List Char) :
    literalText? (tripleQuote ++ text ++ tripleQuote) = some text ↔ StandsInTripleQuotes text := by
  rw [literalText?_eq_some_iff, characters?_decodeText?_iff (length_plainNewlines_le text)]
  constructor
  · rintro ⟨hnul, hread, hsame, hkeeps⟩
    have hreturn : '\r' ∉ text := by
      rw [hsame]
      exact return_not_mem_plainNewlines text
    rw [← hsame] at hread hkeeps
    obtain ⟨hclosing, hquote, hbackslash⟩ := (longStringRest_tripleQuote_iff hkeeps).1 hread
    exact ⟨hnul, hreturn, hclosing, hquote, hbackslash, hkeeps⟩
  · rintro ⟨hnul, hreturn, hclosing, hquote, hbackslash, hkeeps⟩
    rw [plainNewlines_of_not_mem hreturn]
    have hread := (longStringRest_tripleQuote_iff hkeeps).2 ⟨hclosing, hquote, hbackslash⟩
    exact ⟨hnul, hread, rfl, hkeeps⟩

end CallCompletion.Source

namespace CallCompletion.TemplateLiteral

open CallCompletion.Source
open CallCompletion.Text

/-! ## Texts in backquotes

A template literal ends at the first backquote without a backslash before it, and `${` starts a
substitution, with which it is no fixed text. Its value is a sequence of UTF-16 code units. -/

/-- The code units of a code point. -/
def unitsOf (code : Nat) : List Nat :=
  if code < 0x10000 then [code]
  else [0xd800 + (code - 0x10000) / 0x400, 0xdc00 + (code - 0x10000) % 0x400]

/-- The code units of a text. -/
def units (text : List Char) : List Nat := text.flatMap fun c ↦ unitsOf c.toNat

/-- The character an escape letter stands for, if it is not the letter itself. -/
def controlLetter? : Char → Option Char
  | 'b' => some '\x08'
  | 'f' => some '\x0c'
  | 'n' => some '\n'
  | 'r' => some '\r'
  | 't' => some '\t'
  | 'v' => some '\x0b'
  | _ => none

/-- The code point in braces, or the code unit of four digits, after a backslash and `u`. -/
def readUnicode : List Char → Option (List Nat × List Char)
  | '{' :: rest =>
    let digits := rest.takeWhile fun c ↦ (hexValue? c).isSome
    match rest.dropWhile fun c ↦ (hexValue? c).isSome with
    | '}' :: after =>
      if digits ≠ [] ∧ valueInBase 16 digits ≤ 0x10ffff then
        some (unitsOf (valueInBase 16 digits), after)
      else none
    | _ => none
  | rest => (hexDigits? 4 0 rest).map fun read ↦ ([read.1], read.2)

/-- The code units an escape stands for, given what follows its backslash: a line end continues the
line, and a character without a meaning of its own stands for itself. -/
def readEscape (c : Char) (rest : List Char) : Option (List Nat × List Char) :=
  if c = '\n' ∨ c = '\u2028' ∨ c = '\u2029' then some ([], rest)
  else
    match controlLetter? c with
    | some control => some ([control.toNat], rest)
    | none =>
      if c = '0' ∧ rest.head?.all (!·.isDigit) then some ([0], rest)
      else if c.isDigit then none
      else if c = 'x' then (hexDigits? 2 0 rest).map fun read ↦ ([read.1], read.2)
      else if c = 'u' then readUnicode rest
      else some (unitsOf c.toNat, rest)

/-- The value of what follows the opening backquote, and what is left after the closing one; `fuel`
is the length of the text. -/
def readRest : Nat → List Char → Option (List Nat × List Char)
  | 0, _ => none
  | _, [] => none
  | fuel + 1, c :: rest =>
    if c = '\x60' then some ([], rest)
    else if c = '$' ∧ rest.head? = some '{' then none
    else if c = '\\' then
      match rest with
      | [] => none
      | d :: after =>
        (readEscape d after).bind fun (codes, later) ↦
          (readRest fuel later).map fun (value, left) ↦ (codes ++ value, left)
    else (readRest fuel rest).map fun (value, left) ↦ (unitsOf c.toNat ++ value, left)

/-- The value of a spelling that is one template literal without substitutions and nothing else. -/
def value? (spelling : List Char) : Option (List Nat) :=
  match plainNewlines spelling with
  | '\x60' :: rest =>
    (readRest rest.length rest).bind fun (value, left) ↦ if left.isEmpty then some value else none
  | _ => none

/-! ## Lengths in code units -/

theorem units_cons (c : Char) (rest : List Char) :
    units (c :: rest) = unitsOf c.toNat ++ units rest := by
  simp [units]

theorem length_unitsOf_pos (code : Nat) : 0 < (unitsOf code).length := by
  unfold unitsOf
  split <;> simp

theorem length_unitsOf_le (code : Nat) : (unitsOf code).length ≤ 2 := by
  unfold unitsOf
  split <;> simp

theorem length_units_cons (c : Char) (rest : List Char) :
    (units (c :: rest)).length = (unitsOf c.toNat).length + (units rest).length := by
  rw [units_cons, List.length_append]

theorem length_units_suffix {cs rest : List Char} (h : rest <:+ cs) :
    (units rest).length ≤ (units cs).length := by
  obtain ⟨front, rfl⟩ := h
  simp [units]

theorem return_mem_units_iff {cs : List Char} : 13 ∈ units cs ↔ '\r' ∈ cs := by
  have hunit (c : Char) : 13 ∈ unitsOf c.toNat ↔ '\r' = c := by
    constructor
    · intro hmem
      have hcode : c.toNat = 13 := by
        unfold unitsOf at hmem
        split at hmem
        · exact (List.mem_singleton.1 hmem).symm
        · simp only [List.mem_cons, List.not_mem_nil, or_false] at hmem
          omega
      rw [← Char.ofNat_toNat c, hcode]
    · rintro rfl
      decide
  simp only [units, List.mem_flatMap, hunit, exists_eq_right']

/-- Plain line ends take no more code units than the text had. -/
theorem length_units_plainNewlines_le (cs : List Char) :
    (units (plainNewlines cs)).length ≤ (units cs).length := by
  have hends : (unitsOf '\n'.toNat).length = (unitsOf '\r'.toNat).length := rfl
  fun_induction plainNewlines cs with
  | case1 => exact Nat.le_refl _
  | case2 rest ih =>
    simp only [length_units_cons]
    omega
  | case3 rest _ ih =>
    simp only [length_units_cons]
    omega
  | case4 c rest _ _ ih =>
    rw [length_units_cons, length_units_cons]
    exact Nat.add_le_add_left ih _

theorem length_of_readUnicode {rest after : List Char} {codes : List Nat}
    (h : readUnicode rest = some (codes, after)) :
    codes.length + (units after).length ≤ (units rest).length + 1 := by
  unfold readUnicode at h
  split at h
  · next rest =>
    dsimp only at h
    split at h
    · next later hlater =>
      split at h <;> cases h
      have hsuffix : '}' :: after <:+ rest := by
        rw [← hlater]
        exact List.dropWhile_suffix _
      have hrest := length_units_suffix hsuffix
      have hcodes := length_unitsOf_le
        (valueInBase 16 (rest.takeWhile fun c ↦ (hexValue? c).isSome))
      have hopening := length_unitsOf_pos '{'.toNat
      have hclosing := length_unitsOf_pos '}'.toNat
      rw [length_units_cons] at hrest ⊢
      omega
    · cases h
  · obtain ⟨hcodes, hsuffix⟩ := suffix_of_hexEscape h
    have hrest := length_units_suffix hsuffix
    omega

/-- An escape stands for fewer code units than it has. -/
theorem length_of_readEscape {c : Char} {rest after : List Char} {codes : List Nat}
    (h : readEscape c rest = some (codes, after)) :
    codes.length + (units after).length ≤ (units (c :: rest)).length := by
  have hc := length_unitsOf_pos c.toNat
  rw [length_units_cons]
  unfold readEscape at h
  split at h
  · cases h
    rw [List.length_nil]
    omega
  split at h
  · cases h
    rw [List.length_singleton]
    omega
  split at h
  · cases h
    rw [List.length_singleton]
    omega
  split at h
  · cases h
  split at h
  · obtain ⟨hcodes, hsuffix⟩ := suffix_of_hexEscape h
    have hrest := length_units_suffix hsuffix
    omega
  split at h
  · have hunicode := length_of_readUnicode h
    omega
  · cases h
    exact Nat.le_refl _

theorem length_of_readRest {fuel : Nat} {cs left : List Char} {value : List Nat}
    (h : readRest fuel cs = some (value, left)) :
    value.length + 1 + (units left).length ≤ (units cs).length := by
  fun_induction readRest fuel cs generalizing value with
  | case1 => cases h
  | case2 => cases h
  | case3 fuel rest =>
    cases h
    have hclosing := length_unitsOf_pos '\x60'.toNat
    rw [length_units_cons, List.length_nil]
    omega
  | case4 => cases h
  | case5 => cases h
  | case6 fuel d after _ _ ih =>
    obtain ⟨⟨codes, later⟩, hescape, h⟩ := Option.bind_eq_some_iff.1 h
    obtain ⟨⟨more, _⟩, hmore, hread⟩ := Option.map_eq_some_iff.1 h
    dsimp only at hread
    cases hread
    have hrest := ih later hmore
    have hcodes := length_of_readEscape hescape
    rw [length_units_cons '\\', List.length_append]
    omega
  | case7 fuel c rest _ _ _ ih =>
    obtain ⟨⟨more, _⟩, hmore, hread⟩ := Option.map_eq_some_iff.1 h
    dsimp only at hread
    cases hread
    have hrest := ih hmore
    rw [length_units_cons, List.length_append]
    omega

/-! ## Characters that stand for themselves -/

/-- A text that holds neither a backquote nor a backslash nor the start of a substitution. -/
@[mk_iff]
structure IsPlain (body : List Char) : Prop where
  no_backquote : '\x60' ∉ body
  no_backslash : '\\' ∉ body
  no_substitution : ¬ ['$', '{'] <:+: body

theorem isPlain_nil : IsPlain [] := ⟨nofun, nofun, by simp⟩

theorem isPlain_cons_iff {c : Char} {body : List Char} :
    IsPlain (c :: body) ↔
      c ≠ '\x60' ∧ ¬(c = '$' ∧ body.head? = some '{') ∧ c ≠ '\\' ∧ IsPlain body := by
  have hsubstitution : ['$', '{'] <:+: c :: body ↔
      c = '$' ∧ body.head? = some '{' ∨ ['$', '{'] <:+: body := by
    rw [List.infix_cons_iff]
    cases body <;> grind
  simp only [isPlain_iff, hsubstitution, List.mem_cons, not_or, ne_comm, ne_eq]
  tauto

theorem head?_append_backquote (body left : List Char) :
    (body ++ '\x60' :: left).head? = some '{' ↔ body.head? = some '{' := by
  cases body <;> simp

/-- Code units that are as many as are written come from characters that stand for themselves. -/
theorem readRest_of_length_le {fuel : Nat} {cs left : List Char} {value : List Nat}
    (h : readRest fuel cs = some (value, left))
    (hlength : (units cs).length ≤ value.length + 1 + (units left).length) :
    ∃ body, cs = body ++ '\x60' :: left ∧ value = units body ∧ IsPlain body := by
  fun_induction readRest fuel cs generalizing value with
  | case1 => cases h
  | case2 => cases h
  | case3 fuel rest =>
    cases h
    exact ⟨[], rfl, rfl, isPlain_nil⟩
  | case4 => cases h
  | case5 => cases h
  | case6 fuel d after _ _ ih =>
    -- With an escape there are fewer code units than are written.
    obtain ⟨⟨codes, later⟩, hescape, h⟩ := Option.bind_eq_some_iff.1 h
    obtain ⟨⟨more, _⟩, hmore, hread⟩ := Option.map_eq_some_iff.1 h
    dsimp only at hread
    cases hread
    have hrest := length_of_readRest hmore
    have hcodes := length_of_readEscape hescape
    have hbackslash := length_unitsOf_pos '\\'.toNat
    rw [length_units_cons '\\', List.length_append] at hlength
    omega
  | case7 fuel c rest hbackquote hopening hbackslash ih =>
    obtain ⟨⟨more, _⟩, hmore, hread⟩ := Option.map_eq_some_iff.1 h
    dsimp only at hread
    cases hread
    rw [length_units_cons, List.length_append] at hlength
    obtain ⟨body, rfl, rfl, hplain⟩ := ih hmore (by omega)
    rw [head?_append_backquote] at hopening
    exact ⟨c :: body, rfl, (units_cons c body).symm,
      isPlain_cons_iff.2 ⟨hbackquote, hopening, hbackslash, hplain⟩⟩

theorem readRest_of_isPlain {fuel : Nat} {body : List Char} (h : IsPlain body)
    (hfuel : body.length < fuel) (left : List Char) :
    readRest fuel (body ++ '\x60' :: left) = some (units body, left) := by
  induction body generalizing fuel with
  | nil =>
    cases fuel with
    | zero => cases hfuel
    | succ fuel => rfl
  | cons c body ih =>
    cases fuel with
    | zero => cases hfuel
    | succ fuel =>
      obtain ⟨hbackquote, hopening, hbackslash, hplain⟩ := isPlain_cons_iff.1 h
      rw [← head?_append_backquote body left] at hopening
      rw [List.cons_append, units_cons]
      unfold readRest
      rw [if_neg hbackquote, if_neg hopening, if_neg hbackslash,
        ih hplain (Nat.lt_of_succ_lt_succ hfuel)]
      rfl

/-- A text in which nothing has a meaning of its own between backquotes. -/
structure StandsInBackquotes (text : List Char) : Prop extends IsPlain text where
  no_return : '\r' ∉ text

/-- A text between backquotes has the value that is read up to the closing one. -/
theorem value?_eq_some_iff {text : List Char} {value : List Nat} :
    value? ('\x60' :: text ++ ['\x60']) = some value ↔
      readRest (plainNewlines text ++ ['\x60']).length (plainNewlines text ++ ['\x60']) =
        some (value, []) := by
  have hplain : plainNewlines ('\x60' :: text ++ ['\x60']) =
      '\x60' :: (plainNewlines text ++ ['\x60']) := by
    rw [plainNewlines_append (by decide) (by decide)]
    rfl
  simp only [value?, hplain]
  constructor
  · intro h
    obtain ⟨⟨found, left⟩, hread, hvalue⟩ := Option.bind_eq_some_iff.1 h
    dsimp only at hvalue
    split at hvalue
    · next hleft =>
      obtain rfl := List.isEmpty_iff.1 hleft
      cases hvalue
      exact hread
    · cases hvalue
  · intro h
    rw [h]
    rfl

/-- A text in backquotes is read as itself if and only if nothing in it has a meaning of its own
there. -/
theorem value?_eq_units_iff (text : List Char) :
    value? ('\x60' :: text ++ ['\x60']) = some (units text) ↔ StandsInBackquotes text := by
  rw [value?_eq_some_iff]
  constructor
  · intro h
    have hlength := length_units_plainNewlines_le text
    have hclosing : (units (plainNewlines text ++ ['\x60'])).length =
        (units (plainNewlines text)).length + 1 := by
      simp [units, unitsOf]
    obtain ⟨body, hbody, hunits, hplain⟩ := readRest_of_length_le h (by
      rw [hclosing]
      exact Nat.succ_le_succ hlength)
    obtain rfl : plainNewlines text = body := List.append_cancel_right hbody
    have hreturn : '\r' ∉ text := by
      rw [← return_mem_units_iff, hunits, return_mem_units_iff]
      exact return_not_mem_plainNewlines text
    rw [plainNewlines_of_not_mem hreturn] at hplain
    exact ⟨hplain, hreturn⟩
  · rintro ⟨hbody, hreturn⟩
    rw [plainNewlines_of_not_mem hreturn, readRest_of_isPlain hbody (by simp)]

end CallCompletion.TemplateLiteral

namespace CallCompletion.Literal

open CallCompletion.Source
open CallCompletion.TemplateLiteral

/-! ## Block literals -/

/-- A block literal of a dialect is one literal that stands for its text if and only if nothing in
the text has a meaning of its own between the quotes of the dialect. -/
theorem block_denotes_iff [CharacterNames] (text : String) :
    (literalText? (block .python text).toList = some text.toList ↔
      StandsInTripleQuotes text.toList) ∧
    (value? (block .typescript text).toList = some (units text.toList) ↔
      StandsInBackquotes text.toList) := by
  constructor
  · rw [← literalText?_eq_self_iff]
    simp [block, tripleQuote]
  · rw [← value?_eq_units_iff]
    simp [block]

/-- Quotes and backquotes at the ends of a text: the literal ends before its last character. -/
theorem block_misread :
    literalText? (block .python "\"0101\"").toList = none ∧
      value? (block .typescript "`#`").toList = none := by
  constructor <;> decide

-- The picture that is known by name can stand in both.
example :
    literalText? (block .python defaultImage).toList = some defaultImage.toList ∧
      value? (block .typescript defaultImage).toList = some (units defaultImage.toList) := by
  decide +kernel

end CallCompletion.Literal
