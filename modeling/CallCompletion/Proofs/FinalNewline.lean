import CallCompletion.Proofs.Lexemes

/-!
# One more line feed at the end of a text

Two readers walk side by side, one over a text that ends with a line feed and one over the same text
with a second line feed after it. They take the same steps as long as the first one has something
left. Then it either stands behind a continuation mark, which needs one more line, or both come to
the end with the same tokens, except for the lines on which open blocks and the text end.
-/

namespace CallCompletion.Source

open CallCompletion.Text

/-! ## Texts that end with a line feed -/

/-- A text that ends with a line feed. -/
def EndsLine (cs : List Char) : Prop := cs.getLast? = some '\n'

theorem endsLine_iff {cs : List Char} : EndsLine cs ↔ ∃ init, cs = init ++ ['\n'] :=
  List.getLast?_eq_some_iff

theorem EndsLine.append (cs : List Char) : EndsLine (cs ++ ['\n']) := endsLine_iff.2 ⟨cs, rfl⟩

theorem EndsLine.ne_nil {cs : List Char} (h : EndsLine cs) : cs ≠ [] := by
  rintro rfl
  cases h

theorem EndsLine.of_cons {c : Char} {rest : List Char} (h : EndsLine (c :: rest))
    (hrest : rest ≠ []) : EndsLine rest := by
  rwa [EndsLine, List.getLast?_cons_of_ne_nil hrest] at h

theorem EndsLine.tail {c : Char} {rest : List Char} (h : EndsLine (c :: rest)) (hc : c ≠ '\n') :
    EndsLine rest := by
  apply h.of_cons
  rintro rfl
  exact hc (by simpa [EndsLine] using h)

theorem EndsLine.dropWhile {p : Char → Bool} (hp : p '\n' = false) {cs : List Char}
    (h : EndsLine cs) : EndsLine (cs.dropWhile p) := by
  obtain ⟨init, rfl⟩ := endsLine_iff.1 h
  rw [dropWhile_append_newline hp]
  exact .append _

theorem EndsLine.skipComment {cs : List Char} (h : EndsLine cs) : EndsLine (skipComment cs) := by
  unfold Source.skipComment
  split
  · exact h.dropWhile rfl
  · exact h

theorem skipComment_append_newline (cs : List Char) :
    skipComment (cs ++ ['\n']) = skipComment cs ++ ['\n'] := by
  unfold skipComment
  rw [dropWhile_append_newline rfl]
  cases cs with
  | nil => rfl
  | cons c rest =>
    by_cases hc : c = '#' <;> simp [hc]

theorem skipComment_suffix (cs : List Char) : skipComment cs <:+ cs := by
  unfold skipComment
  split
  · exact List.dropWhile_suffix _
  · exact List.suffix_rfl

/-- A continuation mark on a last line that nothing follows. -/
def continuationEnd : List Char := ['\\', '\n']

/-! ## Margins -/

/-- A margin ends too early only behind a continuation mark. -/
theorem continuationEnd_suffix_of_measureMargin {line l : Nat} {m : Margin} {cs : List Char}
    (h : measureMargin line m cs = .error (.unexpectedEnd, l)) : continuationEnd <:+ cs := by
  fun_induction measureMargin line m cs with
  | case1 line m rest ih => exact (ih h).trans (List.suffix_cons ' ' rest)
  | case2 line m rest ih => exact (ih h).trans (List.suffix_cons '\t' rest)
  | case3 line m rest ih => exact (ih h).trans (List.suffix_cons '\x0c' rest)
  | case4 => exact List.suffix_rfl
  | case5 line m rest hmore ih => exact (ih h).trans (List.suffix_append continuationEnd rest)
  | case6 => cases h
  | case7 => cases h

theorem measureMargin_append_newline (line : Nat) (m : Margin) (cs : List Char) :
    (∃ l, measureMargin line m cs = .error (.unexpectedEnd, l)) ∨
      (∃ e e', measureMargin line m cs = .error e ∧
        measureMargin line m (cs ++ ['\n']) = .error e') ∨
      ∃ m' l rest, measureMargin line m cs = .ok (m', l, rest) ∧
        measureMargin line m (cs ++ ['\n']) = .ok (m', l, rest ++ ['\n']) := by
  fun_induction measureMargin line m cs with
  | case1 line m rest ih => exact ih
  | case2 line m rest ih => exact ih
  | case3 line m rest ih => exact ih
  | case4 line m => exact .inl ⟨line, rfl⟩
  | case5 line m rest hmore ih =>
    have hextended : measureMargin line m ('\\' :: '\n' :: (rest ++ ['\n'])) =
        measureMargin (line + 1)
          { m with continued := if m.continued = 0 then m.column else m.continued }
          (rest ++ ['\n']) := by
      rw [measureMargin]
      simp
    rw [List.cons_append, List.cons_append, hextended]
    exact ih
  | case6 line m rest _ hbreak =>
    refine .inr (.inl ⟨(.badContinuation, line), ?_⟩)
    cases rest with
    | nil => exact ⟨(.unexpectedEnd, line), rfl, rfl⟩
    | cons c rest =>
      have hc : c ≠ '\n' := fun h ↦ hbreak rest (h ▸ rfl)
      exact ⟨(.badContinuation, line), rfl, by simp [measureMargin, hc]⟩
  | case7 line m rest hspace htab hfeed _ _ hmark =>
    refine .inr (.inr ⟨m, line, rest, rfl, ?_⟩)
    cases rest with
    | nil => rfl
    | cons c rest =>
      have hc : c ≠ ' ' ∧ c ≠ '\t' ∧ c ≠ '\x0c' ∧ c ≠ '\\' :=
        ⟨fun h ↦ hspace rest (h ▸ rfl), fun h ↦ htab rest (h ▸ rfl), fun h ↦ hfeed rest (h ▸ rfl),
          fun h ↦ hmark rest (h ▸ rfl)⟩
      simp [measureMargin, hc]

theorem measureMargin_endsLine {line l : Nat} {m m' : Margin} {cs rest : List Char}
    (hends : EndsLine cs) (h : measureMargin line m cs = .ok (m', l, rest)) :
    EndsLine rest ∧ rest <:+ cs := by
  fun_induction measureMargin line m cs with
  | case1 line m cs ih =>
    have hrest := ih (hends.tail (by decide)) h
    exact ⟨hrest.1, hrest.2.trans (List.suffix_cons ' ' cs)⟩
  | case2 line m cs ih =>
    have hrest := ih (hends.tail (by decide)) h
    exact ⟨hrest.1, hrest.2.trans (List.suffix_cons '\t' cs)⟩
  | case3 line m cs ih =>
    have hrest := ih (hends.tail (by decide)) h
    exact ⟨hrest.1, hrest.2.trans (List.suffix_cons '\x0c' cs)⟩
  | case4 => cases h
  | case5 line m cs hmore ih =>
    have hrest := ih ((hends.tail (by decide)).of_cons fun hnil ↦ hmore (by rw [hnil])) h
    exact ⟨hrest.1, hrest.2.trans (List.suffix_append ['\\', '\n'] cs)⟩
  | case6 => cases h
  | case7 =>
    cases h
    exact ⟨hends, List.suffix_rfl⟩

/-! ## Steps -/

/-- The place of the second reader: one more line feed is left. -/
def Cursor.extend (cur : Cursor) : Cursor := { cur with rest := cur.rest ++ ['\n'] }

theorem Cursor.extend_brackets (cur : Cursor) : cur.extend.brackets = cur.brackets := rfl

theorem Cursor.extend_margins (cur : Cursor) : cur.extend.margins = cur.margins := rfl

/-- A bound on the steps a reader has left: two steps move on by a character at least, and the start
of a line takes one more. -/
def Cursor.stepsLeft (cur : Cursor) (atStart : Bool) : Nat :=
  2 * cur.rest.length + if atStart then 3 else 2

theorem Cursor.stepsLeft_true (cur : Cursor) :
    cur.stepsLeft true = 2 * cur.rest.length + 3 := rfl

theorem Cursor.stepsLeft_false (cur : Cursor) :
    cur.stepsLeft false = 2 * cur.rest.length + 2 := rfl

/-- How a step of the first reader over a text and the same step of the second one can end, each
with fewer than `bound` steps left. -/
inductive StepsAlike {τ : Type} (text : List Char) (bound : Nat) :
    Except Break (τ × Cursor × Bool) → Except Break (τ × Cursor × Bool) → Prop
  | dangling {b : Break} {other : Except Break (τ × Cursor × Bool)}
      (hfault : b.fault = .unexpectedEnd) (hmark : continuationEnd <:+ text) :
      StepsAlike text bound (.error b) other
  | broken {b b' : Break} : StepsAlike text bound (.error b) (.error b')
  | onward {t : τ} {next : Cursor} {atStart : Bool} (hends : EndsLine next.rest)
      (hrest : next.rest <:+ text) (hless : next.stepsLeft atStart < bound) :
      StepsAlike text bound (.ok (t, next, atStart)) (.ok (t, next.extend, atStart))
  | last {t : τ} {next : Cursor} (hempty : next.rest = []) (hless : next.stepsLeft true < bound) :
      StepsAlike text bound (.ok (t, next, true))
        (.ok (t, { next with rest := ['\n'], line := next.line + 1 }, true))

theorem StepsAlike.mono {τ : Type} {text text' : List Char} {bound bound' : Nat}
    {left right : Except Break (τ × Cursor × Bool)} (h : StepsAlike text bound left right)
    (htext : text <:+ text') (hbound : bound ≤ bound') : StepsAlike text' bound' left right := by
  cases h with
  | dangling hfault hmark => exact .dangling hfault (hmark.trans htext)
  | broken => exact .broken
  | onward hends hrest hless => exact .onward hends (hrest.trans htext) (hless.trans_le hbound)
  | last hempty hless => exact .last hempty (hless.trans_le hbound)

theorem StepsAlike.afterNewline {τ : Type} (t : τ) (cur : Cursor) {after : List Char}
    (hends : EndsLine ('\n' :: after)) :
    StepsAlike ('\n' :: after) (2 * after.length + 4) (.ok (t, cur.afterNewline after, true))
      (.ok (t, cur.extend.afterNewline (after ++ ['\n']), true)) := by
  cases after with
  | nil => exact .last rfl (Nat.lt_succ_self _)
  | cons c rest =>
    exact .onward (hends.of_cons (by simp)) (List.suffix_cons '\n' (c :: rest)) (Nat.lt_succ_self _)

theorem Cursor.emit_extend (cur : Cursor) (l : Lexeme) :
    cur.extend.emit l.extend = (cur.emit l).map fun (t, next) ↦ (t, next.extend) := by
  obtain ⟨kind, text, rest⟩ := l
  unfold Cursor.emit Lexeme.extend
  dsimp only
  split
  · next single =>
    simp only [Cursor.extend]
    cases stepBrackets single cur.line cur.brackets <;> rfl
  · rfl

theorem readLexeme_endsLine {c : Char} {after : List Char} {l : Lexeme} (hends : EndsLine after)
    (h : readLexeme c after = .ok l) : EndsLine l.rest := by
  obtain ⟨init, rfl⟩ := endsLine_iff.1 hends
  rw [readLexeme_append_newline] at h
  cases hread : readLexeme c init with
  | error fault =>
    rw [hread] at h
    cases h
  | ok l₀ =>
    rw [hread] at h
    cases h
    exact .append l₀.rest

theorem readLexeme_rest_suffix {c : Char} {after : List Char} {l : Lexeme}
    (h : readLexeme c after = .ok l) : l.rest <:+ after := by
  obtain ⟨hspell, hne⟩ := readLexeme_spelling h
  cases htext : l.text with
  | nil => exact absurd htext hne
  | cons d text =>
    rw [htext, List.cons_append, List.cons.injEq] at hspell
    exact ⟨text, hspell.2⟩

/-- A final line feed changes no token inside a line. -/
theorem Cursor.readFrom_alike (cur : Cursor) (c : Char) {after : List Char}
    (hends : EndsLine after) :
    StepsAlike after (2 * after.length + 3)
      ((cur.readFrom c after).map fun (t, next) ↦ (some t, next, false))
      ((cur.extend.readFrom c (after ++ ['\n'])).map fun (t, next) ↦ (some t, next, false)) := by
  unfold Cursor.readFrom
  rw [readLexeme_append_newline]
  cases hread : readLexeme c after with
  | error fault => exact .broken
  | ok l =>
    have hrest := readLexeme_rest_suffix hread
    simp only [Except.map, Cursor.emit_extend]
    cases hemit : cur.emit l with
    | error b => exact .broken
    | ok emitted =>
      obtain ⟨t, next⟩ := emitted
      obtain ⟨-, hnext⟩ := Cursor.kept_of_emit hemit
      refine .onward (hnext ▸ readLexeme_endsLine hends hread) (hnext ▸ hrest) ?_
      have hlength := hrest.length_le
      rw [Cursor.stepsLeft_false, hnext]
      omega

theorem Cursor.readContent_alike (cur : Cursor) {content : List Char} (hends : EndsLine content) :
    StepsAlike content (2 * content.length + 2) (cur.readContent content)
      (cur.extend.readContent (content ++ ['\n'])) := by
  cases content with
  | nil => exact absurd rfl hends.ne_nil
  | cons c after =>
    by_cases hline : c = '\n'
    · subst hline
      simp only [List.cons_append, Cursor.readContent]
      rw [Cursor.extend_brackets]
      split_ifs
      · exact .afterNewline (some (cur.token .newline [])) cur hends
      · exact .afterNewline none cur hends
    have hafter := hends.tail hline
    by_cases hmark : c = '\\'
    · subst hmark
      cases after with
      | nil => exact absurd rfl hafter.ne_nil
      | cons d after =>
        by_cases hbreak : d = '\n'
        · subst hbreak
          -- Behind the mark one more line has to follow, and only the second reader has one.
          cases after with
          | nil => exact .dangling rfl List.suffix_rfl
          | cons d after =>
            refine .onward (hafter.of_cons (by simp)) (List.suffix_append ['\\', '\n'] _) ?_
            rw [Cursor.stepsLeft_false]
            simp only [List.length_cons]
            omega
        · simp [Cursor.readContent, hbreak, StepsAlike.broken]
    · have hplain (cur : Cursor) (after : List Char) : cur.readContent (c :: after) =
          (cur.readFrom c after).map fun (t, next) ↦ (some t, next, false) := by
        simp [Cursor.readContent, hmark]
      rw [List.cons_append, hplain, hplain]
      refine (cur.readFrom_alike c hafter).mono (List.suffix_cons c after) ?_
      rw [List.length_cons]
      omega

/-- One step inside a line is the same with a final line feed. -/
theorem readToken_alike {cur : Cursor} (hends : EndsLine cur.rest) :
    StepsAlike cur.rest (cur.stepsLeft false) (readToken cur) (readToken cur.extend) := by
  have hcontent : EndsLine (skipComment (cur.rest.dropWhile isSpacer)) :=
    (hends.dropWhile rfl).skipComment
  have hrest : skipComment (cur.rest.dropWhile isSpacer) <:+ cur.rest :=
    (skipComment_suffix _).trans (List.dropWhile_suffix _)
  have hextend : skipComment (cur.extend.rest.dropWhile isSpacer) =
      skipComment (cur.rest.dropWhile isSpacer) ++ ['\n'] := by
    rw [Cursor.extend, dropWhile_append_newline rfl, skipComment_append_newline]
  unfold readToken
  rw [hextend]
  refine (cur.readContent_alike hcontent).mono hrest ?_
  have hlength := hrest.length_le
  rw [Cursor.stepsLeft_false]
  omega

theorem Cursor.enterLine_of_content {cur : Cursor} {c : Char} {after : List Char}
    (hcontent : skipComment cur.rest = c :: after) (hc : c ≠ '\n') (margin : Margin) :
    cur.enterLine margin =
      if cur.rest.head? == some '#' then .ok ([], { cur with rest := c :: after }, false)
      else if cur.brackets.isEmpty then
        match stepMargin cur.margins margin.effective with
        | .error fault => .error (cur.break_ fault)
        | .ok (kinds, margins) => .ok (kinds.map (cur.token · []), { cur with margins }, false)
      else .ok ([], cur, false) := by
  simp only [Cursor.enterLine, hcontent]
  split
  · next heq =>
    cases heq
    exact absurd rfl hc
  · rfl

theorem Cursor.enterLine_alike (cur : Cursor) (margin : Margin) (hends : EndsLine cur.rest) :
    StepsAlike cur.rest (cur.stepsLeft true) (cur.enterLine margin)
      (cur.extend.enterLine margin) := by
  have hrest := hends.skipComment
  have hsuffix := skipComment_suffix cur.rest
  have hlength := hsuffix.length_le
  have hextend : skipComment cur.extend.rest = skipComment cur.rest ++ ['\n'] :=
    skipComment_append_newline cur.rest
  rw [Cursor.stepsLeft_true]
  cases hcontent : skipComment cur.rest with
  | nil => exact absurd hcontent hrest.ne_nil
  | cons c after =>
    rw [hcontent] at hrest hsuffix hlength hextend
    rw [List.length_cons] at hlength
    by_cases hline : c = '\n'
    · subst hline
      simp only [Cursor.enterLine, hcontent, hextend, List.cons_append]
      exact (StepsAlike.afterNewline [] cur hrest).mono hsuffix (by omega)
    · have hcomment : (cur.extend.rest.head? == some '#') = (cur.rest.head? == some '#') := by
        cases hcs : cur.rest with
        | nil => exact absurd hcs hends.ne_nil
        | cons c rest => simp [Cursor.extend, hcs]
      rw [Cursor.enterLine_of_content hcontent hline, Cursor.enterLine_of_content hextend hline,
        hcomment, Cursor.extend_brackets, Cursor.extend_margins]
      split_ifs
      · refine .onward hrest hsuffix ?_
        rw [Cursor.stepsLeft_false, List.length_cons]
        omega
      · cases stepMargin cur.margins margin.effective with
        | error fault => exact .broken
        | ok stepped => exact .onward hends List.suffix_rfl (Nat.lt_succ_self _)
      · exact .onward hends List.suffix_rfl (Nat.lt_succ_self _)

/-- One step at the start of a line is the same with a final line feed. -/
theorem readLineStart_alike {cur : Cursor} (hends : EndsLine cur.rest) :
    StepsAlike cur.rest (cur.stepsLeft true) (readLineStart cur) (readLineStart cur.extend) := by
  unfold readLineStart
  obtain ⟨l, hend⟩ | ⟨e, e', hbreak, hbreak'⟩ | ⟨margin, line, rest, hread, hread'⟩ :=
    measureMargin_append_newline cur.line ⟨0, 0, 0⟩ cur.rest
  · rw [hend]
    exact .dangling rfl (continuationEnd_suffix_of_measureMargin hend)
  · simp only [Cursor.extend, hbreak, hbreak']
    exact .broken
  · simp only [Cursor.extend, hread, hread']
    obtain ⟨hrest, hsuffix⟩ := measureMargin_endsLine hends hread
    refine (Cursor.enterLine_alike { cur with rest, line } margin hrest).mono hsuffix ?_
    have hlength := hsuffix.length_le
    simp only [Cursor.stepsLeft_true]
    omega

/-! ## Runs -/

/-- How the tokens of a text compare with those of the text with one more line feed. -/
inductive StreamsAlike (text : List Char) (stream other : TokenStream) : Prop
  | dangling {b : Break} (hstop : stream.stop = some b) (hfault : b.fault = .unexpectedEnd)
      (hmark : continuationEnd <:+ text)
  | broken (hstop : stream.stop.isSome = true) (hother : other.stop.isSome = true)
  | same (htokens : stream.placeless = other.placeless)

/-- A margin that is compared gives steps out, or one step in if it is not the outermost. -/
theorem stepMargin_kinds {margins margins' : List (Nat × Nat)} {place : Nat × Nat}
    {kinds : List TokenKind} (h : stepMargin margins place = .ok (kinds, margins')) :
    ∀ kind ∈ kinds, kind = .dedent ∨ kind = .indent ∧ 0 < place.1 := by
  unfold stepMargin at h
  dsimp only at h
  split_ifs at h with _ _ hright <;> cases h
  · simp
  · intro kind hkind
    exact .inr ⟨List.mem_singleton.1 hkind, Nat.zero_lt_of_lt hright⟩
  · exact fun kind hkind ↦ .inl (List.mem_replicate.1 hkind).2

/-- At the end of the text only steps out of blocks are left. -/
theorem readAll_at_end {cur : Cursor} (hempty : cur.rest = []) (fuel : Nat) (acc : Array Token) :
    readAll (fuel + 2) cur true acc =
      if cur.brackets.isEmpty then
        match stepMargin cur.margins (0, 0) with
        | .error fault => ⟨acc, some (cur.break_ fault)⟩
        | .ok (kinds, _) =>
          ⟨(acc ++ kinds.map (cur.token · [])).push (cur.token .finish []), none⟩
      else ⟨acc, some (cur.break_ .unexpectedEnd)⟩ := by
  obtain ⟨rest, line, brackets, margins⟩ := cur
  subst hempty
  have hstart : readLineStart ⟨[], line, brackets, margins⟩ =
      if brackets.isEmpty then
        match stepMargin margins (0, 0) with
        | .error fault => .error (Cursor.break_ ⟨[], line, brackets, margins⟩ fault)
        | .ok (kinds, margins') =>
          .ok (kinds.map (Cursor.token ⟨[], line, brackets, margins⟩ · []),
            ⟨[], line, brackets, margins'⟩, false)
      else .ok ([], ⟨[], line, brackets, margins⟩, false) := rfl
  have htoken (margins' : List (Nat × Nat)) : readToken ⟨[], line, brackets, margins'⟩ =
      if brackets.isEmpty then
        .ok (some (Cursor.token ⟨[], line, brackets, margins'⟩ .finish []),
          ⟨[], line, brackets, margins'⟩, false)
      else .error (Cursor.break_ ⟨[], line, brackets, margins'⟩ .unexpectedEnd) := rfl
  by_cases hclosed : brackets.isEmpty = true
  · rw [if_pos hclosed] at hstart ⊢
    cases hstep : stepMargin margins (0, 0) with
    | error fault => simp only [readAll, hstart, hstep]
    | ok stepped => simp [readAll, hstart, htoken, hclosed, hstep, Cursor.token]
  · rw [if_neg hclosed] at hstart ⊢
    simp only [readAll, hstart, htoken, if_neg hclosed]
    simp [Cursor.break_, Cursor.openBracket]

theorem TokenStream.placeless_at_end {kinds : List TokenKind}
    (hkinds : ∀ kind ∈ kinds, kind = .dedent)
    (cur cur' : Cursor) (hdepth : cur.brackets = cur'.brackets) (acc : Array Token) :
    TokenStream.placeless ⟨(acc ++ kinds.map (cur.token · [])).push (cur.token .finish []), none⟩ =
      TokenStream.placeless
        ⟨(acc ++ kinds.map (cur'.token · [])).push (cur'.token .finish []), none⟩ := by
  have hmap : (kinds.map (cur.token · [])).map Token.placeless =
      (kinds.map (cur'.token · [])).map Token.placeless := by
    rw [List.map_map, List.map_map]
    apply List.map_congr_left
    intro kind hkind
    rw [hkinds kind hkind]
    simp [Cursor.token, Token.placeless, hdepth]
  have hfinish : (cur.token .finish []).placeless = (cur'.token .finish []).placeless := by
    simp [Cursor.token, Token.placeless, hdepth]
  have htokens (c : Cursor) : (acc ++ kinds.map (c.token · [])).map Token.placeless =
      acc.map Token.placeless ++ (kinds.map (c.token · [])).map Token.placeless :=
    Array.ext' (by simp)
  simp only [TokenStream.placeless, Array.map_push, htokens, hmap, hfinish]

theorem readAll_last (text : List Char) {cur : Cursor} (hempty : cur.rest = []) (fuel : Nat)
    (acc : Array Token) :
    StreamsAlike text (readAll (fuel + 2) cur true acc)
      (readAll (fuel + 4) { cur with rest := ['\n'], line := cur.line + 1 } true acc) := by
  have hblank : readAll (fuel + 4) { cur with rest := ['\n'], line := cur.line + 1 } true acc =
      readAll (fuel + 1 + 2) { cur with rest := [], line := cur.line + 1 } true acc := by
    have hstart : readLineStart { cur with rest := ['\n'], line := cur.line + 1 } =
        .ok ([], { cur with rest := [], line := cur.line + 1 }, true) := rfl
    simp [readAll, hstart]
  rw [hblank, readAll_at_end hempty, readAll_at_end rfl]
  dsimp only
  split_ifs
  · cases hstep : stepMargin cur.margins (0, 0) with
    | error fault => exact .broken rfl rfl
    | ok stepped =>
      have hdedents : ∀ kind ∈ stepped.1, kind = .dedent := fun kind hkind ↦
        (stepMargin_kinds hstep kind hkind).resolve_right fun hin ↦ lt_irrefl 0 hin.2
      have hsame := TokenStream.placeless_at_end hdedents cur
        { cur with rest := [], line := cur.line + 1 } rfl acc
      exact .same hsame
  · exact .broken rfl rfl

/-- A final line feed adds no token. The induction is on the number of steps, with the place
carried along. -/
theorem readAll_alike {text : List Char} (fuel : Nat) (cur : Cursor) {atStart : Bool}
    (acc : Array Token) (hends : EndsLine cur.rest) (htext : cur.rest <:+ text)
    (hfuel : cur.stepsLeft atStart ≤ fuel) :
    StreamsAlike text (readAll fuel cur atStart acc)
      (readAll (fuel + 2) cur.extend atStart acc) := by
  induction fuel generalizing cur atStart acc with
  | zero =>
    have hpos : 0 < cur.stepsLeft atStart := by cases atStart <;> simp [Cursor.stepsLeft]
    omega
  | succ fuel ih =>
    -- Once the first text is used up, three steps are left, and the two readers part.
    have hlast {next : Cursor} (acc : Array Token) (hempty : next.rest = [])
        (hless : next.stepsLeft true < fuel + 1) :
        StreamsAlike text (readAll fuel next true acc)
          (readAll (fuel + 2) { next with rest := ['\n'], line := next.line + 1 } true acc) := by
      obtain ⟨more, rfl⟩ : ∃ more, fuel = more + 2 := ⟨fuel - 2, by
        rw [Cursor.stepsLeft_true] at hless
        omega⟩
      exact readAll_last text hempty more acc
    cases atStart with
    | true =>
      have hstep := readLineStart_alike hends
      simp only [readAll]
      generalize readLineStart cur = left, readLineStart cur.extend = right at hstep ⊢
      cases hstep with
      | dangling hfault hmark => exact .dangling rfl hfault (hmark.trans htext)
      | broken => exact .broken rfl rfl
      | onward hends' hrest hless => exact ih _ _ hends' (hrest.trans htext) (by omega)
      | last hempty hless => exact hlast _ hempty (by omega)
    | false =>
      have hstep := readToken_alike hends
      simp only [readAll]
      generalize readToken cur = left, readToken cur.extend = right at hstep ⊢
      cases hstep with
      | dangling hfault hmark => exact .dangling rfl hfault (hmark.trans htext)
      | broken => exact .broken rfl rfl
      | @onward t next atStart hends' hrest hless =>
        cases t with
        | none => exact ih _ _ hends' (hrest.trans htext) (by omega)
        | some t =>
          dsimp only
          split
          · exact .same rfl
          · exact ih _ _ hends' (hrest.trans htext) (by omega)
      | @last t next hempty hless =>
        cases t with
        | none => exact hlast _ hempty (by omega)
        | some t =>
          dsimp only
          split
          · exact .same rfl
          · exact hlast _ hempty (by omega)

/-- A second line feed at the end of a text changes its tokens only if the text breaks off in a
continuation mark. -/
theorem tokenizeFrom_append_newline (line : Nat) {text : List Char} (hends : EndsLine text) :
    StreamsAlike text (tokenizeFrom line text) (tokenizeFrom line (text ++ ['\n'])) := by
  have hfuel : 2 * (text ++ ['\n']).length + 4 = 2 * text.length + 4 + 2 := by
    rw [List.length_append, List.length_singleton]
    omega
  rw [tokenizeFrom, tokenizeFrom, hfuel]
  refine readAll_alike (2 * text.length + 4) ⟨text, line, [], []⟩ #[] hends List.suffix_rfl ?_
  rw [Cursor.stepsLeft_true]
  dsimp only
  omega

end CallCompletion.Source
