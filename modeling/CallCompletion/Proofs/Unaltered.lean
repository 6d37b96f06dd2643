import CallCompletion.Proofs.FinalNewline
import CallCompletion.Source.Engine

/-!
# Source text that parses

A text is read after its lines have been taken apart and put together again with line feeds. Where
only line feeds and carriage returns end lines, that changes a text in one way: a line feed at its
end is lost. The parser misses it only after a continuation mark. Where other characters count as
ends of lines, the text that is read is another one.
-/

namespace CallCompletion.Source

open CallCompletion.Text

/-! ## Texts that are read to their end -/

theorem Rule.bind_eq_ok {α β : Type} {r : Rule α} {f : α → Rule β} {c : Context} {s s' : State}
    {b : β} (h : (r >>= f) c s = .ok b s') : ∃ a s₁, r c s = .ok a s₁ ∧ f a c s₁ = .ok b s' := by
  change Rule.andThen r f c s = .ok b s' at h
  unfold Rule.andThen at h
  split at h
  · next a s₁ ha => exact ⟨a, s₁, ha, h⟩
  · cases h
  · cases h

/-- A token that is accepted stands in the stream, unless the stream is complete. -/
theorem Rule.mem_tokens_of_accept {test : Token → Bool} {c : Context} {s s' : State} {t : Token}
    (hstop : c.stream.stop.isSome = true) (h : Rule.accept test c s = .ok t s') :
    t ∈ c.stream.tokens ∧ test t = true := by
  unfold Rule.accept at h
  split at h
  · next t' s₁ hcurrent =>
    split at h
    · next htest =>
      cases h
      refine ⟨?_, htest⟩
      unfold Rule.current at hcurrent
      split at hcurrent
      · next hget =>
        cases hcurrent
        exact Array.mem_of_getElem? hget
      · split at hcurrent
        · cases hcurrent
        · next hnone => simp [hnone] at hstop
    · cases h
  · cases h
  · cases h

theorem finish_not_mem_of_readLineStart {cur next : Cursor} {ts : List Token} {atStart : Bool}
    (h : readLineStart cur = .ok (ts, next, atStart)) : ∀ t ∈ ts, t.kind ≠ .finish := by
  unfold readLineStart at h
  split at h
  · cases h
  · unfold Cursor.enterLine at h
    split at h
    · cases h
      simp
    · split_ifs at h
      · cases h
        simp
      · split at h
        · cases h
        · next hstep =>
          cases h
          intro t ht
          obtain ⟨kind, hkind, rfl⟩ := List.mem_map.1 ht
          rcases stepMargin_kinds hstep kind hkind with rfl | ⟨rfl, -⟩ <;> simp [Cursor.token]
      · cases h
        simp

/-- The tokens before a break do not say that the text is finished. -/
theorem finish_not_mem_of_stop (fuel : Nat) {cur : Cursor} {atStart : Bool} {acc : Array Token}
    (hacc : ∀ t ∈ acc, t.kind ≠ .finish)
    (hstop : (readAll fuel cur atStart acc).stop.isSome = true) :
    ∀ t ∈ (readAll fuel cur atStart acc).tokens, t.kind ≠ .finish := by
  induction fuel generalizing cur atStart acc with
  | zero => exact hacc
  | succ fuel ih =>
    cases atStart with
    | true =>
      simp only [readAll] at hstop ⊢
      cases hread : readLineStart cur with
      | error b => exact hacc
      | ok read =>
        obtain ⟨ts, next, atStart⟩ := read
        rw [hread] at hstop
        refine ih (fun t ht ↦ ?_) hstop
        rcases List.mem_append.1 (by simpa [← Array.mem_toList_iff] using ht) with ht | ht
        · exact hacc t (Array.mem_toList_iff.1 ht)
        · exact finish_not_mem_of_readLineStart hread t ht
    | false =>
      simp only [readAll] at hstop ⊢
      cases hread : readToken cur with
      | error b => exact hacc
      | ok read =>
        obtain ⟨t, next, atStart⟩ := read
        rw [hread] at hstop
        cases t with
        | none => exact ih hacc hstop
        | some t =>
          dsimp only at hstop ⊢
          split_ifs at hstop ⊢ with hfinish
          · cases hstop
          · refine ih (fun t' ht ↦ ?_) hstop
            rcases Array.mem_push.1 ht with ht | rfl
            · exact hacc t' ht
            · exact hfinish

theorem Grammar.finish_mem_of_moduleBody {g : Grammar} {c : Context} {s s' : State}
    {tree : List Stmt} (hstop : c.stream.stop.isSome = true) (h : g.moduleBody c s = .ok tree s') :
    ∃ t ∈ c.stream.tokens, t.kind = .finish := by
  obtain ⟨body, s₁, -, h⟩ := Rule.bind_eq_ok h
  obtain ⟨t, s₂, hfinish, -⟩ := Rule.bind_eq_ok h
  obtain ⟨hmem, hkind⟩ := Rule.mem_tokens_of_accept hstop hfinish
  exact ⟨t, hmem, eq_of_beq hkind⟩

theorem Token.placeless_kind (t : Token) : t.placeless.kind = t.kind := by
  unfold Token.placeless
  split <;> rfl

theorem readTokens_eq_ok_iff {α : Type} {rule : Rule α} {stream : TokenStream} {a : α} :
    readTokens rule stream = .ok a ↔
      ∃ s, rule ⟨stream.placeless, false⟩ (startState stream 0) = .ok a s := by
  unfold readTokens
  split
  · next b s hrule => simp [hrule]
  · next hrule => simp [hrule]
  · next hrule => simp [hrule]

/-- Only complete streams make up a module. -/
theorem stop_of_parseModule [CharacterNames] {text : List Char} {tree : List Stmt}
    (h : parseModule text = .ok tree) :
    (tokenizeFrom 1 (fileText text)).stop = none := by
  obtain ⟨s, hs⟩ := readTokens_eq_ok_iff.1 h
  by_contra hstop
  have hsome : (tokenizeFrom 1 (fileText text)).stop.isSome = true :=
    Option.isSome_iff_ne_none.2 hstop
  obtain ⟨t, ht, hkind⟩ := Grammar.finish_mem_of_moduleBody hsome hs
  obtain ⟨t', ht', rfl⟩ := Array.mem_map.1 ht
  rw [Token.placeless_kind] at hkind
  exact finish_not_mem_of_stop _ (by simp) hsome t' ht' hkind

/-- The lines on which blocks and the text end do not count in a module. -/
theorem readTokens_congr {α : Type} (rule : Rule α) {stream other : TokenStream}
    (h : stream.placeless = other.placeless) {a : α} :
    readTokens rule stream = .ok a ↔ readTokens rule other = .ok a := by
  have hsize : stream.tokens.size = other.tokens.size := by
    have hmap := congrArg (fun s ↦ s.tokens.size) h
    simpa [TokenStream.placeless] using hmap
  rw [readTokens_eq_ok_iff, readTokens_eq_ok_iff, h, startState, startState, hsize]

/-! ## Lines put together again -/

/-- The ends of lines that the parser knows. -/
def PlainEnds (source : List Char) : Prop :=
  ∀ c ∈ source, isLineEnd c = true → c = '\n' ∨ c = '\r'

instance (source : List Char) : Decidable (PlainEnds source) := List.decidableBAll _ _

theorem eq_nil_of_splitLines {cs : List Char} (h : splitLines cs = []) : cs = [] := by
  unfold splitLines at h
  split at h
  · rfl
  · cases h
  · split at h
    · cases h
    · split at h <;> cases h

theorem joinLines_cons_cons (c : Char) (line : List Char) (lines : List (List Char)) :
    joinLines ((c :: line) :: lines) = c :: joinLines (line :: lines) := by
  cases lines <;> rfl

/-- The text is put together again from its lines, except that a line feed at its end is lost. -/
theorem plainNewlines_eq_joinLines {cs : List Char} (hplain : PlainEnds cs) :
    plainNewlines cs = joinLines (splitLines cs) ∨
      plainNewlines cs = joinLines (splitLines cs) ++ ['\n'] := by
  have hempty {rest : List Char} (ih : plainNewlines rest = joinLines (splitLines rest) ∨
      plainNewlines rest = joinLines (splitLines rest) ++ ['\n']) :
      '\n' :: plainNewlines rest = joinLines ([] :: splitLines rest) ∨
        '\n' :: plainNewlines rest = joinLines ([] :: splitLines rest) ++ ['\n'] := by
    by_cases hlines : splitLines rest = []
    · rw [eq_nil_of_splitLines hlines]
      exact .inr rfl
    · rw [joinLines_cons_of_ne_nil hlines]
      simpa using ih
  fun_induction splitLines cs with
  | case1 => exact .inl rfl
  | case2 rest ih =>
    exact hempty (ih fun c hc ↦ hplain c (List.mem_cons_of_mem '\r' (List.mem_cons_of_mem '\n' hc)))
  | case3 c rest hpair hend ih =>
    have hline : plainNewlines (c :: rest) = '\n' :: plainNewlines rest := by
      rcases hplain c List.mem_cons_self hend with rfl | rfl
      · rfl
      · cases rest with
        | nil => rfl
        | cons d rest =>
          have hd : d ≠ '\n' := fun hd ↦ hpair rest rfl (hd ▸ rfl)
          simp [plainNewlines, hd]
    rw [hline]
    exact hempty (ih fun d hd ↦ hplain d (List.mem_cons_of_mem c hd))
  | case4 c rest hpair hend hlines ih =>
    have hc : c ≠ '\r' := by
      rintro rfl
      exact hend rfl
    rw [plainNewlines_cons hc, eq_nil_of_splitLines hlines]
    exact .inl rfl
  | case5 c rest hpair hend line lines hlines ih =>
    have hc : c ≠ '\r' := by
      rintro rfl
      exact hend rfl
    have hrest := ih fun d hd ↦ hplain d (List.mem_cons_of_mem c hd)
    rw [plainNewlines_cons hc, joinLines_cons_cons, ← hlines]
    simpa using hrest

theorem return_not_mem_plainNewlines (cs : List Char) : '\r' ∉ plainNewlines cs := by
  fun_induction plainNewlines cs with
  | case1 => simp
  | case2 rest ih => simpa using ih
  | case3 rest _ ih => simpa using ih
  | case4 c rest _ hc ih =>
    simp only [List.mem_cons, not_or]
    exact ⟨fun h ↦ hc h.symm, ih⟩

theorem fileText_of_endsLine {cs : List Char} (h : EndsLine (plainNewlines cs)) :
    fileText cs = plainNewlines cs := if_pos h

theorem fileText_of_not_endsLine {cs : List Char} (h : ¬ EndsLine (plainNewlines cs)) :
    fileText cs = plainNewlines cs ++ ['\n'] := if_neg h

theorem endsLine_fileText (cs : List Char) : EndsLine (fileText cs) := by
  by_cases h : EndsLine (plainNewlines cs)
  · rwa [fileText_of_endsLine h]
  · rw [fileText_of_not_endsLine h]
    exact .append _

/-- The parser sees the same text, or loses the second of two line feeds at its end. -/
theorem fileText_joinLines {cs : List Char} (hplain : PlainEnds cs) :
    fileText cs = fileText (joinLines (splitLines cs)) ∨
      fileText cs = fileText (joinLines (splitLines cs)) ++ ['\n'] ∧
        fileText cs = plainNewlines cs := by
  have hreturn := return_not_mem_plainNewlines cs
  rcases plainNewlines_eq_joinLines hplain with hjoin | hjoin
  · have hsame : plainNewlines (joinLines (splitLines cs)) = plainNewlines cs := by
      rw [← hjoin, plainNewlines_of_not_mem hreturn]
    exact .inl (by simp only [fileText, hsame])
  · have hjoined : plainNewlines (joinLines (splitLines cs)) = joinLines (splitLines cs) := by
      rw [hjoin] at hreturn
      exact plainNewlines_of_not_mem fun hmem ↦ hreturn (List.mem_append_left _ hmem)
    have hfile : fileText cs = plainNewlines cs := fileText_of_endsLine (hjoin ▸ .append _)
    by_cases hends : EndsLine (joinLines (splitLines cs))
    · refine .inr ⟨?_, hfile⟩
      rw [hfile, hjoin, fileText_of_endsLine (hjoined.symm ▸ hends), hjoined]
    · rw [hfile, hjoin, fileText_of_not_endsLine (hjoined.symm ▸ hends), hjoined]
      exact .inl rfl

/-- A final line feed does not deepen the nesting. -/
theorem nestingBound_append_newline (text : List Char) :
    nestingBound (text ++ ['\n']) = nestingBound text := by
  simp [nestingBound]

/-! ## The statements of a source text -/

/-- A text that breaks off where one more line has to follow. -/
def BreaksOff (text : List Char) : Prop :=
  ∃ b, (tokenizeFrom 1 (fileText text)).stop = some b ∧ b.fault = .unexpectedEnd

/-- A text that breaks off is read as no module. -/
theorem parseModule_ne_ok_of_breaksOff [CharacterNames] {text : List Char} (h : BreaksOff text)
    (tree : List Stmt) :
    parseModule text ≠ .ok tree := by
  obtain ⟨b, hstop, -⟩ := h
  intro hok
  rw [stop_of_parseModule hok] at hstop
  cases hstop

/-- A text that is accepted is still accepted, with the same tree, after its lines have been put
together again, unless it ended with a continuation mark and an empty line. -/
theorem parseModule_joinLines [CharacterNames] {source : List Char} {tree : List Stmt}
    (hplain : PlainEnds source)
    (h : parseModule source = .ok tree) :
    parseModule (joinLines (splitLines source)) = .ok tree ∨
      BreaksOff (joinLines (splitLines source)) ∧
        continuationEnd ++ ['\n'] <:+ plainNewlines source := by
  have hstop := stop_of_parseModule h
  rcases fileText_joinLines hplain with hsame | ⟨hlonger, hfile⟩
  · left
    unfold parseModule at h ⊢
    rwa [hsame] at h
  · rw [hlonger] at hstop
    cases tokenizeFrom_append_newline 1 (endsLine_fileText (joinLines (splitLines source))) with
    | dangling hbreak hfault hmark =>
      obtain ⟨init, hinit⟩ := hmark
      refine .inr ⟨⟨_, hbreak, hfault⟩, init, ?_⟩
      rw [← List.append_assoc, hinit, ← hfile, hlonger]
    | broken hbreak hother =>
      -- A text that is accepted has no break.
      simp [hstop] at hother
    | same htokens =>
      left
      unfold parseModule at h ⊢
      simp only [hlonger, nestingBound_append_newline] at h
      exact (readTokens_congr _ htokens).2 h

theorem moduleParser_eq_ok_iff [CharacterNames] {text : List Char} {tree : List Stmt} :
    moduleParser text = .ok tree ↔ parseModule text = .ok tree := by
  unfold moduleParser
  cases parseModule text <;> simp [Except.mapError]

/-! ## Other ends of lines -/

/-- The ends of lines that the parser does not know. -/
def foreignEnds : List Char :=
  ['\x0b', '\x0c', '\x1c', '\x1d', '\x1e', '\u0085', '\u2028', '\u2029']

theorem mem_foreignEnds {c : Char} (h : isLineEnd c = true) (hline : c ≠ '\n')
    (hreturn : c ≠ '\r') :
    c ∈ foreignEnds := by
  have hcode {n : Nat} (hn : c.toNat = n) : c = Char.ofNat n := by
    rw [← hn, Char.ofNat_toNat]
  have hnot_line : c.toNat ≠ 10 := fun hn ↦ hline (hcode hn)
  have hnot_return : c.toNat ≠ 13 := fun hn ↦ hreturn (hcode hn)
  simp only [isLineEnd, Bool.or_eq_true, Bool.and_eq_true, decide_eq_true_eq, beq_iff_eq] at h
  have hcases : c.toNat = 11 ∨ c.toNat = 12 ∨ c.toNat = 28 ∨ c.toNat = 29 ∨ c.toNat = 30 ∨
      c.toNat = 0x85 ∨ c.toNat = 0x2028 ∨ c.toNat = 0x2029 := by omega
  rcases hcases with hn | hn | hn | hn | hn | hn | hn | hn <;> rw [hcode hn] <;> decide

/-- A name behind a comment, with an end of line between them. -/
def commentedName (c : Char) : List Char := ['#', c, 'x']

theorem commentedName_trees {c : Char} (hc : c ∈ foreignEnds) :
    (moduleParser (commentedName c)).toOption.map List.length = some 0 ∧
      (parseLeniently moduleParser (commentedName c)).toOption.map List.length = some 1 := by
  simp only [foreignEnds, List.mem_cons, List.not_mem_nil, or_false] at hc
  rcases hc with rfl | rfl | rfl | rfl | rfl | rfl | rfl | rfl <;> decide +kernel

/-- Every other end of a line stands in a text that parses and is read as another one. -/
theorem exists_altered_of_isLineEnd {c : Char} (hend : isLineEnd c = true) (hline : c ≠ '\n')
    (hreturn : c ≠ '\r') : ∃ source tree other,
      '\x00' ∉ source ∧ (∀ d ∈ source, isLineEnd d = true → d = c) ∧
        moduleParser source = .ok tree ∧ parseLeniently moduleParser source = .ok other ∧
        other ≠ tree := by
  obtain ⟨hdirect, hlenient⟩ := commentedName_trees (mem_foreignEnds hend hline hreturn)
  obtain ⟨tree, htree, hnone⟩ := Fault.exists_ok_of_map_toOption hdirect
  obtain ⟨other, hother, hone⟩ := Fault.exists_ok_of_map_toOption hlenient
  refine ⟨commentedName c, tree, other, ?_, ?_, htree, hother, ?_⟩
  · have hc : '\x00' ≠ c := by
      rintro rfl
      cases hend
    simp [commentedName, hc]
  · intro d hd hdend
    simp only [commentedName, List.mem_cons, List.not_mem_nil, or_false] at hd
    rcases hd with rfl | rfl | rfl
    · cases hdend
    · rfl
    · cases hdend
  · rintro rfl
    omega

/-! ## Source text that is accepted -/

/-- Source text that parses, and in which only line feeds and carriage returns end lines, is read as
it stands, without a repair, unless its lines break off when they are put together again. That
takes a continuation mark before an empty last line. -/
theorem parseLeniently_keeps_accepted [CharacterNames] (source : List Char) (tree : List Stmt)
    (hnul : '\x00' ∉ source) (hplain : PlainEnds source)
    (haccepted : moduleParser source = .ok tree) :
    (moduleParser (joinLines (sourceLines source)) = .ok tree ↔
        ¬ BreaksOff (joinLines (sourceLines source))) ∧
      (BreaksOff (joinLines (sourceLines source)) →
        continuationEnd ++ ['\n'] <:+ plainNewlines source) ∧
      (¬ BreaksOff (joinLines (sourceLines source)) →
        parseLeniently moduleParser source = .ok tree) := by
  have hjoined := parseModule_joinLines hplain (moduleParser_eq_ok_iff.1 haccepted)
  rw [sourceLines_of_not_mem hnul, moduleParser_eq_ok_iff]
  have hkept (hwhole : ¬ BreaksOff (joinLines (splitLines source))) :
      parseModule (joinLines (splitLines source)) = .ok tree :=
    hjoined.resolve_right fun hbreaks ↦ hwhole hbreaks.1
  refine ⟨⟨fun hok hbreaks ↦ parseModule_ne_ok_of_breaksOff hbreaks tree hok, hkept⟩,
    fun hbreaks ↦ ?_, fun hwhole ↦ ?_⟩
  · exact (hjoined.resolve_left (parseModule_ne_ok_of_breaksOff hbreaks tree)).2
  · rw [parseLeniently, sourceLines_of_not_mem hnul]
    exact readRepairing_of_ok (moduleParser_eq_ok_iff.2 (hkept hwhole)) maxRepairs

/-- A text with every end of line that the parser knows, one of them in a string, and a comment that
ends like a continuation before an empty line. -/
def mixedLines : List Char := "if x:\r  y = '''\n'''\r\n# \\\n\n".toList

theorem parseLeniently_keeps_mixedLines : ∃ tree,
    moduleParser mixedLines = .ok tree ∧ parseLeniently moduleParser mixedLines = .ok tree := by
  have hlength : (moduleParser mixedLines).toOption.map List.length = some 1 := by
    decide +kernel
  have hwhole : (tokenizeFrom 1 (fileText (joinLines (sourceLines mixedLines)))).stop = none := by
    decide +kernel
  obtain ⟨tree, htree, -⟩ := Fault.exists_ok_of_map_toOption hlength
  refine ⟨tree, htree, ?_⟩
  apply (parseLeniently_keeps_accepted mixedLines tree (by decide) (by decide) htree).2.2
  rintro ⟨b, hstop, -⟩
  rw [hwhole] at hstop
  cases hstop

/-- Every other end of a line stands in a text that parses and is read as another one. A form feed
before a statement, for one, moves it to the next line. A statement that is continued on an empty
last line is replaced. -/
theorem parseLeniently_alters_accepted :
    (∀ c, isLineEnd c = true → c ≠ '\n' → c ≠ '\r' → ∃ source tree other,
        '\x00' ∉ source ∧ (∀ d ∈ source, isLineEnd d = true → d = c) ∧
          moduleParser source = .ok tree ∧ parseLeniently moduleParser source = .ok other ∧
          other ≠ tree) ∧
      (∃ tree other, moduleParser "\x0cx = 1\n".toList = .ok tree ∧
        parseLeniently moduleParser "\x0cx = 1\n".toList = .ok other ∧
        tree.map Stmt.span = [⟨1, 1⟩] ∧ other.map Stmt.span = [⟨2, 2⟩]) ∧
      ∃ tree other, moduleParser "x; y \\\n\n".toList = .ok tree ∧
        parseLeniently moduleParser "x; y \\\n\n".toList = .ok other ∧
        tree.length = 2 ∧ other.length = 1 := by
  have hfeed : (moduleParser "\x0cx = 1\n".toList).toOption.map (List.map Stmt.span) =
      some [⟨1, 1⟩] := by
    decide +kernel
  have hfeed' : (parseLeniently moduleParser "\x0cx = 1\n".toList).toOption.map
      (List.map Stmt.span) = some [⟨2, 2⟩] := by
    decide +kernel
  have hmark : (moduleParser "x; y \\\n\n".toList).toOption.map List.length = some 2 := by
    decide +kernel
  have hmark' : (parseLeniently moduleParser "x; y \\\n\n".toList).toOption.map List.length =
      some 1 := by
    decide +kernel
  obtain ⟨tree, htree, hspans⟩ := Fault.exists_ok_of_map_toOption hfeed
  obtain ⟨other, hother, hspans'⟩ := Fault.exists_ok_of_map_toOption hfeed'
  obtain ⟨whole, hwhole, htwo⟩ := Fault.exists_ok_of_map_toOption hmark
  obtain ⟨cut, hcut, hone⟩ := Fault.exists_ok_of_map_toOption hmark'
  exact ⟨fun c ↦ exists_altered_of_isLineEnd, ⟨tree, other, htree, hother, hspans, hspans'⟩,
    whole, cut, hwhole, hcut, htwo, hone⟩

end CallCompletion.Source
