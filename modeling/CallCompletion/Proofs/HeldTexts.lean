import CallCompletion.Proofs.RuleInvariants
import CallCompletion.Proofs.TextLengths

/-!
# Texts inside quoted annotations

An annotation can be quoted, and what is quoted in it can be read as an annotation again. Each
rule of the grammar for expressions is shown to yield only phrases whose texts are shorter than what
is read. Texts come from string tokens alone. Tokens that stand in a row have no more characters
than the text they are read from, and they lose their quotes. So a text that is read as an
expression is longer than every text that classification can then come to.
-/

namespace CallCompletion.Source

mutual

/-- The texts to which classification can come in an annotation without reading a text are shorter
than `n`: the annotation itself, those in unions, and those among the arguments of subscripts. -/
def Expr.TextsBelow (n : Nat) : Expr → Prop
  | .constant (.text s _) => s.length < n
  | .binary _ left right => left.TextsBelow n ∧ right.TextsBelow n
  | .subscript _ index => index.TextsBelow n
  | .tuple items => Expr.AllTextsBelow n items
  | _ => True

/-- The same for each of several annotations. -/
def Expr.AllTextsBelow (n : Nat) : List Expr → Prop
  | [] => True
  | e :: rest => e.TextsBelow n ∧ Expr.AllTextsBelow n rest

end

theorem Expr.allTextsBelow_iff {n : Nat} {items : List Expr} :
    Expr.AllTextsBelow n items ↔ ∀ e ∈ items, e.TextsBelow n := by
  induction items with
  | nil => simp [AllTextsBelow]
  | cons e rest ih => simp [AllTextsBelow, ih]

/-- The same for the expression of a phrase. -/
def Phrase.TextsBelow (n : Nat) (p : Phrase) : Prop := p.expr.TextsBelow n

theorem Phrase.textsBelow_tuple {n : Nat} {items : List Phrase}
    (h : ∀ p ∈ items, p.TextsBelow n) (line : Nat) : (Phrase.tuple line items).TextsBelow n := by
  apply Expr.allTextsBelow_iff.2
  rw [List.forall_mem_map]
  exact h

theorem forall_mem_getD {α : Type} {p : α → Prop} {found : Option (List α)}
    (h : ∀ l ∈ found, ∀ a ∈ l, p a) : ∀ a ∈ found.getD [], p a := by
  cases found with
  | none => exact fun _ ha ↦ absurd ha List.not_mem_nil
  | some l => exact h l rfl

open Rule

/-! ## String tokens in a row -/

theorem Rule.accept_eq_ok {test : Token → Bool} {c : Context} {s s' : State} {t : Token}
    (h : accept test c s = .ok t s') :
    test t = true ∧ s'.position = s.position + 1 ∧
      (c.stream.tokens[s.position]? = some t ∨ t = c.stream.tokens.back?.getD default) := by
  unfold accept at h
  split at h
  · next t' s₁ hcurrent =>
    split at h
    · next htest =>
      cases h
      unfold current at hcurrent
      split at hcurrent
      · next hget =>
        cases hcurrent
        refine ⟨htest, ?_, .inl hget⟩
        dsimp only
        split <;> rfl
      · split at hcurrent <;> cases hcurrent
        exact ⟨htest, rfl, .inr rfl⟩
    · cases h
  · cases h
  · cases h

/-- Tokens of a first reading that together have at most `n` characters. Strings have quotes, and
the last token is none. -/
structure Context.Within (n : Nat) (c : Context) : Prop where
  quiet : c.diagnosing = false
  spelled : spelledLength c.stream.tokens.toList ≤ n
  quoted : ∀ t ∈ c.stream.tokens.toList, t.kind = .string → t.text ≠ ""
  ended : ∀ t, c.stream.tokens.back? = some t → t.kind ≠ .string

section StringRuns

variable {n : Nat} {c : Context} (hc : c.Within n)

include hc

theorem Context.Within.drop_of_accept {s s' : State} {t : Token}
    (h : kind .string c s = .ok t s') :
    t.kind = .string ∧ c.stream.tokens.toList.drop s.position =
      t :: c.stream.tokens.toList.drop s'.position := by
  obtain ⟨hkind, hposition, hget | hlast⟩ := accept_eq_ok h
  · rw [← Array.getElem?_toList] at hget
    obtain ⟨hlt, hget⟩ := List.getElem?_eq_some_iff.1 hget
    exact ⟨eq_of_beq hkind, by rw [List.drop_eq_getElem_cons hlt, hget, hposition]⟩
  · exfalso
    cases hback : c.stream.tokens.back? with
    | none =>
      rw [hlast, hback] at hkind
      cases hkind
    | some u =>
      rw [hlast, hback] at hkind
      exact hc.ended u hback (eq_of_beq hkind)

theorem Context.Within.drop_of_manyUpTo (k : Nat) {s s' : State} {ts : List Token}
    (h : manyUpTo (kind .string) k c s = .ok ts s') :
    (∀ t ∈ ts, t.kind = .string) ∧ c.stream.tokens.toList.drop s.position =
      ts ++ c.stream.tokens.toList.drop s'.position := by
  induction k generalizing s ts with
  | zero =>
    cases h
    exact ⟨by simp, rfl⟩
  | succ k ih =>
    unfold manyUpTo at h
    cases hread : kind .string c s with
    | fail s₁ =>
      rw [hread] at h
      cases h
      exact ⟨by simp, rfl⟩
    | halt reason =>
      rw [hread] at h
      cases h
    | ok t s₁ =>
      rw [hread] at h
      dsimp only at h
      split at h
      · next hsame =>
        cases h
        exact ⟨by simp, by rw [hsame, List.nil_append]⟩
      · split at h
        · next more s₂ hmore =>
          cases h
          obtain ⟨hkind, hdrop⟩ := hc.drop_of_accept hread
          obtain ⟨hkinds, hdrops⟩ := ih hmore
          exact ⟨List.forall_mem_cons.2 ⟨hkind, hkinds⟩, by rw [hdrop, hdrops, List.cons_append]⟩
        · cases h
        · cases h

/-- String tokens in a row are a part of the text, which has room for them. -/
theorem Context.Within.strings_of_many1 {s s' : State} {ts : List Token}
    (h : many1 (kind .string) c s = .ok ts s') :
    ts ≠ [] ∧ (∀ t ∈ ts, t.text ≠ "") ∧ spelledLength ts ≤ n := by
  obtain ⟨t, s₁, hfirst, h⟩ := bind_eq_ok h
  obtain ⟨more, s₂, hmore, h⟩ := bind_eq_ok h
  cases h
  obtain ⟨hkind, hdrop⟩ := hc.drop_of_accept hfirst
  obtain ⟨hkinds, hdrops⟩ := hc.drop_of_manyUpTo _ hmore
  have hprefix : t :: more <+: c.stream.tokens.toList.drop s.position := by
    rw [hdrop, hdrops]
    exact List.prefix_append (t :: more) _
  have hsub : (t :: more).Sublist c.stream.tokens.toList :=
    hprefix.sublist.trans (List.drop_sublist _ _)
  have hstrings : ∀ u ∈ t :: more, u.kind = .string := List.forall_mem_cons.2 ⟨hkind, hkinds⟩
  refine ⟨List.cons_ne_nil _ _, ?_, ?_⟩
  · exact fun u hu ↦ hc.quoted u (hsub.subset hu) (hstrings u hu)
  · calc spelledLength (t :: more)
        ≤ spelledLength c.stream.tokens.toList :=
          (hsub.map _).sum_le_sum fun _ _ ↦ Nat.zero_le _
      _ ≤ n := hc.spelled

omit hc in
theorem textsBelow_ofCodes {codes : List Nat} (h : codes.length < n) (marked : Bool) :
    (Expr.constant (.ofCodes codes marked)).TextsBelow n := by
  unfold Constant.ofCodes
  split
  · trivial
  · rwa [Expr.TextsBelow, String.length_ofList, Text.StandIn.chars, List.length_map]

omit hc in
/-- The value of adjacent string tokens holds no text, or one that is shorter than the tokens. -/
theorem textsBelow_of_stringsValue {read : LiteralReader} {tokens : List Token} {e : Expr}
    (hne : tokens ≠ []) (hquoted : ∀ t ∈ tokens, t.text ≠ "") (hn : spelledLength tokens ≤ n)
    (h : stringsValue read (tokens.map fun t ↦ .ofToken t.text.toList t.line) = .ok e) :
    e.TextsBelow n := by
  unfold stringsValue at h
  dsimp only at h
  obtain ⟨joined, hjoined, h⟩ := Fault.bind_eq_ok_iff.1 h
  split at h
  · cases h
    trivial
  · split at h
    · cases h
      trivial
    · next hformatted =>
      cases h
      have hplain : ∀ s ∈ tokens.map fun t ↦ RawString.ofToken t.text.toList t.line,
          s.isFormatted = false := by
        simpa using hformatted
      have hlength := length_of_joinStrings hplain hjoined
      rw [List.map_map] at hlength
      apply textsBelow_ofCodes
      calc (joined.1.flatMap TextPart.codes).length
          ≤ _ := hlength
        _ < spelledLength tokens := sum_length_body_lt hne hquoted
        _ ≤ n := hn

end StringRuns

/-- A rule for phrases that hold only texts shorter than `n`. -/
abbrev Rule.Bounded (n : Nat) (c : Context) (r : Rule Phrase) : Prop :=
  r.Ensures (Phrase.TextsBelow n) c (Phrase.TextsBelow n)

/-- A rule for anything, of which the phrases that it remembers hold only texts shorter than `n`. -/
abbrev Rule.Keeps {α : Type} (n : Nat) (c : Context) (r : Rule α) : Prop :=
  r.Ensures (Phrase.TextsBelow n) c fun _ ↦ True

namespace Grammar

/-- The rules of a grammar to which those of the next layer refer, in the first reading. -/
structure Bounded (n : Nat) (c : Context) (g : Grammar) : Prop where
  context : c.Within n
  expression : g.expression.Bounded n c
  namedExpression : g.namedExpression.Bounded n c
  disjunction : g.disjunction.Bounded n c
  inversion : g.inversion.Bounded n c
  bitOr : g.bitOr.Bounded n c
  factor : g.factor.Bounded n c
  starTarget : g.starTarget.Bounded n c
  targetWithStarAtom : g.targetWithStarAtom.Bounded n c

section Sequences

variable {n : Nat} {c : Context}

theorem keeps_identifier : identifier.Keeps n c := Ensures.token fun _ ↦ .pure trivial

theorem bounded_nameAtom : nameAtom.Bounded n c := Ensures.token fun _ ↦ .pure trivial

theorem bounded_commaTuple {item : Rule Phrase} (h : item.Bounded n c) :
    (commaTuple item).Bounded n c := by
  refine h.bind fun first hfirst ↦ ?_
  refine (Ensures.token fun _ ↦ h).many.bind fun more hmore ↦ ?_
  refine (Ensures.accept _).optional.bind fun trailing _ ↦ .pure ?_
  split
  · exact hfirst
  · exact Phrase.textsBelow_tuple (List.forall_mem_cons.2 ⟨hfirst, hmore⟩) _

end Sequences

variable {n : Nat} {c : Context} {g : Grammar} (hg : g.Bounded n c)

include hg

theorem bounded_starredOr {other : Rule Phrase} (h : other.Bounded n c) :
    (starredOr g other).Bounded n c :=
  .orElse (Ensures.token fun _ ↦ hg.bitOr.bind fun _ _ ↦ .pure trivial) h

theorem bounded_starExpression : (starExpression g).Bounded n c :=
  .memoPhrase _ (bounded_starredOr hg hg.expression)

theorem bounded_starExpressions : (starExpressions g).Bounded n c :=
  bounded_commaTuple (bounded_starExpression hg)

theorem bounded_yieldExpression : (yieldExpression g).Bounded n c :=
  .orElse
    (Ensures.token fun _ ↦ Ensures.token fun _ ↦ hg.expression.bind fun _ _ ↦ .pure trivial)
    (Ensures.token fun _ ↦ (bounded_starExpressions hg).optional.bind fun _ _ ↦ .pure trivial)

theorem bounded_assignmentExpression : (assignmentExpression g).Bounded n c :=
  Ensures.token fun _ ↦ Ensures.token fun _ ↦ hg.expression.bind fun _ _ ↦ .pure trivial

theorem bounded_unboundExpression : (unboundExpression g).Bounded n c :=
  hg.expression.bind fun _ he ↦ (Ensures.accept _).notAhead.bind fun _ _ ↦ .pure he

theorem bounded_starredArgument : (starredArgument g).Bounded n c :=
  Ensures.token fun _ ↦ hg.expression.bind fun _ _ ↦ .pure trivial

theorem keeps_clause : (clause g).Keeps n c := by
  have htail (isAsync : Bool) (target : Phrase) : Rule.Keeps n c (do
      let source ← g.disjunction
      let conditions ← many (do let _ ← word "if"; g.disjunction)
      return (⟨target.expr, source.expr, conditions.map Phrase.expr, isAsync⟩ : Clause Expr)) :=
    hg.disjunction.bind fun _ _ ↦ (Ensures.token fun _ ↦ hg.disjunction).many.bind
      fun _ _ ↦ .pure trivial
  have hhead : Rule.Keeps n c (do
      let _ ← word "for"
      let target ← starTargets g
      let _ ← word "in"
      return target) :=
    Ensures.token fun _ ↦ (bounded_commaTuple hg.starTarget).bind fun _ _ ↦
      Ensures.token fun _ ↦ .pure trivial
  exact .settle (Ensures.token fun _ ↦ hhead) (fun target _ ↦ htail true target)
    (.settle hhead (fun target _ ↦ htail false target) (.diagnose hg.context.quiet _))

theorem keeps_clauses : (clauses g).Keeps n c :=
  (keeps_clause hg).many1.mono fun _ _ ↦ trivial

/-! ## Displays -/

theorem bounded_displayItem : (displayItem g).Bounded n c :=
  bounded_starredOr hg hg.namedExpression

theorem ensures_displayItems :
    (displayItems g).Ensures (Phrase.TextsBelow n) c fun items ↦ ∀ p ∈ items, p.TextsBelow n :=
  ((bounded_displayItem hg).sepBy1 (Ensures.accept _)).bind fun _ hitems ↦
    (Ensures.accept _).optional.bind fun _ _ ↦ .pure hitems

theorem bounded_tupleDisplay : (tupleDisplay g).Bounded n c := by
  have hitems : Rule.Ensures (Phrase.TextsBelow n) c (do
      let first ← displayItem g
      let _ ← op ","
      let more ← optional (displayItems g)
      return first :: more.getD []) fun items ↦ ∀ p ∈ items, p.TextsBelow n :=
    (bounded_displayItem hg).bind fun first hfirst ↦ Ensures.token fun _ ↦
      (ensures_displayItems hg).optional.bind fun more hmore ↦
        .pure (List.forall_mem_cons.2 ⟨hfirst, forall_mem_getD hmore⟩)
  exact Ensures.token fun _ ↦ hitems.optional.bind fun items hitems ↦
    Ensures.token fun _ ↦ .pure (Phrase.textsBelow_tuple (forall_mem_getD hitems) _)

theorem bounded_listDisplay : (listDisplay g).Bounded n c :=
  Ensures.token fun _ ↦ (ensures_displayItems hg).optional.bind fun _ _ ↦
    Ensures.token fun _ ↦ .pure trivial

theorem bounded_setDisplay : (setDisplay g).Bounded n c :=
  Ensures.token fun _ ↦ (ensures_displayItems hg).bind fun _ _ ↦ Ensures.token fun _ ↦ .pure trivial

theorem keeps_entry : (entry g).Keeps n c :=
  hg.expression.bind fun _ _ ↦ Ensures.token fun _ ↦ hg.expression.bind fun _ _ ↦ .pure trivial

theorem keeps_starredEntry : (starredEntry g).Keeps n c :=
  .orElse (Ensures.token fun _ ↦ hg.bitOr.bind fun _ _ ↦ .pure trivial)
    ((keeps_entry hg).bind fun _ _ ↦ .pure trivial)

theorem keeps_entryValueError : (entryValueError g).Keeps n c :=
  .orElse
    (hg.expression.bind fun _ _ ↦ Ensures.token fun _ ↦ Ensures.token fun _ ↦
      hg.bitOr.bind fun _ _ ↦ .errorAt _)
    (hg.expression.bind fun _ _ ↦ Ensures.token fun _ ↦
      (Ensures.accept _).ahead.bind fun _ _ ↦ .errorAt _)

theorem keeps_entryError : (entryError g).Keeps n c :=
  .orElse
    (hg.expression.bind fun _ _ ↦ (Ensures.accept _).notAhead.bind fun _ _ ↦ .errorAt _)
    (keeps_entryValueError hg)

theorem keeps_entriesError : (entriesError g).Keeps n c :=
  .orElse
    (((keeps_starredEntry hg).sepBy1 (Ensures.accept _)).bind fun _ _ ↦
      Ensures.token fun _ ↦ keeps_entryError hg)
    (keeps_entryValueError hg)

theorem bounded_dictDisplay : (dictDisplay g).Bounded n c := by
  have hentries : Rule.Keeps n c (do
      let entries ← sepBy1 (starredEntry g) (op ",")
      let _ ← optional (op ",")
      return entries) :=
    ((keeps_starredEntry hg).sepBy1 (Ensures.accept _)).bind fun _ _ ↦
      (Ensures.accept _).optional.bind fun _ _ ↦ .pure trivial
  exact .orElse
    (Ensures.token fun _ ↦ hentries.optional.bind fun _ _ ↦ Ensures.token fun _ ↦ .pure trivial)
    (Ensures.token fun _ ↦ (keeps_entriesError hg).bind fun _ _ ↦ Ensures.token fun _ ↦ .fail)

/-! ## Comprehensions -/

theorem bounded_comprehensionOf (kind : ComprehensionKind) (opening closing : String)
    {item : Rule Phrase} (h : item.Bounded n c) :
    (comprehensionOf g kind opening closing item).Bounded n c :=
  .orElse
    (Ensures.token fun _ ↦ h.bind fun _ _ ↦ (keeps_clauses hg).bind fun _ _ ↦
      Ensures.token fun _ ↦ .pure trivial)
    (.diagnose hg.context.quiet _)

theorem bounded_generator : (generator g).Bounded n c :=
  bounded_comprehensionOf hg _ _ _
    (.orElse (bounded_assignmentExpression hg) (bounded_unboundExpression hg))

theorem bounded_dictComprehension : (dictComprehension g).Bounded n c :=
  .orElse
    (Ensures.token fun _ ↦ (keeps_entry hg).bind fun _ _ ↦
      (keeps_clauses hg).bind fun _ _ ↦ Ensures.token fun _ ↦ .pure trivial)
    (.diagnose hg.context.quiet _)

theorem bounded_namedExpressionRule : (namedExpressionRule g).Bounded n c :=
  .orElse (bounded_assignmentExpression hg)
    (.orElse (.diagnose hg.context.quiet _) (bounded_unboundExpression hg))

/-! ## Arguments -/

theorem keeps_keywordArgument : (keywordArgument g).Keeps n c :=
  keeps_identifier.bind fun _ _ ↦ Ensures.token fun _ ↦ hg.expression.bind fun _ _ ↦ .pure trivial

theorem keeps_keywordOrStarred : (keywordOrStarred g).Keeps n c :=
  .orElse (.diagnose hg.context.quiet _) (.orElse (keeps_keywordArgument hg)
    ((bounded_starredArgument hg).bind fun _ _ ↦ .pure trivial))

theorem keeps_keywordOrMapping : (keywordOrMapping g).Keeps n c :=
  .orElse (.diagnose hg.context.quiet _) (.orElse (keeps_keywordArgument hg)
    (Ensures.token fun _ ↦ hg.expression.bind fun _ _ ↦ .pure trivial))

theorem keeps_keywordArguments : (keywordArguments g).Keeps n c := by
  have hstarred : (sepBy1 (keywordOrStarred g) (op ",")).Keeps n c :=
    ((keeps_keywordOrStarred hg).sepBy1 (Ensures.accept _)).mono fun _ _ ↦ trivial
  have hmapping : (sepBy1 (keywordOrMapping g) (op ",")).Keeps n c :=
    ((keeps_keywordOrMapping hg).sepBy1 (Ensures.accept _)).mono fun _ _ ↦ trivial
  exact .orElse
    (hstarred.bind fun _ _ ↦ Ensures.token fun _ ↦ hmapping.bind fun _ _ ↦ .pure trivial)
    (.orElse hstarred hmapping)

theorem bounded_positionalArgument : (positionalArgument g).Bounded n c :=
  .orElse (bounded_starredArgument hg)
    ((Ensures.orElse (bounded_assignmentExpression hg) (bounded_unboundExpression hg)).bind
      fun _ he ↦ (Ensures.accept _).notAhead.bind fun _ _ ↦ .pure he)

theorem keeps_argumentList : (argumentList g).Keeps n c :=
  Ensures.line.bind fun _ _ ↦ .orElse
    (((bounded_positionalArgument hg).sepBy1 (Ensures.accept _)).bind fun _ _ ↦
      (Ensures.token fun _ ↦ keeps_keywordArguments hg).optional.bind fun _ _ ↦ .pure trivial)
    ((keeps_keywordArguments hg).bind fun _ _ ↦ .pure trivial)

theorem keeps_arguments : (arguments g).Keeps n c :=
  .memoize _ (fun _ _ ↦ trivial) (fun _ _ _ _ ↦ trivial)
    (.orElse
      ((keeps_argumentList hg).bind fun _ _ ↦ (Ensures.accept _).optional.bind fun _ _ ↦
        (Ensures.accept _).ahead.bind fun _ _ ↦ .pure trivial)
      (.diagnose hg.context.quiet _))

/-! ## Parameters -/

namespace ParamForm

variable {f : ParamForm}

omit hg in
theorem keeps_separator : f.separator.Keeps n c :=
  .orElse (Ensures.token fun _ ↦ .pure trivial) (Ensures.accept _).ahead

theorem keeps_fallback : (fallback g).Keeps n c :=
  .orElse (Ensures.token fun _ ↦ hg.expression.bind fun _ _ ↦ .pure trivial)
    (.diagnose hg.context.quiet _)

omit hg in
theorem keeps_slash : f.slash.Keeps n c := Ensures.token fun _ ↦ keeps_separator

variable (hsingle : f.single.Keeps n c)

include hsingle

omit hg in
theorem keeps_required : f.required.Keeps n c :=
  hsingle.bind fun _ _ ↦ keeps_separator.bind fun _ _ ↦ .pure trivial

theorem keeps_defaulted : (f.defaulted g).Keeps n c :=
  hsingle.bind fun _ _ ↦ (keeps_fallback hg).bind fun _ _ ↦ keeps_separator.bind fun _ _ ↦
    .pure trivial

theorem keeps_either : (f.either g).Keeps n c :=
  hsingle.bind fun _ _ ↦ (keeps_fallback hg).optional.bind fun _ _ ↦
    keeps_separator.bind fun _ _ ↦ .pure trivial

omit hg in
theorem keeps_slashRequired : f.slashRequired.Keeps n c :=
  (keeps_required hsingle).many1.bind fun _ _ ↦ keeps_slash.bind fun _ _ ↦ .pure trivial

theorem keeps_slashDefaulted : (f.slashDefaulted g).Keeps n c :=
  (keeps_required hsingle).many.bind fun _ _ ↦ (keeps_defaulted hg hsingle).many1.bind fun _ _ ↦
    keeps_slash.bind fun _ _ ↦ .pure trivial

theorem keeps_keywordRest : f.keywordRest.Keeps n c :=
  .orElse (.diagnose hg.context.quiet _) (Ensures.token fun _ ↦ keeps_required hsingle)

theorem keeps_tail (hstar : f.starAnnotated.Keeps n c) : (f.tail g).Keeps n c := by
  have hrest (variadic : Option (Param Expr)) (only : List ParamAt) : Rule.Keeps n c (do
      let kw ← optional f.keywordRest
      return (⟨variadic, only.map ParamAt.param, kw.map ParamAt.param⟩ : Tail)) :=
    (keeps_keywordRest hg hsingle).optional.bind fun _ _ ↦ .pure trivial
  refine .orElse (.diagnose hg.context.quiet _) (.orElse ?_ (.orElse ?_ (.orElse ?_ ?_)))
  · exact Ensures.token fun _ ↦ (keeps_required hsingle).bind fun _ _ ↦
      (keeps_either hg hsingle).many.bind fun _ _ ↦ hrest _ _
  · exact Ensures.token fun _ ↦ hstar.bind fun _ _ ↦ keeps_separator.bind fun _ _ ↦
      (keeps_either hg hsingle).many.bind fun _ _ ↦ hrest _ _
  · exact Ensures.token fun _ ↦ Ensures.token fun _ ↦
      (keeps_either hg hsingle).many1.bind fun _ _ ↦ hrest _ _
  · exact (keeps_keywordRest hg hsingle).bind fun _ _ ↦ .pure trivial

theorem keeps_params (hstar : f.starAnnotated.Keeps n c) : (f.params g).Keeps n c := by
  have htail := (keeps_tail hg hsingle hstar).optional
  have hdefaulted := (keeps_defaulted hg hsingle).many
  refine .orElse (.diagnose hg.context.quiet _)
    (.orElse ?_ (.orElse ?_ (.orElse ?_ (.orElse ?_ ?_))))
  · exact (keeps_slashRequired hsingle).bind fun _ _ ↦ (keeps_required hsingle).many.bind fun _ _ ↦
      hdefaulted.bind fun _ _ ↦ htail.bind fun _ _ ↦ .pure trivial
  · exact (keeps_slashDefaulted hg hsingle).bind fun _ _ ↦ hdefaulted.bind fun _ _ ↦
      htail.bind fun _ _ ↦ .pure trivial
  · exact (keeps_required hsingle).many1.bind fun _ _ ↦ hdefaulted.bind fun _ _ ↦
      htail.bind fun _ _ ↦ .pure trivial
  · exact (keeps_defaulted hg hsingle).many1.bind fun _ _ ↦ htail.bind fun _ _ ↦ .pure trivial
  · exact (keeps_tail hg hsingle hstar).bind fun _ _ ↦ .pure trivial

end ParamForm

theorem bounded_lambda : (lambda g).Bounded n c := by
  have hsingle : bareParam.Keeps n c := Ensures.token fun _ ↦ .pure trivial
  have hparams : (lambdaForm.params g).Keeps n c := ParamForm.keeps_params hg hsingle .fail
  exact Ensures.token fun _ ↦ hparams.optional.bind fun _ _ ↦
    Ensures.token fun _ ↦ hg.expression.bind fun _ _ ↦ .pure trivial

/-! ## Atoms -/

theorem bounded_strings : (strings g).Bounded n c := by
  have hrun : (many1 (kind .string)).Ensures (Phrase.TextsBelow n) c fun ts ↦ True ∧
      ts ≠ [] ∧ (∀ t ∈ ts, t.text ≠ "") ∧ spelledLength ts ≤ n :=
    .and ((Ensures.accept _).many1.mono fun _ _ ↦ trivial) fun _ _ _ h ↦
      hg.context.strings_of_many1 h
  apply Ensures.memoPhrase
  refine hrun.bind fun ts hts ↦ ?_
  obtain ⟨-, hne, hquoted, hlength⟩ := hts
  dsimp only
  split
  · next e he => exact .pure (textsBelow_of_stringsValue hne hquoted hlength he)
  · exact .errorHere
  · exact .errorAt _

omit hg in
theorem textsBelow_of_numberValue? {text : List Char} {value : Constant}
    (h : numberValue? text = some value) : (Expr.constant value).TextsBelow n := by
  unfold numberValue? at h
  dsimp only at h
  split at h
  case h_7 =>
    split at h
    · cases h
      trivial
    · split at h
      · cases h
        trivial
      · split at h <;> cases h
        trivial
  all_goals
    cases h
    trivial

omit hg in
theorem bounded_number : number.Bounded n c := by
  refine Ensures.token fun t ↦ ?_
  split
  · next value hvalue => exact .pure (textsBelow_of_numberValue? hvalue)
  · exact .errorAt _

theorem bounded_group : (group g).Bounded n c :=
  .orElse
    (Ensures.token fun _ ↦
      (Ensures.orElse (bounded_yieldExpression hg) hg.namedExpression).bind fun _ he ↦
        Ensures.token fun _ ↦ .pure he)
    (.diagnose hg.context.quiet _)

omit hg in
theorem bounded_constantWord (text : String) {value : Constant}
    (h : (Expr.constant value).TextsBelow n) : (constantWord text value).Bounded n c :=
  Ensures.token fun _ ↦ .pure h

theorem bounded_atom : (atom g).Bounded n c := by
  refine .orElse bounded_nameAtom (.orElse (bounded_constantWord _ trivial)
    (.orElse (bounded_constantWord _ trivial) (.orElse (bounded_constantWord _ trivial)
      (.orElse ?_ (.orElse bounded_number (.orElse ?_ (.orElse ?_ (.orElse ?_ ?_))))))))
  · exact (Ensures.accept _).ahead.bind fun _ _ ↦ bounded_strings hg
  · exact (Ensures.accept _).ahead.bind fun _ _ ↦
      .orElse (bounded_tupleDisplay hg) (.orElse (bounded_group hg) (bounded_generator hg))
  · exact (Ensures.accept _).ahead.bind fun _ _ ↦
      .orElse (bounded_listDisplay hg) (bounded_comprehensionOf hg _ _ _ hg.namedExpression)
  · exact (Ensures.accept _).ahead.bind fun _ _ ↦
      .orElse (bounded_dictDisplay hg) (.orElse (bounded_setDisplay hg)
        (.orElse (bounded_dictComprehension hg)
          (bounded_comprehensionOf hg _ _ _ hg.namedExpression)))
  · exact Ensures.token fun _ ↦ .pure trivial

/-! ## What follows an atom -/

theorem bounded_slice : (slice g).Bounded n c :=
  .orElse
    (Ensures.line.bind fun _ _ ↦ hg.expression.optional.bind fun _ _ ↦
      Ensures.token fun _ ↦ hg.expression.optional.bind fun _ _ ↦
        (Ensures.token fun _ ↦ hg.expression.optional).optional.bind fun _ _ ↦ .pure trivial)
    hg.namedExpression

theorem bounded_slices : (slices g).Bounded n c := by
  have hitem := Ensures.orElse (bounded_slice hg) (bounded_starredArgument hg)
  exact .orElse
    ((bounded_slice hg).bind fun _ hs ↦ (Ensures.accept _).notAhead.bind fun _ _ ↦ .pure hs)
    ((hitem.sepBy1 (Ensures.accept _)).bind fun _ hitems ↦
      (Ensures.accept _).optional.bind fun _ _ ↦ .pure (Phrase.textsBelow_tuple hitems _))

omit hg in
theorem bounded_attributeOf (value : Phrase) : (attributeOf value).Bounded n c :=
  Ensures.token fun _ ↦ keeps_identifier.bind fun _ _ ↦ .pure trivial

theorem bounded_itemOf (value : Phrase) : (itemOf g value).Bounded n c :=
  Ensures.token fun _ ↦ (bounded_slices hg).bind fun _ hindex ↦ Ensures.token fun _ ↦ .pure hindex

theorem bounded_callWithGenerator (value : Phrase) : (callWithGenerator g value).Bounded n c :=
  (bounded_generator hg).bind fun _ _ ↦ .pure trivial

theorem bounded_callOf (value : Phrase) : (callOf g value).Bounded n c :=
  Ensures.token fun _ ↦ (keeps_arguments hg).optional.bind fun _ _ ↦
    Ensures.token fun _ ↦ .pure trivial

omit hg in
theorem bounded_extend {step : Phrase → Rule Phrase}
    (hstep : ∀ p, p.TextsBelow n → (step p).Bounded n c) (k : Nat) {p : Phrase}
    (hp : p.TextsBelow n) : (extend step k p).Bounded n c := by
  induction k generalizing p with
  | zero => exact .pure hp
  | succ k ih =>
    refine (hstep p hp).optional.bind fun found hfound ↦ ?_
    cases found with
    | none => exact .pure hp
    | some q => exact ih (hfound q rfl)

omit hg in
theorem bounded_leftGrouped {first : Rule Phrase} {step : Phrase → Rule Phrase}
    (hfirst : first.Bounded n c) (hstep : ∀ p, p.TextsBelow n → (step p).Bounded n c) :
    (leftGrouped first step).Bounded n c :=
  hfirst.bind fun _ hp ↦ bounded_extend hstep _ hp

theorem bounded_primary : (primary g).Bounded n c :=
  .memoPhrase _ (bounded_leftGrouped (bounded_atom hg) fun p _ ↦
    .orElse (bounded_attributeOf p) (.orElse (bounded_callWithGenerator hg p)
      (.orElse (bounded_callOf hg p) (bounded_itemOf hg p))))

omit hg in
/-- A rule after which an access must follow. -/
theorem bounded_beforeAccess {r : Rule Phrase} (h : r.Bounded n c) :
    Rule.Bounded n c (do let q ← r; accessAhead; return q) :=
  h.bind fun _ hq ↦ (Ensures.accept _).ahead.bind fun _ _ ↦ .pure hq

theorem bounded_targetPrimary : (targetPrimary g).Bounded n c :=
  .memoPhrase _ (bounded_leftGrouped (bounded_beforeAccess (bounded_atom hg)) fun p _ ↦
    .orElse (bounded_beforeAccess (bounded_attributeOf p))
      (.orElse (bounded_beforeAccess (bounded_itemOf hg p))
        (.orElse (bounded_beforeAccess (bounded_callWithGenerator hg p))
          (bounded_beforeAccess (bounded_callOf hg p)))))

/-! ## Operators -/

theorem bounded_awaitPrimary : (awaitPrimary g).Bounded n c :=
  .memoPhrase _ (.orElse
    (Ensures.token fun _ ↦ (bounded_primary hg).bind fun _ _ ↦ .pure trivial)
    (bounded_primary hg))

theorem bounded_power : (power g).Bounded n c :=
  .orElse
    ((bounded_awaitPrimary hg).bind fun _ hbase ↦ Ensures.token fun _ ↦
      hg.factor.bind fun _ hexponent ↦ .pure ⟨hbase, hexponent⟩)
    (bounded_awaitPrimary hg)

theorem bounded_signed (sign : String) (o : UnaryOp) : (signed g sign o).Bounded n c :=
  Ensures.token fun _ ↦ hg.factor.bind fun _ _ ↦ .pure trivial

theorem bounded_factorRule : (factorRule g).Bounded n c :=
  .memoPhrase _ (.orElse (bounded_signed hg _ _) (.orElse (bounded_signed hg _ _)
    (.orElse (bounded_signed hg _ _) (bounded_power hg))))

omit hg in
theorem bounded_binaryLevel (name : RuleName) {operand : Rule Phrase} (h : operand.Bounded n c)
    (signs : List (String × BinaryOp)) : (binaryLevel name operand signs).Bounded n c :=
  .memoPhrase _ (bounded_leftGrouped h fun _ hleft ↦ Ensures.token fun _ ↦
    h.bind fun _ hright ↦ .pure ⟨hleft, hright⟩)

theorem bounded_bitOrRule : (bitOrRule g).Bounded n c := by
  have hterm : (term g).Bounded n c := bounded_binaryLevel _ (bounded_factorRule hg) _
  have hshift : (shift g).Bounded n c := bounded_binaryLevel _ (bounded_binaryLevel _ hterm _) _
  exact bounded_binaryLevel _ (bounded_binaryLevel _ (bounded_binaryLevel _ hshift _) _) _

omit hg in
theorem keeps_compareSign : compareSign.Keeps n c :=
  .orElse (Ensures.token fun _ ↦ .pure trivial)
    (.orElse (Ensures.token fun _ ↦ Ensures.token fun _ ↦ .pure trivial)
      (.orElse (Ensures.token fun _ ↦ .pure trivial)
        (.orElse (Ensures.token fun _ ↦ Ensures.token fun _ ↦ .pure trivial)
          (Ensures.token fun _ ↦ .pure trivial))))

theorem keeps_compareStep : (compareStep g).Keeps n c :=
  keeps_compareSign.bind fun _ _ ↦ (bounded_bitOrRule hg).bind fun _ _ ↦ .pure trivial

theorem bounded_comparison : (comparison g).Bounded n c := by
  refine (bounded_bitOrRule hg).bind fun _ hleft ↦ (keeps_compareStep hg).many.bind fun _ _ ↦
    .pure ?_
  split
  · exact hleft
  · trivial

theorem bounded_inversionRule : (inversionRule g).Bounded n c :=
  .memoPhrase _ (.orElse
    (Ensures.token fun _ ↦ hg.inversion.bind fun _ _ ↦ .pure trivial)
    (bounded_comparison hg))

omit hg in
theorem bounded_connectiveLevel (name : RuleName) {operand : Rule Phrase}
    (h : operand.Bounded n c) (text : String) (o : BoolOp) :
    (connectiveLevel name operand text o).Bounded n c := by
  refine .memoPhrase _ (h.bind fun _ hfirst ↦
    (Ensures.token fun _ ↦ h).many.bind fun _ _ ↦ .pure ?_)
  split
  · exact hfirst
  · trivial

theorem bounded_disjunctionRule : (disjunctionRule g).Bounded n c :=
  bounded_connectiveLevel _ (bounded_connectiveLevel _ (bounded_inversionRule hg) _ _) _ _

theorem bounded_expressionRule : (expressionRule g).Bounded n c := by
  have hdisjunction := bounded_disjunctionRule hg
  have hplain : (plainExpression g).Bounded n c :=
    .orElse
      (hdisjunction.bind fun _ _ ↦ Ensures.token fun _ ↦ hdisjunction.bind fun _ _ ↦
        Ensures.token fun _ ↦ hg.expression.bind fun _ _ ↦ .pure trivial)
      (.orElse hdisjunction (bounded_lambda hg))
  exact .memoPhrase _ (.orElse (.diagnose hg.context.quiet _)
    (.orElse (.diagnose hg.context.quiet _) hplain))

/-! ## Targets -/

theorem bounded_accessTarget : (accessTarget g).Bounded n c := by
  have hend {r : Rule Phrase} (h : r.Bounded n c) :
      Rule.Bounded n c (do let q ← r; notAhead accessAhead; return q) :=
    h.bind fun _ hq ↦ (Ensures.accept _).ahead.notAhead.bind fun _ _ ↦ .pure hq
  exact .orElse ((bounded_targetPrimary hg).bind fun p _ ↦ hend (bounded_attributeOf p))
    ((bounded_targetPrimary hg).bind fun p _ ↦ hend (bounded_itemOf hg p))

theorem bounded_starAtom : (starAtom g).Bounded n c := by
  refine .orElse bounded_nameAtom (.orElse ?_ (.orElse ?_ ?_))
  · exact Ensures.token fun _ ↦ hg.targetWithStarAtom.bind fun _ ht ↦ Ensures.token fun _ ↦ .pure ht
  · refine Ensures.token fun _ ↦ (Ensures.optional ?_).bind fun _ hitems ↦
      Ensures.token fun _ ↦ .pure (Phrase.textsBelow_tuple (forall_mem_getD hitems) _)
    refine hg.starTarget.bind fun first hfirst ↦ Ensures.token fun _ ↦
      (hg.starTarget.sepBy1 (Ensures.accept _)).optional.bind fun more hmore ↦ ?_
    cases more with
    | none => exact .pure (List.forall_mem_singleton.2 hfirst)
    | some more =>
      exact (Ensures.accept _).optional.bind fun _ _ ↦
        .pure (List.forall_mem_cons.2 ⟨hfirst, hmore more rfl⟩)
  · have hitems : Rule.Keeps n c (do
        let items ← sepBy1 g.starTarget (op ",")
        let _ ← optional (op ",")
        return items) :=
      (hg.starTarget.sepBy1 (Ensures.accept _)).bind fun _ _ ↦
        (Ensures.accept _).optional.bind fun _ _ ↦ .pure trivial
    exact Ensures.token fun _ ↦ hitems.optional.bind fun _ _ ↦ Ensures.token fun _ ↦ .pure trivial

theorem bounded_targetWithStarAtomRule : (targetWithStarAtomRule g).Bounded n c :=
  .memoPhrase _ (.orElse (bounded_accessTarget hg) (bounded_starAtom hg))

theorem bounded_starTargetRule : (starTargetRule g).Bounded n c :=
  .memoPhrase _ (.orElse
    (Ensures.token fun _ ↦ (Ensures.accept _).notAhead.bind fun _ _ ↦
      hg.starTarget.bind fun _ _ ↦ .pure trivial)
    (bounded_targetWithStarAtomRule hg))

/-! ## The grammar -/

/-- One layer of the grammar keeps the bound of the layer below it, rule by rule. -/
theorem bounded_layer (literals : LiteralReader) : (g.layer literals).Bounded n c where
  context := hg.context
  expression := bounded_expressionRule hg
  namedExpression := bounded_namedExpressionRule hg
  disjunction := bounded_disjunctionRule hg
  inversion := bounded_inversionRule hg
  bitOr := bounded_bitOrRule hg
  factor := bounded_factorRule hg
  starTarget := bounded_starTargetRule hg
  targetWithStarAtom := bounded_targetWithStarAtomRule hg

omit hg in
/-- Every unrolling of the grammar keeps the bound. -/
theorem bounded_grammarUpTo [CharacterNames] (hc : c.Within n) (k : Nat) :
    (grammarUpTo k).Bounded n c := by
  induction k with
  | zero => exact ⟨hc, .fail, .fail, .fail, .fail, .fail, .fail, .fail, .fail⟩
  | succ k ih => exact bounded_layer ih _

theorem ensures_loneExpression :
    g.loneExpression.Ensures (Phrase.TextsBelow n) c (Expr.TextsBelow n) :=
  (bounded_commaTuple hg.expression).bind fun _ he ↦ (Ensures.accept _).many.bind fun _ _ ↦
    Ensures.token fun _ ↦ .pure he

omit hg in
/-- A whole text that is one expression has been read to its end. -/
theorem finish_of_loneExpression {s s' : State} {e : Expr} (h : g.loneExpression c s = .ok e s') :
    ∃ t ∈ c.stream.tokens.toList, t.kind = .finish := by
  obtain ⟨p, s₁, -, h⟩ := bind_eq_ok h
  obtain ⟨lines, s₂, -, h⟩ := bind_eq_ok h
  obtain ⟨t, s₃, hfinish, -⟩ := bind_eq_ok h
  obtain ⟨hkind, -, hget | hlast⟩ := accept_eq_ok hfinish
  · exact ⟨t, Array.mem_toList_iff.2 (Array.mem_of_getElem? hget), eq_of_beq hkind⟩
  · cases hback : c.stream.tokens.back? with
    | none =>
      rw [hlast, hback] at hkind
      cases hkind
    | some u =>
      rw [hlast, hback] at hkind
      exact ⟨u, Array.mem_toList_iff.2 (Array.mem_of_back? hback), eq_of_beq hkind⟩

end Grammar

theorem Token.placeless_text (t : Token) : t.placeless.text = t.text := by
  unfold Token.placeless
  split <;> rfl

/-- The tokens of a text that is read to its end. -/
theorem within_tokenizeFrom {n line : Nat} {text : List Char} (hn : text.length ≤ n) {t : Token}
    (ht : t ∈ (tokenizeFrom line text).placeless.tokens.toList) (hfinish : t.kind = .finish) :
    Context.Within n ⟨(tokenizeFrom line text).placeless, false⟩ := by
  have htokens : (tokenizeFrom line text).placeless.tokens.toList =
      (tokenizeFrom line text).tokens.toList.map Token.placeless := Array.toList_map
  constructor
  · rfl
  · have hspelled : spelledLength (tokenizeFrom line text).placeless.tokens.toList =
        spelledLength (tokenizeFrom line text).tokens.toList := by
      rw [spelledLength, htokens, List.map_map, spelledLength]
      simp only [Function.comp_def, Token.placeless_text]
    rw [hspelled]
    exact (spelledLength_tokenizeFrom line text).trans hn
  · rw [htokens, List.forall_mem_map]
    intro u hu
    rw [Token.placeless_kind, Token.placeless_text]
    exact quoted_tokenizeFrom line text u hu
  · intro last hlast
    rw [htokens] at ht
    obtain ⟨u, hu, rfl⟩ := List.mem_map.1 ht
    rw [Token.placeless_kind] at hfinish
    rw [← Array.getLast?_toList, htokens, List.getLast?_map,
      getLast?_tokenizeFrom line text hu hfinish, Option.map_some, Option.some.injEq] at hlast
    rw [← hlast, Token.placeless_kind, hfinish]
    decide

theorem remembers_startState (good : Phrase → Prop) (stream : TokenStream) (fetched : Nat) :
    (startState stream fetched).Remembers good := by
  intro place memories hget m hm
  rw [startState, Array.getElem?_replicate] at hget
  split at hget <;> cases hget
  cases hm

/-- What is quoted in an expression is shorter than the text that was read as the expression. -/
theorem textsBelow_of_parseExpression [CharacterNames] {s : String} {e : Expr}
    (h : parseExpression s.toList = .ok e) : e.TextsBelow s.length := by
  obtain ⟨last, hread⟩ := readTokens_eq_ok_iff.1 h
  obtain ⟨t, ht, hfinish⟩ := Grammar.finish_of_loneExpression hread
  have hlength : (Text.plainNewlines s.toList).length ≤ s.length := length_plainNewlines_le s.toList
  have hwithin := within_tokenizeFrom hlength ht hfinish
  have hgrammar := Grammar.bounded_grammarUpTo hwithin (nestingBound (Text.plainNewlines s.toList))
  exact (Grammar.ensures_loneExpression hgrammar).of_eq_ok (remembers_startState _ _ _) hread

end CallCompletion.Source
