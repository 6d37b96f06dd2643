import CallCompletion.Proofs.Classification
import CallCompletion.Proofs.HeldTexts

/-!
# Classification ends

An annotation is classified by what it stands for. Each step leads to a smaller annotation, or from
a quoted text to the annotation that the text is; in that, all texts are shorter. So classification
ends for every annotation. It has an answer unless it is led to a binary operation other than a
union, to a wrapper around nothing, to a text with a NUL, or to a text with half of a surrogate
pair. The room that so deep a classification takes is not counted. -/

namespace CallCompletion.Source

open CallCompletion.Text

/-! ## Steps to smaller annotations -/

theorem Expr.textsBelow_of_mem_unionLeaves {n : Nat} (e : Expr) (h : e.TextsBelow n) :
    ∀ leaf ∈ e.unionLeaves, leaf.TextsBelow n := by
  fun_induction Expr.unionLeaves e with
  | case1 left right ihl ihr => exact List.forall_mem_append.2 ⟨ihl h.1, ihr h.2⟩
  | case2 e _ => exact List.forall_mem_singleton.2 h

theorem Expr.textsBelow_of_mem_typeArguments {n : Nat} {value index e : Expr}
    (h : (Expr.subscript value index).TextsBelow n) (he : e ∈ index.typeArguments) :
    e.TextsBelow n := by
  have hindex : index.TextsBelow n := h
  cases index
  case tuple items => exact Expr.allTextsBelow_iff.1 hindex e he
  all_goals exact List.mem_singleton.1 he ▸ hindex

section Names

variable [CharacterNames]

/-- A step leads to a smaller annotation, in which there are no longer texts, unless it reads a
quoted text. -/
theorem Expr.StandsFor.smaller_or_quoted {e inner : Expr} (h : e.StandsFor inner) :
    (sizeOf inner < sizeOf e ∧ ∀ n, e.TextsBelow n → inner.TextsBelow n) ∨
      ∃ s marked, e = .constant (.text s marked) ∧ parseExpression s.toList = .ok inner := by
  have hargument {value index : Expr} (hmem : inner ∈ index.typeArguments) :
      sizeOf inner < sizeOf (Expr.subscript value index) ∧
        ∀ n, (Expr.subscript value index).TextsBelow n → inner.TextsBelow n := by
    have hsize : sizeOf (Expr.subscript value index) = 1 + sizeOf value + sizeOf index := rfl
    have hinner := sizeOf_le_of_mem_typeArguments hmem
    exact ⟨by omega, fun n hn ↦ textsBelow_of_mem_typeArguments hn hmem⟩
  cases h with
  | @bars left right _ hsole =>
    have hmem := mem_of_soleMember? hsole
    have hsize : sizeOf (Expr.binary .bitOr left right) = 1 + 1 + sizeOf left + sizeOf right := rfl
    refine .inl ⟨?_, fun n hn ↦ textsBelow_of_mem_unionLeaves _ hn inner hmem⟩
    rcases List.mem_append.1 hmem with hleft | hright
    · have hinner := sizeOf_le_of_mem_unionLeaves left inner hleft
      omega
    · have hinner := sizeOf_le_of_mem_unionLeaves right inner hright
      omega
  | wrapped _ hitems => exact .inl (hargument (hitems ▸ List.mem_cons_self))
  | union _ hsole => exact .inl (hargument (mem_of_soleMember? hsole))
  | result _ hitems => exact .inl (hargument (by simp [hitems]))
  | quoted _ hread => exact .inr ⟨_, _, rfl, hread⟩

/-- From an annotation with texts shorter than `n`, only such texts are reached. -/
theorem length_lt_of_reflTransGen {n : Nat} {e : Expr} {t : String} {marked : Bool}
    (hn : e.TextsBelow n)
    (h : Relation.ReflTransGen Expr.StandsFor e (.constant (.text t marked))) : t.length < n := by
  induction h using Relation.ReflTransGen.head_induction_on generalizing n with
  | refl => exact hn
  | head hstep _ ih =>
    rcases hstep.smaller_or_quoted with ⟨-, hkeep⟩ | ⟨s, _, rfl, hread⟩
    · exact ih (hkeep n hn)
    · exact (ih (textsBelow_of_parseExpression hread)).trans hn

/-- Standing for one another cannot go on for ever below a bound on the texts. -/
theorem acc_of_textsBelow {n : Nat} {e : Expr} (hn : e.TextsBelow n) :
    Acc (fun inner e ↦ Expr.StandsFor e inner) e := by
  induction n using Nat.strong_induction_on generalizing e with
  | h n ihn =>
    induction hsize : sizeOf e using Nat.strong_induction_on generalizing e with
    | h size ihsize =>
      refine ⟨e, fun inner hstep ↦ ?_⟩
      rcases hstep.smaller_or_quoted with ⟨hless, hkeep⟩ | ⟨s, _, rfl, hread⟩
      · exact ihsize _ (hsize ▸ hless) (hkeep n hn) rfl
      · exact ihn _ hn (textsBelow_of_parseExpression hread)

/-- No annotation is led on for ever. -/
theorem wellFounded_standsFor : WellFounded fun inner e ↦ Expr.StandsFor e inner := by
  constructor
  intro e
  induction hsize : sizeOf e using Nat.strong_induction_on generalizing e with
  | h size ih =>
    refine ⟨e, fun inner hstep ↦ ?_⟩
    rcases hstep.smaller_or_quoted with ⟨hless, -⟩ | ⟨s, _, rfl, hread⟩
    · exact ih _ (hsize ▸ hless) inner rfl
    · exact acc_of_textsBelow (textsBelow_of_parseExpression hread)

/-! ## Classification along the steps -/

section Steps

omit [CharacterNames]

variable {classes : ClassTable} {quoted : String → Except Fault TypeDescriptor}

theorem classifyWith_bars {left right e : Expr}
    (h : soleMember? (left.unionLeaves ++ right.unionLeaves) = some e) :
    classifyWith classes quoted (.binary .bitOr left right) = classifyWith classes quoted e := by
  rw [classifyWith]
  split <;> simp_all

theorem classifyWith_wrapped {value index e : Expr} {rest : List Expr}
    (hvalue : value.lastSegment? = some "Optional" ∨ value.lastSegment? = some "Annotated")
    (hitems : index.typeArguments = e :: rest) :
    classifyWith classes quoted (.subscript value index) = classifyWith classes quoted e := by
  rw [classifyWith]
  rcases hvalue with hvalue | hvalue <;> simp only [hvalue] <;> grind

theorem classifyWith_union {value index e : Expr} (hvalue : value.lastSegment? = some "Union")
    (hitems : soleMember? index.typeArguments = some e) :
    classifyWith classes quoted (.subscript value index) = classifyWith classes quoted e := by
  rw [classifyWith]
  simp only [hvalue]
  grind

theorem classifyWith_result {value index parameters e : Expr}
    (hvalue : value.lastSegment? = some "Callable")
    (hitems : index.typeArguments = [parameters, e]) :
    classifyWith classes quoted (.subscript value index) =
      (classifyWith classes quoted e).map fun returns ↦
        .function (callableParameters parameters) returns.returnKind := by
  have hlist : listNames.contains "Callable" = false := by decide
  have htuple : tupleNames.contains "Callable" = false := by decide
  rw [classifyWith]
  simp only [hvalue, hlist, htuple]
  grind

end Steps

omit [CharacterNames] in
/-- The class of an annotation depends on those of the texts in it only. -/
theorem classifyWith_congr (classes : ClassTable)
    {quoted other : String → Except Fault TypeDescriptor} {n : Nat}
    (h : ∀ s : String, s.length < n → quoted s = other s) {e : Expr} (he : e.TextsBelow n) :
    classifyWith classes quoted e = classifyWith classes other e := by
  fun_induction classifyWith classes quoted e with
  | case2 s marked =>
    rw [classifyWith]
    exact h s he
  | case4 left right m hm ih =>
    rw [classifyWith_bars hm]
    exact ih (Expr.textsBelow_of_mem_unionLeaves _ he m (mem_of_soleMember? hm))
  | case9 value index name hvalue hname item rest hitem ih =>
    rw [classifyWith_wrapped (Expr.isWrapper_of_name hvalue hname) hitem]
    exact ih (Expr.textsBelow_of_mem_typeArguments he (hitem ▸ List.mem_cons_self))
  | case10 value index m hm hvalue hname ih =>
    rw [classifyWith_union hvalue hm]
    exact ih (Expr.textsBelow_of_mem_typeArguments he (mem_of_soleMember? hm))
  | case14 value index parameters result hresult hvalue _ _ _ _ ih =>
    have hmem : result ∈ index.typeArguments := by simp [hresult]
    rw [classifyWith_result hvalue hresult, ih (Expr.textsBelow_of_mem_typeArguments he hmem)]
  | case1 | case3 | case5 | case6 | case7 | case8 | case11 | case12 | case13 | case15 | case16 | case17
  | case18 =>
    -- No other annotation is asked for.
    rw [classifyWith] <;> grind

/-! ## Quotes inside quotes -/

/-- The length of a text is deep enough for the quotes inside it. -/
theorem classifyQuoted_of_lt (classes : ClassTable) {s : String} {depth : Nat}
    (h : s.length < depth) :
    classifyQuoted classes depth s = classifyQuoted classes (s.length + 1) s := by
  induction hlength : s.length using Nat.strong_induction_on generalizing s depth with
  | h length ih =>
    subst hlength
    obtain ⟨depth, rfl⟩ : ∃ d, depth = d + 1 := ⟨depth - 1, by omega⟩
    rw [classifyQuoted_succ, classifyQuoted_succ]
    split
    · rfl
    · split
      · next e hread =>
        apply classifyWith_congr classes _ (textsBelow_of_parseExpression hread)
        intro t ht
        rw [ih t.length ht (by omega) rfl, ih t.length ht ht rfl]
      · rfl

/-- A quoted annotation has the class of the annotation that its text is. -/
theorem classify_quoted (classes : ClassTable) {s : String} {marked : Bool} {e : Expr}
    (hnul : '\x00' ∉ s.toList) (hread : parseExpression s.toList = .ok e) :
    classify classes (.constant (.text s marked)) = classify classes e := by
  have hplain : s.toList.contains '\x00' = false := by simpa using hnul
  rw [classify, classifyWith, classifyQuoted_succ, hplain, hread]
  apply classifyWith_congr classes _ (textsBelow_of_parseExpression hread)
  intro t ht
  exact classifyQuoted_of_lt classes ht

/-- An annotation has the class of the one it stands for, or is a function with such a result. -/
theorem Expr.StandsFor.classify_eq {e inner : Expr} (h : e.StandsFor inner) (classes : ClassTable) :
    classify classes e = classify classes inner ∨
      ∃ parameters, classify classes e =
        (classify classes inner).map fun returns ↦ .function parameters returns.returnKind := by
  cases h with
  | bars hsole => exact .inl (classifyWith_bars hsole)
  | wrapped hvalue hitems => exact .inl (classifyWith_wrapped hvalue hitems)
  | union hvalue hsole => exact .inl (classifyWith_union hvalue hsole)
  | result hvalue hitems => exact .inr ⟨_, classifyWith_result hvalue hitems⟩
  | quoted hnul hread => exact .inl (classify_quoted classes hnul hread)

theorem Expr.StandsFor.of?_classify {e inner : Expr} (h : e.StandsFor inner)
    (classes : ClassTable) :
    Fault.of? (classify classes e) = Fault.of? (classify classes inner) := by
  rcases h.classify_eq classes with heq | ⟨parameters, heq⟩
  · rw [heq]
  · rw [heq, Fault.of?_map]

/-- What has no class fails for every table of classes. -/
theorem Expr.HasNoClass.classify_eq {e : Expr} {f : Fault} (h : e.HasNoClass f)
    (classes : ClassTable) : classify classes e = .error f := by
  cases h with
  | operation hop =>
    rw [classify, classifyWith]
    exact hop
  | wrapsNothing hvalue hitems =>
    rw [classify, classifyWith]
    rcases hvalue with hvalue | hvalue <;> simp only [hvalue] <;> grind
  | nul hnul =>
    have hfound : List.contains _ '\x00' = true := List.contains_iff_mem.2 hnul
    rw [classify, classifyWith, classifyQuoted_succ, if_pos hfound]
  | half => rw [classify, classifyWith]

/-- An annotation has a fault if and only if it leads to one without a class. -/
theorem classify_eq_error_iff {classes : ClassTable} {e : Expr} {f : Fault} :
    classify classes e = .error f ↔
      ∃ inner, Relation.ReflTransGen Expr.StandsFor e inner ∧ inner.HasNoClass f := by
  refine ⟨exists_hasNoClass_of_classify, ?_⟩
  rintro ⟨inner, hway, hnone⟩
  rw [← Fault.of?_eq_some_iff]
  induction hway using Relation.ReflTransGen.head_induction_on with
  | refl => rw [hnone.classify_eq, Fault.of?]
  | head hstep _ ih => rw [hstep.of?_classify, ih]

/-- An annotation has a class if and only if it leads to none without one. -/
theorem exists_classify_iff {classes : ClassTable} {e : Expr} :
    (∃ type, classify classes e = .ok type) ↔
      ∀ inner f, Relation.ReflTransGen Expr.StandsFor e inner → ¬ inner.HasNoClass f := by
  constructor
  · rintro ⟨type, htype⟩ inner f hway hnone
    have herror : classify classes e = .error f := classify_eq_error_iff.2 ⟨inner, hway, hnone⟩
    rw [htype] at herror
    cases herror
  · intro hall
    cases hclass : classify classes e with
    | ok type => exact ⟨type, rfl⟩
    | error f =>
      obtain ⟨inner, hway, hnone⟩ := classify_eq_error_iff.1 hclass
      exact absurd hnone (hall inner f hway)

/-- A written annotation has a fault if and only if evaluation of its text comes to that fault. -/
theorem exists_classify_eq_error_iff {classes : ClassTable} {text : List Char} {f : Fault} :
    (∃ e, parseExpression text = .ok e ∧ classify classes e = .error f) ↔
      (parseExpression text).toOption.bind (fun e ↦ Fault.of? (classify classes e)) = some f := by
  cases parseExpression text <;> simp [Except.toOption, Fault.of?_eq_some_iff]

end Names

end CallCompletion.Source
