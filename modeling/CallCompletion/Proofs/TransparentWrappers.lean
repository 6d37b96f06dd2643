import CallCompletion.Proofs.TotalClassification

/-!
# Wrappers that do not show

An annotation may be wrapped to allow for the absence of a value, or to carry remarks: `Optional`,
`Annotated`, a union with nothing but the absence of a value besides, and trees of bars of that
kind. However often and in whatever order it is wrapped, its class stays the same. Trees of bars
are flattened at once, through all wrappings by bars, so that what is followed from one wrapping to
the next is the one member that flattening leaves.
-/

namespace CallCompletion.Source

/-! ## Wrappings -/

/-- A name, written plainly or at the end of a dotted path. -/
inductive Expr.IsNamed : String → Expr → Prop
  | plain (name : String) : Expr.IsNamed name (.name name)
  | dotted {qualifier : String} {value : Expr} (name : String) :
    Expr.IsNamed qualifier value → Expr.IsNamed name (.attribute value name)

/-- What stands between the brackets of a subscript: one argument, or a list of them. -/
inductive Expr.Lists : Expr → List Expr → Prop
  | single (e : Expr) : Expr.Lists e [e]
  | several (items : List Expr) : Expr.Lists (.tuple items) items

/-- A tree of bars in which every leaf is the absence of a value. -/
inductive Expr.IsAbsence : Expr → Prop
  | leaf : Expr.IsAbsence (.constant .none)
  | bar {left right : Expr} :
    left.IsAbsence → right.IsAbsence → Expr.IsAbsence (.binary .bitOr left right)

/-- A tree of bars with the given leaf, in which every other leaf is the absence of a value. -/
inductive Expr.IsLeafOf (leaf : Expr) : Expr → Prop
  | root : leaf.IsLeafOf leaf
  | inLeft {left right : Expr} :
    leaf.IsLeafOf left → right.IsAbsence → leaf.IsLeafOf (.binary .bitOr left right)
  | inRight {left right : Expr} :
    left.IsAbsence → leaf.IsLeafOf right → leaf.IsLeafOf (.binary .bitOr left right)

/-- Any number of wrappings around an annotation. -/
inductive Expr.WrappedAs (x : Expr) : Expr → Prop
  | bare : x.WrappedAs x
  | optional {wrapper index y : Expr} :
    x.WrappedAs y → wrapper.IsNamed "Optional" → index.Lists [y] →
      x.WrappedAs (.subscript wrapper index)
  | annotated {wrapper index y : Expr} {remarks : List Expr} :
    x.WrappedAs y → wrapper.IsNamed "Annotated" → index.Lists (y :: remarks) →
      x.WrappedAs (.subscript wrapper index)
  | union {wrapper index y : Expr} {before after : List Expr} :
    x.WrappedAs y → wrapper.IsNamed "Union" → index.Lists (before ++ y :: after) →
      (∀ member ∈ before ++ after, member = .constant .none) →
      x.WrappedAs (.subscript wrapper index)
  | bars {y tree : Expr} : x.WrappedAs y → y.IsLeafOf tree → x.WrappedAs tree

theorem Expr.IsNamed.isSome_dotted? {name : String} {e : Expr} (h : e.IsNamed name) :
    e.dotted?.isSome = true := by
  induction h with
  | plain name => rfl
  | dotted name _ ih => rw [dotted?, Option.isSome_map, ih]

theorem Expr.IsNamed.lastSegment?_eq {name : String} {e : Expr} (h : e.IsNamed name) :
    e.lastSegment? = some name := by
  cases h with
  | plain => rfl
  | dotted _ hvalue => rw [lastSegment?, if_pos hvalue.isSome_dotted?]

/-- Arguments are read as they are written, except that a tuple by itself is no single argument. -/
theorem Expr.Lists.typeArguments_eq {index y : Expr} {items : List Expr} (h : index.Lists items)
    (hy : y ∈ items) (htuple : ∀ tuple, y ≠ .tuple tuple) : index.typeArguments = items := by
  cases h with
  | several => rfl
  | single =>
    rw [List.mem_singleton] at hy
    subst hy
    cases y
    case tuple items => exact absurd rfl (htuple items)
    all_goals rfl

/-! ## What flattening leaves -/

/-- The leaves of a tree of bars that are not the absence of a value. -/
def Expr.presentLeaves (e : Expr) : List Expr := e.unionLeaves.filter (!·.isNone)

/-- The sole member is the one left when absences are dropped. -/
theorem soleMember?_eq_some_iff {items : List Expr} {e : Expr} :
    soleMember? items = some e ↔ items.filter (!·.isNone) = [e] := by
  unfold soleMember?
  split
  · next heq => simp [heq]
  · next hne =>
    simp only [reduceCtorEq, false_iff]
    exact hne e

theorem Expr.isNone_eq_false {e : Expr} (h : e ≠ .constant .none) : e.isNone = false := by
  unfold isNone
  split
  · exact absurd rfl h
  · rfl

theorem soleMember?_of_others {y : Expr} {before after : List Expr} (hy : y ≠ .constant .none)
    (hothers : ∀ member ∈ before ++ after, member = .constant .none) :
    soleMember? (before ++ y :: after) = some y := by
  have habsent {members : List Expr} (h : ∀ member ∈ members, member = .constant .none) :
      members.filter (!·.isNone) = [] := by
    rw [List.filter_eq_nil_iff]
    intro member hmember
    rw [h member hmember]
    decide
  obtain ⟨hbefore, hafter⟩ := List.forall_mem_append.1 hothers
  rw [soleMember?_eq_some_iff, List.filter_append, List.filter_cons, habsent hbefore,
    habsent hafter, Expr.isNone_eq_false hy]
  rfl

theorem Expr.presentLeaves_bar (left right : Expr) :
    (Expr.binary .bitOr left right).presentLeaves = left.presentLeaves ++ right.presentLeaves := by
  rw [presentLeaves, unionLeaves, List.filter_append, presentLeaves, presentLeaves]

theorem Expr.presentLeaves_subscript (value index : Expr) :
    (Expr.subscript value index).presentLeaves = [.subscript value index] := by
  rfl

theorem Expr.IsAbsence.presentLeaves_eq {e : Expr} (h : e.IsAbsence) : e.presentLeaves = [] := by
  induction h with
  | leaf => rfl
  | bar _ _ ihl ihr => rw [presentLeaves_bar, ihl, ihr, List.append_nil]

/-- A tree of absences around a leaf has the leaves of that leaf. -/
theorem Expr.IsLeafOf.presentLeaves_eq {leaf tree : Expr} (h : leaf.IsLeafOf tree) :
    tree.presentLeaves = leaf.presentLeaves := by
  induction h with
  | root => rfl
  | inLeft _ habsent ih => rw [presentLeaves_bar, ih, habsent.presentLeaves_eq, List.append_nil]
  | inRight habsent _ ih => rw [presentLeaves_bar, ih, habsent.presentLeaves_eq, List.nil_append]

/-- An annotation has the class of the one leaf that flattening leaves. -/
theorem classify_of_presentLeaves [CharacterNames] (classes : ClassTable) {e member : Expr}
    (h : e.presentLeaves = [member]) : classify classes e = classify classes member := by
  unfold Expr.presentLeaves at h
  fun_cases Expr.unionLeaves e with
  | case1 left right =>
    rw [Expr.unionLeaves] at h
    exact classifyWith_bars (soleMember?_eq_some_iff.2 h)
  | case2 _ hbar =>
    rw [Expr.unionLeaves.eq_2 e hbar] at h
    have hmember : member ∈ [e].filter (!·.isNone) := by
      rw [h]
      exact List.mem_singleton_self member
    rw [List.mem_singleton.1 (List.mem_filter.1 hmember).1]

/-! ## Following a wrapping -/

/-- Flattening leaves one leaf, and it has the class of `x`. -/
def Expr.LeavesClassOf [CharacterNames] (classes : ClassTable) (x e : Expr) : Prop :=
  ∃ leaf, e.presentLeaves = [leaf] ∧ classify classes leaf = classify classes x

section Wrapped

variable {classes : ClassTable} {x e : Expr}

theorem Expr.LeavesClassOf.classify_eq [CharacterNames] (h : Expr.LeavesClassOf classes x e) :
    classify classes e = classify classes x := by
  obtain ⟨leaf, hleaf, hclass⟩ := h
  rw [classify_of_presentLeaves classes hleaf, hclass]

theorem Expr.LeavesClassOf.ne_none [CharacterNames] (h : Expr.LeavesClassOf classes x e) :
    e ≠ .constant .none := by
  rintro rfl
  obtain ⟨leaf, hleaf, -⟩ := h
  cases hleaf

/-- A subscript is a leaf itself. -/
theorem Expr.LeavesClassOf.subscript [CharacterNames] {value index y : Expr}
    (h : Expr.LeavesClassOf classes x y)
    (hclass : classify classes (.subscript value index) = classify classes y) :
    Expr.LeavesClassOf classes x (.subscript value index) :=
  ⟨_, presentLeaves_subscript value index, hclass.trans h.classify_eq⟩

theorem Expr.IsLeafOf.ne_tuple {leaf tree : Expr} (h : leaf.IsLeafOf tree)
    (hleaf : ∀ items, leaf ≠ .tuple items) : ∀ items, tree ≠ .tuple items := by
  cases h with
  | root => exact hleaf
  | inLeft | inRight => exact fun _ ↦ Expr.noConfusion

theorem Expr.WrappedAs.ne_tuple (h : x.WrappedAs e) (htuple : ∀ items, x ≠ .tuple items) :
    ∀ items, e ≠ .tuple items := by
  induction h with
  | bare => exact htuple
  | optional | annotated | union => exact fun _ ↦ Expr.noConfusion
  | bars _ htree ih => exact htree.ne_tuple ih

/-- Each wrapping keeps the leaf: a subscript is classified by what it holds, and bars are flattened
together with those below them. -/
theorem Expr.WrappedAs.leavesClassOf [CharacterNames] (h : x.WrappedAs e)
    (hnone : x ≠ .constant .none)
    (hbinary : ∀ op left right, x ≠ .binary op left right) (htuple : ∀ items, x ≠ .tuple items) :
    Expr.LeavesClassOf classes x e := by
  induction h with
  | bare =>
    refine ⟨x, ?_, rfl⟩
    rw [presentLeaves, unionLeaves.eq_2 x fun left right ↦ hbinary .bitOr left right]
    simp [isNone_eq_false hnone]
  | optional hy hname hlists ih =>
    have hitems := hlists.typeArguments_eq List.mem_cons_self (hy.ne_tuple htuple)
    exact ih.subscript (classifyWith_wrapped (.inl hname.lastSegment?_eq) hitems)
  | annotated hy hname hlists ih =>
    have hitems := hlists.typeArguments_eq List.mem_cons_self (hy.ne_tuple htuple)
    exact ih.subscript (classifyWith_wrapped (.inr hname.lastSegment?_eq) hitems)
  | @union wrapper index y before after hy hname hlists hothers ih =>
    have hmem : y ∈ before ++ y :: after := List.mem_append_right before List.mem_cons_self
    have hitems := hlists.typeArguments_eq hmem (hy.ne_tuple htuple)
    have hsole := soleMember?_of_others ih.ne_none hothers
    exact ih.subscript (classifyWith_union hname.lastSegment?_eq (hitems ▸ hsole))
  | bars _ htree ih =>
    unfold LeavesClassOf
    rwa [htree.presentLeaves_eq]

end Wrapped

/-- Wrappings do not show: an annotation other than the absence of a value, a binary operation and a
tuple has the same class, or the same fault, however it is wrapped. -/
theorem classify_wrappedAs [CharacterNames] (classes : ClassTable) {x e : Expr}
    (hnone : x ≠ .constant .none)
    (hbinary : ∀ op left right, x ≠ .binary op left right) (htuple : ∀ items, x ≠ .tuple items)
    (h : x.WrappedAs e) : classify classes e = classify classes x :=
  (h.leavesClassOf hnone hbinary htuple).classify_eq

/-- A number, wrapped as `typing.Optional[Annotated[None | (Union[None, int] | None), "unit"]]`. -/
def wrappedNumber : Expr :=
  .subscript (.attribute (.name "typing") "Optional")
    (.subscript (.name "Annotated") (.tuple
      [.binary .bitOr (.constant .none)
        (.binary .bitOr
          (.subscript (.name "Union") (.tuple [.constant .none, .name "int"]))
          (.constant .none)),
        .constant (.text "unit" false)]))

theorem classify_wrappedNumber :
    (Expr.name "int").WrappedAs wrappedNumber ∧
      classify [] wrappedNumber = .ok (.primitive .number) := by
  have hmembers : (Expr.tuple [.constant .none, .name "int"]).Lists
      ([.constant .none] ++ .name "int" :: []) := .several _
  have hunion := Expr.WrappedAs.bare.union (.plain "Union") hmembers (by simp)
  have htree := hunion.bars (.inRight .leaf (.inLeft .root .leaf))
  have hremarks := htree.annotated (.plain "Annotated")
    (.several [_, .constant (.text "unit" false)])
  have hwrapped : (Expr.name "int").WrappedAs wrappedNumber :=
    hremarks.optional (.dotted "Optional" (.plain "typing")) (.single _)
  refine ⟨hwrapped, ?_⟩
  rw [classify_wrappedAs [] Expr.noConfusion (fun _ _ _ ↦ Expr.noConfusion)
    (fun _ ↦ Expr.noConfusion) hwrapped]
  simp only [classify, classifyWith]
  rfl

end CallCompletion.Source
