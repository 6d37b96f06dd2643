import CallCompletion.Proofs.Resolution
import Mathlib.Logic.Relation

/-!
# Lexical scopes

The scopes around a place are found by going down from the module, each time into the first
definition that contains the line. Where the lines of nested definitions lie within each other and
those of definitions beside each other apart, this finds every definition around the place and no
other. A name is looked up in them from the inside out, without the classes around the innermost
scope, and the last binding of the name in the first scope that has one decides what it is.
-/

namespace CallCompletion.Source

open CallCompletion.Text

/-! ## Nesting of scopes -/

/-- The scope that a statement opens. -/
def Stmt.scope? : Stmt → Option Scope
  | .function d => some (.function d)
  | .classDef d => some (.classDef d)
  | _ => none

/-- Whether a span lies in another one. -/
def Span.within (inner outer : Span) : Bool :=
  outer.first ≤ inner.first && inner.last ≤ outer.last

/-- Whether two spans have no line in common. -/
def Span.apart (a b : Span) : Bool := a.last < b.first || b.last < a.first

namespace Scope

/-- The definitions that stand directly in the body of a scope. -/
def children (scope : Scope) : List Scope := scope.body.filterMap Stmt.scope?

/-- A definition is nested in a scope if it stands directly in its body, or in that of a definition
nested in it. -/
def NestedIn : Scope → Scope → Prop := Relation.TransGen fun inner outer ↦ inner ∈ outer.children

/-- The lines of a definition; those of a module have no bounds. -/
def span? : Scope → Option Span
  | .module _ => none
  | .function d => some d.span
  | .classDef d => some d.span

/-- Whether a line lies in a scope. -/
def contains (scope : Scope) (line : Int) : Bool := scope.span?.all (·.contains line)

/-- Whether the lines of a scope keep to given bounds. -/
def keepsTo (scope : Scope) (bounds : Option Span) : Bool :=
  scope.span?.all fun span ↦ bounds.all span.within

/-- Whether two scopes have no line in common. -/
def apart (a b : Scope) : Bool := a.span?.all fun span ↦ b.span?.all span.apart

end Scope

mutual

/-- Whether the definitions in a statement keep to its lines. -/
def Stmt.spansNest : Stmt → Bool
  | .function ⟨span, _, _, _, body, _, _⟩ => spansNestIn (some span) body
  | .classDef ⟨span, _, _, body, _⟩ => spansNestIn (some span) body
  | .assign .. => true
  | .annotate .. => true
  | .expression .. => true
  | .other .. => true

/-- Whether the definitions of a body keep to given lines and have none in common, and so for the
definitions in each of them. -/
def spansNestIn (bounds : Option Span) : List Stmt → Bool
  | [] => true
  | s :: rest =>
    s.spansNest && spansNestIn bounds rest && s.scope?.all fun scope ↦
      scope.keepsTo bounds && (rest.filterMap Stmt.scope?).all scope.apart

end

/-- Whether the lines of nested definitions lie within those of the definition around them, and
those of definitions beside each other apart. -/
def Scope.spansNest (scope : Scope) : Bool := spansNestIn scope.span? scope.body

theorem Stmt.scopesAt?_eq (line : Int) (s : Stmt) :
    s.scopesAt? line =
      (s.scope?.filter (·.contains line)).map fun scope ↦ scope :: scopesAt line scope.body := by
  cases s with
  | function d =>
    obtain ⟨span, isAsync, name, params, body, decorators, returns⟩ := d
    by_cases h : span.contains line <;>
      simp [Stmt.scopesAt?, Stmt.scope?, Scope.contains, Scope.span?, Scope.body, h, Option.filter]
  | classDef d =>
    obtain ⟨span, name, bases, body, decorators⟩ := d
    by_cases h : span.contains line <;>
      simp [Stmt.scopesAt?, Stmt.scope?, Scope.contains, Scope.span?, Scope.body, h, Option.filter]
  | assign => simp [Stmt.scopesAt?, Stmt.scope?]
  | annotate => simp [Stmt.scopesAt?, Stmt.scope?]
  | expression => simp [Stmt.scopesAt?, Stmt.scope?]
  | other => simp [Stmt.scopesAt?, Stmt.scope?]

/-- The definitions around a line start with the first one in the body that contains it, and go on
with those in its own body. -/
theorem scopesAt_body (line : Int) (scope : Scope) :
    scopesAt line scope.body =
      match scope.children.find? (·.contains line) with
      | none => []
      | some child => child :: scopesAt line child.body := by
  unfold Scope.children
  induction scope.body with
  | nil => simp [scopesAt]
  | cons s rest ih =>
    rw [scopesAt, Stmt.scopesAt?_eq]
    cases hs : s.scope? with
    | none => simp [hs, ih]
    | some child =>
      by_cases h : child.contains line
      · simp [hs, h, Option.filter]
      · simp [hs, h, ih, Option.filter]

theorem spansNestIn_iff (bounds : Option Span) (body : List Stmt) :
    spansNestIn bounds body = true ↔
      (∀ s ∈ body, s.spansNest = true) ∧
        (∀ scope ∈ body.filterMap Stmt.scope?, scope.keepsTo bounds = true) ∧
          (body.filterMap Stmt.scope?).Pairwise fun a b ↦ a.apart b = true := by
  induction body with
  | nil => simp [spansNestIn]
  | cons s rest ih =>
    rw [spansNestIn, Bool.and_eq_true, Bool.and_eq_true, ih, List.forall_mem_cons]
    cases hs : s.scope? with
    | none =>
      rw [List.filterMap_cons_none hs]
      simp [and_assoc]
    | some scope =>
      rw [List.filterMap_cons_some hs, List.forall_mem_cons, List.pairwise_cons,
        Option.all_some, Bool.and_eq_true, List.all_eq_true]
      constructor
      · rintro ⟨⟨hs, hrest, hkeep, hapart⟩, hscope, hothers⟩
        exact ⟨⟨hs, hrest⟩, ⟨hscope, hkeep⟩, hothers, hapart⟩
      · rintro ⟨⟨hs, hrest⟩, ⟨hscope, hkeep⟩, hothers, hapart⟩
        exact ⟨⟨hs, hrest, hkeep, hapart⟩, hscope, hothers⟩

namespace Scope

theorem spansNest_of_scope? {s : Stmt} {scope : Scope} (h : s.scope? = some scope) :
    s.spansNest = scope.spansNest := by
  cases s <;> cases h <;> rfl

/-- A line of a span that keeps to bounds lies in the bounds. -/
theorem contains_of_within {inner outer : Span} {line : Int} (h : inner.within outer = true)
    (hline : inner.contains line = true) : outer.contains line = true := by
  simp only [Span.within, Span.contains, Bool.and_eq_true, decide_eq_true_eq] at h hline ⊢
  omega

theorem exists_span? {scope child : Scope} (h : child ∈ scope.children) :
    ∃ span, child.span? = some span := by
  obtain ⟨s, -, hscope⟩ := List.mem_filterMap.1 h
  cases s <;> cases hscope <;> exact ⟨_, rfl⟩

theorem not_contains_of_apart {scope a b : Scope} (ha : a ∈ scope.children)
    (hb : b ∈ scope.children) (hapart : a.apart b = true) {line : Int}
    (hline : a.contains line = true) : b.contains line = false := by
  obtain ⟨first, hfirst⟩ := exists_span? ha
  obtain ⟨second, hsecond⟩ := exists_span? hb
  simp only [apart, contains, hfirst, hsecond, Option.all_some, Span.apart, Span.contains,
    Bool.or_eq_true, Bool.and_eq_true, decide_eq_true_eq, Bool.and_eq_false_iff,
    decide_eq_false_iff_not] at hapart hline ⊢
  omega

section Nested

variable {scope child : Scope} (hspans : scope.spansNest = true) (hchild : child ∈ scope.children)

include hspans hchild

theorem spansNest_child : child.spansNest = true := by
  obtain ⟨s, hs, hscope⟩ := List.mem_filterMap.1 hchild
  rw [← spansNest_of_scope? hscope]
  exact ((spansNestIn_iff _ _).1 hspans).1 s hs

theorem contains_of_child {line : Int} (hline : child.contains line = true) :
    scope.contains line = true := by
  have hkeep := ((spansNestIn_iff _ _).1 hspans).2.1 child hchild
  unfold contains
  cases hbounds : scope.span? with
  | none => rfl
  | some bounds =>
    obtain ⟨span, hspan⟩ := exists_span? hchild
    rw [keepsTo, hspan, hbounds] at hkeep
    rw [contains, hspan] at hline
    exact contains_of_within hkeep hline

/-- Of the definitions in a body, the one that contains a line is found. -/
theorem find?_children {line : Int} (hline : child.contains line = true) :
    scope.children.find? (·.contains line) = some child := by
  obtain ⟨found, hfound⟩ : ∃ found, scope.children.find? (·.contains line) = some found := by
    rw [← Option.isSome_iff_exists, List.find?_isSome]
    exact ⟨child, hchild, hline⟩
  obtain ⟨hfoundLine, before, after, hsplit, hbefore⟩ := List.find?_eq_some_iff_append.1 hfound
  have hpairs : scope.children.Pairwise fun a b ↦ a.apart b = true :=
    ((spansNestIn_iff _ _).1 hspans).2.2
  rw [hsplit] at hpairs
  have hmem : child ∈ before ++ found :: after := hsplit ▸ hchild
  rcases List.mem_append.1 hmem with hmem | hmem
  · have hnot := hbefore child hmem
    simp [hline] at hnot
  · rcases List.mem_cons.1 hmem with rfl | hmem
    · exact hfound
    · -- A second one after the first would have the line in common with it.
      have hapart := List.rel_of_pairwise_cons (List.pairwise_append.1 hpairs).2.1 hmem
      have hnot := not_contains_of_apart (List.mem_of_find?_eq_some hfound) hchild hapart hfoundLine
      simp [hline] at hnot

end Nested

theorem sizeOf_body_lt {scope child : Scope} (h : child ∈ scope.children) :
    sizeOf child.body < sizeOf scope.body := by
  obtain ⟨s, hs, hscope⟩ := List.mem_filterMap.1 h
  have hlt := List.sizeOf_lt_of_mem hs
  have hbody : sizeOf child.body < sizeOf s := by
    cases s <;> cases hscope
    case function d =>
      obtain ⟨span, isAsync, name, params, body, decorators, returns⟩ := d
      simp only [Scope.body, Stmt.function.sizeOf_spec, FunctionOf.mk.sizeOf_spec]
      omega
    case classDef d =>
      obtain ⟨span, name, bases, body, decorators⟩ := d
      simp only [Scope.body, Stmt.classDef.sizeOf_spec, ClassOf.mk.sizeOf_spec]
      omega
  omega

theorem nestedIn_iff {inner outer : Scope} :
    inner.NestedIn outer ↔ ∃ child ∈ outer.children, inner = child ∨ inner.NestedIn child := by
  constructor
  · intro h
    rcases (Relation.transGen_iff _ _ _).1 h with hchild | ⟨child, hnested, hchild⟩
    · exact ⟨inner, hchild, .inl rfl⟩
    · exact ⟨child, hchild, .inr hnested⟩
  · rintro ⟨child, hchild, rfl | hnested⟩
    · exact .single hchild
    · exact .tail hnested hchild

theorem sizeOf_body_lt_of_nestedIn {inner outer : Scope} (h : inner.NestedIn outer) :
    sizeOf inner.body < sizeOf outer.body := by
  induction h with
  | single hchild => exact sizeOf_body_lt hchild
  | tail _ hchild ih => exact Nat.lt_trans ih (sizeOf_body_lt hchild)

theorem not_nestedIn_self (scope : Scope) : ¬ scope.NestedIn scope := by
  intro h
  exact Nat.lt_irrefl _ (sizeOf_body_lt_of_nestedIn h)

/-- A line in a nested scope is a line of the scope around it. -/
theorem contains_of_nestedIn {inner outer : Scope} (hspans : outer.spansNest = true)
    (h : inner.NestedIn outer) {line : Int} (hline : inner.contains line = true) :
    outer.contains line = true := by
  obtain ⟨child, hchild, rfl | hnested⟩ := nestedIn_iff.1 h
  · exact contains_of_child hspans hchild hline
  · have := sizeOf_body_lt hchild
    apply contains_of_child hspans hchild
    exact contains_of_nestedIn (spansNest_child hspans hchild) hnested hline
termination_by sizeOf outer.body

end Scope

/-! ## The scopes around a line -/

/-- The definition found in a body leads to every definition in it that contains the line. -/
theorem exists_find?_of_nestedIn {scope inner : Scope} (hspans : scope.spansNest = true)
    (h : inner.NestedIn scope) {line : Int} (hline : inner.contains line = true) :
    ∃ child, scope.children.find? (·.contains line) = some child ∧
      (inner = child ∨ inner.NestedIn child) := by
  obtain ⟨child, hchild, hin⟩ := Scope.nestedIn_iff.1 h
  have hchildLine : child.contains line = true := by
    rcases hin with rfl | hin
    · exact hline
    · exact Scope.contains_of_nestedIn (Scope.spansNest_child hspans hchild) hin hline
  exact ⟨child, Scope.find?_children hspans hchild hchildLine, hin⟩

/-- The definitions found around a line are those nested in the scope whose lines contain it. -/
theorem mem_scopesAt_iff {scope : Scope} (hspans : scope.spansNest = true) (line : Int)
    (inner : Scope) :
    inner ∈ scopesAt line scope.body ↔ inner.NestedIn scope ∧ inner.contains line = true := by
  rw [scopesAt_body]
  cases hfind : scope.children.find? (·.contains line) with
  | none =>
    simp only [List.not_mem_nil, false_iff, not_and]
    intro hnested hline
    obtain ⟨child, hchild, -⟩ := exists_find?_of_nestedIn hspans hnested hline
    rw [hfind] at hchild
    cases hchild
  | some child =>
    have hchild := List.mem_of_find?_eq_some hfind
    have hchildLine : child.contains line = true := by simpa using List.find?_some hfind
    have hchildSpans := Scope.spansNest_child hspans hchild
    have := Scope.sizeOf_body_lt hchild
    rw [List.mem_cons, mem_scopesAt_iff hchildSpans line inner]
    constructor
    · rintro (rfl | ⟨hnested, hline⟩)
      · exact ⟨.single hchild, hchildLine⟩
      · exact ⟨.tail hnested hchild, hline⟩
    · rintro ⟨hnested, hline⟩
      obtain ⟨other, hother, hin⟩ := exists_find?_of_nestedIn hspans hnested hline
      rw [hfind] at hother
      cases hother
      exact hin.imp_right fun h ↦ ⟨h, hline⟩
termination_by sizeOf scope.body

theorem nestedIn_of_mem_scopesAt (scope : Scope) {inner : Scope} {line : Int}
    (h : inner ∈ scopesAt line scope.body) : inner.NestedIn scope := by
  rw [scopesAt_body] at h
  cases hfind : scope.children.find? (·.contains line) with
  | none =>
    rw [hfind] at h
    cases h
  | some child =>
    have hchild := List.mem_of_find?_eq_some hfind
    have := Scope.sizeOf_body_lt hchild
    rw [hfind] at h
    rcases List.mem_cons.1 h with rfl | h
    · exact .single hchild
    · exact .tail (nestedIn_of_mem_scopesAt child h) hchild
termination_by sizeOf scope.body

/-- The scopes at a line are nested in one another, outermost first. -/
theorem pairwise_scopesAt (line : Int) (scope : Scope) :
    (scopesAt line scope.body).Pairwise fun outer inner ↦ inner.NestedIn outer := by
  rw [scopesAt_body]
  cases hfind : scope.children.find? (·.contains line) with
  | none => exact .nil
  | some child =>
    have := Scope.sizeOf_body_lt (List.mem_of_find?_eq_some hfind)
    refine List.pairwise_cons.2 ⟨?_, pairwise_scopesAt line child⟩
    intro inner hinner
    exact nestedIn_of_mem_scopesAt child hinner
termination_by sizeOf scope.body

section Chains

variable {chain : List Scope} (hchain : chain.Pairwise Scope.NestedIn)

include hchain

/-- Of the classes in a chain only the innermost scope lends its names. -/
theorem mem_visibleScopes_iff (scope : Scope) :
    scope ∈ visibleScopes chain ↔
      scope ∈ chain ∧ (scope.classDef? = none ∨ ∀ inner ∈ chain, ¬ inner.NestedIn scope) := by
  cases chain with
  | nil => simp [visibleScopes]
  | cons innermost rest =>
    obtain ⟨hinnermost, -⟩ := List.pairwise_cons.1 hchain
    rw [visibleScopes, List.mem_cons, List.mem_filter, Option.isNone_iff_eq_none, List.mem_cons]
    constructor
    · rintro (rfl | ⟨hscope, hclass⟩)
      · refine ⟨.inl rfl, .inr ?_⟩
        intro inner hinner hnested
        rcases List.mem_cons.1 hinner with rfl | hinner
        · exact inner.not_nestedIn_self hnested
        · exact inner.not_nestedIn_self (.trans hnested (hinnermost inner hinner))
      · exact ⟨.inr hscope, .inl hclass⟩
    · rintro ⟨rfl | hscope, hlends⟩
      · exact .inl rfl
      · rcases hlends with hclass | hlends
        · exact .inr ⟨hscope, hclass⟩
        · exact absurd (hinnermost scope hscope) (hlends innermost List.mem_cons_self)

theorem pairwise_visibleScopes : (visibleScopes chain).Pairwise Scope.NestedIn := by
  cases chain with
  | nil => exact .nil
  | cons innermost rest =>
    obtain ⟨hinnermost, hrest⟩ := List.pairwise_cons.1 hchain
    refine List.pairwise_cons.2 ⟨?_, hrest.filter _⟩
    intro scope hscope
    exact hinnermost scope (List.mem_filter.1 hscope).1

omit hchain in
theorem mem_of_enclosingClass? {d : ClassDef} (h : enclosingClass? chain = some d) :
    .classDef d ∈ chain := by
  obtain ⟨scope, hscope, hclass⟩ := List.exists_of_findSome?_eq_some h
  cases scope <;> cases hclass
  exact hscope

/-- The first class of a chain is nested in all others. -/
theorem nestedIn_of_enclosingClass? {d e : ClassDef} (h : enclosingClass? chain = some d)
    (he : .classDef e ∈ chain) : e = d ∨ Scope.NestedIn (.classDef d) (.classDef e) := by
  obtain ⟨before, scope, after, rfl, hclass, hbefore⟩ := List.findSome?_eq_some_iff.1 h
  obtain rfl : scope = .classDef d := by
    cases scope <;> cases hclass
    rfl
  rcases List.mem_append.1 he with he | he
  · have hnone := hbefore _ he
    cases hnone
  · rcases List.mem_cons.1 he with heq | he
    · cases heq
      exact .inl rfl
    · exact .inr (List.rel_of_pairwise_cons (List.pairwise_append.1 hchain).2.1 he)

/-- The class found in a chain is the one that no class of the chain is nested in. -/
theorem enclosingClass?_eq_some_iff {d : ClassDef} :
    enclosingClass? chain = some d ↔
      .classDef d ∈ chain ∧
        ∀ e, .classDef e ∈ chain → ¬ Scope.NestedIn (.classDef e) (.classDef d) := by
  constructor
  · intro h
    refine ⟨mem_of_enclosingClass? h, ?_⟩
    intro e he hnested
    rcases nestedIn_of_enclosingClass? hchain h he with rfl | hd
    · exact Scope.not_nestedIn_self _ hnested
    · exact Scope.not_nestedIn_self _ (.trans hd hnested)
  · rintro ⟨hd, hinnermost⟩
    obtain ⟨e, he⟩ : ∃ e, enclosingClass? chain = some e := by
      rw [← Option.isSome_iff_exists, enclosingClass?, List.findSome?_isSome_iff]
      exact ⟨.classDef d, hd, rfl⟩
    rcases nestedIn_of_enclosingClass? hchain he hd with rfl | hnested
    · exact he
    · exact absurd hnested (hinnermost e (mem_of_enclosingClass? he))

end Chains

/-! ## Bindings -/

/-- What a statement binds a name to: a definition binds its own name, and an assignment or an
annotation those of its targets that are plain names. -/
inductive Stmt.BindsTo (name : String) : Stmt → Binding → Prop
  | function {d : FunctionDef} : d.name = name → BindsTo name (.function d) (.function d)
  | classDef {d : ClassDef} : d.name = name → BindsTo name (.classDef d) (.classDef d)
  | assign {span : Span} {targets : List Expr} {value : Expr} : .name name ∈ targets →
    BindsTo name (.assign span targets value) (.assignment value)
  | annotate {span : Span} {typeHint : Expr} {value : Option Expr} :
    BindsTo name (.annotate span (.name name) typeHint value) (.annotated typeHint value)

/-- The parameters of a scope, in the order in which they are bound. -/
def Scope.parameters : Scope → List (Param Expr)
  | .function d => d.params.bound
  | _ => []

/-- What a scope binds a name to: what a statement of its body does, or one of its parameters. -/
inductive Scope.BindsTo (scope : Scope) (name : String) : Binding → Prop
  | statement {s : Stmt} {b : Binding} : s ∈ scope.body → s.BindsTo name b → BindsTo scope name b
  | parameter {p : Param Expr} : p ∈ scope.parameters → p.name = name →
    BindsTo scope name (.parameter p)

/-- What a scope binds a name to last: what the last statement does that binds it, or else the last
parameter of the name. -/
inductive Scope.BindsLast (scope : Scope) (name : String) : Binding → Prop
  | statement {before after : List Stmt} {s : Stmt} {b : Binding} :
    scope.body = before ++ s :: after → s.BindsTo name b →
      (∀ t ∈ after, ∀ c, ¬ t.BindsTo name c) → BindsLast scope name b
  | parameter {before after : List (Param Expr)} {p : Param Expr} :
    (∀ t ∈ scope.body, ∀ c, ¬ t.BindsTo name c) → scope.parameters = before ++ p :: after →
      p.name = name → (∀ q ∈ after, q.name ≠ name) → BindsLast scope name (.parameter p)

namespace Stmt

/-- The bindings of a name that a statement makes. -/
def bindingsOf (s : Stmt) (name : String) : List Binding :=
  (s.bindings.filter (·.1 == name)).map Prod.snd

theorem plainName?_eq_some_iff (e : Expr) (name : String) :
    e.plainName? = some name ↔ e = .name name := by
  cases e <;> simp [Expr.plainName?]

/-- The bindings of a statement are those it makes by its form. -/
theorem mem_bindings_iff (s : Stmt) (name : String) (b : Binding) :
    (name, b) ∈ s.bindings ↔ s.BindsTo name b := by
  constructor
  · intro h
    cases s with
    | function d =>
      obtain ⟨rfl, rfl⟩ := Prod.mk.inj (List.mem_singleton.1 h)
      exact .function rfl
    | classDef d =>
      obtain ⟨rfl, rfl⟩ := Prod.mk.inj (List.mem_singleton.1 h)
      exact .classDef rfl
    | assign span targets value =>
      obtain ⟨target, htarget, hname⟩ := List.mem_filterMap.1 h
      obtain ⟨id, hid, heq⟩ := Option.map_eq_some_iff.1 hname
      cases heq
      rw [(plainName?_eq_some_iff target name).1 hid] at htarget
      exact .assign htarget
    | annotate span target typeHint value =>
      obtain ⟨id, hid, heq⟩ := Option.map_eq_some_iff.1 (Option.mem_toList.1 h)
      cases heq
      rw [(plainName?_eq_some_iff target name).1 hid]
      exact .annotate
    | expression => cases h
    | other => cases h
  · intro h
    cases h with
    | function hname => simp [Stmt.bindings, hname]
    | classDef hname => simp [Stmt.bindings, hname]
    | assign htarget => exact List.mem_filterMap.2 ⟨.name name, htarget, rfl⟩
    | annotate => simp [Stmt.bindings, Expr.plainName?]

theorem mem_bindingsOf_iff (s : Stmt) (name : String) (b : Binding) :
    b ∈ s.bindingsOf name ↔ s.BindsTo name b := by
  rw [← mem_bindings_iff, bindingsOf]
  simp

theorem bindingsOf_eq_nil_iff (s : Stmt) (name : String) :
    s.bindingsOf name = [] ↔ ∀ b, ¬ s.BindsTo name b := by
  simp only [List.eq_nil_iff_forall_not_mem, mem_bindingsOf_iff]

end Stmt

/-- The last of lists put together comes from the last one that is not empty. -/
theorem exists_of_getLast?_flatMap {α β : Type} {f : α → List β} {l : List α} {b : β}
    (h : (l.flatMap f).getLast? = some b) :
    ∃ before a after, l = before ++ a :: after ∧ b ∈ f a ∧ ∀ c ∈ after, f c = [] := by
  induction l with
  | nil => cases h
  | cons a rest ih =>
    rw [List.flatMap_cons, List.getLast?_append] at h
    cases hrest : (rest.flatMap f).getLast? with
    | some c =>
      rw [hrest] at h
      obtain ⟨before, d, after, rfl, hb, hafter⟩ := ih (hrest.trans h)
      exact ⟨a :: before, d, after, rfl, hb, hafter⟩
    | none =>
      rw [hrest, Option.none_or] at h
      refine ⟨[], a, rest, rfl, List.mem_of_getLast? h, ?_⟩
      exact List.flatMap_eq_nil_iff.1 (List.getLast?_eq_none_iff.1 hrest)

namespace Scope

/-- The bindings of a name: its parameters first, and then what the statements bind it to, in their
order. -/
theorem bindingsOf_eq (scope : Scope) (name : String) :
    scope.bindingsOf name =
      (scope.parameters.flatMap fun p ↦ if p.name = name then [.parameter p] else []) ++
        scope.body.flatMap (·.bindingsOf name) := by
  have hparameters : scope.parameterBindings =
      scope.parameters.map fun p ↦ (p.name, .parameter p) := by
    cases scope <;> rfl
  have hsplit (ps : List (Param Expr)) :
      ((ps.map fun p ↦ (p.name, Binding.parameter p)).filter (·.1 == name)).map Prod.snd =
        ps.flatMap fun p ↦ if p.name = name then [.parameter p] else [] := by
    induction ps with
    | nil => rfl
    | cons p rest ih =>
      by_cases hp : p.name = name
      · simpa [hp] using ih
      · simpa [hp] using ih
  rw [bindingsOf, bindings, List.filter_append, List.map_append, hparameters, hsplit,
    List.filter_flatMap, List.map_flatMap]
  rfl

theorem mem_bindingsOf_iff (scope : Scope) (name : String) (b : Binding) :
    b ∈ scope.bindingsOf name ↔ scope.BindsTo name b := by
  rw [bindingsOf_eq, List.mem_append, List.mem_flatMap, List.mem_flatMap]
  constructor
  · rintro (⟨p, hp, hb⟩ | ⟨s, hs, hb⟩)
    · by_cases hname : p.name = name
      · rw [if_pos hname, List.mem_singleton] at hb
        rw [hb]
        exact .parameter hp hname
      · rw [if_neg hname] at hb
        cases hb
    · exact .statement hs ((s.mem_bindingsOf_iff name b).1 hb)
  · intro h
    cases h with
    | statement hs hb => exact .inr ⟨_, hs, (Stmt.mem_bindingsOf_iff _ name b).2 hb⟩
    | parameter hp hname => exact .inl ⟨_, hp, by simp [hname]⟩

theorem bindsLast_of_getLast? {scope : Scope} {name : String} {b : Binding}
    (h : (scope.bindingsOf name).getLast? = some b) : scope.BindsLast name b := by
  rw [bindingsOf_eq, List.getLast?_append] at h
  cases hbody : (scope.body.flatMap (·.bindingsOf name)).getLast? with
  | some c =>
    rw [hbody] at h
    obtain ⟨before, s, after, hsplit, hb, hafter⟩ := exists_of_getLast?_flatMap (hbody.trans h)
    refine .statement hsplit ((s.mem_bindingsOf_iff name b).1 hb) ?_
    intro t ht
    exact (t.bindingsOf_eq_nil_iff name).1 (hafter t ht)
  | none =>
    rw [hbody, Option.none_or] at h
    obtain ⟨before, p, after, hsplit, hb, hafter⟩ := exists_of_getLast?_flatMap h
    have hnone := List.flatMap_eq_nil_iff.1 (List.getLast?_eq_none_iff.1 hbody)
    by_cases hname : p.name = name
    · rw [if_pos hname, List.mem_singleton] at hb
      rw [hb]
      refine .parameter ?_ hsplit hname ?_
      · intro t ht
        exact (t.bindingsOf_eq_nil_iff name).1 (hnone t ht)
      · intro q hq
        simpa using hafter q hq
    · rw [if_neg hname] at hb
      cases hb

end Scope

/-! ## Lexical resolution -/

namespace SourceModule

variable (m : SourceModule) (position : Option Position)

/-- The scopes around a place: the module, and every definition nested in it whose lines contain the
line of the place. -/
def Surrounds (scope : Scope) : Prop :=
  scope = .module m.body ∨
    ∃ place, position = some place ∧ scope.NestedIn (.module m.body) ∧
      scope.contains (place.line + 1) = true

/-- The scopes whose names can be used at a place: those around it, but no class unless it is the
innermost of them. -/
def LendsNames (scope : Scope) : Prop :=
  m.Surrounds position scope ∧
    (scope.classDef? = none ∨ ∀ inner, m.Surrounds position inner → ¬ inner.NestedIn scope)

/-- The innermost class around a place. -/
def IsInnermostClass (d : ClassDef) : Prop :=
  m.Surrounds position (.classDef d) ∧
    ∀ e, m.Surrounds position (.classDef e) → ¬ Scope.NestedIn (.classDef e) (.classDef d)

theorem pairwise_chainAt : (m.chainAt position).Pairwise Scope.NestedIn := by
  cases position with
  | none => exact List.pairwise_singleton _ _
  | some place =>
    refine List.pairwise_reverse.2 (List.pairwise_cons.2 ⟨?_, ?_⟩)
    · intro inner hinner
      exact nestedIn_of_mem_scopesAt (.module m.body) hinner
    · exact pairwise_scopesAt (place.line + 1) (.module m.body)

variable {m}

theorem mem_chainAt_iff (hspans : (Scope.module m.body).spansNest = true) (scope : Scope) :
    scope ∈ m.chainAt position ↔ m.Surrounds position scope := by
  cases position with
  | none => simp [chainAt, scopeChain, Surrounds]
  | some place =>
    have hmem := mem_scopesAt_iff hspans (place.line + 1) scope
    rw [chainAt, Option.map_some, scopeChain, List.mem_reverse, List.mem_cons]
    simp only [Surrounds, Option.some.injEq, exists_eq_left']
    exact or_congr_right hmem

/-- The visible scopes are exactly those that lend their names to a position. -/
theorem mem_visibleScopes_chainAt_iff (hspans : (Scope.module m.body).spansNest = true)
    (scope : Scope) :
    scope ∈ visibleScopes (m.chainAt position) ↔ m.LendsNames position scope := by
  rw [mem_visibleScopes_iff (m.pairwise_chainAt position), mem_chainAt_iff position hspans]
  simp only [mem_chainAt_iff position hspans]
  rfl

theorem enclosingClass?_chainAt_eq_some_iff (hspans : (Scope.module m.body).spansNest = true)
    (d : ClassDef) :
    enclosingClass? (m.chainAt position) = some d ↔ m.IsInnermostClass position d := by
  rw [enclosingClass?_eq_some_iff (m.pairwise_chainAt position)]
  simp only [mem_chainAt_iff position hspans]
  rfl

variable (m) {position}

/-- The receiver of a method stands for the class around it. -/
theorem pathHead?_of_enclosingClass? {d : ClassDef} {head : String}
    (hd : enclosingClass? (m.chainAt position) = some d) (hhead : head = "self" ∨ head = "cls") :
    m.pathHead? (m.chainAt position) head =
      some { name := d.name, kind := .classType, site := some (.classDef d) } := by
  have hself : (head = "self" || head = "cls") = true := by simpa using hhead
  rw [pathHead?, if_pos hself, hd]

/-- A path is followed from its head, one member at a time. -/
theorem parentSymbol?_eq {chain : List Scope} {parent head : String} {rest : List String}
    (h : (splitAtChar '.' parent.toList).map String.ofList = head :: rest) :
    m.parentSymbol? chain parent =
      rest.foldl (fun s segment ↦ s.bind (m.member? · segment)) (m.pathHead? chain head) := by
  rw [parentSymbol?, h]

/-- A name has in a scope the symbol that its last binding there makes it. -/
theorem symbolIn?_of_bindsTo {scope : Scope} {name : String} (h : ∃ b, scope.BindsTo name b) :
    ∃ earlier last, scope.bindingsOf name = earlier ++ [last] ∧ scope.BindsLast name last ∧
      m.symbolIn? scope name = some (m.symbolOf name scope earlier last) := by
  obtain ⟨b, hb⟩ := h
  have hne : scope.bindingsOf name ≠ [] :=
    List.ne_nil_of_mem ((scope.mem_bindingsOf_iff name b).2 hb)
  obtain ⟨earlier, last, heq⟩ : ∃ earlier last, scope.bindingsOf name = earlier ++ [last] :=
    ⟨_, _, (List.dropLast_concat_getLast hne).symm⟩
  have hlast : (scope.bindingsOf name).getLast? = some last := by simp [heq]
  refine ⟨earlier, last, heq, Scope.bindsLast_of_getLast? hlast, ?_⟩
  simp [symbolIn?, heq]

theorem binds_iff (scope : Scope) (name : String) :
    scope.binds name = true ↔ ∃ b, scope.BindsTo name b := by
  rw [← Bool.not_eq_false, ← scope.bindingsOf_eq_nil_iff, List.eq_nil_iff_forall_not_mem]
  simp [Scope.mem_bindingsOf_iff]

/-- A visible binding decides, whatever the parent. -/
theorem resolve_of_lookup? {name : String} {s : Symbol}
    (h : m.lookup? (visibleScopes (m.chainAt position)) name = some s) (parent : Option String) :
    m.resolve name position parent = some s := by
  simp only [resolve, h]

variable (position)

/-- Names resolve lexically. The scopes looked through at a place are the module and the
definitions nested in it that contain its line, innermost first, without the classes that are not
innermost. A name is what the bindings of it in the first of them make it that has any, and what it
is depends on the last of these bindings; without a binding it does not resolve. A path that starts
with the instance or the class itself leads from the innermost class around the place. -/
theorem resolve_is_lexical (hspans : (Scope.module m.body).spansNest = true) :
    (∀ scope, scope ∈ visibleScopes (m.chainAt position) ↔ m.LendsNames position scope) ∧
    (visibleScopes (m.chainAt position)).Pairwise Scope.NestedIn ∧
    (∀ name parent before scope after,
      visibleScopes (m.chainAt position) = before ++ scope :: after →
      (∀ inner ∈ before, ∀ b, ¬ inner.BindsTo name b) → (∃ b, scope.BindsTo name b) →
      ∃ earlier last, scope.bindingsOf name = earlier ++ [last] ∧
        (∀ b, b ∈ earlier ++ [last] ↔ scope.BindsTo name b) ∧ scope.BindsLast name last ∧
        m.resolve name position parent = some (m.symbolOf name scope earlier last)) ∧
    (∀ name, (∀ scope, m.LendsNames position scope → ∀ b, ¬ scope.BindsTo name b) →
      m.resolve name position none = none) ∧
    ((∃ e, m.Surrounds position (.classDef e)) →
      ∃ d, m.IsInnermostClass position d ∧
        ∀ parent head rest, (splitAtChar '.' parent.toList).map String.ofList = head :: rest →
          head = "self" ∨ head = "cls" →
          m.parentSymbol? (m.chainAt position) parent =
            rest.foldl (fun s segment ↦ s.bind (m.member? · segment))
              (some { name := d.name, kind := .classType, site := some (.classDef d) })) := by
  have hmem := mem_visibleScopes_chainAt_iff position hspans
  refine ⟨hmem, pairwise_visibleScopes (m.pairwise_chainAt position), ?_, ?_, ?_⟩
  · intro name parent before scope after hsplit hbefore hbinds
    obtain ⟨earlier, last, heq, hlast, hsymbol⟩ := m.symbolIn?_of_bindsTo hbinds
    have hfind : (visibleScopes (m.chainAt position)).find? (·.binds name) = some scope := by
      refine List.find?_eq_some_iff_append.2 ⟨(binds_iff scope name).2 hbinds, before, after,
        hsplit, ?_⟩
      intro inner hinner
      rw [Bool.not_eq_true', ← Bool.not_eq_true, binds_iff]
      rintro ⟨b, hb⟩
      exact hbefore inner hinner b hb
    refine ⟨earlier, last, heq, ?_, hlast, ?_⟩
    · rw [← heq]
      exact scope.mem_bindingsOf_iff name
    · apply m.resolve_of_lookup?
      rw [m.lookup?_eq, hfind, Option.bind_some, hsymbol]
  · intro name hnone
    rw [m.resolve_none, m.lookup?_eq, List.find?_eq_none.2, Option.bind_none]
    intro scope hscope
    rw [binds_iff]
    rintro ⟨b, hb⟩
    exact hnone scope ((hmem scope).1 hscope) b hb
  · rintro ⟨e, he⟩
    obtain ⟨d, hd⟩ : ∃ d, enclosingClass? (m.chainAt position) = some d := by
      rw [← Option.isSome_iff_exists, enclosingClass?, List.findSome?_isSome_iff]
      exact ⟨.classDef e, (mem_chainAt_iff position hspans _).2 he, rfl⟩
    refine ⟨d, (enclosingClass?_chainAt_eq_some_iff position hspans d).1 hd, ?_⟩
    intro parent head rest hparent hhead
    rw [m.parentSymbol?_eq hparent, m.pathHead?_of_enclosingClass? hd hhead]

end SourceModule

/-- A class with a method, and a variable of the name of the method's parameter. -/
def shadowedName : SourceModule := .ofSource "class C:\n  def f(self, x):\n    y = x\nx = 1"

/-- The line in the method. -/
def insideMethod : Option Position := some ⟨2, 0⟩

theorem shadowedName_resolves_lexically :
    (Scope.module shadowedName.body).spansNest = true ∧
      (∃ scope, shadowedName.LendsNames insideMethod scope ∧ scope.containerName = "f") ∧
      (∀ scope, shadowedName.LendsNames insideMethod scope → scope.containerName ≠ "C") ∧
      ∃ d, shadowedName.IsInnermostClass insideMethod d ∧ d.name = "C" := by
  have hall : (Scope.module shadowedName.body).spansNest = true ∧
      (visibleScopes (shadowedName.chainAt insideMethod)).map Scope.containerName = ["f", ""] ∧
      (enclosingClass? (shadowedName.chainAt insideMethod)).map (·.name) = some "C" ∧
      (shadowedName.parentSymbol? (shadowedName.chainAt insideMethod) "self").map (·.name) =
        some "C" := by
    decide +kernel
  obtain ⟨hspans, hnames, hclass, hself⟩ := hall
  obtain ⟨hmem, -, -, -, hinnermost⟩ := shadowedName.resolve_is_lexical insideMethod hspans
  obtain ⟨e, he, -⟩ := Option.map_eq_some_iff.1 hclass
  have hsurrounds := (SourceModule.mem_chainAt_iff insideMethod hspans _).1
    (mem_of_enclosingClass? he)
  obtain ⟨d, hd, hpath⟩ := hinnermost ⟨e, hsurrounds⟩
  refine ⟨hspans, ?_, ?_, d, hd, ?_⟩
  · obtain ⟨scope, hscope, hname⟩ := List.mem_map.1 (hnames ▸ List.mem_cons_self)
    exact ⟨scope, (hmem scope).1 hscope, hname⟩
  · intro scope hscope hname
    have hlisted : scope.containerName ∈ ["f", ""] :=
      hnames ▸ List.mem_map_of_mem ((hmem scope).2 hscope)
    simp [hname] at hlisted
  · rw [hpath "self" "self" [] (by decide +kernel) (.inl rfl)] at hself
    simpa using hself

end CallCompletion.Source
