import CallCompletion.Engine.Completion
import CallCompletion.Snapshot.Model
import CallCompletion.Source.Engine

/-!
# What is offered and what resolves

An engine lists symbols and resolves names. The visible symbols of a module are the answers to all
names that resolve without a parent, each of them once. What is offered under a parent resolves
under it: to the visible symbol of the same name if there is one, and to the offered member
otherwise.
-/

namespace CallCompletion.Source

/-! ## Scopes and their symbols -/

/-- Whether a scope binds a name. -/
def Scope.binds (scope : Scope) (name : String) : Bool := scope.bindings.any (·.1 == name)

theorem Scope.mem_names_iff (scope : Scope) (name : String) :
    name ∈ scope.names ↔ scope.binds name = true := by
  rw [Scope.names, mem_firstOfEach_id, Scope.binds, List.any_eq_true]
  simp

theorem Scope.bindingsOf_eq_nil_iff (scope : Scope) (name : String) :
    scope.bindingsOf name = [] ↔ scope.binds name = false := by
  simp [Scope.bindingsOf, Scope.binds]

namespace SourceModule

variable (m : SourceModule)

theorem isSome_symbolIn? (scope : Scope) (name : String) :
    (m.symbolIn? scope name).isSome = scope.binds name := by
  have hempty := scope.bindingsOf_eq_nil_iff name
  unfold symbolIn?
  cases hbindings : scope.bindingsOf name with
  | nil => simpa [hbindings] using hempty
  | cons binding rest =>
    have hbinds : scope.binds name = true := by simpa [hbindings] using hempty
    simp [hbinds, List.getLast?_cons]

theorem name_of_symbolIn? {scope : Scope} {name : String} {s : Symbol}
    (h : m.symbolIn? scope name = some s) : s.name = name := by
  obtain ⟨binding, _, rfl⟩ := Option.map_eq_some_iff.1 h
  cases binding <;> rfl

/-- A scope lists for each name the symbol that the name has in it. -/
theorem find?_symbolsIn (scope : Scope) (name : String) :
    (m.symbolsIn scope).find? (·.name == name) = m.symbolIn? scope name := by
  have hkeep : ∀ other, (m.symbolIn? scope other).any (·.name == name) =
      (other == name && (m.symbolIn? scope name).isSome) := by
    intro other
    cases hother : m.symbolIn? scope other with
    | none =>
      by_cases hname : other = name
      · simp [← hname, hother]
      · simp [hname]
    | some s =>
      have hs := m.name_of_symbolIn? hother
      by_cases hname : other = name
      · simp [← hname, hother, hs]
      · simp [hname, hs]
  rw [symbolsIn, List.find?_filterMap]
  simp only [hkeep]
  cases hsymbol : m.symbolIn? scope name with
  | none => simp [List.find?_eq_none.2]
  | some s =>
    have hmem : name ∈ scope.names := by
      rw [Scope.mem_names_iff, ← m.isSome_symbolIn?, hsymbol]
      rfl
    obtain ⟨found, hfound⟩ : ∃ found, scope.names.find? (· == name) = some found := by
      rw [← Option.isSome_iff_exists, List.find?_isSome]
      exact ⟨name, hmem, beq_self_eq_true name⟩
    have hname : found = name := by simpa using List.find?_some hfound
    simp [hfound, hname, hsymbol]

/-- Symbols of scopes in a row: the first one of a name is that of the first scope to bind it. -/
theorem find?_flatMap_symbolsIn (scopes : List Scope) (name : String) :
    (scopes.flatMap m.symbolsIn).find? (·.name == name) = m.lookup? scopes name := by
  induction scopes with
  | nil => rfl
  | cons scope rest ih =>
    rw [List.flatMap_cons, List.find?_append, find?_symbolsIn, ih, lookup?, lookup?,
      List.findSome?_cons]
    cases m.symbolIn? scope name <;> rfl

theorem lookup?_eq (scopes : List Scope) (name : String) :
    m.lookup? scopes name = (scopes.find? (·.binds name)).bind (m.symbolIn? · name) := by
  induction scopes with
  | nil => rfl
  | cons scope rest ih =>
    have hsome := m.isSome_symbolIn? scope name
    rw [lookup?, List.findSome?_cons, ← lookup?, ih, List.find?_cons, ← hsome]
    cases hsymbol : m.symbolIn? scope name with
    | none => rfl
    | some s => simp [hsymbol]

theorem resolve_none (name : String) (position : Option Position) :
    m.resolve name position none = m.lookup? (visibleScopes (m.chainAt position)) name := by
  simp only [resolve]
  cases m.lookup? (visibleScopes (m.chainAt position)) name <;> rfl

theorem resolve_some (name : String) (position : Option Position) {parent : String}
    (hparent : parent ≠ "") :
    m.resolve name position (some parent) =
      (m.lookup? (visibleScopes (m.chainAt position)) name).or
        ((m.parentSymbol? (m.chainAt position) parent).bind (m.member? · name)) := by
  simp only [resolve]
  cases m.lookup? (visibleScopes (m.chainAt position)) name with
  | some s => rfl
  | none =>
    split
    · contradiction
    · rfl

/-- The visible symbols of a name are the one it resolves to. -/
theorem filter_visible (position : Option Position) (name : String) :
    (m.visible position).filter (·.name == name) = (m.resolve name position none).toList := by
  rw [visible, filter_firstOfEach, find?_flatMap_symbolsIn, resolve_none]

/-- A name is listed among the visible symbols if and only if it resolves; it is then listed once,
and as the symbol it resolves to. -/
theorem visible_agrees_with_resolve (position : Option Position) (name : String) :
    ((∃ s ∈ m.visible position, s.name = name) ↔ m.resolve name position none ≠ none) ∧
      ((m.visible position).filter (·.name == name)).length ≤ 1 ∧
      ∀ s ∈ m.visible position, s.name = name → m.resolve name position none = some s := by
  have hfilter := m.filter_visible position name
  have hmem : ∀ s, s ∈ m.visible position ∧ s.name = name ↔
      m.resolve name position none = some s := by
    intro s
    rw [← Option.mem_toList, ← hfilter, List.mem_filter, beq_iff_eq]
  refine ⟨?_, ?_, fun s hs hname ↦ (hmem s).1 ⟨hs, hname⟩⟩
  · rw [Option.ne_none_iff_exists']
    exact exists_congr hmem
  · rw [hfilter]
    exact Option.length_toList_le

/-! ## Members of a parent -/

/-- A symbol that a scope lists is found there by its name. -/
theorem symbolIn?_of_mem {scope : Scope} {s : Symbol} (h : s ∈ m.symbolsIn scope) :
    m.symbolIn? scope s.name = some s := by
  obtain ⟨name, _, hname⟩ := List.mem_filterMap.1 h
  rw [m.name_of_symbolIn? hname]
  exact hname

theorem mem_symbolsIn {scope : Scope} {name : String} {s : Symbol}
    (h : m.symbolIn? scope name = some s) : s ∈ m.symbolsIn scope := by
  rw [← m.find?_symbolsIn] at h
  exact List.mem_of_find?_eq_some h

/-- The members of a parent are what its names resolve to as members. -/
theorem mem_members_iff (parent : String) (position : Option Position) (s : Symbol) :
    s ∈ m.members parent position ↔
      (m.parentSymbol? (m.chainAt position) parent).bind (m.member? · s.name) = some s := by
  have hbind : (m.parentSymbol? (m.chainAt position) parent).bind (m.member? · s.name) =
      ((m.parentSymbol? (m.chainAt position) parent).bind m.membersClass?).bind
        fun d ↦ m.symbolIn? (.classDef d) s.name := by
    rw [Option.bind_assoc]
    rfl
  rw [hbind, members]
  cases (m.parentSymbol? (m.chainAt position) parent).bind m.membersClass? with
  | none => simp
  | some d => exact ⟨m.symbolIn?_of_mem, m.mem_symbolsIn⟩

theorem name_of_member? {owner s : Symbol} {name : String} (h : m.member? owner name = some s) :
    s.name = name := by
  obtain ⟨d, _, hd⟩ := Option.bind_eq_some_iff.1 h
  exact m.name_of_symbolIn? hd

/-- A member resolves to the visible symbol of its name, and to itself if there is none. -/
theorem resolve_member {parent : String} (hparent : parent ≠ "") {position : Option Position}
    {s : Symbol} (h : s ∈ m.members parent position) :
    m.resolve s.name position (some parent) =
      (m.lookup? (visibleScopes (m.chainAt position)) s.name).or (some s) := by
  rw [m.resolve_some s.name position hparent, (m.mem_members_iff parent position s).1 h]

/-- A name that is not visible resolves under a parent only as a member of it. -/
theorem mem_members_of_resolve {parent name : String} (hparent : parent ≠ "")
    {position : Option Position} {s : Symbol}
    (hhidden : m.lookup? (visibleScopes (m.chainAt position)) name = none)
    (h : m.resolve name position (some parent) = some s) :
    s ∈ m.members parent position ∧ s.name = name := by
  rw [m.resolve_some name position hparent, hhidden, Option.none_or] at h
  obtain ⟨owner, _, howner⟩ := Option.bind_eq_some_iff.1 h
  have hname := m.name_of_member? howner
  exact ⟨(m.mem_members_iff parent position s).2 (hname ▸ h), hname⟩

end SourceModule

end CallCompletion.Source

namespace CallCompletion.Snapshot

/-! ## Snapshots under a parent -/

theorem resolve_some (snapshots : List SymbolSnapshot) (name : String) {parent : String}
    (hparent : parent ≠ "") :
    resolve snapshots name (some parent) =
      (find? snapshots name "").or (find? snapshots name parent) := by
  simp only [resolve]
  cases find? snapshots name "" with
  | some s => rfl
  | none =>
    split
    · contradiction
    · rfl

theorem isSome_find?_of_mem {snapshots : List SymbolSnapshot} {parent : String}
    {s : SymbolAt SymbolSnapshot} (h : s ∈ membersOf snapshots parent) :
    (find? snapshots s.name parent).isSome := by
  obtain ⟨snapshot, hsnapshot, rfl⟩ := List.mem_map.1 h
  obtain ⟨hmem, hcontainer⟩ := List.mem_filter.1 hsnapshot
  rw [find?, Option.isSome_map, List.find?_isSome]
  exact ⟨snapshot, hmem, by simpa [SymbolSnapshot.symbol] using hcontainer⟩

theorem mem_membersOf_of_find? {snapshots : List SymbolSnapshot} {name parent : String}
    {s : SymbolAt SymbolSnapshot} (h : find? snapshots name parent = some s) :
    s ∈ membersOf snapshots parent ∧ s.name = name := by
  obtain ⟨snapshot, hsnapshot, rfl⟩ := Option.map_eq_some_iff.1 h
  have hfound : snapshot.name = name ∧ snapshot.container = parent := by
    simpa using List.find?_some hsnapshot
  have hmem : snapshot ∈ snapshots.filter (·.container == parent) :=
    List.mem_filter.2 ⟨List.mem_of_find?_eq_some hsnapshot, by simp [hfound.2]⟩
  exact ⟨List.mem_map.2 ⟨snapshot, hmem, rfl⟩, hfound.1⟩

end CallCompletion.Snapshot

namespace CallCompletion

open Source Snapshot

/-! ## What is offered under a parent -/

/-- Under a parent, its members are offered. -/
theorem completionItems_some {σ : Type} (e : Engine σ) (position : Option Position)
    {parent : String} (hparent : parent ≠ "") :
    completionItems e position (some parent) =
      (e.members parent position).filter SymbolAt.isOffered := by
  simp only [completionItems]

theorem mem_members_of_mem_completionItems {σ : Type} {e : Engine σ} {position : Option Position}
    {parent : String} (hparent : parent ≠ "") {s : SymbolAt σ}
    (h : s ∈ completionItems e position (some parent)) : s ∈ e.members parent position := by
  rw [completionItems_some e position hparent] at h
  exact (List.mem_filter.1 h).1

/-- Whatever is offered under a parent resolves under it. In a module it resolves to the symbol of
its name in the first visible scope that binds the name, and to itself if none does; among
snapshots, to the first one of its name without a container, and else to the first one in the
parent. A name without such a visible binding resolves under the parent only if a member of the
parent bears it. -/
theorem offered_under_parent_resolves [CharacterNames] :
    (∀ (m : SourceModule) (position : Option Position) (parent : String), parent ≠ "" →
      (∀ s ∈ completionItems m.engine position (some parent),
        m.engine.resolve s.name position (some parent) ≠ none ∧
        m.engine.resolve s.name position (some parent) =
          match (visibleScopes (m.chainAt position)).find? (·.binds s.name) with
          | some scope => m.symbolIn? scope s.name
          | none => some s) ∧
      ∀ name, (visibleScopes (m.chainAt position)).find? (·.binds name) = none →
        m.engine.resolve name position (some parent) ≠ none →
          ∃ s ∈ m.engine.members parent position, s.name = name) ∧
    (∀ (snapshots : List SymbolSnapshot) (position : Option Position) (parent : String),
      parent ≠ "" →
      (∀ s ∈ completionItems (Snapshot.engine snapshots) position (some parent),
        (Snapshot.engine snapshots).resolve s.name position (some parent) ≠ none ∧
        (Snapshot.engine snapshots).resolve s.name position (some parent) =
          match snapshots.find? fun t ↦ t.name == s.name && t.container == "" with
          | some t => some t.symbol
          | none => (snapshots.find? fun t ↦ t.name == s.name && t.container == parent).map
              SymbolSnapshot.symbol) ∧
      ∀ name, (snapshots.find? fun t ↦ t.name == name && t.container == "") = none →
        (Snapshot.engine snapshots).resolve name position (some parent) ≠ none →
          ∃ s ∈ (Snapshot.engine snapshots).members parent position, s.name = name) := by
  constructor
  · intro m position parent hparent
    constructor
    · intro s hs
      have hmember : s ∈ m.members parent position :=
        mem_members_of_mem_completionItems hparent hs
      have hresolve : m.engine.resolve s.name position (some parent) = _ :=
        m.resolve_member hparent hmember
      rw [hresolve, m.lookup?_eq]
      cases hfind : (visibleScopes (m.chainAt position)).find? (·.binds s.name) with
      | none => exact ⟨Option.some_ne_none s, rfl⟩
      | some scope =>
        have hbinds : scope.binds s.name = true := by simpa using List.find?_some hfind
        rw [← m.isSome_symbolIn?] at hbinds
        obtain ⟨bound, hbound⟩ := Option.isSome_iff_exists.1 hbinds
        simp [hbound]
    · intro name hhidden hresolves
      obtain ⟨s, hs⟩ := Option.ne_none_iff_exists'.1 hresolves
      have hlookup : m.lookup? (visibleScopes (m.chainAt position)) name = none := by
        rw [m.lookup?_eq, hhidden, Option.bind_none]
      exact ⟨s, m.mem_members_of_resolve hparent hlookup hs⟩
  · intro snapshots position parent hparent
    have hresolve : ∀ name, (Snapshot.engine snapshots).resolve name position (some parent) =
        (Snapshot.find? snapshots name "").or (Snapshot.find? snapshots name parent) :=
      fun name ↦ Snapshot.resolve_some snapshots name hparent
    constructor
    · intro s hs
      have hmember : s ∈ membersOf snapshots parent :=
        mem_members_of_mem_completionItems hparent hs
      have hsome := isSome_find?_of_mem hmember
      rw [hresolve]
      constructor
      · intro hnone
        rw [(Option.or_eq_none_iff.1 hnone).2] at hsome
        cases hsome
      · unfold Snapshot.find?
        cases snapshots.find? fun t ↦ t.name == s.name && t.container == "" <;> rfl
    · intro name hhidden hresolves
      have hnone : Snapshot.find? snapshots name "" = none := by
        rw [Snapshot.find?, hhidden, Option.map_none]
      rw [hresolve, hnone, Option.none_or] at hresolves
      obtain ⟨s, hs⟩ := Option.ne_none_iff_exists'.1 hresolves
      exact ⟨s, mem_membersOf_of_find? hs⟩

/-- A class with one variable. -/
def oneMember : SourceModule := .ofSource "class C:\n  x = 1"

/-- The snapshot of one variable of a class. -/
def oneSnapshot : List SymbolSnapshot :=
  [{ name := "x", kind := "variable", container := "C", modifiers := [], display := "",
     documentation := "", callSignatures := [] }]

theorem offered_member_resolves :
    (∃ s ∈ completionItems oneMember.engine none (some "C"),
      oneMember.engine.resolve s.name none (some "C") = some s) ∧
    (∃ s ∈ oneMember.engine.members "C" none, s.name = "x") ∧
    (∃ s ∈ completionItems (Snapshot.engine oneSnapshot) none (some "C"),
      (Snapshot.engine oneSnapshot).resolve s.name none (some "C") ≠ none) ∧
    ∃ s ∈ (Snapshot.engine oneSnapshot).members "C" none, s.name = "x" := by
  have hhidden : (visibleScopes (oneMember.chainAt none)).find? (·.binds "x") = none := by
    rw [← Option.isNone_iff_eq_none]
    decide +kernel
  have hoffered : "x" ∈ (completionItems oneMember.engine none (some "C")).map (·.name) := by
    decide +kernel
  have hsnapshot : "x" ∈ (completionItems (Snapshot.engine oneSnapshot) none (some "C")).map
      (·.name) := by
    decide +kernel
  obtain ⟨s, hs, hname⟩ := List.mem_map.1 hoffered
  obtain ⟨t, ht, htname⟩ := List.mem_map.1 hsnapshot
  have hmodule := offered_under_parent_resolves.1 oneMember none "C" (by decide)
  have hsnapshots := offered_under_parent_resolves.2 oneSnapshot none "C" (by decide)
  have hresolved := (hmodule.1 s hs).2
  rw [hname, hhidden] at hresolved
  have hthere : oneMember.engine.resolve "x" none (some "C") ≠ none := by
    rw [hresolved]
    exact Option.some_ne_none s
  have hfirst : (oneSnapshot.find? fun t ↦ t.name == "x" && t.container == "") = none := by
    rw [← Option.isNone_iff_eq_none]
    decide +kernel
  have hresolves := (hsnapshots.1 t ht).1
  exact ⟨⟨s, hs, by rw [hname, hresolved]⟩, hmodule.2 "x" hhidden hthere, ⟨t, ht, hresolves⟩,
    hsnapshots.2 "x" hfirst (htname ▸ hresolves)⟩

end CallCompletion
