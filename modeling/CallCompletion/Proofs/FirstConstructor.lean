import CallCompletion.Proofs.Classification
import CallCompletion.Proofs.ClassSearch
import Mathlib.Data.List.Lex

/-!
# The first constructor

A class that does not say how it is constructed is constructed like the first class that does, of
those that a search along its bases comes to. Ways along bases are lists of numbers, which tell for
each class on the way which of its bases to follow. In their order, what a search finds is at the
end of the first way without repetitions that leads to a class with a constructor.
-/

namespace CallCompletion.Source

/-! ## Ways -/

namespace ClassTable

/-- The classes on a way along bases, which tells for each class the number of the base to
follow. -/
def classesAlong (t : ClassTable) (d : ClassDef) : List Nat → Option (List ClassDef)
  | [] => some [d]
  | i :: way =>
    (d.bases[i]?.bind (baseAmong t)).bind fun p ↦ (t.classesAlong p way).map (d :: ·)

/-- A way without repetitions from one class to another. -/
def LeadsTo (t : ClassTable) (d : ClassDef) (way : List Nat) (c : ClassDef) : Prop :=
  ∃ path, t.classesAlong d way = some path ∧ path.Nodup ∧ path.getLast? = some c

/-- The first class with a property in the order of a search: no way without repetitions to a class
with the property comes before the way to it. Ways are ordered by the first base in which they
differ, and a way comes before those of which it is the beginning. -/
def IsFirst (t : ClassTable) (d : ClassDef) (p : ClassDef → Bool) (c : ClassDef) : Prop :=
  ∃ way, t.LeadsTo d way c ∧ p c = true ∧
    ∀ way' c', t.LeadsTo d way' c' → p c' = true → ¬ way' < way

end ClassTable

namespace Visit

/-- A way from a visit on: without repetitions, and without what has been passed. -/
def LeadsTo (t : ClassTable) (v : Visit) (way : List Nat) (c : ClassDef) : Prop :=
  ∃ path, t.classesAlong v.definition way = some path ∧ path.Nodup ∧
    (∀ b ∈ path, b.name ∉ v.passed) ∧ path.getLast? = some c

section Ways

variable {t : ClassTable} {v : Visit} {way : List Nat} {c : ClassDef}

theorem leadsTo_start (d : ClassDef) : LeadsTo t ⟨d, []⟩ way c ↔ t.LeadsTo d way c := by
  simp [LeadsTo, ClassTable.LeadsTo]

theorem exists_cons_of_classesAlong {d : ClassDef} {path : List ClassDef}
    (h : t.classesAlong d way = some path) : ∃ rest, path = d :: rest := by
  cases way with
  | nil =>
    cases h
    exact ⟨[], rfl⟩
  | cons i way =>
    obtain ⟨p, -, h⟩ := Option.bind_eq_some_iff.1 h
    obtain ⟨rest, -, rfl⟩ := Option.map_eq_some_iff.1 h
    exact ⟨rest, rfl⟩

/-- A way from a class of the table passes classes of the table only. -/
theorem get?_of_classesAlong {d : ClassDef} {path : List ClassDef} (hd : t.get? d.name = some d)
    (h : t.classesAlong d way = some path) : ∀ b ∈ path, t.get? b.name = some b := by
  induction way generalizing d path with
  | nil =>
    cases h
    exact List.forall_mem_singleton.2 hd
  | cons i way ih =>
    obtain ⟨p, hp, h⟩ := Option.bind_eq_some_iff.1 h
    obtain ⟨rest, hrest, rfl⟩ := Option.map_eq_some_iff.1 h
    obtain ⟨base, -, hbase⟩ := Option.bind_eq_some_iff.1 hp
    exact List.forall_mem_cons.2 ⟨hd, ih (get?_of_baseAmong hbase) hrest⟩

/-- A visit of a class of the table that has not been passed. -/
structure IsFresh (t : ClassTable) (v : Visit) : Prop where
  listed : t.get? v.definition.name = some v.definition
  not_passed : v.definition.name ∉ v.passed

theorem IsFresh.onward (hv : v.IsFresh t) {base : Expr} {p : ClassDef}
    (hp : v.parent? t base = some p) : (v.onward p).IsFresh t := by
  obtain ⟨hamong, hfree, hother⟩ := parent?_eq_some_iff.1 hp
  have hget := get?_of_baseAmong hamong
  refine ⟨hget, List.not_mem_cons_of_ne_of_not_mem ?_ hfree⟩
  intro hname
  rw [show p.name = v.definition.name from hname, hv.listed, Option.some.injEq] at hget
  rw [← hget, ClassOf.isSame_self] at hother
  cases hother

theorem leadsTo_nil (hv : v.IsFresh t) : v.LeadsTo t [] c ↔ v.definition = c := by
  simp [LeadsTo, ClassTable.classesAlong, hv.not_passed]

/-- A way leads along one base and goes on as a way from that base. -/
theorem leadsTo_cons (hv : v.IsFresh t) {i : Nat} :
    v.LeadsTo t (i :: way) c ↔
      ∃ base p, v.definition.bases[i]? = some base ∧ v.parent? t base = some p ∧
        (v.onward p).LeadsTo t way c := by
  constructor
  · rintro ⟨path, hpath, hnodup, hfree, hlast⟩
    obtain ⟨p, hp, hpath⟩ := Option.bind_eq_some_iff.1 hpath
    obtain ⟨rest, hrest, rfl⟩ := Option.map_eq_some_iff.1 hpath
    obtain ⟨base, hbase, hamong⟩ := Option.bind_eq_some_iff.1 hp
    obtain ⟨hnot, hnodup⟩ := List.nodup_cons.1 hnodup
    obtain ⟨-, hfree⟩ := List.forall_mem_cons.1 hfree
    have hentries := get?_of_classesAlong (get?_of_baseAmong hamong) hrest
    obtain ⟨more, rfl⟩ := exists_cons_of_classesAlong hrest
    have hothers : ∀ b ∈ p :: more, b.name ∉ v.definition.name :: v.passed := by
      intro b hb hname
      rcases List.mem_cons.1 hname with hname | hname
      · have hb' := hentries b hb
        rw [hname, hv.listed, Option.some.injEq] at hb'
        exact hnot (hb' ▸ hb)
      · exact hfree b hb hname
    have hother := hothers p List.mem_cons_self
    refine ⟨base, p, hbase, parent?_eq_some_iff.2 ⟨hamong, ?_, ?_⟩, p :: more, hrest, hnodup,
      hothers, ?_⟩
    · exact List.not_mem_of_not_mem_cons hother
    · simp [ClassOf.isSame, List.ne_of_not_mem_cons hother]
    · rwa [List.getLast?_cons_cons] at hlast
  · rintro ⟨base, p, hbase, hp, path, hpath, hnodup, hfree, hlast⟩
    obtain ⟨hamong, -, -⟩ := parent?_eq_some_iff.1 hp
    refine ⟨v.definition :: path, ?_, ?_, ?_, ?_⟩
    · simp only [ClassTable.classesAlong, hbase, Option.bind_some, hamong]
      rw [show t.classesAlong p way = some path from hpath, Option.map_some]
    · refine List.nodup_cons.2 ⟨?_, hnodup⟩
      intro hmem
      exact hfree v.definition hmem List.mem_cons_self
    · refine List.forall_mem_cons.2 ⟨hv.not_passed, ?_⟩
      intro b hb hname
      exact hfree b hb (List.mem_cons_of_mem _ hname)
    · obtain ⟨rest, rfl⟩ := exists_cons_of_classesAlong hpath
      rw [List.getLast?_cons_cons]
      exact hlast

theorem eq_of_leadsTo {c' : ClassDef} (h : v.LeadsTo t way c) (h' : v.LeadsTo t way c') :
    c = c' := by
  obtain ⟨path, hpath, -, -, hlast⟩ := h
  obtain ⟨path', hpath', -, -, hlast'⟩ := h'
  rw [hpath, Option.some.injEq] at hpath'
  rw [← hpath', hlast, Option.some.injEq] at hlast'
  exact hlast'

end Ways

/-! ## What a search finds -/

section Search

variable {t : ClassTable} (hkeyed : t.IsKeyed) (q : ClassDef → Bool)

include hkeyed

theorem find?_classes (v : Visit) : (t.ancestryFrom v).classes.find? q =
    if q v.definition then some v.definition
    else v.definition.bases.findSome? fun base ↦
      (v.parent? t base).bind fun p ↦ (t.ancestryFrom (v.onward p)).classes.find? q := by
  rw [hkeyed.classes_ancestryFrom, List.find?_cons, List.find?_flatMap]
  cases q v.definition with
  | true => rfl
  | false =>
    rw [parents]
    induction v.definition.bases with
    | nil => rfl
    | cons base rest ih =>
      rw [List.filterMap_cons, List.findSome?_cons]
      cases v.parent? t base with
      | none => exact ih
      | some p =>
        rw [List.findSome?_cons, Option.bind_some]
        cases (t.ancestryFrom (v.onward p)).classes.find? q with
        | none => exact ih
        | some c => rfl

/-- A search finds nothing only if no way leads to anything. -/
theorem eq_false_of_find?_classes (v : Visit) (hv : v.IsFresh t)
    (hnone : (t.ancestryFrom v).classes.find? q = none) {way : List Nat} {c : ClassDef}
    (hway : v.LeadsTo t way c) : q c = false := by
  induction v using (wellFounded_step t).induction generalizing way with
  | h v ih =>
    rw [find?_classes hkeyed] at hnone
    split_ifs at hnone with hq
    cases way with
    | nil =>
      rw [← (leadsTo_nil hv).1 hway]
      exact Bool.eq_false_iff.2 hq
    | cons i way =>
      obtain ⟨base, p, hat, hp, hrest⟩ := (leadsTo_cons hv).1 hway
      have hmem := List.mem_of_getElem? hat
      have hempty := List.findSome?_eq_none_iff.1 hnone base hmem
      rw [hp, Option.bind_some] at hempty
      exact ih _ (step_of_parent? hmem hp) (hv.onward hp) hempty hrest

/-- What a search finds is the end of a way before which no way leads to anything. -/
theorem exists_first_of_find?_classes (v : Visit) (hv : v.IsFresh t) {c : ClassDef}
    (hfound : (t.ancestryFrom v).classes.find? q = some c) :
    ∃ way, v.LeadsTo t way c ∧
      ∀ way' c', v.LeadsTo t way' c' → q c' = true → ¬ way' < way := by
  induction v using (wellFounded_step t).induction with
  | h v ih =>
    rw [find?_classes hkeyed] at hfound
    split_ifs at hfound with hq
    · cases hfound
      exact ⟨[], (leadsTo_nil hv).2 rfl, fun way' _ _ _ ↦ List.not_lt_nil way'⟩
    · obtain ⟨before, base, after, hbases, hfound, hnone⟩ := List.findSome?_eq_some_iff.1 hfound
      obtain ⟨p, hp, hfound⟩ := Option.bind_eq_some_iff.1 hfound
      have hat : v.definition.bases[before.length]? = some base := by simp [hbases]
      have hstep := step_of_parent? (List.mem_of_getElem? hat) hp
      obtain ⟨way, hway, hfirst⟩ := ih _ hstep (hv.onward hp) hfound
      refine ⟨before.length :: way, (leadsTo_cons hv).2 ⟨base, p, hat, hp, hway⟩, ?_⟩
      intro way' c' hway' hqc' hlt
      cases way' with
      | nil =>
        rw [← (leadsTo_nil hv).1 hway'] at hqc'
        exact hq hqc'
      | cons i way' =>
        obtain ⟨base', p', hat', hp', hrest⟩ := (leadsTo_cons hv).1 hway'
        rcases List.cons_lt_cons_iff.1 hlt with hlt' | ⟨rfl, hlt'⟩
        · -- An earlier base leads to nothing.
          rw [hbases, List.getElem?_append_left hlt'] at hat'
          have hempty := hnone base' (List.mem_of_getElem? hat')
          rw [hp', Option.bind_some] at hempty
          rw [eq_false_of_find?_classes hkeyed q _ (hv.onward hp') hempty hrest] at hqc'
          cases hqc'
        · rw [hat, Option.some.injEq] at hat'
          rw [← hat', hp, Option.some.injEq] at hp'
          exact hfirst way' c' (hp' ▸ hrest) hqc' hlt'

end Search

end Visit

/-! ## Constructors -/

namespace ClassTable

section Constructors

variable {t : ClassTable} (hkeyed : t.IsKeyed) {d : ClassDef} (hd : t.get? d.name = some d)

/-- There is at most one first class. -/
theorem eq_of_isFirst {p : ClassDef → Bool} {c c' : ClassDef} (h : t.IsFirst d p c)
    (h' : t.IsFirst d p c') : c = c' := by
  obtain ⟨way, hway, hc, hfirst⟩ := h
  obtain ⟨way', hway', hc', hfirst'⟩ := h'
  have hsame : way = way' := by
    rcases lt_trichotomy way way' with hlt | heq | hlt
    · exact absurd hlt (hfirst' way c hway hc)
    · exact heq
    · exact absurd hlt (hfirst way' c' hway' hc')
  subst hsame
  exact Visit.eq_of_leadsTo ((Visit.leadsTo_start d).2 hway) ((Visit.leadsTo_start d).2 hway')

include hkeyed hd

theorem IsKeyed.isFirst_of_constructor? {c : ClassDef}
    (h : (t.ancestry d).constructor? = some c) : t.IsFirst d ClassOf.hasConstructor c := by
  rw [Ancestry.constructor?_eq_find?, ← ancestryFrom_start] at h
  have hfresh : Visit.IsFresh t ⟨d, []⟩ := ⟨hd, List.not_mem_nil⟩
  obtain ⟨way, hway, hfirst⟩ := Visit.exists_first_of_find?_classes hkeyed _ _ hfresh h
  refine ⟨way, (Visit.leadsTo_start d).1 hway, List.find?_some h, ?_⟩
  intro way' c' hway' hc'
  exact hfirst way' c' ((Visit.leadsTo_start d).2 hway') hc'

theorem IsKeyed.constructor?_eq_none_iff : (t.ancestry d).constructor? = none ↔
    ∀ way c, t.LeadsTo d way c → c.hasConstructor = false := by
  constructor
  · intro h way c hway
    rw [Ancestry.constructor?_eq_find?, ← ancestryFrom_start] at h
    have hfresh : Visit.IsFresh t ⟨d, []⟩ := ⟨hd, List.not_mem_nil⟩
    exact Visit.eq_false_of_find?_classes hkeyed _ _ hfresh h ((Visit.leadsTo_start d).2 hway)
  · intro h
    cases hfound : (t.ancestry d).constructor? with
    | none => rfl
    | some c =>
      obtain ⟨way, hway, hc, -⟩ := hkeyed.isFirst_of_constructor? hd hfound
      rw [h way c hway] at hc
      cases hc

/-- The search finds the first class on any way that says how it is constructed. -/
theorem IsKeyed.constructor?_eq_some_iff {c : ClassDef} :
    (t.ancestry d).constructor? = some c ↔ t.IsFirst d ClassOf.hasConstructor c := by
  refine ⟨hkeyed.isFirst_of_constructor? hd, ?_⟩
  intro h
  cases hfound : (t.ancestry d).constructor? with
  | none =>
    obtain ⟨way, hway, hc, -⟩ := h
    rw [(hkeyed.constructor?_eq_none_iff hd).1 hfound way c hway] at hc
    cases hc
  | some c' => rw [eq_of_isFirst h (hkeyed.isFirst_of_constructor? hd hfound)]

end Constructors

end ClassTable

/-- The signatures of a class that says itself how it is constructed: those of the overload stubs of
its initializer in source order, without stubs that of the last initializer, and without initializer
the one generated from its fields. -/
inductive ConstructedBy [CharacterNames] (t : ClassTable) (owner : ClassDef) :
    Except Fault (List Signature) → Prop
  | overloads (h : owner.initializers.filter FunctionOf.isOverload ≠ []) :
    ConstructedBy t owner ((owner.initializers.filter FunctionOf.isOverload).mapM
      (functionSignature t (some owner)))
  | last {d : FunctionDef} (hplain : owner.initializers.filter FunctionOf.isOverload = [])
      (hlast : owner.initializers.getLast? = some d) :
    ConstructedBy t owner ((functionSignature t (some owner) d).map ([·]))
  | generated (hnone : owner.initializers = []) (hdataclass : owner.isDataclass = true)
      (hinit : owner.dataclassFlag "init" ≠ some false) :
    ConstructedBy t owner ((dataclassSignature t owner).map ([·]))

theorem constructedBy_of_hasConstructor [CharacterNames] (t : ClassTable) {owner : ClassDef}
    (h : owner.hasConstructor = true) :
    ConstructedBy t owner (ownConstructorSignatures t owner) := by
  unfold ownConstructorSignatures
  cases hlast : owner.initializers.getLast? with
  | none =>
    have hnone := List.getLast?_eq_none_iff.1 hlast
    have hgenerated : owner.isDataclass = true ∧ owner.dataclassFlag "init" ≠ some false := by
      simpa [ClassOf.hasConstructor, hnone] using h
    exact .generated hnone hgenerated.1 hgenerated.2
  | some last =>
    have hall := List.dropLast_append_getLast? last hlast
    simp only [chosenFunctions, hall]
    split
    · rename_i hplain
      have hone : [last].mapM (functionSignature t (some owner)) =
          (functionSignature t (some owner) last).map ([·]) := by
        rw [List.mapM_cons, List.mapM_nil]
        cases functionSignature t (some owner) last <;> rfl
      rw [hone]
      exact .last hplain hlast
    · rename_i hstubs
      exact .overloads hstubs

/-- A symbol has signatures if and only if each annotation from which they are made has a class. -/
theorem exists_signatures_iff [CharacterNames] {m : SourceModule} {s : Symbol} :
    (∃ shown, m.signatures s = .ok shown) ↔
      ∀ e ∈ m.hints s, ∃ type, classify m.classes e = .ok type := by
  simp only [Fault.exists_ok_iff, of?_signatures, classFault?, List.findSome?_eq_none_iff]

/-- How a class is constructed is found by a search that ends, on any hierarchy, and gives
signatures if its annotations have a class. From a class of the table it finds the first class that
says how it is constructed, in the order of ways without repetitions along bases, and none only if
no class on such a way says it. The signatures are those of the class that is found; without one
there is a single signature, without parameters. -/
theorem SourceModule.constructor_search [CharacterNames] (body : List Stmt) {s : Symbol}
    {d : ClassDef}
    (hs : s.site = some (.classDef d)) :
    (WellFounded fun w v ↦ Visit.Step (ofStatements body).classes v w) ∧
      ((∀ e ∈ (ofStatements body).hints s,
          ∃ type, classify (ofStatements body).classes e = .ok type) →
        ∃ shown, (ofStatements body).signatures s = .ok shown) ∧
      ((ofStatements body).classes.get? d.name = some d →
        (∀ owner, ((ofStatements body).classes.ancestry d).constructor? = some owner ↔
          (ofStatements body).classes.IsFirst d ClassOf.hasConstructor owner) ∧
        (((ofStatements body).classes.ancestry d).constructor? = none ↔
          ∀ way c, (ofStatements body).classes.LeadsTo d way c → c.hasConstructor = false) ∧
        (∀ owner, ((ofStatements body).classes.ancestry d).constructor? = some owner →
          ConstructedBy (ofStatements body).classes owner ((ofStatements body).signatures s)) ∧
        (((ofStatements body).classes.ancestry d).constructor? = none →
          (ofStatements body).signatures s = .ok [{}])) := by
  refine ⟨Visit.wellFounded_step _, exists_signatures_iff.2, ?_⟩
  intro hd
  have hkeyed := ClassTable.isKeyed_ofStatements body
  have hsignatures : (ofStatements body).signatures s =
      constructorSignatures (ofStatements body).classes d := by
    simp only [signatures, hs]
  have hsome := fun owner ↦ hkeyed.constructor?_eq_some_iff hd (c := owner)
  refine ⟨hsome, hkeyed.constructor?_eq_none_iff hd, ?_, ?_⟩
  · intro owner hfound
    obtain ⟨-, -, howner, -⟩ := (hsome owner).1 hfound
    rw [hsignatures, constructorSignatures, hfound]
    exact constructedBy_of_hasConstructor _ howner
  · intro hnone
    rw [hsignatures, constructorSignatures, hnone]

theorem SourceModule.constructor_circularClasses :
    ∃ d owner, ClassTable.circularClasses.get? "A" = some d ∧
      ClassTable.circularClasses.get? "C" = some owner ∧
      ClassTable.circularClasses.IsFirst d ClassOf.hasConstructor owner ∧
      (ofStatements (ClassTable.circularClasses.map .classDef)).signatures
          { name := "A", kind := .classType, site := some (.classDef d) } =
        .ok [{ parameters := [{ name := "x" }], minArguments := 1 }] := by
  refine ⟨_, _, rfl, rfl, ?_, by decide +kernel⟩
  obtain ⟨-, -, hsearch⟩ := constructor_search (ClassTable.circularClasses.map .classDef)
    (s :=
      { name := "A", kind := .classType, site := ClassTable.circularClasses.head?.map .classDef }) rfl
  exact ((hsearch rfl).1 _).1 (by with_unfolding_all rfl)

end CallCompletion.Source
