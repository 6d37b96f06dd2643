import CallCompletion.Source.Signatures
import Mathlib.Logic.Relation
import Mathlib.Tactic.SplitIfs

/-!
# Searches along bases

Whether a class is an enumeration, how it is constructed and which fields it has is found by
searches from a class to its bases and on to theirs. Class hierarchies in source text can be
circular, and names can be borne by several classes. A search remembers the names of the classes on
the way to the one at hand and does not go back to them. This makes it end from every class. From
a class of the table it misses nothing, since whatever can be reached is reached on a way without
repetitions.
-/

namespace CallCompletion.Source

/-! ## Classes by name -/

namespace ClassTable

/-- A table that finds each of its classes under the name of the class. -/
def IsKeyed (t : ClassTable) : Prop := ∀ c ∈ t, t.get? c.name = some c

/-- The table of a module holds each class under its own name. -/
theorem isKeyed_ofStatements (body : List Stmt) : (ofStatements body).IsKeyed := by
  intro c hc
  have hfound : c ∈ (ofStatements body).filter (·.name == c.name) :=
    List.mem_filter.2 ⟨hc, beq_self_eq_true _⟩
  rw [ofStatements, filter_firstOfEach, Option.mem_toList] at hfound
  rw [get?, ofStatements, find?_firstOfEach]
  exact hfound

variable {t : ClassTable}

theorem name_of_get? {name : String} {c : ClassDef} (h : t.get? name = some c) :
    c.name = name := by
  have hname := List.find?_some h
  exact eq_of_beq hname

theorem mem_of_get? {name : String} {c : ClassDef} (h : t.get? name = some c) : c ∈ t :=
  List.mem_of_find?_eq_some h

theorem IsKeyed.eq_of_name (hkeyed : t.IsKeyed) {b c : ClassDef} (hb : b ∈ t) (hc : c ∈ t)
    (h : b.name = c.name) : b = c := by
  have hfound := hkeyed b hb
  rw [h, hkeyed c hc] at hfound
  exact (Option.some.inj hfound).symm

/-- A name leads to the same class in a part of the table, if the class is in that part. -/
theorem IsKeyed.find?_filter (hkeyed : t.IsKeyed) (keep : ClassDef → Bool) (name : String) :
    (t.filter keep).find? (·.name == name) = (t.get? name).filter keep := by
  cases hname : t.get? name with
  | none =>
    rw [Option.filter_none, List.find?_eq_none]
    intro c hc
    exact List.find?_eq_none.1 hname c (List.mem_filter.1 hc).1
  | some c =>
    have hmem := mem_of_get? hname
    have hsame : ∀ b ∈ t, b.name = name → b = c := by
      intro b hb hbname
      exact hkeyed.eq_of_name hb hmem (hbname.trans (name_of_get? hname).symm)
    cases hkeep : keep c with
    | true =>
      rw [Option.filter_some_pos hkeep]
      have hfound : ((t.filter keep).find? (·.name == name)).isSome = true :=
        List.find?_isSome.2 ⟨c, List.mem_filter.2 ⟨hmem, hkeep⟩, beq_iff_eq.2 (name_of_get? hname)⟩
      obtain ⟨b, hb⟩ := Option.isSome_iff_exists.1 hfound
      have hbmem := (List.mem_filter.1 (List.mem_of_find?_eq_some hb)).1
      have hbname := List.find?_some hb
      rw [hb, hsame b hbmem (eq_of_beq hbname)]
    | false =>
      rw [Option.filter_some_neg (by simp [hkeep]), List.find?_eq_none]
      intro b hb hbname
      obtain ⟨hbmem, hbkeep⟩ := List.mem_filter.1 hb
      rw [hsame b hbmem (eq_of_beq hbname), hkeep] at hbkeep
      cases hbkeep

/-- A class has another one as its base if one of its base expressions ends in the name under which
the table has the other class. -/
def HasBase (t : ClassTable) (d parent : ClassDef) : Prop :=
  ∃ base ∈ d.bases, baseAmong t base = some parent

end ClassTable

theorem ClassOf.isSame_self (d : ClassDef) : d.isSame d = true := by simp [isSame]

theorem get?_of_baseAmong {t : ClassTable} {base : Expr} {p : ClassDef}
    (h : baseAmong t base = some p) : t.get? p.name = some p := by
  obtain ⟨name, -, hname⟩ := Option.bind_eq_some_iff.1 h
  rw [ClassTable.name_of_get? (t := t) hname]
  exact hname

/-! ## Visits -/

/-- A class in a search, with the names of the classes on the way to it. -/
structure Visit where
  definition : ClassDef
  passed : List String

namespace Visit

/-- The class to which a base leads on from a visit: the one of the table, unless it has been passed
or is the visited class itself. -/
def parent? (t : ClassTable) (v : Visit) (base : Expr) : Option ClassDef :=
  (baseAmong t base).filter fun p ↦ !v.passed.contains p.name && !p.isSame v.definition

/-- The classes to which the bases of a class lead on. -/
def parents (t : ClassTable) (v : Visit) : List ClassDef :=
  v.definition.bases.filterMap (v.parent? t)

/-- The visit of a base. -/
def onward (v : Visit) (p : ClassDef) : Visit := ⟨p, v.definition.name :: v.passed⟩

/-- One step of a search. -/
def Step (t : ClassTable) (v w : Visit) : Prop := ∃ p ∈ v.parents t, w = v.onward p

variable {t : ClassTable} {v w : Visit} {p : ClassDef}

theorem parent?_eq_some_iff {base : Expr} : v.parent? t base = some p ↔
    baseAmong t base = some p ∧ p.name ∉ v.passed ∧ p.isSame v.definition = false := by
  rw [parent?, Option.filter_eq_some_iff]
  simp

theorem mem_parents_iff : p ∈ v.parents t ↔
    (∃ base ∈ v.definition.bases, baseAmong t base = some p) ∧ p.name ∉ v.passed ∧
      p.isSame v.definition = false := by
  rw [parents, List.mem_filterMap]
  simp only [parent?_eq_some_iff, ← and_assoc, exists_and_right]

theorem step_of_parent? {base : Expr} (hbase : base ∈ v.definition.bases)
    (hp : v.parent? t base = some p) : v.Step t (v.onward p) :=
  ⟨p, List.mem_filterMap.2 ⟨base, hbase, hp⟩, rfl⟩

/-- The classes that a search from a visit can still come to. -/
def ahead (t : ClassTable) (v : Visit) : List ClassDef :=
  t.filter fun c ↦ !(v.definition.name :: v.passed).contains c.name

/-- Whether the visited class is the one that the table has under its name. -/
def isListed (t : ClassTable) (v : Visit) : Bool :=
  (t.get? v.definition.name).any (·.isSame v.definition)

/-- A bound on the steps that a search can still take. Only a class that is not the one of the
table leads to another class of its own name, and only the first class of a search can be such a
one. -/
def stepsLeft (t : ClassTable) (v : Visit) : Nat :=
  2 * (v.ahead t).length + if v.isListed t then 0 else 1

/-- Going on to a base takes its name from those that lie ahead. -/
theorem ahead_onward (t : ClassTable) (v : Visit) (p : ClassDef) :
    (v.onward p).ahead t = (v.ahead t).filter (·.name != p.name) := by
  rw [ahead, ahead, List.filter_filter]
  apply List.filter_congr
  intro c _
  by_cases hc : c.name = p.name <;> simp [onward, hc]

/-- Every step of the search leaves fewer names ahead. -/
theorem stepsLeft_lt (h : v.Step t w) : w.stepsLeft t < v.stepsLeft t := by
  obtain ⟨p, hp, rfl⟩ := h
  obtain ⟨⟨base, -, hbase⟩, hpassed, hsame⟩ := mem_parents_iff.1 hp
  have hget := get?_of_baseAmong hbase
  have hlisted : (v.onward p).isListed t = true := by
    simp [isListed, onward, hget, ClassOf.isSame_self]
  have hle : ((v.onward p).ahead t).length ≤ (v.ahead t).length := by
    rw [ahead_onward]
    exact List.length_filter_le _ _
  rw [stepsLeft, stepsLeft, if_pos hlisted]
  split_ifs with hentry
  · -- The base bears another name than a class of the table, and was still ahead.
    have hname : p.name ≠ v.definition.name := by
      intro heq
      rw [isListed, ← heq, hget, Option.any_some, hsame] at hentry
      cases hentry
    have hmem : p ∈ v.ahead t :=
      List.mem_filter.2 ⟨ClassTable.mem_of_get? hget, by simp [hname, hpassed]⟩
    have hlt : ((v.onward p).ahead t).length < (v.ahead t).length := by
      rw [ahead_onward]
      exact List.length_filter_lt_length_iff_exists.2 ⟨p, hmem, by simp⟩
    omega
  · omega

/-- No search goes on for ever. -/
theorem wellFounded_step (t : ClassTable) : WellFounded fun w v ↦ Step t v w :=
  Subrelation.wf (fun h ↦ stepsLeft_lt h) (InvImage.wf (stepsLeft t) Nat.lt_wfRel.wf)

end Visit

/-! ## Ancestries as searches -/

/-- The classes of an ancestry in the order of a search: a class before its bases, and what is
reached by one base before the next base. -/
def Ancestry.classes : Ancestry → List ClassDef
  | .node d bases => d :: bases.flatMap fun a ↦ a.classes

theorem Ancestry.classes_node (d : ClassDef) (bases : List Ancestry) :
    (Ancestry.node d bases).classes = d :: bases.flatMap Ancestry.classes := by
  rw [classes]

mutual

theorem Ancestry.isEnum_eq_any (a : Ancestry) : a.isEnum = a.classes.any ClassOf.hasEnumBase := by
  cases a with
  | node d bases =>
    rw [isEnum, classes_node, List.any_cons, anyEnum_eq_any bases]

theorem Ancestry.anyEnum_eq_any (bases : List Ancestry) :
    Ancestry.anyEnum bases = (bases.flatMap Ancestry.classes).any ClassOf.hasEnumBase := by
  cases bases with
  | nil => rfl
  | cons a rest =>
    rw [anyEnum, List.flatMap_cons, List.any_append, isEnum_eq_any a, anyEnum_eq_any rest]

end

mutual

/-- The search for a constructor is a search in the list of classes, in preorder. -/
theorem Ancestry.constructor?_eq_find? (a : Ancestry) :
    a.constructor? = a.classes.find? ClassOf.hasConstructor := by
  cases a with
  | node d bases =>
    rw [constructor?, classes_node, List.find?_cons, firstConstructor?_eq_find? bases]
    cases d.hasConstructor <;> rfl

theorem Ancestry.firstConstructor?_eq_find? (bases : List Ancestry) :
    Ancestry.firstConstructor? bases =
      (bases.flatMap Ancestry.classes).find? ClassOf.hasConstructor := by
  cases bases with
  | nil => rfl
  | cons a rest =>
    rw [firstConstructor?, List.flatMap_cons, List.find?_append, constructor?_eq_find? a,
      firstConstructor?_eq_find? rest]

end

namespace ClassTable

/-- The ancestry of a class from a visit of it on. -/
def ancestryFrom (t : ClassTable) (v : Visit) : Ancestry :=
  ancestryAmong (t.filter fun c ↦ !v.passed.contains c.name && !c.isSame v.definition) v.definition

theorem ancestryFrom_start (t : ClassTable) (d : ClassDef) :
    t.ancestryFrom ⟨d, []⟩ = t.ancestry d := by
  simp [ancestryFrom, ancestry]

section Ancestries

variable {t : ClassTable} (hkeyed : t.IsKeyed)

include hkeyed

theorem IsKeyed.baseAmong_filter (keep : ClassDef → Bool) (base : Expr) :
    baseAmong (t.filter keep) base = (baseAmong t base).filter keep := by
  unfold baseAmong
  cases base.lastSegment? with
  | none => rfl
  | some name => exact hkeyed.find?_filter keep name

/-- What is left for the ancestry of a base is what the search has not passed. -/
theorem IsKeyed.remaining_eq (v : Visit) {p : ClassDef} (hp : p ∈ t) :
    remaining (t.filter fun c ↦ !v.passed.contains c.name && !c.isSame v.definition)
        v.definition p =
      t.filter fun c ↦ !(v.onward p).passed.contains c.name && !c.isSame p := by
  rw [remaining, List.filter_filter]
  apply List.filter_congr
  intro c hc
  have hsame : c.isSame p = (c.name == p.name) := by
    by_cases hname : c.name = p.name
    · rw [hkeyed.eq_of_name hc hp hname, ClassOf.isSame_self, beq_self_eq_true]
    · simp [ClassOf.isSame, hname]
  rw [hsame]
  by_cases hd : c.name = v.definition.name
  · simp [Visit.onward, hd]
  · have hother : c.isSame v.definition = false := by simp [ClassOf.isSame, hd]
    simp [Visit.onward, hother, bne, beq_false_of_ne hd, hd, Bool.and_comm]

/-- The ancestry of a class consists of the class and the ancestries to which its bases lead on. -/
theorem IsKeyed.ancestryFrom_eq (v : Visit) :
    t.ancestryFrom v =
      .node v.definition ((v.parents t).map fun p ↦ t.ancestryFrom (v.onward p)) := by
  rw [ancestryFrom, ancestryAmong, Visit.parents, List.map_filterMap]
  congr 2
  funext base
  rw [Visit.parent?]
  split
  · rename_i hnone
    rw [hkeyed.baseAmong_filter] at hnone
    rw [hnone]
    rfl
  · rename_i p hp
    rw [hkeyed.baseAmong_filter] at hp
    have hmem := mem_of_baseAmong (Option.filter_eq_some_iff.1 hp).1
    rw [hp, Option.map_some, ancestryFrom, hkeyed.remaining_eq v hmem]
    rfl

theorem IsKeyed.classes_ancestryFrom (v : Visit) :
    (t.ancestryFrom v).classes = v.definition ::
      (v.parents t).flatMap fun p ↦ (t.ancestryFrom (v.onward p)).classes := by
  rw [hkeyed.ancestryFrom_eq, Ancestry.classes_node, List.flatMap_map]

/-- The classes of an ancestry are those that the search visits. -/
theorem IsKeyed.mem_classes_iff (v : Visit) (c : ClassDef) :
    c ∈ (t.ancestryFrom v).classes ↔
      ∃ w, Relation.ReflTransGen (Visit.Step t) v w ∧ w.definition = c := by
  induction v using (Visit.wellFounded_step t).induction with
  | h v ih =>
    rw [hkeyed.classes_ancestryFrom, List.mem_cons]
    constructor
    · rintro (rfl | hc)
      · exact ⟨v, .refl, rfl⟩
      · obtain ⟨p, hp, hc⟩ := List.mem_flatMap.1 hc
        obtain ⟨w, hw, rfl⟩ := (ih _ ⟨p, hp, rfl⟩).1 hc
        exact ⟨w, .head ⟨p, hp, rfl⟩ hw, rfl⟩
    · rintro ⟨w, hw, rfl⟩
      rcases hw.cases_head with rfl | ⟨u, hstep, hw⟩
      · exact .inl rfl
      · have hmem := (ih u hstep).2 ⟨w, hw, rfl⟩
        obtain ⟨p, hp, rfl⟩ := hstep
        exact .inr (List.mem_flatMap.2 ⟨p, hp, hmem⟩)

end Ancestries

/-! ## Enumerations -/

section Enumerations

variable {t : ClassTable}

theorem hasBase_of_step {v w : Visit} (h : v.Step t w) : t.HasBase v.definition w.definition := by
  obtain ⟨p, hp, rfl⟩ := h
  exact (Visit.mem_parents_iff.1 hp).1

/-- A search from a class of the table need not come back to it. -/
theorem reflTransGen_avoiding {passed : List String} {d c : ClassDef}
    (hd : t.get? d.name = some d)
    (h : Relation.ReflTransGen (fun a b ↦ t.HasBase a b ∧ b.name ∉ passed) d c) :
    Relation.ReflTransGen (fun a b ↦ t.HasBase a b ∧ b.name ∉ d.name :: passed) d c := by
  -- A way from any class avoids `d`, or can be cut short behind the last place where it meets `d`.
  suffices hany : ∀ a, Relation.ReflTransGen (fun a b ↦ t.HasBase a b ∧ b.name ∉ passed) a c →
      Relation.ReflTransGen (fun a b ↦ t.HasBase a b ∧ b.name ∉ d.name :: passed) a c ∨
        Relation.ReflTransGen (fun a b ↦ t.HasBase a b ∧ b.name ∉ d.name :: passed) d c from
    (hany d h).elim id id
  intro a ha
  induction ha using Relation.ReflTransGen.head_induction_on with
  | refl => exact .inl .refl
  | @head a b hstep _ ih =>
    rcases ih with hway | hway
    · by_cases hname : b.name = d.name
      · obtain ⟨base, -, hbase⟩ := hstep.1
        have hb := get?_of_baseAmong hbase
        rw [hname, hd, Option.some.injEq] at hb
        exact .inr (hb ▸ hway)
      · exact .inl (.head ⟨hstep.1, by simp [hname, hstep.2]⟩ hway)
    · exact .inr hway

/-- From a class of the table a search visits all that can be reached without what it has passed. -/
theorem exists_visit_of_reflTransGen (v : Visit) {c : ClassDef}
    (hd : t.get? v.definition.name = some v.definition)
    (h : Relation.ReflTransGen (fun a b ↦ t.HasBase a b ∧ b.name ∉ v.passed) v.definition c) :
    ∃ w, Relation.ReflTransGen (Visit.Step t) v w ∧ w.definition = c := by
  induction v using (Visit.wellFounded_step t).induction with
  | h v ih =>
    rcases (reflTransGen_avoiding hd h).cases_head with rfl | ⟨e, ⟨hbase, hname⟩, hway⟩
    · exact ⟨v, .refl, rfl⟩
    · have hother : e.isSame v.definition = false := by
        simp [ClassOf.isSame, List.ne_of_not_mem_cons hname]
      have hparent : e ∈ v.parents t :=
        Visit.mem_parents_iff.2 ⟨hbase, List.not_mem_of_not_mem_cons hname, hother⟩
      have hstep : v.Step t (v.onward e) := ⟨e, hparent, rfl⟩
      obtain ⟨base, -, hamong⟩ := hbase
      obtain ⟨w, hw, hc⟩ := ih (v.onward e) hstep (get?_of_baseAmong hamong) hway
      exact ⟨w, .head hstep hw, hc⟩

/-- An enumeration is a class from which some way over bases leads to an enumeration base. -/
theorem IsKeyed.isEnum_eq_true_iff (hkeyed : t.IsKeyed) (d : ClassDef) : t.isEnum d = true ↔
    ∃ w, Relation.ReflTransGen (Visit.Step t) ⟨d, []⟩ w ∧ w.definition.hasEnumBase = true := by
  rw [isEnum, Ancestry.isEnum_eq_any, ← ancestryFrom_start, List.any_eq_true]
  constructor
  · rintro ⟨c, hc, henum⟩
    obtain ⟨w, hw, rfl⟩ := (hkeyed.mem_classes_iff _ c).1 hc
    exact ⟨w, hw, henum⟩
  · rintro ⟨w, hw, henum⟩
    exact ⟨w.definition, (hkeyed.mem_classes_iff _ _).2 ⟨w, hw, rfl⟩, henum⟩

/-- Whether a class is an enumeration is found by a search that ends, on any hierarchy. It answers
yes if and only if a visited class names an enumeration base; such a class can be reached along
bases. From a class of the table, every such class that can be reached makes it answer yes. -/
theorem isEnum_search (body : List Stmt) (d : ClassDef) :
    (WellFounded fun w v ↦ Visit.Step (ofStatements body) v w) ∧
      ((ofStatements body).isEnum d = true ↔
        ∃ w, Relation.ReflTransGen (Visit.Step (ofStatements body)) ⟨d, []⟩ w ∧
          w.definition.hasEnumBase = true) ∧
      ((ofStatements body).isEnum d = true →
        ∃ c, Relation.ReflTransGen (ofStatements body).HasBase d c ∧ c.hasEnumBase = true) ∧
      ((ofStatements body).get? d.name = some d →
        (∃ c, Relation.ReflTransGen (ofStatements body).HasBase d c ∧ c.hasEnumBase = true) →
          (ofStatements body).isEnum d = true) := by
  have hiff := (isKeyed_ofStatements body).isEnum_eq_true_iff d
  refine ⟨Visit.wellFounded_step _, hiff, ?_, ?_⟩
  · intro h
    obtain ⟨w, hw, henum⟩ := hiff.1 h
    exact ⟨w.definition, hw.lift Visit.definition fun _ _ ↦ hasBase_of_step, henum⟩
  · rintro hd ⟨c, hway, henum⟩
    have hfree : Relation.ReflTransGen
        (fun a b ↦ (ofStatements body).HasBase a b ∧ b.name ∉ ([] : List String)) d c :=
      hway.lift id fun _ _ hbase ↦ ⟨hbase, List.not_mem_nil⟩
    obtain ⟨w, hw, rfl⟩ := exists_visit_of_reflTransGen ⟨d, []⟩ hd hfree
    exact hiff.2 ⟨w, hw, henum⟩

/-- Classes of which two inherit from each other, and one of them also from an enumeration. -/
def circularClasses : ClassTable :=
  [{ span := ⟨1, 1⟩, name := "A", bases := [.name "B"], body := [], decorators := [] },
    { span := ⟨2, 2⟩, name := "B", bases := [.name "A", .attribute (.name "m") "C"], body := [],
      decorators := [] },
    { span := ⟨3, 4⟩, name := "C", bases := [.name "Enum"], decorators := []
      body := [.function
        { span := ⟨4, 4⟩, isAsync := false, name := "__init__", decorators := [], returns := none
          body := []
          params :=
            { Params.none with positional := [⟨"self", none, none⟩, ⟨"x", none, none⟩] } }] }]

theorem isEnum_circularClasses :
    ∃ d, ClassTable.circularClasses.get? "A" = some d ∧
      (ofStatements (ClassTable.circularClasses.map .classDef)).isEnum d = true := by
  refine ⟨_, rfl, ?_⟩
  apply (isEnum_search (ClassTable.circularClasses.map .classDef) _).2.2.2 rfl
  -- The way leads from `A` to `B` by the first base, and on to `C` by the second.
  have hlast : .attribute (.name "m") "C" ∈ [Expr.name "A", .attribute (.name "m") "C"] :=
    List.mem_cons_of_mem _ List.mem_cons_self
  refine ⟨_, .head ⟨_, List.mem_cons_self, rfl⟩ (.head ⟨_, hlast, rfl⟩ .refl), ?_⟩
  rfl

end Enumerations

end ClassTable

end CallCompletion.Source
