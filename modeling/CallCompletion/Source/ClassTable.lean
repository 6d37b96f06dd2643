import CallCompletion.Source.Syntax
import CallCompletion.Table

/-!
# Classes and their ancestors

The class table of a module holds the first class of each name, the less deeply nested ones first.
Bases are looked up in it by the last segment of their path, so that a class has an ancestry inside
the module. Hierarchies in source text can be circular: along a path no class occurs twice, and this
is what makes the ancestry finite.
-/

namespace CallCompletion.Source

/-! ## Collecting classes -/

/-- Levels side by side. -/
def mergeLevels {α : Type} : List (List α) → List (List α) → List (List α)
  | [], ys => ys
  | xs, [] => xs
  | x :: xs, y :: ys => (x ++ y) :: mergeLevels xs ys

mutual

/-- The classes in a statement, by nesting depth. -/
def classLevels : Stmt → List (List ClassDef)
  | .classDef ⟨span, name, bases, body, decorators⟩ =>
    [⟨span, name, bases, body, decorators⟩] :: classLevelsIn body
  | .function ⟨_, _, _, _, body, _, _⟩ => [] :: classLevelsIn body
  | .other _ _ suites => [] :: classLevelsInSuites suites
  | .assign .. => []
  | .annotate .. => []
  | .expression .. => []

def classLevelsIn : List Stmt → List (List ClassDef)
  | [] => []
  | s :: rest => mergeLevels (classLevels s) (classLevelsIn rest)

def classLevelsInSuites : List (Suite Stmt) → List (List ClassDef)
  | [] => []
  | ⟨deeper, body⟩ :: rest =>
    let here := classLevelsIn body
    mergeLevels (if deeper then [] :: here else here) (classLevelsInSuites rest)

end

abbrev ClassTable := List ClassDef

def ClassTable.ofStatements (body : List Stmt) : ClassTable :=
  firstOfEach (·.name) (classLevelsIn body).flatten

def ClassTable.get? (t : ClassTable) (name : String) : Option ClassDef := t.find? (·.name == name)

/-! ## Ancestry -/

/-- Two class definitions of one module are the same if they bear the same name and start on the
same line. -/
def ClassOf.isSame (a b : ClassDef) : Bool := a.name == b.name && a.span.first == b.span.first

/-- A class with the ancestries of its bases. -/
inductive Ancestry where
  | node (definition : ClassDef) (bases : List Ancestry)

def baseAmong (candidates : List ClassDef) (base : Expr) : Option ClassDef :=
  base.lastSegment?.bind fun name ↦ candidates.find? (·.name == name)

theorem mem_of_baseAmong {candidates : List ClassDef} {base : Expr} {c : ClassDef}
    (h : baseAmong candidates base = some c) : c ∈ candidates := by
  unfold baseAmong at h
  obtain ⟨name, _, hname⟩ := Option.bind_eq_some_iff.1 h
  exact List.mem_of_find?_eq_some hname

/-- The candidates left after a class and one of its bases. -/
def remaining (candidates : List ClassDef) (definition base : ClassDef) : List ClassDef :=
  candidates.filter fun c ↦ c.name != definition.name && c.name != base.name

theorem length_remaining_lt {candidates : List ClassDef} (definition : ClassDef) {base : ClassDef}
    (h : base ∈ candidates) :
    (remaining candidates definition base).length < candidates.length := by
  have hnot : ¬ base ∈ remaining candidates definition base := by simp [remaining]
  have hle := List.length_filter_le
    (fun c : ClassDef ↦ c.name != definition.name && c.name != base.name) candidates
  rcases Nat.lt_or_eq_of_le hle with hlt | heq
  · exact hlt
  · exfalso
    apply hnot
    unfold remaining
    rw [List.filter_eq_self.2 (List.length_filter_eq_length_iff.1 heq)]
    exact h

def ancestryAmong (candidates : List ClassDef) (definition : ClassDef) : Ancestry :=
  .node definition (definition.bases.filterMap fun base ↦
    match _h : baseAmong candidates base with
    | none => none
    | some parent => some (ancestryAmong (remaining candidates definition parent) parent))
termination_by candidates.length
decreasing_by exact length_remaining_lt definition (mem_of_baseAmong _h)

/-- The ancestry of a class in a module; a class is not its own ancestor. -/
def ClassTable.ancestry (t : ClassTable) (definition : ClassDef) : Ancestry :=
  ancestryAmong (t.filter (!·.isSame definition)) definition

/-! ## Enumerations -/

/-- The names of the classes that make a class an enumeration. -/
def enumBases : List String := ["Enum", "IntEnum", "StrEnum", "Flag", "IntFlag", "ReprEnum"]

def ClassOf.hasEnumBase (d : ClassDef) : Bool :=
  d.bases.any fun base ↦ base.lastSegment?.any enumBases.contains

mutual

/-- Whether a class or one of its ancestors names an enumeration base. -/
def Ancestry.isEnum : Ancestry → Bool
  | .node d bases => d.hasEnumBase || Ancestry.anyEnum bases

/-- Whether one of several ancestries leads to an enumeration. -/
def Ancestry.anyEnum : List Ancestry → Bool
  | [] => false
  | a :: rest => a.isEnum || Ancestry.anyEnum rest

end

def ClassTable.isEnum (t : ClassTable) (d : ClassDef) : Bool := (t.ancestry d).isEnum

/-- The names that a statement of an enumeration makes members: plain targets that do not start with
an underscore. -/
def membersOfStatement : Stmt → List String
  | .assign _ targets _ => targets.filterMap memberName?
  | .annotate _ target _ (some _) => (memberName? target).toList
  | _ => []
where
  /-- The member that a target makes. -/
  memberName? : Expr → Option String
    | .name id => if id.toList.head? = some '_' then none else some id
    | _ => none

def ClassOf.enumMembers (d : ClassDef) : List String := d.body.flatMap membersOfStatement

end CallCompletion.Source
