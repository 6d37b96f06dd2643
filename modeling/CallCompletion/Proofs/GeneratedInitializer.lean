import CallCompletion.Proofs.FirstConstructor
import CallCompletion.Proofs.RequiredParameters
import CallCompletion.Proofs.TableEntries
import Mathlib.Data.List.Induction

/-!
# Generated initializers

The initializer of a class with generated constructor takes the fields that the class and its bases
declare. Along a chain of classes with one base each, a field stands at the place of its first
declaration and is what its last declaration says. Two rules of such hierarchies are not followed:
a class without the decorator cuts off the fields of the classes above it, and a name that is
declared again as no parameter of the initializer stays one. Where neither occurs, the fields are
those of the rules.
-/

namespace CallCompletion

namespace Source

/-! ## Declarations -/

theorem lookup_filter {α : Type} {p : String × α → Bool} {l : List (String × α)} {name : String}
    (h : ∀ e ∈ l, e.1 = name → p e = true) : (l.filter p).lookup name = l.lookup name := by
  induction l with
  | nil => rfl
  | cons e rest ih =>
    obtain ⟨hfirst, hrest⟩ := List.forall_mem_cons.1 h
    by_cases hkeep : p e = true
    · rw [List.filter_cons_of_pos hkeep, List.lookup_cons, List.lookup_cons, ih hrest]
    · have hne : (name == e.1) = false := beq_false_of_ne fun heq ↦ hkeep (hfirst heq.symm)
      rw [List.filter_cons_of_neg hkeep, List.lookup_cons, hne, ih hrest]

/-- What the annotated names of a class body declare: a parameter of the generated initializer, or
none. After a marker all parameters are given by keyword, unless they say otherwise. -/
def declarationsIn (keywordOnly : Bool) : List Stmt → List (String × Option Field)
  | [] => []
  | .annotate _ (.name id) typeHint value :: rest =>
    if markerName? typeHint = some "KW_ONLY" then declarationsIn true rest
    else
      let isParameter := markerName? typeHint ≠ some "ClassVar" ∧
        value.bind (keywordFlag "field" "init") ≠ some false
      let flag := (value.bind (keywordFlag "field" "kw_only")).getD keywordOnly
      (id, if isParameter then some ⟨typeHint, value, flag⟩ else none) ::
        declarationsIn keywordOnly rest
  | _ :: rest => declarationsIn keywordOnly rest

/-- The declarations of a class. -/
def ClassOf.declarations (d : ClassDef) : List (String × Option Field) :=
  declarationsIn d.startsKeywordOnly d.body

/-- The fields of a hierarchy whose declarations are given from the top down: each name at the place
of its first declaration, and as its last declaration has it. -/
def declaredFields (declarations : List (String × Option Field)) : Table Field :=
  .ofNames (firstOfEach id (declarations.map Prod.fst)) fun name ↦
    (declarations.reverse.lookup name).join

/-- The declarations of parameters. -/
def parametersAmong (declarations : List (String × Option Field)) : List (String × Option Field) :=
  declarations.filter (·.2.isSome)

/-- Whether a name is declared as a parameter. -/
def isParameter (declarations : List (String × Option Field)) (name : String) : Bool :=
  declarations.any fun e ↦ e.1 == name && e.2.isSome

/-- No name is declared both as a parameter and as none. -/
def DeclaresOneWay (declarations : List (String × Option Field)) : Prop :=
  ∀ e ∈ declarations, e.2 = none → isParameter declarations e.1 = false

instance (declarations : List (String × Option Field)) : Decidable (DeclaresOneWay declarations) :=
  inferInstanceAs (Decidable (∀ e ∈ declarations, e.2 = none → _))

/-- The fields that declarations enter into a table. -/
def entriesAmong (declarations : List (String × Option Field)) : List (String × Field) :=
  declarations.filterMap fun e ↦ e.2.map (e.1, ·)

theorem entriesAmong_append (declarations more : List (String × Option Field)) :
    entriesAmong (declarations ++ more) = entriesAmong declarations ++ entriesAmong more :=
  List.filterMap_append

/-- The fields of a body are laid over those already there. -/
theorem enterFields_eq_update (keywordOnly : Bool) (fields : Table Field) (body : List Stmt) :
    enterFields keywordOnly fields body =
      fields.update (entriesAmong (declarationsIn keywordOnly body)) := by
  fun_induction enterFields keywordOnly fields body with
  | case1 => rfl
  | case2 => simp_all [declarationsIn, entriesAmong]
  | case3 => simp_all [declarationsIn, entriesAmong]
  | case4 => simp_all [declarationsIn, entriesAmong]
  | case5 _ _ _ _ _ _ _ hclass hmarker hinit flag ih =>
    simp_all [declarationsIn, entriesAmong, Table.update, flag]
  | case6 => simp_all [declarationsIn, entriesAmong]

theorem map_entriesAmong (declarations : List (String × Option Field)) :
    (entriesAmong declarations).map (fun e ↦ (e.1, some e.2)) = parametersAmong declarations := by
  rw [entriesAmong, parametersAmong, List.map_filterMap, ← List.filterMap_eq_filter]
  apply List.filterMap_congr
  rintro ⟨name, declared⟩ -
  cases declared <;> rfl

theorem ofEntries_entriesAmong (declarations : List (String × Option Field)) :
    Table.ofEntries (entriesAmong declarations) =
      declaredFields (parametersAmong declarations) := by
  rw [Table.ofEntries_eq_ofNames, declaredFields, ← map_entriesAmong, List.map_map]
  congr 1
  funext name
  rw [← List.map_reverse, lookup_map_snd]
  cases (entriesAmong declarations).reverse.lookup name <;> rfl

theorem map_fst_parametersAmong {declarations : List (String × Option Field)}
    (h : DeclaresOneWay declarations) :
    (parametersAmong declarations).map Prod.fst =
      (declarations.map Prod.fst).filter (isParameter declarations) := by
  rw [List.filter_map, parametersAmong]
  congr 1
  apply List.filter_congr
  intro e he
  cases hdeclared : e.2 with
  | none => exact (h e he hdeclared).symm
  | some field =>
    have hparameter : isParameter declarations e.1 = true :=
      List.any_eq_true.2 ⟨e, he, by simp [hdeclared]⟩
    exact hparameter.symm

theorem join_lookup_of_not_isParameter {declarations : List (String × Option Field)} {name : String}
    (h : isParameter declarations name = false) :
    (declarations.reverse.lookup name).join = none := by
  rw [Option.eq_none_iff_forall_ne_some]
  intro field hfield
  have hmem : (name, some field) ∈ declarations.reverse :=
    Table.mem_of_get? (Option.join_eq_some_iff.1 hfield)
  have hnot := List.any_eq_false.1 h _ (List.mem_reverse.1 hmem)
  simp at hnot

/-- Where no name is declared both ways, leaving out what is no parameter does not matter. -/
theorem declaredFields_parametersAmong {declarations : List (String × Option Field)}
    (h : DeclaresOneWay declarations) :
    declaredFields (parametersAmong declarations) = declaredFields declarations := by
  rw [declaredFields, map_fst_parametersAmong h, firstOfEach_id_filter, Table.ofNames,
    List.filterMap_filter]
  apply List.filterMap_congr
  intro name _
  cases hname : isParameter declarations name with
  | false => simp [join_lookup_of_not_isParameter hname]
  | true =>
    have hkept : (parametersAmong declarations).reverse.lookup name =
        declarations.reverse.lookup name := by
      rw [parametersAmong, ← List.filter_reverse]
      apply lookup_filter
      intro e he heq
      rw [Option.isSome_iff_ne_none]
      intro hnone
      have hother := h e (List.mem_reverse.1 he) hnone
      rw [heq, hname] at hother
      cases hother
    rw [if_pos rfl, hkept]

/-! ## Chains of classes -/

namespace ClassTable

/-- A class, its only base in the table, the only base of that one, and so on up to a class without
base in the table. -/
inductive InheritsAlong (t : ClassTable) : List ClassDef → Prop
  | root {d : ClassDef} (h : d.bases.filterMap (baseAmong t) = []) : InheritsAlong t [d]
  | derived {d p : ClassDef} {rest : List ClassDef} (h : d.bases.filterMap (baseAmong t) = [p])
      (hrest : InheritsAlong t (p :: rest)) : InheritsAlong t (d :: p :: rest)

namespace InheritsAlong

variable {t : ClassTable} {d : ClassDef} {rest : List ClassDef}

theorem eq_of_head {other : List ClassDef} (h : t.InheritsAlong (d :: rest))
    (h' : t.InheritsAlong (d :: other)) : rest = other := by
  induction rest generalizing d other with
  | nil =>
    cases h with
    | root hbases =>
      cases h' with
      | root => rfl
      | derived hbases' => rw [hbases] at hbases'; cases hbases'
  | cons p rest ih =>
    cases h with
    | derived hbases hrest =>
      cases h' with
      | root hbases' => rw [hbases] at hbases'; cases hbases'
      | derived hbases' hrest' =>
        rw [hbases] at hbases'
        cases hbases'
        rw [ih hrest hrest']

theorem of_append (before : List ClassDef) (h : t.InheritsAlong (before ++ d :: rest)) :
    t.InheritsAlong (d :: rest) := by
  induction before with
  | nil => exact h
  | cons b before ih =>
    apply ih
    cases before with
    | nil => cases h with | derived _ hrest => exact hrest
    | cons b' before => cases h with | derived _ hrest => exact hrest

/-- No class is its own ancestor, since the chain ends. -/
theorem head_not_mem (h : t.InheritsAlong (d :: rest)) : d ∉ rest := by
  intro hmem
  obtain ⟨before, after, rfl⟩ := List.append_of_mem hmem
  have hafter : t.InheritsAlong (d :: after) := of_append (d :: before) h
  have hlength := congrArg List.length (eq_of_head h hafter)
  simp only [List.length_append, List.length_cons] at hlength
  omega

theorem get?_of_mem (h : t.InheritsAlong (d :: rest)) {c : ClassDef} (hc : c ∈ rest) :
    t.get? c.name = some c := by
  induction rest generalizing d with
  | nil => cases hc
  | cons p rest ih =>
    cases h with
    | derived hbases hrest =>
      rcases List.mem_cons.1 hc with rfl | hc
      · have hbase : c ∈ d.bases.filterMap (baseAmong t) := by simp [hbases]
        obtain ⟨base, -, hbase⟩ := List.mem_filterMap.1 hbase
        exact get?_of_baseAmong hbase
      · exact ih hrest hc

theorem filterMap_baseAmong (h : t.InheritsAlong (d :: rest)) :
    d.bases.filterMap (baseAmong t) = rest.head?.toList := by
  cases h with
  | root hbases => exact hbases
  | derived hbases => exact hbases

/-- A search along a chain goes from each class to its base. -/
theorem parents_eq {v : Visit} (h : t.InheritsAlong (v.definition :: rest))
    (hnew : ∀ c ∈ rest, c.name ∉ v.definition.name :: v.passed) :
    v.parents t = rest.head?.toList := by
  have hall : v.parents t = (v.definition.bases.filterMap (baseAmong t)).filter
      fun p ↦ !v.passed.contains p.name && !p.isSame v.definition :=
    (List.filter_filterMap ..).symm
  rw [hall, h.filterMap_baseAmong, List.filter_eq_self]
  intro p hp
  have hname := hnew p (List.mem_of_mem_head? (Option.mem_toList.1 hp))
  have hother : p.isSame v.definition = false := by
    simp [ClassOf.isSame, List.ne_of_not_mem_cons hname]
  simp [hother, List.not_mem_of_not_mem_cons hname]

/-- The names of a chain are all different. -/
theorem name_ne_of_mem (h : t.InheritsAlong (d :: rest)) (hd : t.get? d.name = some d)
    {c : ClassDef} (hc : c ∈ rest) : c.name ≠ d.name := by
  intro hname
  have hget := h.get?_of_mem hc
  rw [hname, hd, Option.some.injEq] at hget
  exact h.head_not_mem (hget ▸ hc)

end InheritsAlong

end ClassTable

/-! ## Fields along a chain -/

theorem Ancestry.inheritedFields_singleton {a : Ancestry} {d : ClassDef} {bases : List Ancestry}
    (h : a = .node d bases) :
    Ancestry.inheritedFields [a] = if d.isDataclass then Table.ofEntries a.fields else [] := by
  subst h
  rfl

/-- The declarations of a class and of the decorated classes right above it, from the top down. -/
def declarationsAlong (d : ClassDef) (above : List ClassDef) : List (String × Option Field) :=
  (d :: above.takeWhile ClassOf.isDataclass).reverse.flatMap ClassOf.declarations

theorem declarationsAlong_cons (d p : ClassDef) (above : List ClassDef) :
    declarationsAlong d (p :: above) =
      (if p.isDataclass then declarationsAlong p above else []) ++ d.declarations := by
  cases hp : p.isDataclass <;> simp [declarationsAlong, hp]

theorem ClassTable.IsKeyed.fields_ancestryFrom {t : ClassTable} (hkeyed : t.IsKeyed) {v : Visit}
    {above : List ClassDef} (h : t.InheritsAlong (v.definition :: above))
    (hd : t.get? v.definition.name = some v.definition) (hnew : ∀ c ∈ above, c.name ∉ v.passed) :
    (t.ancestryFrom v).fields =
      Table.ofEntries (entriesAmong (declarationsAlong v.definition above)) := by
  induction above generalizing v with
  | nil =>
    rw [hkeyed.ancestryFrom_eq, h.parents_eq (by simp), Ancestry.fields, enterFields_eq_update]
    simp [declarationsAlong, Ancestry.inheritedFields, Table.ofEntries, ClassOf.declarations]
  | cons p above ih =>
    have hnames : ∀ c ∈ p :: above, c.name ∉ v.definition.name :: v.passed := by
      intro c hc
      exact List.not_mem_cons_of_ne_of_not_mem (h.name_ne_of_mem hd hc) (hnew c hc)
    have hp := h.get?_of_mem List.mem_cons_self
    have hrest : t.InheritsAlong (p :: above) := .of_append [v.definition] h
    have hfields := ih (v := v.onward p) hrest hp fun c hc ↦ hnames c (List.mem_cons_of_mem p hc)
    have hnodup : (t.ancestryFrom (v.onward p)).fields.names.Nodup := by
      rw [hfields, Table.names_ofEntries]
      exact nodup_firstOfEach_id _
    rw [hkeyed.ancestryFrom_eq, h.parents_eq hnames, Ancestry.fields, List.head?_cons,
      Option.toList_some, List.map_singleton,
      Ancestry.inheritedFields_singleton (hkeyed.ancestryFrom_eq (v.onward p)),
      enterFields_eq_update, Table.ofEntries_eq_self hnodup, hfields, declarationsAlong_cons,
      entriesAmong_append, ← Table.update_ofEntries]
    cases hdecorated : p.isDataclass <;> simp [Visit.onward, hdecorated] <;> rfl

/-- The fields of a class at the end of a chain. -/
theorem ClassTable.IsKeyed.fields_ancestry {t : ClassTable} (hkeyed : t.IsKeyed) {d : ClassDef}
    {above : List ClassDef} (h : t.InheritsAlong (d :: above)) (hd : t.get? d.name = some d) :
    (t.ancestry d).fields = declaredFields (parametersAmong (declarationsAlong d above)) := by
  rw [← ancestryFrom_start, ← ofEntries_entriesAmong]
  exact hkeyed.fields_ancestryFrom (v := ⟨d, []⟩) h hd fun _ _ ↦ List.not_mem_nil

theorem filter_eq_takeWhile {α : Type} {p : α → Bool} {l : List α}
    (h : l.Pairwise fun a b ↦ p b = true → p a = true) : l.filter p = l.takeWhile p := by
  induction l with
  | nil => rfl
  | cons a rest ih =>
    obtain ⟨hfirst, hrest⟩ := List.pairwise_cons.1 h
    by_cases ha : p a = true
    · rw [List.filter_cons_of_pos ha, List.takeWhile_cons_of_pos ha, ih hrest]
    · have hnone : rest.filter p = [] :=
        List.filter_eq_nil_iff.2 fun b hb hpb ↦ ha (hfirst b hb hpb)
      rw [List.filter_cons_of_neg ha, List.takeWhile_cons_of_neg ha, hnone]

/-! ## Signatures -/

/-- The signature of an initializer for fields: their parameters, those given by keyword last, of
which the leading ones without default value have to be given. -/
structure Initializes [CharacterNames] (t : ClassTable) (d : ClassDef) (fields : Table Field)
    (s : Signature) :
    Prop where
  parameters : List.Forall₂
    (fun e p ↦ p.name = e.1 ∧ classify t e.2.typeHint = .ok p.type ∧
      p.documentation = ((parameterDocs (documentationOf d.body)).get? e.1).getD "")
    (fields.filter (!·.2.keywordOnly) ++ fields.filter (·.2.keywordOnly)) s.parameters
  minArguments : s.minArguments =
    ((fields.filter (!·.2.keywordOnly)).takeWhile (!·.2.hasDefault)).length
  returnType : s.returnType = .other d.name

/-- A generated signature has one parameter for each field of the initializer. -/
theorem initializes_of_dataclassSignature [CharacterNames] {t : ClassTable} {d : ClassDef}
    {s : Signature}
    (h : dataclassSignature t d = .ok s) : Initializes t d (t.ancestry d).fields s := by
  obtain ⟨shown, hshown, h⟩ := Fault.bind_eq_ok_iff.1 h
  cases h
  have htable : shown.map (fun q ↦ (q.1.name, q.2)) = (t.ancestry d).fields.map id := by
    apply Fault.map_eq_of_mapM hshown
    rintro ⟨name, f⟩ q hq
    obtain ⟨type, -, hq⟩ := Fault.bind_eq_ok_iff.1 hq
    cases hq
    rfl
  have hclass : ∀ q ∈ shown, classify t q.2.typeHint = .ok q.1.type ∧
      q.1.documentation = ((parameterDocs (documentationOf d.body)).get? q.1.name).getD "" := by
    intro q hq
    obtain ⟨⟨name, f⟩, -, hfield⟩ := Fault.exists_of_mem_mapM hshown hq
    obtain ⟨type, htype, hfield⟩ := Fault.bind_eq_ok_iff.1 hfield
    cases hfield
    exact ⟨htype, rfl⟩
  rw [List.map_id] at htable
  constructor
  · rw [← htable, List.filter_map, List.filter_map, ← List.map_append,
      List.forall₂_map_left_iff, List.forall₂_map_right_iff]
    apply List.forall₂_same.2
    intro q hq
    have hmem : q ∈ shown := by
      rcases List.mem_append.1 hq with hq | hq <;> exact (List.mem_filter.1 hq).1
    exact ⟨rfl, hclass q hmem⟩
  · rw [← htable, List.filter_map, List.takeWhile_map, List.length_map]
    rfl
  · rfl

/-- How the generated initializer of a class at the end of a chain is called. Its parameters are
the fields that the class and the decorated classes right above it declare as parameters, and it has
a signature if and only if each of them has a class. If no decorated class stands above an
undecorated one and no name is declared both as a parameter and as none, these are the fields of all
decorated classes of the chain. -/
theorem SourceModule.initializer_along_chain [CharacterNames] (body : List Stmt) {s : Symbol}
    {d : ClassDef}
    {above : List ClassDef} (hs : s.site = some (.classDef d))
    (hd : (ofStatements body).classes.get? d.name = some d)
    (hchain : (ofStatements body).classes.InheritsAlong (d :: above))
    (hdataclass : d.isDataclass = true) (hinit : d.dataclassFlag "init" ≠ some false)
    (hnone : d.initializers = []) :
    (∀ shown, (ofStatements body).signatures s = .ok shown →
      ∃ made, shown = [made] ∧ Initializes (ofStatements body).classes d
        (declaredFields (parametersAmong (declarationsAlong d above))) made) ∧
    ((∃ shown, (ofStatements body).signatures s = .ok shown) ↔
      ∀ e ∈ declaredFields (parametersAmong (declarationsAlong d above)),
        ∃ type, classify (ofStatements body).classes e.2.typeHint = .ok type) ∧
    (above.Pairwise (fun lower upper ↦ upper.isDataclass = true → lower.isDataclass = true) →
      DeclaresOneWay (((d :: above).filter ClassOf.isDataclass).reverse.flatMap
        ClassOf.declarations) →
      declaredFields (parametersAmong (declarationsAlong d above)) =
        declaredFields (((d :: above).filter ClassOf.isDataclass).reverse.flatMap
          ClassOf.declarations)) := by
  have hkeyed := ClassTable.isKeyed_ofStatements body
  have hfields : ((ofStatements body).classes.ancestry d).fields =
      declaredFields (parametersAmong (declarationsAlong d above)) :=
    hkeyed.fields_ancestry hchain hd
  have howner : ((ofStatements body).classes.ancestry d).constructor? = some d := by
    rw [ClassTable.ancestry, ancestryAmong, Ancestry.constructor?, if_pos]
    simp [ClassOf.hasConstructor, hdataclass, hinit]
  refine ⟨?_, ?_, ?_⟩
  · intro shown hshown
    simp only [signatures, hs, constructorSignatures, howner, ownConstructorSignatures, hnone,
      List.getLast?_nil] at hshown
    obtain ⟨made, hmade, hshown⟩ := Fault.bind_eq_ok_iff.1 hshown
    cases hshown
    exact ⟨made, rfl, hfields ▸ initializes_of_dataclassSignature hmade⟩
  · have hhints : (ofStatements body).hints s =
        (declaredFields (parametersAmong (declarationsAlong d above))).map (·.2.typeHint) := by
      simp only [hints, hs, constructorHints, howner, hnone, List.getLast?_nil, hfields]
    rw [exists_signatures_iff, hhints, List.forall_mem_map]
  · intro hdecorated honeway
    have hrun : (d :: above).filter ClassOf.isDataclass =
        d :: above.takeWhile ClassOf.isDataclass := by
      rw [List.filter_cons_of_pos hdataclass, filter_eq_takeWhile hdecorated]
    rw [hrun] at honeway ⊢
    exact declaredFields_parametersAmong honeway

/-- A class on one line that annotates names. -/
def recordClass (line : Nat) (name : String) (bases : List String) (decorated : Bool)
    (hints : List (String × String)) : ClassDef :=
  { span := ⟨line, line⟩
    name
    bases := bases.map .name
    body := hints.map fun (id, hint) ↦ .annotate ⟨line, line⟩ (.name id) (.name hint) none
    decorators := if decorated then [.name "dataclass"] else [] }

/-- Two decorated classes, of which the second declares a name of the first again. -/
def layeredRecords : ClassTable :=
  [recordClass 1 "A" [] true [("x", "int"), ("_", "KW_ONLY"), ("y", "str")],
    recordClass 2 "B" ["A"] true [("z", "int"), ("x", "float")]]

theorem SourceModule.initializer_layeredRecords :
    ∃ d above made, layeredRecords.get? "B" = some d ∧ layeredRecords.InheritsAlong (d :: above) ∧
      made.parameters.map (·.name) = ["x", "z", "y"] ∧ made.minArguments = 2 ∧
      (ofStatements (layeredRecords.map .classDef)).signatures
          { name := "B", kind := .classType, site := some (.classDef d) } = .ok [made] ∧
      Initializes layeredRecords d (declaredFields (((d :: above).filter
        ClassOf.isDataclass).reverse.flatMap ClassOf.declarations)) made := by
  have hchain : layeredRecords.InheritsAlong layeredRecords.reverse := .derived rfl (.root rfl)
  obtain ⟨hshown, -, hrules⟩ := initializer_along_chain (layeredRecords.map .classDef)
    (s := { name := "B", kind := .classType, site := layeredRecords.getLast?.map .classDef })
    rfl rfl hchain rfl (by decide) (by decide)
  have hok : (ofStatements (layeredRecords.map .classDef)).signatures
      { name := "B", kind := .classType, site := layeredRecords.getLast?.map .classDef } =
        .ok [{
          parameters := [
            { name := "x", type := .primitive .number }, { name := "z", type := .primitive .number },
            { name := "y", type := .primitive .string }]
          minArguments := 2
          returnType := .other "B" }] := by decide +kernel
  obtain ⟨made, hmade, hinitializes⟩ := hshown _ hok
  cases hmade
  rw [hrules (by decide) (by decide)] at hinitializes
  exact ⟨_, _, _, rfl, hchain, rfl, rfl, hok, hinitializes⟩

/-- The classes of a module have initializers for the fields of all decorated classes along their
bases. -/
def GeneratesByRules [CharacterNames] (body : List Stmt) : Prop :=
  ∀ (s : Symbol) (d : ClassDef) (above : List ClassDef), s.site = some (.classDef d) →
    (SourceModule.ofStatements body).classes.get? d.name = some d →
    (SourceModule.ofStatements body).classes.InheritsAlong (d :: above) → d.isDataclass = true →
    d.dataclassFlag "init" ≠ some false → d.initializers = [] →
    ∃ made, (SourceModule.ofStatements body).signatures s = .ok [made] ∧
      Initializes (SourceModule.ofStatements body).classes d (declaredFields
        (((d :: above).filter ClassOf.isDataclass).reverse.flatMap ClassOf.declarations)) made

/-- An undecorated class between decorated ones. -/
def undecoratedMiddle : ClassTable :=
  [recordClass 1 "A" [] true [("x", "int")], recordClass 2 "B" ["A"] false [],
    recordClass 3 "C" ["B"] true [("y", "int")]]

/-- A parameter that is declared again as none. -/
def withdrawnField : ClassTable :=
  [recordClass 1 "A" [] true [("x", "int")], recordClass 2 "B" ["A"] true [("x", "ClassVar")]]

theorem not_generatesByRules :
    ¬ GeneratesByRules (undecoratedMiddle.map .classDef) ∧
      ¬ GeneratesByRules (withdrawnField.map .classDef) := by
  constructor
  · -- The field of the first class is missing.
    intro h
    obtain ⟨made, hmade, hrules⟩ := h
      { name := "C", kind := .classType, site := undecoratedMiddle.getLast?.map .classDef } _ _ rfl
      rfl (.derived rfl (.derived rfl (.root rfl))) rfl (by decide) (by decide)
    have hok : (SourceModule.ofStatements (undecoratedMiddle.map .classDef)).signatures
        { name := "C", kind := .classType, site := undecoratedMiddle.getLast?.map .classDef } =
          .ok [{
            parameters := [{ name := "y", type := .primitive .number }]
            minArguments := 1
            returnType := .other "C" }] := by decide +kernel
    rw [hok] at hmade
    cases hmade
    exact absurd hrules.parameters.length_eq (by decide)
  · -- The name that is withdrawn is still a parameter.
    intro h
    obtain ⟨made, hmade, hrules⟩ := h
      { name := "B", kind := .classType, site := withdrawnField.getLast?.map .classDef } _ _ rfl
      rfl (.derived rfl (.root rfl)) rfl (by decide) (by decide)
    have hok : (SourceModule.ofStatements (withdrawnField.map .classDef)).signatures
        { name := "B", kind := .classType, site := withdrawnField.getLast?.map .classDef } =
          .ok [{
            parameters := [{ name := "x", type := .primitive .number }]
            minArguments := 1
            returnType := .other "B" }] := by decide +kernel
    rw [hok] at hmade
    cases hmade
    exact absurd hrules.parameters.length_eq (by decide)

end Source

end CallCompletion
