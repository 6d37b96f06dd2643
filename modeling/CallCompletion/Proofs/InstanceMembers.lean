import CallCompletion.Proofs.LexicalScopes
import CallCompletion.Text.Identifier
import Mathlib.Data.List.Basic

/-!
# Members of instances

A variable that is annotated with a class, or assigned from a call of it, offers the members of the
class. The class of a variable is looked up in the class table, where the first class of a name
stays; the class of a name itself is the last one that is bound to it. For a name that class
statements alone bind in a module, the variable has the members of the first of these classes and
the name those of the last one, so that the two agree where the class is declared once.
-/

namespace CallCompletion.Source

open CallCompletion.Text

/-! ## The class table of a module -/

/-- The class that a binding defines. -/
def Binding.classDef? : Binding → Option ClassDef
  | .classDef d => some d
  | _ => none

/-- The class that a statement defines, if it does. -/
def Stmt.ownClass : Stmt → List ClassDef
  | .classDef d => [d]
  | _ => []

theorem headD_mergeLevels {α : Type} (xs ys : List (List α)) :
    (mergeLevels xs ys).headD [] = xs.headD [] ++ ys.headD [] := by
  fun_cases mergeLevels xs ys <;> simp

/-- The outermost classes of a statement are its own. -/
theorem headD_classLevels (s : Stmt) : (classLevels s).headD [] = s.ownClass := by
  cases s <;> simp [classLevels, Stmt.ownClass]

/-- The outermost level of a body holds the classes that stand directly in it, in their order. -/
theorem headD_classLevelsIn (body : List Stmt) :
    (classLevelsIn body).headD [] = body.flatMap Stmt.ownClass := by
  induction body with
  | nil => simp [classLevelsIn]
  | cons s rest ih =>
    rw [classLevelsIn, headD_mergeLevels, headD_classLevels, ih, List.flatMap_cons]

/-- A class that stands directly in the module comes before all nested ones of its name. -/
theorem get?_ofStatements (body : List Stmt) (name : String) :
    (ClassTable.ofStatements body).get? name =
      ((body.flatMap Stmt.ownClass).find? (·.name == name)).or
        ((classLevelsIn body).tail.flatten.find? (·.name == name)) := by
  have hlevels : (classLevelsIn body).flatten =
      body.flatMap Stmt.ownClass ++ (classLevelsIn body).tail.flatten := by
    rw [← headD_classLevelsIn]
    cases classLevelsIn body <;> rfl
  rw [ClassTable.get?, ClassTable.ofStatements, find?_firstOfEach, hlevels, List.find?_append]

/-- Only a class statement binds a name to a class. -/
theorem classDef?_of_mem_bindings {s : Stmt} (hs : s.ownClass = []) {entry : String × Binding}
    (h : entry ∈ s.bindings) : entry.2.classDef? = none := by
  cases s with
  | function d =>
    rw [List.mem_singleton.1 h]
    rfl
  | classDef d => cases hs
  | assign span targets value =>
    obtain ⟨target, -, htarget⟩ := List.mem_filterMap.1 h
    obtain ⟨id, -, rfl⟩ := Option.map_eq_some_iff.1 htarget
    rfl
  | annotate span target typeHint value =>
    obtain ⟨id, -, rfl⟩ := Option.map_eq_some_iff.1 (Option.mem_toList.1 h)
    rfl
  | expression => cases h
  | other => cases h

theorem filterMap_classDef?_bindings (s : Stmt) (name : String) :
    ((s.bindings.filter (·.1 == name)).map Prod.snd).filterMap Binding.classDef? =
      s.ownClass.filter (·.name == name) := by
  by_cases hs : s.ownClass = []
  · rw [hs, List.filter_nil, List.filterMap_eq_nil_iff]
    intro b hb
    obtain ⟨entry, hentry, rfl⟩ := List.mem_map.1 hb
    exact classDef?_of_mem_bindings hs (List.mem_filter.1 hentry).1
  · cases s with
    | classDef d =>
      cases hname : d.name == name <;>
        simp [Stmt.bindings, Stmt.ownClass, hname, Binding.classDef?]
    | _ => exact absurd rfl hs

/-- The classes that a module binds to a name are those of this name directly in it. -/
theorem filterMap_classDef?_bindingsOf (body : List Stmt) (name : String) :
    ((Scope.module body).bindingsOf name).filterMap Binding.classDef? =
      (body.flatMap Stmt.ownClass).filter (·.name == name) := by
  induction body with
  | nil => rfl
  | cons s rest ih =>
    have hcons : (Scope.module (s :: rest)).bindingsOf name =
        (s.bindings.filter (·.1 == name)).map Prod.snd ++ (Scope.module rest).bindingsOf name := by
      simp [Scope.bindingsOf, Scope.bindings, Scope.parameterBindings, Scope.body]
    rw [hcons, List.filterMap_append, ih, filterMap_classDef?_bindings, List.flatMap_cons,
      List.filter_append]

/-- The table has the first one of the classes to which a module binds a name. -/
theorem get?_ofStatements_of_bindingsOf {body : List Stmt} {name : String}
    {classes : List ClassDef} (h : (Scope.module body).bindingsOf name = classes.map .classDef)
    {first : ClassDef} (hfirst : classes.head? = some first) :
    (ClassTable.ofStatements body).get? name = some first := by
  have hclasses : (body.flatMap Stmt.ownClass).filter (·.name == name) = classes := by
    rw [← filterMap_classDef?_bindingsOf, h, List.filterMap_map]
    exact List.filterMap_some
  rw [get?_ofStatements, ← List.head?_filter, hclasses, hfirst, Option.some_or]

/-! ## Names of classes -/

/-- A name, or a dotted path that ends in it. -/
inductive Expr.IsPathTo (name : String) : Expr → Prop
  | plain : IsPathTo name (.name name)
  | dotted {value : Expr} {path : List String} (h : value.dotted? = some path) :
    IsPathTo name (.attribute value name)

/-- A text that is a name, or ends in one after a dot, with blanks around it. -/
def QuotesPathTo (name text : String) : Prop :=
  ∃ before left right : List Char, text.toList = before ++ (left ++ name.toList ++ right) ∧
    (before = [] ∨ before.getLast? = some '.') ∧ isBlankLine left = true ∧ isBlankLine right = true

/-- A binding to a value that is annotated with a class, plainly or in quotes, or is the result of a
call of it. -/
inductive Binding.HoldsInstanceOf (name : String) : Binding → Prop
  | annotated {typeHint : Expr} (h : typeHint.IsPathTo name) (value : Option Expr) :
    HoldsInstanceOf name (.annotated typeHint value)
  | quoted {text : String} (h : QuotesPathTo name text) (marked : Bool) (value : Option Expr) :
    HoldsInstanceOf name (.annotated (.constant (.text text marked)) value)
  | constructed {func : Expr} (h : func.IsPathTo name) (args : List Expr)
      (keywords : List (Keyword Expr)) :
    HoldsInstanceOf name (.assignment (.call func args keywords))

theorem Expr.IsPathTo.lastSegment? {name : String} {e : Expr} (h : e.IsPathTo name) :
    e.lastSegment? = some name := by
  cases h with
  | plain => rfl
  | dotted h => simp [Expr.lastSegment?, h]

section Identifiers

variable {name : String} (hname : isIdentifier name.toList = true)
include hname

theorem ne_empty_of_isIdentifier : name ≠ "" := by
  rintro rfl
  cases hname

theorem dot_not_mem_of_isIdentifier : '.' ∉ name.toList :=
  not_mem_of_isIdentifier hname (by decide) (by decide)

theorem trim_of_isIdentifier : trim name.toList = name.toList :=
  trim_of_not_blank fun _ hc ↦ isBlank_of_mem_identifier hname hc

theorem lastSegmentOf_of_quotesPathTo {text : String} (h : QuotesPathTo name text) :
    SourceModule.lastSegmentOf text = name := by
  obtain ⟨before, left, right, htext, hbefore, hleft, hright⟩ := h
  have hdot : '.' ∉ left ++ name.toList ++ right := by
    have hblank (blanks : List Char) (h : isBlankLine blanks = true) : '.' ∉ blanks := by
      intro hmem
      exact absurd (List.all_eq_true.1 h '.' hmem) (by decide)
    simp [hblank left hleft, hblank right hright, dot_not_mem_of_isIdentifier hname]
  have hlast : (splitAtChar '.' text.toList).getLast? = some (left ++ name.toList ++ right) := by
    rcases hbefore with rfl | hbefore
    · rw [htext, List.nil_append, splitAtChar_of_not_mem hdot]
      rfl
    · rw [htext, ← List.dropLast_append_getLast? '.' hbefore, List.append_assoc,
        List.singleton_append, splitAtChar_append_cons, splitAtChar_of_not_mem hdot,
        List.getLast?_concat]
  have htrim : trim (left ++ name.toList ++ right) = name.toList := by
    calc trim (left ++ name.toList ++ right)
        = trim (left ++ name.toList) := trim_append_blank hright _
      _ = trim name.toList := trim_blank_append hleft _
      _ = name.toList := trim_of_isIdentifier hname
  rw [SourceModule.lastSegmentOf, hlast, Option.getD_some, htrim, String.ofList_toList]

end Identifiers

/-! ## Members -/

namespace SourceModule

/-- A parent has the members of a class at a position: these are what is offered under it, and what
a name that no visible scope binds resolves to. -/
structure HasMembersOf (m : SourceModule) (position : Option Position) (parent : String)
    (d : ClassDef) : Prop where
  members : m.members parent position = m.symbolsIn (.classDef d)
  resolve {id : String} (h : ∀ scope ∈ visibleScopes (m.chainAt position), scope.binds id = false) :
    m.resolve id position (some parent) = m.symbolIn? (.classDef d) id

/-- A name means at a position what the module binds it to. -/
def ReachesModule (m : SourceModule) (position : Option Position) (id : String) : Prop :=
  m.pathHead? (m.chainAt position) id = m.symbolIn? (.module m.body) id

variable {m : SourceModule} {position : Option Position}

theorem reachesModule_none (id : String) : m.ReachesModule none id := by
  have houtside : enclosingClass? (m.chainAt none) = none := rfl
  rw [ReachesModule, pathHead?, houtside, ite_self]
  cases hs : m.symbolIn? (.module m.body) id <;>
    simp [chainAt, scopeChain, visibleScopes, lookup?, hs]

/-- The class of what holds an instance is looked up in the class table. -/
theorem membersClass?_of_holdsInstanceOf {name : String} (hname : isIdentifier name.toList = true)
    {b : Binding} (hb : b.HoldsInstanceOf name) (id : String) (scope : Scope)
    (earlier : List Binding) :
    m.membersClass? (m.symbolOf id scope earlier b) = m.classes.get? name := by
  have hlookup {named : Option String} (h : named = some name) :
      (named.filter (!·.isEmpty)).bind m.classes.get? = m.classes.get? name := by
    have hne : name.isEmpty = false := by simpa using ne_empty_of_isIdentifier hname
    rw [h, Option.filter_some_pos (by simp [hne]), Option.bind_some]
  cases hb with
  | annotated h value =>
    apply hlookup
    cases h with
    | plain => rfl
    | dotted h => exact (Expr.IsPathTo.dotted h).lastSegment?
  | quoted h marked value =>
    apply hlookup
    exact congrArg some (lastSegmentOf_of_quotesPathTo hname h)
  | constructed h args keywords =>
    apply hlookup
    exact h.lastSegment?

theorem hasMembersOf_of_symbolIn? {parent : String} (hparent : isIdentifier parent.toList = true)
    (hreaches : m.ReachesModule position parent) {s : Symbol}
    (hs : m.symbolIn? (.module m.body) parent = some s) {d : ClassDef}
    (hd : m.membersClass? s = some d) : m.HasMembersOf position parent d := by
  have hsegments : (splitAtChar '.' parent.toList).map String.ofList = [parent] := by
    rw [splitAtChar_of_not_mem (dot_not_mem_of_isIdentifier hparent), List.map_singleton,
      String.ofList_toList]
  have hsymbol : m.parentSymbol? (m.chainAt position) parent = some s := by
    rw [m.parentSymbol?_eq hsegments, List.foldl_nil, hreaches, hs]
  constructor
  · rw [SourceModule.members, hsymbol, Option.bind_some, hd]
  · intro id hid
    have hlookup : m.lookup? (visibleScopes (m.chainAt position)) id = none := by
      rw [m.lookup?_eq, List.find?_eq_none.2, Option.bind_none]
      intro scope hscope
      rw [hid scope hscope]
      exact Bool.false_ne_true
    rw [m.resolve_some id position (ne_empty_of_isIdentifier hparent), hlookup, Option.none_or,
      hsymbol, Option.bind_some, member?, hd, Option.bind_some]

section Instances

variable {body : List Stmt} {name holder : String} {classes : List ClassDef}
  (hclasses : (Scope.module body).bindingsOf name = classes.map .classDef)
include hclasses

/-- A name that class statements alone bind has the members of the last class. -/
theorem hasMembersOf_of_classes (hname : isIdentifier name.toList = true)
    (hreaches : (ofStatements body).ReachesModule position name) {last : ClassDef}
    (hlast : classes.getLast? = some last) :
    (ofStatements body).HasMembersOf position name last := by
  have hsymbol : (ofStatements body).symbolIn? (.module body) name = some
      ((ofStatements body).symbolOf name (.module body) (classes.map .classDef).dropLast
        (.classDef last)) := by
    rw [symbolIn?, hclasses, List.getLast?_map, hlast]
    rfl
  exact hasMembersOf_of_symbolIn? hname hreaches hsymbol rfl

/-- A variable that holds an instance has the members of the first class of that name. -/
theorem hasMembersOf_of_instance (hname : isIdentifier name.toList = true)
    (hholder : isIdentifier holder.toList = true)
    (hreaches : (ofStatements body).ReachesModule position holder) {b : Binding}
    (hlast : ((Scope.module body).bindingsOf holder).getLast? = some b)
    (hb : b.HoldsInstanceOf name) {first : ClassDef} (hfirst : classes.head? = some first) :
    (ofStatements body).HasMembersOf position holder first := by
  have hsymbol : (ofStatements body).symbolIn? (.module body) holder = some
      ((ofStatements body).symbolOf holder (.module body)
        ((Scope.module body).bindingsOf holder).dropLast b) := by
    rw [symbolIn?, hlast, Option.map_some]
  apply hasMembersOf_of_symbolIn? hholder hreaches hsymbol
  rw [membersClass?_of_holdsInstanceOf hname hb]
  exact get?_ofStatements_of_bindingsOf hclasses hfirst

end Instances

/-- An instance against its class. Where class statements alone bind a name in a module, and the
last binding of a variable there is annotated with the name or assigned from a call of it, the
variable has the members of the first of these classes and the name has those of the last one. This
holds without a position, and at every position where both mean what the module binds them to. If
there is one class, the same members are offered under both, and every name that no visible scope
binds resolves to the same symbol under both. -/
theorem members_of_instance {body : List Stmt} {name holder : String} {classes : List ClassDef}
    {first last : ClassDef} {b : Binding} {position : Option Position}
    (hname : isIdentifier name.toList = true) (hholder : isIdentifier holder.toList = true)
    (hclasses : (Scope.module body).bindingsOf name = classes.map .classDef)
    (hfirst : classes.head? = some first) (hlast : classes.getLast? = some last)
    (hbound : ((Scope.module body).bindingsOf holder).getLast? = some b)
    (hb : b.HoldsInstanceOf name)
    (hposition : position = none ∨ (ofStatements body).ReachesModule position holder ∧
      (ofStatements body).ReachesModule position name) :
    (ofStatements body).HasMembersOf position holder first ∧
      (ofStatements body).HasMembersOf position name last ∧
      (classes.length = 1 →
        (ofStatements body).members holder position = (ofStatements body).members name position ∧
        ∀ id, (∀ scope ∈ visibleScopes ((ofStatements body).chainAt position),
            scope.binds id = false) →
          (ofStatements body).resolve id position (some holder) =
            (ofStatements body).resolve id position (some name)) := by
  have hreaches : (ofStatements body).ReachesModule position holder ∧
      (ofStatements body).ReachesModule position name := by
    rcases hposition with rfl | hposition
    · exact ⟨reachesModule_none holder, reachesModule_none name⟩
    · exact hposition
  have hinstance := hasMembersOf_of_instance hclasses hname hholder hreaches.1 hbound hb hfirst
  have hclass := hasMembersOf_of_classes hclasses hname hreaches.2 hlast
  refine ⟨hinstance, hclass, ?_⟩
  intro honce
  obtain ⟨d, rfl⟩ := List.length_eq_one_iff.1 honce
  obtain rfl : first = last := Option.some.inj (hfirst.symm.trans hlast)
  constructor
  · calc (ofStatements body).members holder position
        = (ofStatements body).symbolsIn (.classDef first) := hinstance.members
      _ = (ofStatements body).members name position := hclass.members.symm
  · intro id hid
    calc (ofStatements body).resolve id position (some holder)
        = (ofStatements body).symbolIn? (.classDef first) id := hinstance.resolve hid
      _ = (ofStatements body).resolve id position (some name) := (hclass.resolve hid).symm

end SourceModule

/-- A class with one member. -/
def smallClass (line : Nat) (name member : String) : ClassDef :=
  { span := ⟨line, line + 1⟩, name, bases := [], decorators := []
    body := [.assign ⟨line + 1, line + 1⟩ [.name member] (.constant (.integer 1))] }

/-- A class, and a variable that is annotated with it in quotes. -/
def quotedInstance : List Stmt :=
  [.classDef (smallClass 1 "C" "a"),
    .annotate ⟨3, 3⟩ (.name "v") (.constant (.text "shapes. C" false)) none]

theorem quotedInstance_members :
    (SourceModule.ofStatements quotedInstance).members "v" none =
        (SourceModule.ofStatements quotedInstance).members "C" none ∧
      ((SourceModule.ofStatements quotedInstance).members "v" none).map (·.name) = ["a"] ∧
      (SourceModule.ofStatements quotedInstance).resolve "a" none (some "v") =
        (SourceModule.ofStatements quotedInstance).resolve "a" none (some "C") ∧
      ((SourceModule.ofStatements quotedInstance).resolve "a" none (some "v")).isSome = true := by
  have hquotes : QuotesPathTo "C" "shapes. C" :=
    ⟨"shapes.".toList, [' '], [], by decide, .inr (by decide), rfl, rfl⟩
  have hclasses : (Scope.module quotedInstance).bindingsOf "C" =
      [smallClass 1 "C" "a"].map .classDef := rfl
  have hbound : ((Scope.module quotedInstance).bindingsOf "v").getLast? =
      some (.annotated (.constant (.text "shapes. C" false)) none) := rfl
  obtain ⟨-, -, honce⟩ := SourceModule.members_of_instance (by decide) (by decide) hclasses rfl rfl
    hbound (.quoted hquotes false none) (.inl rfl)
  obtain ⟨hmembers, hresolve⟩ := honce rfl
  exact ⟨hmembers, by decide +kernel, hresolve "a" (by decide +kernel), by decide +kernel⟩

/-- A class that is declared twice, and a variable that is assigned from a call of it. -/
def twofoldClass : List Stmt :=
  [.classDef (smallClass 1 "C" "a"), .classDef (smallClass 3 "C" "b"),
    .assign ⟨5, 5⟩ [.name "v"] (.call (.name "C") [] [])]

/-- Instances of a class that is declared twice lack the members of its last declaration. -/
theorem twofoldClass_members :
    (∀ b ∈ (Scope.module twofoldClass).bindingsOf "C", b.classDef?.isSome = true) ∧
      (∃ b, ((Scope.module twofoldClass).bindingsOf "v").getLast? = some b ∧
        b.HoldsInstanceOf "C") ∧
      ((SourceModule.ofStatements twofoldClass).members "v" none).map (·.name) = ["a"] ∧
      ((SourceModule.ofStatements twofoldClass).members "C" none).map (·.name) = ["b"] ∧
      (Scope.module twofoldClass).binds "b" = false ∧
      ((SourceModule.ofStatements twofoldClass).resolve "b" none (some "v")).isSome = false ∧
      ((SourceModule.ofStatements twofoldClass).resolve "b" none (some "C")).isSome = true := by
  refine ⟨by decide, ⟨_, rfl, .constructed .plain [] []⟩, ?_⟩
  decide +kernel

end CallCompletion.Source
