import CallCompletion.Proofs.RequiredParameters
import CallCompletion.Source.Engine
import CallCompletion.Snippet.Synthesis

/-!
# The signature that is shown

A name can be defined as a function more than once in its scope, and some of these definitions can
be overload stubs. A description shows one of them, and a snippet calls one of them, and the two are
chosen by different rules: shown is the first function if it is a stub and else the last one, called
is the first stub wherever it stands and else the last function. For whatever resolves to a function
or a method these are the same definition exactly if the first function is a stub or no function
before the last one is. -/

namespace CallCompletion.Source

/-! ## Places among the functions of a name -/

/-- The functions of a name in a scope, in source order. -/
def Scope.functionsOf (scope : Scope) (name : String) : List FunctionDef :=
  (scope.bindingsOf name).filterMap Binding.function?

/-- The place of the function that is shown. -/
def shownPlace (functions : List FunctionDef) : Nat :=
  if functions.head?.any FunctionOf.isOverload then 0 else functions.length - 1

/-- The place of the function that is called: that of the first overload stub, or the last one. -/
def calledPlace (functions : List FunctionDef) : Nat :=
  (functions.findIdx? FunctionOf.isOverload).getD (functions.length - 1)

/-- The first function is an overload stub, or none before the last one is. -/
def StubsLead (functions : List FunctionDef) : Prop :=
  functions.head?.any FunctionOf.isOverload = true ∨
    ∀ d ∈ functions.dropLast, d.isOverload = false

instance (functions : List FunctionDef) : Decidable (StubsLead functions) :=
  inferInstanceAs (Decidable (_ ∨ _))

section Places

variable (earlier : List FunctionDef) (last : FunctionDef)

/-- The shown function stands at the shown place. -/
theorem getElem?_shownPlace :
    (earlier ++ [last])[shownPlace (earlier ++ [last])]? = some (shownFunction earlier last) := by
  cases earlier with
  | nil => cases hlast : last.isOverload <;> simp [shownPlace, shownFunction, hlast]
  | cons first rest =>
    cases hfirst : first.isOverload <;> simp [shownPlace, shownFunction, hfirst]

/-- The functions that show how to call a name start with its first stub, or are the last function
alone. -/
theorem exists_chosenFunctions_eq_cons :
    ∃ called others, chosenFunctions earlier last = called :: others ∧
      (earlier ++ [last])[calledPlace (earlier ++ [last])]? = some called := by
  have hfirst : ((earlier ++ [last]).filter FunctionOf.isOverload).head? =
      ((earlier ++ [last]).findIdx? FunctionOf.isOverload).bind ((earlier ++ [last])[·]?) := by
    rw [List.head?_filter, List.find?_eq_bind_findIdx?_getElem?]
  unfold chosenFunctions calledPlace
  cases hstubs : (earlier ++ [last]).filter FunctionOf.isOverload with
  | nil =>
    have hnone : (earlier ++ [last]).findIdx? FunctionOf.isOverload = none := by
      rw [List.findIdx?_eq_none_iff]
      intro d hd
      exact Bool.eq_false_iff.2 (List.filter_eq_nil_iff.1 hstubs d hd)
    refine ⟨last, [], rfl, ?_⟩
    rw [hnone]
    simp
  | cons called others =>
    rw [hstubs, List.head?_cons] at hfirst
    obtain ⟨place, hplace, hcalled⟩ := Option.bind_eq_some_iff.1 hfirst.symm
    refine ⟨called, others, rfl, ?_⟩
    rw [hplace]
    exact hcalled

/-- Whether the last function is a stub makes no difference: it is called anyway unless a stub
stands before it. -/
theorem calledPlace_append_singleton :
    calledPlace (earlier ++ [last]) = earlier.findIdx FunctionOf.isOverload := by
  unfold calledPlace
  rw [List.findIdx?_append]
  cases hplace : earlier.findIdx? FunctionOf.isOverload with
  | some place =>
    rw [Option.some_or, Option.getD_some]
    exact (List.findIdx?_eq_some_iff_findIdx_eq.1 hplace).2.symm
  | none =>
    have hend : earlier.findIdx FunctionOf.isOverload = earlier.length :=
      List.findIdx_eq_length.2 (List.findIdx?_eq_none_iff.1 hplace)
    rw [hend, Option.none_or]
    cases hlast : last.isOverload <;> simp [List.findIdx?_cons, hlast]

/-- The two rules choose the same place exactly if stubs lead. -/
theorem shownPlace_eq_calledPlace_iff :
    shownPlace (earlier ++ [last]) = calledPlace (earlier ++ [last]) ↔
      StubsLead (earlier ++ [last]) := by
  rw [calledPlace_append_singleton, StubsLead, List.dropLast_concat]
  unfold shownPlace
  cases hfirst : (earlier ++ [last]).head?.any FunctionOf.isOverload with
  | true =>
    have hzero : earlier.findIdx FunctionOf.isOverload = 0 := by
      cases earlier with
      | nil => rfl
      | cons first rest =>
        have hstub : first.isOverload = true := hfirst
        rw [List.findIdx_cons, hstub, cond_true]
    simp [hzero]
  | false =>
    have hend : (earlier ++ [last]).length - 1 = earlier.length := by simp
    rw [if_neg Bool.false_ne_true, hend, eq_comm, List.findIdx_eq_length]
    simp

end Places

/-! ## Symbols -/

namespace SourceModule

/-- The scopes of a module: the module itself, the classes of its table, and with a scope the
definitions in its body. -/
inductive HasScope (m : SourceModule) : Scope → Prop
  | module : m.HasScope (.module m.body)
  | classDef {d : ClassDef} (hd : d ∈ m.classes) : m.HasScope (.classDef d)
  | child {scope child : Scope} (hscope : m.HasScope scope) (hchild : child ∈ scope.children) :
    m.HasScope child

variable {m : SourceModule} {name : String} {s : Symbol}

/-- Only a name that is bound last by a function is a function or a method. -/
theorem exists_function_of_symbolIn? {scope : Scope} (hs : m.symbolIn? scope name = some s)
    (hkind : s.kind = .function ∨ s.kind = .method) :
    ∃ earlier last, scope.functionsOf name = earlier ++ [last] ∧
      s.site = some (.function earlier last scope.classDef?) := by
  obtain ⟨earlier, last, hbindings, rfl⟩ := exists_bindings_of_symbolIn? hs
  cases last with
  | function d =>
    refine ⟨earlier.filterMap Binding.function?, d, ?_, rfl⟩
    rw [Scope.functionsOf, hbindings, List.filterMap_append]
    rfl
  | classDef d => cases henum : m.classes.isEnum d <;> simp [symbolOf, classKind, henum] at hkind
  | parameter p => simp [symbolOf] at hkind
  | assignment value =>
    cases henum : scope.classDef?.any m.classes.isEnum <;>
      simp [symbolOf, variableKind, henum] at hkind
  | annotated typeHint value =>
    cases henum : scope.classDef?.any m.classes.isEnum <;>
      simp [symbolOf, variableKind, henum] at hkind

/-- A function or method of a module that shows one definition of its name and is called like
another: the display is that of the one, and the first signature, the only one that a snippet is
made from, is that of the other. -/
structure ShowsAndCalls [CharacterNames] (m : SourceModule) (s : Symbol) (owner : Option ClassDef)
    (shown called : FunctionDef) : Prop where
  display : (describe s).display = shown.display s.name
  signatures : ∃ others,
    m.signatures s = (called :: others).mapM (functionSignature m.classes owner)
  first {signatures : List Signature} (h : m.signatures s = .ok signatures) : ∃ first,
    functionSignature m.classes owner called = .ok first ∧ signatures.head? = some first ∧
      ∀ label config, buildSnippet label signatures config = buildSnippet label [first] config

theorem ShowsAndCalls.of_signatures [CharacterNames] {owner : Option ClassDef}
    {shown called : FunctionDef}
    {others : List FunctionDef} (hdisplay : (describe s).display = shown.display s.name)
    (hsignatures : m.signatures s = (called :: others).mapM (functionSignature m.classes owner)) :
    m.ShowsAndCalls s owner shown called where
  display := hdisplay
  signatures := ⟨others, hsignatures⟩
  first h := by
    rw [hsignatures, List.mapM_cons] at h
    obtain ⟨first, hfirst, h⟩ := Fault.bind_eq_ok_iff.1 h
    obtain ⟨more, -, h⟩ := Fault.bind_eq_ok_iff.1 h
    cases h
    exact ⟨first, hfirst, rfl, fun _ _ ↦ rfl⟩

/-- A function or method shows the definition at one place among the functions of its name and is
called like the one at another place. -/
theorem exists_showsAndCalls [CharacterNames] {scope : Scope} (hs : m.symbolIn? scope name = some s)
    (hkind : s.kind = .function ∨ s.kind = .method) :
    ∃ shown called,
      (scope.functionsOf name)[shownPlace (scope.functionsOf name)]? = some shown ∧
      (scope.functionsOf name)[calledPlace (scope.functionsOf name)]? = some called ∧
      m.ShowsAndCalls s scope.classDef? shown called := by
  obtain ⟨earlier, last, hfunctions, hsite⟩ := exists_function_of_symbolIn? hs hkind
  obtain ⟨called, others, hchosen, hcalled⟩ := exists_chosenFunctions_eq_cons earlier last
  rw [hfunctions]
  refine ⟨shownFunction earlier last, called, getElem?_shownPlace earlier last, hcalled, ?_⟩
  have hdisplay : (describe s).display = (shownFunction earlier last).display s.name := by
    have hmember : s.kind ≠ .enumMember := by
      rcases hkind with hkind | hkind <;> simp [hkind]
    simp [describe, hsite, hmember, Site.display]
  have hsignatures : m.signatures s =
      (called :: others).mapM (functionSignature m.classes scope.classDef?) := by
    rw [← hchosen, SourceModule.signatures, hsite]
  exact .of_signatures hdisplay hsignatures

/-- The signature shown against the one inserted. Whatever resolves to a function or a method is
bound in a scope of the module, shows one of the functions of its name there, and is called like
another one, from which its first signature and every snippet of it are made. The two are one
definition exactly if the first function of the name is an overload stub or none before the last one
is. -/
theorem shown_is_called_iff [CharacterNames] {position : Option Position} {parent : Option String}
    (hs : m.resolve name position parent = some s)
    (hkind : s.kind = .function ∨ s.kind = .method) :
    ∃ scope shown called, m.HasScope scope ∧ m.symbolIn? scope name = some s ∧
      (scope.functionsOf name)[shownPlace (scope.functionsOf name)]? = some shown ∧
      (scope.functionsOf name)[calledPlace (scope.functionsOf name)]? = some called ∧
      m.ShowsAndCalls s scope.classDef? shown called ∧
      (shownPlace (scope.functionsOf name) = calledPlace (scope.functionsOf name) ↔
        StubsLead (scope.functionsOf name)) := by
  have hchild : ∀ scope, m.HasScope scope → ∀ child ∈ scope.children, m.HasScope child := by
    intro scope hscope child hmem
    exact hscope.child hmem
  have hclass : ∀ d ∈ m.classes, m.HasScope (.classDef d) := by
    intro d hd
    exact .classDef hd
  obtain ⟨scope, hscope, hsymbol⟩ := exists_scope_of_resolve hchild hclass .module hs
  obtain ⟨shown, called, hshown, hcalled, hboth⟩ := exists_showsAndCalls hsymbol hkind
  obtain ⟨earlier, last, hfunctions, -⟩ := exists_function_of_symbolIn? hsymbol hkind
  refine ⟨scope, shown, called, hscope, hsymbol, hshown, hcalled, hboth, ?_⟩
  rw [hfunctions]
  exact shownPlace_eq_calledPlace_iff earlier last

end SourceModule

/-- A function with one parameter. -/
def unaryFunction (decorators : List Expr) (parameter : String) (typeHint : Option Expr) :
    FunctionDef :=
  { span := ⟨1, 1⟩, isAsync := false, name := "f", body := [], decorators, returns := typeHint
    params := { Params.none with positional := [⟨parameter, typeHint, none⟩] } }

/-- An overload stub for the numbers. -/
def numberStub : FunctionDef := unaryFunction [.name "overload"] "x" (some (.name "int"))

/-- The signature of the stub. -/
def numberSignature : Signature :=
  { parameters := [{ name := "x", type := .primitive .number }], minArguments := 1
    returnType := .primitive .number }

/-- A function with an overload stub, whose name holds a value in between. -/
def leadingStub : SourceModule := .ofStatements
  [.function numberStub, .assign ⟨2, 2⟩ [.name "f"] (.constant .none),
    .function (unaryFunction [] "y" none)]

theorem leadingStub_shown_is_called :
    ∃ s owner d, leadingStub.resolve "f" none none = some s ∧ s.kind = .function ∧
      leadingStub.ShowsAndCalls s owner d d ∧ d.display "f" = "f(x: int) -> int" ∧
      functionSignature leadingStub.classes owner d = .ok numberSignature ∧
      buildSnippet "f" [numberSignature] {} = .ok "f(0)" := by
  have hall : (leadingStub.resolve "f" none none).map (fun s ↦
        (s.kind, (describe s).display, leadingStub.signatures s)) =
          some (.function, "f(x: int) -> int", .ok [numberSignature]) ∧
      (leadingStub.resolve "f" none none).all (fun s ↦ s.name = "f" ∧
        (s.site.map Site.functions).all fun functions ↦ decide (StubsLead functions)) := by
    decide +kernel
  obtain ⟨hall, hlead⟩ := hall
  obtain ⟨s, hs, hall⟩ := Option.map_eq_some_iff.1 hall
  simp only [Prod.mk.injEq] at hall
  obtain ⟨hkind, hdisplay, hsignatures⟩ := hall
  rw [hs, Option.all_some, decide_eq_true_iff] at hlead
  obtain ⟨hname, hlead⟩ := hlead
  obtain ⟨scope, shown, called, -, hsymbol, hshown, hcalled, hboth, hiff⟩ :=
    SourceModule.shown_is_called_iff hs (.inl hkind)
  obtain ⟨earlier, last, hfunctions, hsite⟩ :=
    SourceModule.exists_function_of_symbolIn? hsymbol (.inl hkind)
  have hsame : shown = called := by
    have hstubs : StubsLead (scope.functionsOf "f") := by
      rw [hfunctions]
      simpa [hsite, Site.functions] using hlead
    rw [hiff.2 hstubs, hcalled] at hshown
    exact (Option.some.inj hshown).symm
  subst hsame
  obtain ⟨signature, hsignature, hfirst, -⟩ := hboth.first hsignatures
  cases hfirst
  have hshows := hboth.display
  rw [hdisplay, hname] at hshows
  exact ⟨s, _, shown, hs, hkind, hboth, hshows.symm, hsignature, by decide +kernel⟩

/-- A function that is defined three times, the second time as an overload stub. -/
def interruptingStub : SourceModule := .ofStatements
  [.function (unaryFunction [] "a" none), .function numberStub,
    .function (unaryFunction [] "y" none)]

/-- No definition of the name has both the display and the signature that its symbol has. -/
theorem interruptingStub_shown_is_not_called :
    ∃ s, interruptingStub.resolve "f" none none = some s ∧ s.kind = .function ∧
      (describe s).display = "f(y)" ∧ interruptingStub.signatures s = .ok [numberSignature] ∧
      buildSnippet "f" [numberSignature] {} = .ok "f(0)" ∧
      ∀ d ∈ (Scope.module interruptingStub.body).functionsOf "f", d.display "f" = "f(y)" →
        functionSignature interruptingStub.classes none d ≠ .ok numberSignature := by
  have hall : (interruptingStub.resolve "f" none none).map (fun s ↦
        (s.kind, (describe s).display, interruptingStub.signatures s)) =
          some (.function, "f(y)", .ok [numberSignature]) ∧
      ∀ d ∈ (Scope.module interruptingStub.body).functionsOf "f", d.display "f" = "f(y)" →
        functionSignature interruptingStub.classes none d ≠ .ok numberSignature := by
    decide +kernel
  obtain ⟨hall, hother⟩ := hall
  obtain ⟨s, hs, hall⟩ := Option.map_eq_some_iff.1 hall
  simp only [Prod.mk.injEq] at hall
  obtain ⟨hkind, hdisplay, hsignatures⟩ := hall
  exact ⟨s, hs, hkind, hdisplay, hsignatures, by decide +kernel, hother⟩

end CallCompletion.Source
