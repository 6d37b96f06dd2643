import CallCompletion.Proofs.CallText
import CallCompletion.Snapshot.Model
import CallCompletion.Source.Signatures
import Mathlib.Logic.Relation

/-!
# Signatures and snippets that cannot be made

The signatures of a symbol of a source text are made from its annotations. They fail at the first
annotation that has no class, and have known types otherwise; those of a snapshot never fail. A
snippet for known types fails in one case only, that of examples whose reading does not end.
-/

namespace CallCompletion

/-! ## The fault of a step -/

namespace Fault

variable {α β : Type} {x : Except Fault α} {f : Fault}

/-- The fault of a step that has failed. -/
def of? : Except Fault α → Option Fault
  | .ok _ => none
  | .error f => some f

theorem of?_eq_some_iff : of? x = some f ↔ x = .error f := by
  cases x <;> simp [of?]

theorem exists_ok_iff : (∃ a, x = .ok a) ↔ of? x = none := by
  cases x <;> simp [of?]

theorem of?_map (g : α → β) : of? (x.map g) = of? x := by
  cases x <;> rfl

/-- Of two steps that do not depend on each other, the first one to fail counts. -/
theorem of?_bind {next : α → Except Fault β} {second : Option Fault}
    (h : ∀ a, of? (next a) = second) : of? (x >>= next) = (of? x).or second := by
  cases x with
  | error g => rfl
  | ok a => exact h a

theorem of?_bind_pure (g : α → β) : of? (x >>= fun a ↦ pure (g a)) = of? x := by
  cases x <;> rfl

/-- Of several steps, the first one to fail counts. -/
theorem of?_mapM (g : α → Except Fault β) (l : List α) :
    of? (l.mapM g) = l.findSome? fun a ↦ of? (g a) := by
  induction l with
  | nil => rfl
  | cons a rest ih =>
    rw [List.mapM_cons, of?_bind fun b ↦ of?_bind_pure (b :: ·), ih, List.findSome?_cons]
    cases of? (g a) <;> rfl

/-- What a list of steps yields has come from its elements. -/
theorem exists_of_mem_mapM {g : α → Except Fault β} {l : List α} {out : List β}
    (h : l.mapM g = .ok out) {b : β} (hb : b ∈ out) : ∃ a ∈ l, g a = .ok b := by
  induction l generalizing out with
  | nil =>
    cases h
    cases hb
  | cons a rest ih =>
    rw [List.mapM_cons] at h
    obtain ⟨first, hfirst, h⟩ := bind_eq_ok_iff.1 h
    obtain ⟨more, hmore, h⟩ := bind_eq_ok_iff.1 h
    cases h
    rcases List.mem_cons.1 hb with rfl | hb
    · exact ⟨a, List.mem_cons_self, hfirst⟩
    · obtain ⟨c, hc, hcb⟩ := ih hmore hb
      exact ⟨c, List.mem_cons_of_mem a hc, hcb⟩

end Fault

/-! ## Snippets that have none -/

/-- A type that is one of the descriptors. -/
def TypeDescriptor.IsKnown (t : TypeDescriptor) : Prop := ∀ name, t ≠ .unclassified name

/-- A signature whose parameters have known types. -/
def Signature.IsClassified (s : Signature) : Prop := ∀ p ∈ s.parameters, p.type.IsKnown

/-- A dialect that has spelling rules. -/
def Dialect.IsSupported (d : Dialect) : Prop := ∀ name, d ≠ .unsupported name

/-- A snippet of the first signature would need an example from a list whose reading never ends. -/
def HasEndlessExamples (signatures : List Signature) : Prop :=
  ∃ s ∈ signatures.head?, ∃ p ∈ s.requiredParameters, Example.first? p.documentation = none

section Snippets

variable {config : SnippetConfig} (hdialect : config.dialect.IsSupported)

/-- Arguments fail at the first parameter that has no literal, whatever their positions are. -/
theorem of?_renderFrom (config : SnippetConfig) (start : Int) (parameters : List Parameter) :
    Fault.of? (renderFrom config start parameters) =
      parameters.findSome? fun p ↦ Fault.of? (p.literal? config) := by
  induction parameters generalizing start with
  | nil => rfl
  | cons p rest ih =>
    have hmore (argument : String) : Fault.of? (do
        let more ← renderFrom config (start + 1) rest
        return argument :: more) = Fault.of? (renderFrom config (start + 1) rest) :=
      Fault.of?_bind_pure _
    rw [renderFrom, Fault.of?_bind hmore, ih, synthesize_eq, Fault.of?_map, List.findSome?_cons]
    cases Fault.of? (p.literal? config) <;> rfl

include hdialect

theorem of?_literal? {p : Parameter} (htype : p.type.IsKnown) :
    Fault.of? (p.literal? config) =
      if Example.first? p.documentation = none then some .endlessExamples else none := by
  obtain ⟨literal, hliteral⟩ := (exists_typedDefault_iff p config).2
    ⟨htype, fun _ _ name _ ↦ hdialect name⟩
  unfold Parameter.literal?
  cases Example.first? p.documentation with
  | none => rfl
  | some found =>
    cases found with
    | some e => rfl
    | none => simp [hliteral, Fault.of?]

theorem renderFrom_eq_error_iff {parameters : List Parameter}
    (hknown : ∀ p ∈ parameters, p.type.IsKnown) (start : Int) (f : Fault) :
    renderFrom config start parameters = .error f ↔
      f = .endlessExamples ∧ ∃ p ∈ parameters, Example.first? p.documentation = none := by
  rw [← Fault.of?_eq_some_iff, of?_renderFrom]
  induction parameters with
  | nil => simp
  | cons p rest ih =>
    have hrest := ih fun q hq ↦ hknown q (List.mem_cons_of_mem p hq)
    rw [List.findSome?_cons, of?_literal? hdialect (hknown p List.mem_cons_self)]
    by_cases hendless : Example.first? p.documentation = none
    · simp [hendless, eq_comm]
    · simpa [hendless] using hrest

/-- With known types and a supported dialect, a snippet fails only for want of an end of
examples. -/
theorem buildSnippet_eq_error_iff {signatures : List Signature}
    (hclassified : ∀ s ∈ signatures, s.IsClassified) (label : String) (f : Fault) :
    buildSnippet label signatures config = .error f ↔
      f = .endlessExamples ∧ HasEndlessExamples signatures := by
  cases signatures with
  | nil => simp [buildSnippet, HasEndlessExamples]
  | cons s others =>
    have hknown : ∀ p ∈ s.requiredParameters, p.type.IsKnown := by
      intro p hp
      exact hclassified s List.mem_cons_self p (List.mem_of_mem_take hp)
    rw [buildSnippet, Fault.map_eq_error_iff, renderArguments,
      renderFrom_eq_error_iff hdialect hknown]
    simp [HasEndlessExamples]

end Snippets

namespace Source

open CallCompletion.Text

/-! ## Annotations without a class -/

theorem isKnown_classifyName (classes : ClassTable) (name printed : String) :
    (classifyName classes name printed).IsKnown := by
  intro given
  unfold classifyName
  repeat' split
  all_goals simp

theorem Expr.isWrapper_of_name {value : Expr} {name : String}
    (hvalue : value.lastSegment? = some name)
    (hname : (decide (name = "Optional") || decide (name = "Annotated")) = true) :
    value.lastSegment? = some "Optional" ∨ value.lastSegment? = some "Annotated" := by
  simpa [hvalue] using hname

/-- An annotation that itself has no class. -/
inductive Expr.HasNoClass : Expr → Fault → Prop
  | operation {op : BinaryOp} {left right : Expr} :
    op ≠ .bitOr → Expr.HasNoClass (.binary op left right) .endlessClassification
  | wrapsNothing {value index : Expr} :
    value.lastSegment? = some "Optional" ∨ value.lastSegment? = some "Annotated" →
      index.typeArguments = [] → Expr.HasNoClass (.subscript value index) .missingTypeArgument
  | nul {s : String} {marked : Bool} :
    '\x00' ∈ s.toList → Expr.HasNoClass (.constant (.text s marked)) .nulInTypeHint
  | half {t : HalvedText} {marked : Bool} :
    Expr.HasNoClass (.constant (.halved t marked)) (.notUtf8 (.encoding (firstHalves t.codes)))

variable [CharacterNames]

/-- An annotation that is classified as another one: what is left of a union without the absence of
a value, what a wrapper holds, the result of a callable type, or what a quoted text says. -/
inductive Expr.StandsFor : Expr → Expr → Prop
  | bars {left right e : Expr} :
    soleMember? (left.unionLeaves ++ right.unionLeaves) = some e →
      Expr.StandsFor (.binary .bitOr left right) e
  | wrapped {value index e : Expr} {rest : List Expr} :
    value.lastSegment? = some "Optional" ∨ value.lastSegment? = some "Annotated" →
      index.typeArguments = e :: rest → Expr.StandsFor (.subscript value index) e
  | union {value index e : Expr} :
    value.lastSegment? = some "Union" → soleMember? index.typeArguments = some e →
      Expr.StandsFor (.subscript value index) e
  | result {value index parameters e : Expr} :
    value.lastSegment? = some "Callable" → index.typeArguments = [parameters, e] →
      Expr.StandsFor (.subscript value index) e
  | quoted {s : String} {e : Expr} {marked : Bool} :
    '\x00' ∉ s.toList → parseExpression s.toList = .ok e →
      Expr.StandsFor (.constant (.text s marked)) e

/-- What classification can come to: a known type, or a fault of an annotation that it has been led
to. -/
def Expr.Yields (e : Expr) : Except Fault TypeDescriptor → Prop
  | .ok t => t.IsKnown
  | .error f => ∃ inner, Relation.ReflTransGen Expr.StandsFor e inner ∧ inner.HasNoClass f

/-- What stands for another annotation yields what that one yields. -/
theorem Expr.StandsFor.yields {e inner : Expr} (h : e.StandsFor inner)
    {r : Except Fault TypeDescriptor} (hr : inner.Yields r) : e.Yields r := by
  cases r with
  | ok t => exact hr
  | error f =>
    obtain ⟨last, hlast, hfault⟩ := hr
    exact ⟨last, .head h hlast, hfault⟩

theorem Expr.HasNoClass.yields {e : Expr} {f : Fault} (h : e.HasNoClass f) :
    e.Yields (.error f) :=
  ⟨e, .refl, h⟩

theorem Expr.Yields.map_function {e : Expr} {r : Except Fault TypeDescriptor} (h : e.Yields r)
    (parameters : String) :
    e.Yields (r.map fun t ↦ .function parameters t.returnKind) := by
  cases r with
  | ok t => exact fun name ↦ TypeDescriptor.noConfusion
  | error f => exact h

/-- Classification is led from an annotation to the one it stands for, until it knows the type or
comes to an annotation without a class. -/
theorem yields_classifyWith (classes : ClassTable) {quoted : String → Except Fault TypeDescriptor}
    (hquoted : ∀ s marked, (Expr.constant (.text s marked)).Yields (quoted s)) (e : Expr) :
    e.Yields (classifyWith classes quoted e) := by
  fun_induction classifyWith classes quoted e with
  | case2 s marked => exact hquoted s marked
  | case3 t marked => exact Expr.HasNoClass.half.yields
  | case4 left right m hm ih => exact (Expr.StandsFor.bars hm).yields ih
  | case6 op left right hop => exact (Expr.HasNoClass.operation hop).yields
  | case8 value index name hvalue hname hnothing =>
    exact (Expr.HasNoClass.wrapsNothing (Expr.isWrapper_of_name hvalue hname) hnothing).yields
  | case9 value index name hvalue hname item rest hitem ih =>
    exact (Expr.StandsFor.wrapped (Expr.isWrapper_of_name hvalue hname) hitem).yields ih
  | case10 value index m hm hvalue hname ih => exact (Expr.StandsFor.union hvalue hm).yields ih
  | case14 value index parameters result hresult hvalue _ _ _ _ ih =>
    exact ((Expr.StandsFor.result hvalue hresult).yields ih).map_function _
  | case17 e _ _ _ _ _ _ name _ => exact isKnown_classifyName classes name e.text
  | case1 | case5 | case7 | case11 | case12 | case13 | case15 | case16 | case18 =>
    exact fun name ↦ TypeDescriptor.noConfusion

theorem classifyQuoted_zero (classes : ClassTable) (s : String) :
    classifyQuoted classes 0 s = .ok (.other s) := by
  rfl

theorem classifyQuoted_succ (classes : ClassTable) (depth : Nat) (s : String) :
    classifyQuoted classes (depth + 1) s =
      if s.toList.contains '\x00' then .error .nulInTypeHint
      else
        match parseExpression s.toList with
        | .ok e => classifyWith classes (classifyQuoted classes depth) e
        | .error _ => .ok (.other s) := by
  rfl

theorem yields_classifyQuoted (classes : ClassTable) (depth : Nat) (s : String) (marked : Bool) :
    (Expr.constant (.text s marked)).Yields (classifyQuoted classes depth s) := by
  induction depth generalizing s marked with
  | zero =>
    rw [classifyQuoted_zero]
    exact fun name ↦ TypeDescriptor.noConfusion
  | succ depth ih =>
    rw [classifyQuoted_succ]
    split
    · rename_i hnul
      exact (Expr.HasNoClass.nul (by simpa using hnul)).yields
    · rename_i hnul
      split
      · rename_i e he
        have hstands : (Expr.constant (.text s marked)).StandsFor e :=
          .quoted (by simpa using hnul) he
        exact hstands.yields (yields_classifyWith classes ih e)
      · exact fun name ↦ TypeDescriptor.noConfusion

/-- Every annotation yields what its classification gives. -/
theorem yields_classify (classes : ClassTable) (e : Expr) : e.Yields (classify classes e) :=
  yields_classifyWith classes (fun s marked ↦ yields_classifyQuoted classes _ s marked) e

theorem isKnown_of_classify {classes : ClassTable} {e : Expr} {t : TypeDescriptor}
    (h : classify classes e = .ok t) : t.IsKnown := by
  have hyields := yields_classify classes e
  rwa [h] at hyields

/-- Classification fails only where it is led to an annotation that has no class. -/
theorem exists_hasNoClass_of_classify {classes : ClassTable} {e : Expr} {f : Fault}
    (h : classify classes e = .error f) :
    ∃ inner, Relation.ReflTransGen Expr.StandsFor e inner ∧ inner.HasNoClass f := by
  have hyields := yields_classify classes e
  rwa [h] at hyields

/-! ## The annotations that signatures are made from -/

theorem isKnown_of_classifyOptional {classes : ClassTable} {hint : Option Expr}
    {t : TypeDescriptor} (h : classifyOptional classes hint = .ok t) : t.IsKnown := by
  cases hint with
  | none =>
    cases h
    exact fun name ↦ TypeDescriptor.noConfusion
  | some e => exact isKnown_of_classify h

/-- The annotations of a function: those of its parameters as a call shows them, and of its
result. -/
def FunctionOf.hints (d : FunctionDef) (owner : Option ClassDef) : List Expr :=
  (callParameters d owner).flatMap (·.typeHint.toList) ++ d.returns.toList

/-- The annotations inside a callable type. -/
def callableHints : Expr → List Expr
  | .subscript value (.tuple [parameters, result]) =>
    if value.lastSegment? = some "Callable" then
      match parameters with
      | .list items => items ++ [result]
      | _ => [result]
    else []
  | _ => []

/-- The annotations under which a class is constructed. -/
def constructorHints (classes : ClassTable) (d : ClassDef) : List Expr :=
  match (classes.ancestry d).constructor? with
  | none => []
  | some owner =>
    match owner.initializers.getLast? with
    | some last =>
      (chosenFunctions owner.initializers.dropLast last).flatMap (·.hints (some owner))
    | none => (classes.ancestry owner).fields.map (·.2.typeHint)

/-- The annotations that the signatures of a symbol are made from. -/
def SourceModule.hints (m : SourceModule) (s : Symbol) : List Expr :=
  match s.site with
  | none => []
  | some (.function earlier last owner) =>
    (chosenFunctions earlier last).flatMap (·.hints owner)
  | some (.classDef d) => constructorHints m.classes d
  | some (.parameter p) => (p.typeHint.map callableHints).getD []
  | some (.annotated typeHint _) => callableHints typeHint
  | some (.assignment _) => []

/-- The first fault in the classification of annotations. -/
def classFault? (classes : ClassTable) (hints : List Expr) : Option Fault :=
  hints.findSome? fun e ↦ Fault.of? (classify classes e)

theorem classFault?_append (classes : ClassTable) (hints more : List Expr) :
    classFault? classes (hints ++ more) =
      (classFault? classes hints).or (classFault? classes more) :=
  List.findSome?_append

theorem classFault?_map {α : Type} (classes : ClassTable) (hint : α → Expr) (l : List α) :
    classFault? classes (l.map hint) = l.findSome? fun a ↦ Fault.of? (classify classes (hint a)) :=
  List.findSome?_map

theorem classFault?_flatMap {α : Type} (classes : ClassTable) (hints : α → List Expr)
    (l : List α) :
    classFault? classes (l.flatMap hints) = l.findSome? fun a ↦ classFault? classes (hints a) := by
  induction l with
  | nil => rfl
  | cons a rest ih =>
    rw [List.flatMap_cons, classFault?_append, ih, List.findSome?_cons]
    cases classFault? classes (hints a) <;> rfl

theorem of?_classifyOptional (classes : ClassTable) (hint : Option Expr) :
    Fault.of? (classifyOptional classes hint) = classFault? classes hint.toList := by
  cases hint with
  | none => rfl
  | some e => simp [classFault?, classifyOptional]

theorem of?_functionSignature (classes : ClassTable) (owner : Option ClassDef) (d : FunctionDef) :
    Fault.of? (functionSignature classes owner d) = classFault? classes (d.hints owner) := by
  rw [FunctionOf.hints, classFault?_append, classFault?_flatMap, ← of?_classifyOptional,
    functionSignature, Fault.of?_bind, Fault.of?_mapM]
  · congr 2
    funext p
    rw [← of?_classifyOptional]
    exact Fault.of?_bind_pure _
  · intro parameters
    exact Fault.of?_bind_pure _

theorem of?_mapM_functionSignature (classes : ClassTable) (owner : Option ClassDef)
    (functions : List FunctionDef) :
    Fault.of? (functions.mapM (functionSignature classes owner)) =
      classFault? classes (functions.flatMap (·.hints owner)) := by
  rw [Fault.of?_mapM, classFault?_flatMap]
  simp only [of?_functionSignature]

theorem of?_classify (classes : ClassTable) (e : Expr) :
    Fault.of? (classify classes e) = classFault? classes [e] := by
  cases h : Fault.of? (classify classes e) <;> simp [classFault?, h]

theorem of?_callableSignature? (classes : ClassTable) (e : Expr) :
    Fault.of? (callableSignature? classes e) = classFault? classes (callableHints e) := by
  fun_cases callableSignature? classes e with
  | case1 value result hvalue items =>
    have hitems := classFault?_map classes Prod.fst items.zipIdx
    rw [List.zipIdx_map_fst] at hitems
    rw [callableHints, if_pos hvalue, classFault?_append, ← of?_classify, hitems, Fault.of?_bind,
      Fault.of?_mapM]
    · congr 2
      funext item
      exact Fault.of?_bind_pure _
    · intro parameters
      exact Fault.of?_bind_pure _
  | case2 value parameters result hvalue hparameters =>
    have hhints : callableHints (.subscript value (.tuple [parameters, result])) = [result] := by
      rw [callableHints, if_pos hvalue]
      exact hparameters
    rw [hhints, ← of?_classify]
    exact Fault.of?_bind_pure _
  | case3 value parameters result hvalue =>
    have hhints : callableHints (.subscript value (.tuple [parameters, result])) = [] := by
      rw [callableHints.eq_def]
      exact if_neg hvalue
    rw [hhints]
    rfl
  | case4 e hother =>
    rw [callableHints]
    · rfl
    · exact hother

theorem of?_dataclassSignature (classes : ClassTable) (d : ClassDef) :
    Fault.of? (dataclassSignature classes d) =
      classFault? classes ((classes.ancestry d).fields.map (·.2.typeHint)) := by
  rw [dataclassSignature, Fault.of?_bind_pure, Fault.of?_mapM, classFault?_map]
  · congr 1
    funext field
    exact Fault.of?_bind_pure _

theorem of?_constructorSignatures (classes : ClassTable) (d : ClassDef) :
    Fault.of? (constructorSignatures classes d) =
      classFault? classes (constructorHints classes d) := by
  unfold constructorSignatures constructorHints
  cases (classes.ancestry d).constructor? with
  | none => rfl
  | some owner =>
    simp only [ownConstructorSignatures]
    cases owner.initializers.getLast? with
    | some last => exact of?_mapM_functionSignature classes (some owner) _
    | none =>
      simp only [← of?_dataclassSignature]
      exact Fault.of?_bind_pure _

/-- The signatures of a symbol fail at the first of its annotations that has no class. -/
theorem of?_signatures (m : SourceModule) (s : Symbol) :
    Fault.of? (m.signatures s) = classFault? m.classes (m.hints s) := by
  unfold SourceModule.signatures SourceModule.hints
  cases s.site with
  | none => rfl
  | some site =>
    cases site with
    | function earlier last owner => exact of?_mapM_functionSignature m.classes owner _
    | classDef d => exact of?_constructorSignatures m.classes d
    | annotated typeHint value =>
      exact (Fault.of?_map _).trans (of?_callableSignature? m.classes typeHint)
    | parameter p =>
      cases hhint : p.typeHint with
      | none => simp [hhint, Fault.of?, classFault?]
      | some typeHint =>
        simp only [hhint]
        exact (Fault.of?_map _).trans (of?_callableSignature? m.classes typeHint)
    | assignment value => cases value <;> rfl

theorem isClassified_functionSignature {classes : ClassTable} {owner : Option ClassDef}
    {d : FunctionDef} {s : Signature} (h : functionSignature classes owner d = .ok s) :
    s.IsClassified := by
  obtain ⟨parameters, hparameters, h⟩ := Fault.bind_eq_ok_iff.1 h
  obtain ⟨returnType, -, h⟩ := Fault.bind_eq_ok_iff.1 h
  cases h
  intro p hp
  obtain ⟨param, -, hparam⟩ := Fault.exists_of_mem_mapM hparameters hp
  obtain ⟨type, htype, hparam⟩ := Fault.bind_eq_ok_iff.1 hparam
  cases hparam
  exact isKnown_of_classifyOptional htype

theorem isClassified_callableSignature? {classes : ClassTable} {e : Expr} {found : Option Signature}
    (h : callableSignature? classes e = .ok found) : ∀ s ∈ found, s.IsClassified := by
  rintro s rfl
  unfold callableSignature? at h
  split at h
  · split at h
    · split at h
      · obtain ⟨parameters, hparameters, h⟩ := Fault.bind_eq_ok_iff.1 h
        obtain ⟨returnType, -, h⟩ := Fault.bind_eq_ok_iff.1 h
        cases h
        intro p hp
        obtain ⟨item, -, hitem⟩ := Fault.exists_of_mem_mapM hparameters hp
        obtain ⟨type, htype, hitem⟩ := Fault.bind_eq_ok_iff.1 hitem
        cases hitem
        exact isKnown_of_classify htype
      · obtain ⟨returnType, -, h⟩ := Fault.bind_eq_ok_iff.1 h
        cases h
        exact fun p hp ↦ absurd hp List.not_mem_nil
    · cases h
  · cases h

theorem isClassified_dataclassSignature {classes : ClassTable} {d : ClassDef} {s : Signature}
    (h : dataclassSignature classes d = .ok s) : s.IsClassified := by
  obtain ⟨fields, hfields, h⟩ := Fault.bind_eq_ok_iff.1 h
  cases h
  intro p hp
  obtain ⟨⟨parameter, f⟩, hfield, rfl⟩ := List.mem_map.1 hp
  have hmem : (parameter, f) ∈ fields := by
    rcases List.mem_append.1 hfield with h | h <;> exact (List.mem_filter.1 h).1
  obtain ⟨⟨name, field⟩, -, hfield⟩ := Fault.exists_of_mem_mapM hfields hmem
  obtain ⟨type, htype, hfield⟩ := Fault.bind_eq_ok_iff.1 hfield
  cases hfield
  exact isKnown_of_classify htype

theorem isClassified_mapM_functionSignature {classes : ClassTable} {owner : Option ClassDef}
    {functions : List FunctionDef} {signatures : List Signature}
    (h : functions.mapM (functionSignature classes owner) = .ok signatures) :
    ∀ s ∈ signatures, s.IsClassified := by
  intro s hs
  obtain ⟨d, -, hd⟩ := Fault.exists_of_mem_mapM h hs
  exact isClassified_functionSignature hd

theorem isClassified_constructorSignatures {classes : ClassTable} {d : ClassDef}
    {signatures : List Signature} (h : constructorSignatures classes d = .ok signatures) :
    ∀ s ∈ signatures, s.IsClassified := by
  unfold constructorSignatures at h
  split at h
  · unfold ownConstructorSignatures at h
    split at h
    · exact isClassified_mapM_functionSignature h
    · obtain ⟨s, hs, h⟩ := Fault.bind_eq_ok_iff.1 h
      cases h
      exact List.forall_mem_singleton.2 (isClassified_dataclassSignature hs)
  · cases h
    exact List.forall_mem_singleton.2 fun p hp ↦ absurd hp List.not_mem_nil

omit [CharacterNames] in
theorem isClassified_lambdaSignature (params : Params Expr) :
    (lambdaSignature params).IsClassified := by
  intro p hp
  obtain ⟨param, -, rfl⟩ := List.mem_map.1 hp
  exact fun name ↦ TypeDescriptor.noConfusion

/-- All signatures of a source text have known types. -/
theorem isClassified_signatures {m : SourceModule} {symbol : Symbol} {signatures : List Signature}
    (h : m.signatures symbol = .ok signatures) : ∀ s ∈ signatures, s.IsClassified := by
  have hcallable {e : Expr}
      (h : (callableSignature? m.classes e).map Option.toList = .ok signatures) :
      ∀ s ∈ signatures, s.IsClassified := by
    obtain ⟨found, hfound, rfl⟩ := Fault.map_eq_ok_iff.1 h
    intro s hs
    exact isClassified_callableSignature? hfound s (Option.mem_toList.1 hs)
  unfold SourceModule.signatures at h
  split at h
  · cases h
    simp
  · exact isClassified_mapM_functionSignature h
  · exact isClassified_constructorSignatures h
  · split at h
    · exact hcallable h
    · cases h
      simp
  · exact hcallable h
  · cases h
    exact List.forall_mem_singleton.2 (isClassified_lambdaSignature _)
  · cases h
    simp

end Source

namespace Snapshot

theorem isKnown_asFunction (t : TypeSnapshot) : t.asFunction.IsKnown := by
  intro name
  unfold TypeSnapshot.asFunction
  split <;> exact TypeDescriptor.noConfusion

/-- All types of snapshots are known. -/
theorem isKnown_classify (t : TypeSnapshot) : t.classify.IsKnown := by
  intro name
  unfold TypeSnapshot.classify
  split
  · cases t.primitive? <;> exact TypeDescriptor.noConfusion
  · split <;> exact TypeDescriptor.noConfusion
  · exact isKnown_asFunction t name
  · split
    · exact isKnown_asFunction t name
    · split <;> exact TypeDescriptor.noConfusion
  · exact TypeDescriptor.noConfusion

/-- The types of a snapshot are classified. -/
theorem isClassified_signature (s : SignatureSnapshot) : s.signature.IsClassified := by
  intro p hp
  obtain ⟨parameter, -, rfl⟩ := List.mem_map.1 hp
  intro name
  change classifyOptional parameter.type ≠ .unclassified name
  cases parameter.type with
  | none => exact TypeDescriptor.noConfusion
  | some t => exact isKnown_classify t name

end Snapshot

end CallCompletion
