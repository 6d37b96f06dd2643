import CallCompletion.Proofs.Classification
import CallCompletion.Proofs.LexicalScopes
import Mathlib.Data.List.Forall2
import Mathlib.Data.List.TakeWhile

/-!
# Required parameters

A signature lists the parameters that a call shows and says how many of them have to be given. What
a definition demands can be read off its parameters one by one: the first ones that are given by
position and have no default value, without the receiver of a method. The count comes about in
different ways for functions, nameless functions, callable types and generated initializers. For
whatever resolves in a module it is the number of these parameters.
-/

namespace CallCompletion

/-- What every step makes of its element holds of all that come out. -/
theorem Fault.forall₂_of_mapM {α β : Type} {R : α → β → Prop} {g : α → Except Fault β} {l : List α}
    {out : List β} (h : l.mapM g = .ok out) (hstep : ∀ a ∈ l, ∀ b, g a = .ok b → R a b) :
    List.Forall₂ R l out := by
  induction l generalizing out with
  | nil =>
    cases h
    exact .nil
  | cons a rest ih =>
    rw [List.mapM_cons] at h
    obtain ⟨b, hb, h⟩ := bind_eq_ok_iff.1 h
    obtain ⟨more, hmore, h⟩ := bind_eq_ok_iff.1 h
    cases h
    obtain ⟨hfirst, hrest⟩ := List.forall_mem_cons.1 hstep
    exact .cons (hfirst b hb) (ih hmore hrest)

/-- What every step leaves as it is stays as it is in all of them. -/
theorem Fault.map_eq_of_mapM {α β γ : Type} {g : α → Except Fault β} {l : List α} {out : List β}
    (h : l.mapM g = .ok out) {before : α → γ} {after : β → γ}
    (hstep : ∀ a b, g a = .ok b → after b = before a) : out.map after = l.map before := by
  have hsteps := (forall₂_of_mapM h fun a _ b ↦ hstep a b).flip
  rw [← List.forall₂_eq_eq_eq, List.forall₂_map_left_iff, List.forall₂_map_right_iff]
  exact hsteps

theorem mem_of_mem_firstOfEach {α : Type} {key : α → String} {l : List α} {a : α}
    (h : a ∈ firstOfEach key l) : a ∈ l := by
  induction l with
  | nil => cases h
  | cons b rest ih =>
    rcases List.mem_cons.1 h with rfl | h
    · exact List.mem_cons_self
    · exact List.mem_cons_of_mem b (ih (List.mem_filter.1 h).1)

namespace Source

/-! ## What a definition demands -/

/-- How an argument is given for a parameter. -/
inductive Passing where
  | byPosition | variadic | byKeyword | keywordRest
  deriving DecidableEq, Repr

/-- A parameter as its definition declares it. A call does not give the receiver of a method. -/
structure Formal where
  name : String
  passing : Passing
  hasDefault : Bool
  isReceiver : Bool := false
  deriving DecidableEq, Repr

namespace Formal

/-- Whether a parameter has to be given by position. -/
def isRequired (f : Formal) : Bool := f.passing = .byPosition && !f.hasDefault

/-- The parameters that a call can give. -/
def given (formals : List Formal) : List Formal := formals.filter (!·.isReceiver)

/-- The leading parameters that a call has to give. -/
def required (formals : List Formal) : List Formal := (given formals).takeWhile isRequired

end Formal

/-- A parameter passed in some way. -/
def Param.formal (passing : Passing) (p : Param Expr) : Formal :=
  { name := p.name, passing, hasDefault := p.fallback.isSome }

namespace Params

/-- The parameters that cannot be given by position. -/
def othersFormal (p : Params Expr) : List Formal :=
  p.variadic.toList.map (·.formal .variadic) ++ p.keywordOnly.map (·.formal .byKeyword) ++
    p.keywordRest.toList.map (·.formal .keywordRest)

/-- The parameters of a list as they are declared. -/
def formals (p : Params Expr) : List Formal :=
  p.byPosition.map (·.formal .byPosition) ++ p.othersFormal

/-- The parameters given by position have their default values at the end. -/
def DefaultsLast (p : Params Expr) : Prop :=
  p.byPosition.Pairwise fun a b ↦ a.fallback.isSome → b.fallback.isSome

instance (p : Params Expr) : Decidable p.DefaultsLast :=
  inferInstanceAs (Decidable (p.byPosition.Pairwise _))

end Params

/-- The parameters of a function. A method that is not static receives its instance, or its class,
in the first one that is given by position. -/
def FunctionOf.formals (d : FunctionDef) (isMethod : Bool) : List Formal :=
  let positional := d.params.byPosition.map (Param.formal .byPosition)
  positional.modifyHead ({ · with isReceiver := isMethod && !d.isStatic }) ++ d.params.othersFormal

/-- The parameters of a callable type, if it is one. Where it does not list them none is known. -/
def callableFormals? : Expr → Option (List Formal)
  | .subscript value (.tuple [parameters, _]) =>
    if value.lastSegment? = some "Callable" then
      match parameters with
      | .list items =>
        some (items.zipIdx.map fun (_, i) ↦
          { name := "arg" ++ toString i, passing := .byPosition, hasDefault := false })
      | _ => some []
    else none
  | _ => none

/-- A field as a parameter of the generated initializer. -/
def Field.formal (name : String) (f : Field) : Formal :=
  { name, passing := if f.keywordOnly then .byKeyword else .byPosition, hasDefault := f.hasDefault }

/-- The parameters of a generated initializer: those given by keyword come last. -/
def generatedFormals (fields : Table Field) : List Formal :=
  (fields.filter (!·.2.keywordOnly) ++ fields.filter (·.2.keywordOnly)).map fun (name, f) ↦
    f.formal name

/-- The parameters with which a class is constructed, in each way to do it. -/
def constructorFormals (classes : ClassTable) (d : ClassDef) : List (List Formal) :=
  match (classes.ancestry d).constructor? with
  | none => [[]]
  | some owner =>
    match owner.initializers.getLast? with
    | some last => (chosenFunctions owner.initializers.dropLast last).map (·.formals true)
    | none => [generatedFormals (classes.ancestry owner).fields]

/-- The parameters with which a symbol is called, in each way to do it. -/
def SourceModule.formals (m : SourceModule) (s : Symbol) : List (List Formal) :=
  match s.site with
  | none => []
  | some (.function earlier last _) =>
    (chosenFunctions earlier last).map (·.formals (s.kind = .method))
  | some (.classDef d) => constructorFormals m.classes d
  | some (.parameter p) => (p.typeHint.bind callableFormals?).toList
  | some (.annotated typeHint _) => (callableFormals? typeHint).toList
  | some (.assignment (.lambda params _)) => [params.formals]
  | some (.assignment _) => []

end Source

open Source in
/-- A signature that demands what a definition with given parameters does: it shows parameters that
a call can give, in their order, and its required ones are the leading ones without a default
value. -/
structure Signature.Demands (s : Signature) (formals : List Formal) : Prop where
  bounds : 0 ≤ s.minArguments ∧ s.minArguments ≤ s.parameters.length
  listed : s.parameters.map (·.name) <+: (Formal.given formals).map (·.name)
  required : s.requiredParameters.map (·.name) = (Formal.required formals).map (·.name)
  plain : ∀ f ∈ Formal.required formals,
    f.passing = .byPosition ∧ f.hasDefault = false ∧ f.isReceiver = false

namespace Source

theorem Formal.plain_of_mem_required {formals : List Formal} {f : Formal}
    (h : f ∈ Formal.required formals) :
    f.passing = .byPosition ∧ f.hasDefault = false ∧ f.isReceiver = false := by
  have hrequired : f.isRequired = true := List.mem_takeWhile_imp h
  have hgiven := List.mem_filter.1 (List.takeWhile_subset _ h)
  simpa [isRequired, and_assoc] using And.intro hrequired hgiven.2

/-- The count of the leading parameters without a default value is all that a signature has to get
right. -/
theorem demands_of_minArguments {s : Signature} {formals : List Formal}
    (hlisted : s.parameters.map (·.name) <+: (Formal.given formals).map (·.name))
    (hmin : s.minArguments = (Formal.required formals).length)
    (hle : (Formal.required formals).length ≤ s.parameters.length) : s.Demands formals where
  bounds := by omega
  listed := hlisted
  required := by
    have htake : Formal.required formals =
        (Formal.given formals).take (Formal.required formals).length :=
      List.prefix_iff_eq_take.1 (List.takeWhile_prefix _)
    have hnames : (s.parameters.map (·.name)).take (Formal.required formals).length =
        ((Formal.given formals).map (·.name)).take (Formal.required formals).length := by
      obtain ⟨more, hmore⟩ := hlisted
      rw [← hmore, List.take_append_of_le_length (by simpa using hle)]
    calc s.requiredParameters.map (·.name)
        = (s.parameters.map (·.name)).take (Formal.required formals).length := by
          rw [Signature.requiredParameters, hmin, Int.toNat_natCast, List.map_take]
      _ = ((Formal.given formals).take (Formal.required formals).length).map (·.name) := by
          rw [hnames, List.map_take]
      _ = (Formal.required formals).map (·.name) := by rw [← htake]
  plain _ hf := Formal.plain_of_mem_required hf

theorem demands_nil (returnType : TypeDescriptor) : Signature.Demands { returnType } [] := by
  apply demands_of_minArguments
  · exact List.prefix_rfl
  · rfl
  · exact Nat.le_refl _

/-! ## Parameter lists -/

/-- Nothing is required after the parameters that can be given by position. -/
theorem takeWhile_isRequired_append {formals others : List Formal}
    (hothers : ∀ f ∈ others, f.isRequired = false) :
    (formals ++ others).takeWhile Formal.isRequired = formals.takeWhile Formal.isRequired := by
  have hnone : others.takeWhile Formal.isRequired = [] := by
    apply List.takeWhile_eq_nil_iff.2
    intro hlength
    rw [hothers _ (others.get_mem _)]
    exact Bool.false_ne_true
  rw [List.takeWhile_append, hnone, List.append_nil]
  split
  · rename_i hlength
    exact ((List.takeWhile_prefix _).eq_of_length hlength).symm
  · rfl

/-- Where default values stand at the end, the parameters before them are counted by leaving them
out. -/
theorem length_takeWhile_isRequired {positional : List (Param Expr)}
    (hdefaults : positional.Pairwise fun a b ↦ a.fallback.isSome → b.fallback.isSome) :
    ((positional.map (Param.formal .byPosition)).takeWhile Formal.isRequired).length =
      positional.length - fallbackCount positional := by
  induction positional with
  | nil => rfl
  | cons p rest ih =>
    obtain ⟨hp, hrest⟩ := List.pairwise_cons.1 hdefaults
    have hcount : fallbackCount rest ≤ rest.length := List.countP_le_length
    rw [List.map_cons]
    cases hdefault : p.fallback.isSome with
    | true =>
      have hall : fallbackCount (p :: rest) = (p :: rest).length := by
        apply List.countP_eq_length.2
        intro q hq
        rcases List.mem_cons.1 hq with rfl | hq
        · exact hdefault
        · exact hp q hq hdefault
      rw [List.takeWhile_cons_of_neg (by simp [Formal.isRequired, Param.formal, hdefault]), hall,
        Nat.sub_self, List.length_nil]
    | false =>
      have hsame : fallbackCount (p :: rest) = fallbackCount rest :=
        List.countP_cons_of_neg (by simp [hdefault])
      rw [List.takeWhile_cons_of_pos (by simp [Formal.isRequired, Param.formal, hdefault]),
        List.length_cons, ih hrest, hsame, List.length_cons]
      omega

theorem Params.isRequired_of_mem_othersFormal {p : Params Expr} {f : Formal}
    (h : f ∈ p.othersFormal) : f.isRequired = false := by
  simp only [othersFormal, List.mem_append, List.mem_map] at h
  rcases h with (⟨q, -, rfl⟩ | ⟨q, -, rfl⟩) | ⟨q, -, rfl⟩ <;> rfl

theorem Formal.given_append (formals formals' : List Formal) :
    given (formals ++ formals') = given formals ++ given formals' := List.filter_append ..

theorem Formal.given_map_formal (passing : Passing) (params : List (Param Expr)) :
    given (params.map (Param.formal passing)) = params.map (Param.formal passing) := by
  apply List.filter_eq_self.2
  intro f hf
  obtain ⟨p, -, rfl⟩ := List.mem_map.1 hf
  rfl

theorem Params.given_othersFormal (p : Params Expr) :
    Formal.given p.othersFormal = p.othersFormal := by
  simp only [othersFormal, Formal.given_append, Formal.given_map_formal]

/-! ## The ways to make a signature -/

section Functions

variable (d : FunctionDef) (owner : Option ClassDef)

/-- A call gives the positional parameters after the receiver, and all others. -/
theorem given_functionFormals :
    Formal.given (d.formals owner.isSome) =
      (callPositional d owner).map (Param.formal .byPosition) ++ d.params.othersFormal := by
  rw [FunctionOf.formals, Formal.given_append, d.params.given_othersFormal, callPositional]
  congr 1
  cases hpositional : d.params.byPosition with
  | nil => simp [Formal.given]
  | cons p rest =>
    rw [List.map_cons, List.modifyHead_cons, Formal.given]
    cases hreceiver : owner.isSome && !d.isStatic with
    | true => simp [Param.formal]
    | false => simp [Param.formal]

theorem pairwise_callPositional {d : FunctionDef} (hdefaults : d.params.DefaultsLast) :
    (callPositional d owner).Pairwise fun a b ↦ a.fallback.isSome → b.fallback.isSome := by
  unfold callPositional
  split
  · exact List.Pairwise.sublist (List.drop_sublist 1 _) hdefaults
  · exact hdefaults

/-- The receiver is left out of the parameters but its default value is counted. This makes no
difference: if it has one, so have all parameters after it. -/
theorem requiredCount_eq {d : FunctionDef} (hdefaults : d.params.DefaultsLast) :
    requiredCount d owner =
      (callPositional d owner).length - fallbackCount (callPositional d owner) := by
  unfold Params.DefaultsLast at hdefaults
  unfold requiredCount callPositional
  split
  · cases hpositional : d.params.byPosition with
    | nil => rfl
    | cons p rest =>
      rw [hpositional, List.pairwise_cons] at hdefaults
      rw [List.drop_one, List.tail_cons]
      cases hdefault : p.fallback.isSome with
      | true =>
        have hrest : fallbackCount rest = rest.length :=
          List.countP_eq_length.2 fun q hq ↦ hdefaults.1 q hq hdefault
        have hall : fallbackCount (p :: rest) = fallbackCount rest + 1 :=
          List.countP_cons_of_pos hdefault
        omega
      | false =>
        have hsame : fallbackCount (p :: rest) = fallbackCount rest :=
          List.countP_cons_of_neg (by simp [hdefault])
        rw [hsame]
  · rfl

theorem length_required_functionFormals {d : FunctionDef} (hdefaults : d.params.DefaultsLast) :
    (Formal.required (d.formals owner.isSome)).length = requiredCount d owner := by
  rw [Formal.required, given_functionFormals,
    takeWhile_isRequired_append fun _ ↦ Params.isRequired_of_mem_othersFormal,
    requiredCount_eq owner hdefaults]
  exact length_takeWhile_isRequired (pairwise_callPositional owner hdefaults)

theorem map_name_given_functionFormals :
    (Formal.given (d.formals owner.isSome)).map (·.name) =
      (callParameters d owner).map (·.name) := by
  rw [given_functionFormals, callParameters, Params.othersFormal]
  simp [Param.formal, Function.comp_def]

variable {d owner}

/-- The signature of a function demands its required parameters. -/
theorem demands_functionSignature [CharacterNames] {classes : ClassTable} {s : Signature}
    (hdefaults : d.params.DefaultsLast) (h : functionSignature classes owner d = .ok s) :
    s.Demands (d.formals owner.isSome) := by
  obtain ⟨parameters, hparameters, h⟩ := Fault.bind_eq_ok_iff.1 h
  obtain ⟨returnType, -, h⟩ := Fault.bind_eq_ok_iff.1 h
  cases h
  have hnames : parameters.map (·.name) = (callParameters d owner).map (·.name) := by
    apply Fault.map_eq_of_mapM hparameters
    intro p parameter hp
    obtain ⟨type, -, hp⟩ := Fault.bind_eq_ok_iff.1 hp
    cases hp
    rfl
  have hlength : parameters.length = (callParameters d owner).length := by
    simpa using congrArg List.length hnames
  have hrequired := length_required_functionFormals owner hdefaults
  apply demands_of_minArguments
  · rw [map_name_given_functionFormals]
    exact hnames ▸ List.prefix_rfl
  · rw [hrequired]
  · rw [hrequired, hlength]
    simp only [requiredCount, callParameters, List.length_append]
    omega

end Functions

theorem demands_lambdaSignature {params : Params Expr} (hdefaults : params.DefaultsLast) :
    (lambdaSignature params).Demands params.formals := by
  have hgiven : Formal.given params.formals = params.formals := by
    rw [Params.formals, Formal.given_append, Formal.given_map_formal, params.given_othersFormal]
  have hlength : (Formal.required params.formals).length =
      params.byPosition.length - fallbackCount params.byPosition := by
    rw [Formal.required, hgiven, Params.formals,
      takeWhile_isRequired_append fun _ ↦ Params.isRequired_of_mem_othersFormal]
    exact length_takeWhile_isRequired hdefaults
  apply demands_of_minArguments
  · rw [hgiven, Params.formals, List.map_append]
    simp [lambdaSignature, Param.formal, Function.comp_def]
  · have hcount : fallbackCount params.byPosition ≤ params.byPosition.length :=
      List.countP_le_length
    have hmin : (lambdaSignature params).minArguments =
        (params.byPosition.length : Int) - fallbackCount params.byPosition := rfl
    omega
  · rw [hlength, lambdaSignature, List.length_map]
    omega

theorem demands_callableSignature? [CharacterNames] {classes : ClassTable} {e : Expr}
    {found : Option Signature}
    (h : callableSignature? classes e = .ok found) :
    List.Forall₂ Signature.Demands found.toList (callableFormals? e).toList := by
  fun_cases callableFormals? e with
  | case1 value result hcallable items =>
    simp only [callableSignature?, if_pos hcallable] at h
    obtain ⟨parameters, hparameters, h⟩ := Fault.bind_eq_ok_iff.1 h
    obtain ⟨returnType, -, h⟩ := Fault.bind_eq_ok_iff.1 h
    cases h
    have hnames : parameters.map (·.name) =
        items.zipIdx.map fun item ↦ "arg" ++ toString item.2 := by
      apply Fault.map_eq_of_mapM hparameters
      intro item parameter hitem
      obtain ⟨type, -, hitem⟩ := Fault.bind_eq_ok_iff.1 hitem
      cases hitem
      rfl
    refine .cons ?_ .nil
    generalize hformals : items.zipIdx.map _ = formals
    have hplain : ∀ f ∈ formals, f.isReceiver = false ∧ f.isRequired = true := by
      rw [← hformals, List.forall_mem_map]
      exact fun _ _ ↦ ⟨rfl, rfl⟩
    have hgiven : Formal.given formals = formals :=
      List.filter_eq_self.2 fun f hf ↦ by simp [hplain f hf]
    have hrequired : Formal.required formals = formals := by
      rw [Formal.required, hgiven, List.takeWhile_eq_self_iff]
      exact fun f hf ↦ (hplain f hf).2
    have hlength : parameters.length = formals.length := by
      have := congrArg List.length hnames
      rw [List.length_map, List.length_map] at this
      rw [this, ← hformals, List.length_map]
    apply demands_of_minArguments
    · rw [hgiven, ← hformals, List.map_map]
      exact hnames ▸ List.prefix_rfl
    · rw [hrequired, ← hlength]
    · rw [hrequired, ← hlength]
  | case2 value parameters result hcallable hlist =>
    simp only [callableSignature?, if_pos hcallable] at h
    obtain ⟨returnType, -, h⟩ := Fault.bind_eq_ok_iff.1 h
    cases h
    exact .cons (demands_nil returnType) .nil
  | case3 value parameters result hcallable =>
    simp only [callableSignature?, if_neg hcallable] at h
    cases h
    exact .nil
  | case4 e hshape =>
    rw [callableSignature?] at h
    · cases h
      exact .nil
    · exact hshape

/-- A generated signature demands the fields without a default. -/
theorem demands_dataclassSignature [CharacterNames] {classes : ClassTable} {d : ClassDef}
    {s : Signature}
    (h : dataclassSignature classes d = .ok s) :
    s.Demands (generatedFormals (classes.ancestry d).fields) := by
  obtain ⟨fields, hfields, h⟩ := Fault.bind_eq_ok_iff.1 h
  cases h
  -- Classifying the fields leaves their names and the fields themselves as they are.
  have htable : fields.map (fun e ↦ (e.1.name, e.2)) = (classes.ancestry d).fields.map id := by
    apply Fault.map_eq_of_mapM hfields
    rintro ⟨name, f⟩ ⟨parameter, g⟩ hfield
    obtain ⟨type, -, hfield⟩ := Fault.bind_eq_ok_iff.1 hfield
    cases hfield
    rfl
  rw [List.map_id] at htable
  have hformals : generatedFormals (classes.ancestry d).fields =
      (fields.filter (!·.2.keywordOnly)).map (fun e ↦ e.2.formal e.1.name) ++
        (fields.filter (·.2.keywordOnly)).map (fun e ↦ e.2.formal e.1.name) := by
    simp [generatedFormals, ← htable, List.filter_map, Function.comp_def]
  have hgiven : Formal.given (generatedFormals (classes.ancestry d).fields) =
      generatedFormals (classes.ancestry d).fields := by
    apply List.filter_eq_self.2
    intro f hf
    obtain ⟨⟨name, field⟩, -, rfl⟩ := List.mem_map.1 hf
    rfl
  have hrequired : Formal.required (generatedFormals (classes.ancestry d).fields) =
      ((fields.filter (!·.2.keywordOnly)).takeWhile (!·.2.hasDefault)).map
        (fun e ↦ e.2.formal e.1.name) := by
    rw [Formal.required, hgiven, hformals, takeWhile_isRequired_append, List.takeWhile_map,
      List.takeWhile_filter, List.takeWhile_filter]
    · congr 3
      funext e
      cases hkeyword : e.2.keywordOnly <;> simp [Formal.isRequired, Field.formal, hkeyword]
    · intro f hf
      obtain ⟨e, he, rfl⟩ := List.mem_map.1 hf
      simp [Formal.isRequired, Field.formal, (List.mem_filter.1 he).2]
  apply demands_of_minArguments
  · rw [hgiven, hformals]
    simp [Field.formal, Function.comp_def]
  · rw [hrequired, List.length_map]
  · rw [hrequired, List.length_map, List.length_map, List.length_append]
    exact Nat.le_add_right_of_le (List.takeWhile_prefix _).length_le

/-! ## Constructors -/

theorem exists_of_firstConstructor? {ancestries : List Ancestry} {owner : ClassDef}
    (h : Ancestry.firstConstructor? ancestries = some owner) :
    ∃ a ∈ ancestries, a.constructor? = some owner := by
  induction ancestries with
  | nil => cases h
  | cons a rest ih =>
    rw [Ancestry.firstConstructor?, Option.or_eq_some_iff] at h
    rcases h with h | ⟨-, h⟩
    · exact ⟨a, List.mem_cons_self, h⟩
    · obtain ⟨b, hb, hconstructor⟩ := ih h
      exact ⟨b, List.mem_cons_of_mem a hb, hconstructor⟩

theorem mem_of_constructor? (candidates : List ClassDef) (d : ClassDef) {owner : ClassDef}
    (h : (ancestryAmong candidates d).constructor? = some owner) :
    owner = d ∨ owner ∈ candidates := by
  rw [ancestryAmong, Ancestry.constructor?] at h
  split at h
  · cases h
    exact .inl rfl
  · obtain ⟨a, ha, hconstructor⟩ := exists_of_firstConstructor? h
    obtain ⟨base, -, hbase⟩ := List.mem_filterMap.1 ha
    split at hbase
    · cases hbase
    · rename_i parent hparent
      cases hbase
      have hmem := mem_of_baseAmong hparent
      have := length_remaining_lt d hmem
      have hparents := mem_of_constructor? (remaining candidates d parent) parent hconstructor
      rcases hparents with rfl | howner
      · exact .inr hmem
      · exact .inr (List.mem_filter.1 howner).1
termination_by candidates.length

/-! ## The parameter lists of a module -/

/-- The parameters of a nameless function. -/
def Expr.lambdaParams? : Expr → Option (Params Expr)
  | .lambda params _ => some params
  | _ => none

mutual

/-- The parameter lists in a statement: those of functions, and of nameless functions that are
assigned. -/
def Stmt.parameterLists : Stmt → List (Params Expr)
  | .function ⟨_, _, _, params, body, _, _⟩ => params :: parameterListsIn body
  | .classDef ⟨_, _, _, body, _⟩ => parameterListsIn body
  | .assign _ _ value => value.lambdaParams?.toList
  | .annotate .. => []
  | .expression .. => []
  | .other _ _ suites => parameterListsInSuites suites

/-- The parameter lists in statements. -/
def parameterListsIn : List Stmt → List (Params Expr)
  | [] => []
  | s :: rest => s.parameterLists ++ parameterListsIn rest

/-- The parameter lists in the blocks of a statement. -/
def parameterListsInSuites : List (Suite Stmt) → List (Params Expr)
  | [] => []
  | ⟨_, body⟩ :: rest => parameterListsIn body ++ parameterListsInSuites rest

end

theorem subset_parameterListsIn {s : Stmt} {body : List Stmt} (h : s ∈ body) :
    s.parameterLists ⊆ parameterListsIn body := by
  induction body with
  | nil => cases h
  | cons t rest ih =>
    rw [parameterListsIn]
    rcases List.mem_cons.1 h with rfl | h
    · exact List.subset_append_left _ _
    · exact List.subset_append_of_subset_right _ (ih h)

theorem mem_flatten_mergeLevels {α : Type} {a : α} {xs ys : List (List α)}
    (h : a ∈ (mergeLevels xs ys).flatten) : a ∈ xs.flatten ∨ a ∈ ys.flatten := by
  fun_induction mergeLevels xs ys with
  | case1 ys => exact .inr h
  | case2 xs _ => exact .inl h
  | case3 x xs y ys ih =>
    simp only [List.flatten_cons, List.mem_append] at h ⊢
    rcases h with (h | h) | h
    · exact .inl (.inl h)
    · exact .inr (.inl h)
    · exact (ih h).imp .inr .inr

mutual

/-- The parameter lists in a class are among those of the statement in which it is. -/
theorem subset_of_mem_classLevels {c : ClassDef} (s : Stmt) (h : c ∈ (classLevels s).flatten) :
    parameterListsIn c.body ⊆ s.parameterLists := by
  cases s with
  | function d =>
    obtain ⟨span, isAsync, name, params, body, decorators, returns⟩ := d
    rw [Stmt.parameterLists]
    rw [classLevels, List.flatten_cons, List.nil_append] at h
    exact List.subset_cons_of_subset _ (subset_of_mem_classLevelsIn body h)
  | classDef d =>
    obtain ⟨span, name, bases, body, decorators⟩ := d
    rw [Stmt.parameterLists]
    rw [classLevels, List.flatten_cons, List.singleton_append] at h
    rcases List.mem_cons.1 h with rfl | h
    · exact List.Subset.refl _
    · exact subset_of_mem_classLevelsIn body h
  | other span kind suites =>
    rw [Stmt.parameterLists]
    rw [classLevels, List.flatten_cons, List.nil_append] at h
    exact subset_of_mem_classLevelsInSuites suites h
  | assign => cases h
  | annotate => cases h
  | expression => cases h

theorem subset_of_mem_classLevelsIn {c : ClassDef} (body : List Stmt)
    (h : c ∈ (classLevelsIn body).flatten) : parameterListsIn c.body ⊆ parameterListsIn body := by
  cases body with
  | nil => cases h
  | cons s rest =>
    rw [classLevelsIn] at h
    rw [parameterListsIn.eq_2]
    rcases mem_flatten_mergeLevels h with h | h
    · exact List.subset_append_of_subset_left _ (subset_of_mem_classLevels s h)
    · exact List.subset_append_of_subset_right _ (subset_of_mem_classLevelsIn rest h)

theorem subset_of_mem_classLevelsInSuites {c : ClassDef} (suites : List (Suite Stmt))
    (h : c ∈ (classLevelsInSuites suites).flatten) :
    parameterListsIn c.body ⊆ parameterListsInSuites suites := by
  cases suites with
  | nil => cases h
  | cons suite rest =>
    obtain ⟨deeper, body⟩ := suite
    rw [classLevelsInSuites] at h
    rw [parameterListsInSuites]
    rcases mem_flatten_mergeLevels h with h | h
    · refine List.subset_append_of_subset_left _ (subset_of_mem_classLevelsIn body ?_)
      cases deeper <;> simpa using h
    · exact List.subset_append_of_subset_right _ (subset_of_mem_classLevelsInSuites rest h)

end

/-! ## What resolves -/

namespace SourceModule

variable {m : SourceModule} {name : String} {s : Symbol}

theorem exists_bindings_of_symbolIn? {scope : Scope} (h : m.symbolIn? scope name = some s) :
    ∃ earlier last, scope.bindingsOf name = earlier ++ [last] ∧
      s = m.symbolOf name scope earlier last := by
  obtain ⟨last, hlast, rfl⟩ := Option.map_eq_some_iff.1 h
  exact ⟨_, last, (List.dropLast_append_getLast? last hlast).symm, rfl⟩

/-- The members of a symbol are those of a class with a given property of scopes. -/
def MembersIn (m : SourceModule) (P : Scope → Prop) (s : Symbol) : Prop :=
  ∀ d, m.membersClass? s = some d → P (.classDef d)

section Scopes

variable {P : Scope → Prop} (hchild : ∀ scope, P scope → ∀ child ∈ scope.children, P child)
  (hclass : ∀ d ∈ m.classes, P (.classDef d)) (hmodule : P (.module m.body))
  {position : Option Position}

theorem exists_scope_of_member? {owner : Symbol} (howner : m.MembersIn P owner)
    (h : m.member? owner name = some s) : ∃ scope, P scope ∧ m.symbolIn? scope name = some s := by
  obtain ⟨d, hd, hs⟩ := Option.bind_eq_some_iff.1 h
  exact ⟨.classDef d, howner d hd, hs⟩

include hchild

theorem of_nestedIn {inner outer : Scope} (h : inner.NestedIn outer) (houter : P outer) :
    P inner := by
  induction h with
  | single hmem => exact hchild _ houter _ hmem
  | tail _ hmem ih => exact ih (hchild _ houter _ hmem)

include hmodule in
theorem of_mem_chainAt {scope : Scope} (h : scope ∈ m.chainAt position) : P scope := by
  cases position with
  | none =>
    rw [List.mem_singleton.1 h]
    exact hmodule
  | some place =>
    rcases List.mem_cons.1 (List.mem_reverse.1 h) with rfl | h
    · exact hmodule
    · exact of_nestedIn hchild (nestedIn_of_mem_scopesAt (.module m.body) h) hmodule

include hmodule in
/-- A visible symbol is a symbol of a scope around the position. -/
theorem exists_scope_of_lookup?
    (h : m.lookup? (visibleScopes (m.chainAt position)) name = some s) :
    ∃ scope, P scope ∧ m.symbolIn? scope name = some s := by
  obtain ⟨scope, hscope, hs⟩ := List.exists_of_findSome?_eq_some h
  have hmem := ((mem_visibleScopes_iff (m.pairwise_chainAt position) scope).1 hscope).1
  exact ⟨scope, of_mem_chainAt hchild hmodule hmem, hs⟩

include hclass

/-- The members of what is bound in a scope are those of a class in its body or in the table. -/
theorem membersIn_of_symbolIn? {scope : Scope} (hscope : P scope)
    (hs : m.symbolIn? scope name = some s) : m.MembersIn P s := by
  intro d hd
  obtain ⟨earlier, last, hbindings, rfl⟩ := exists_bindings_of_symbolIn? hs
  have htable (site : Site)
      (h : ((instanceName? site).filter (!·.isEmpty)).bind m.classes.get? = some d) :
      P (.classDef d) := by
    obtain ⟨id, -, hid⟩ := Option.bind_eq_some_iff.1 h
    exact hclass d (List.mem_of_find?_eq_some hid)
  cases last with
  | classDef e =>
    cases hd
    have hbinds := (scope.mem_bindingsOf_iff name (.classDef d)).1 (by simp [hbindings])
    cases hbinds with
    | statement hmem hbinds =>
      cases hbinds
      exact hchild scope hscope _ (List.mem_filterMap.2 ⟨_, hmem, rfl⟩)
  | function e => exact htable (.function [] e none) hd
  | parameter p => exact htable (.parameter p) hd
  | assignment value => exact htable (.assignment value) hd
  | annotated typeHint value => exact htable (.annotated typeHint value) hd

theorem membersIn_of_path {start : Option Symbol} (hstart : ∀ s ∈ start, m.MembersIn P s)
    (segments : List String) :
    ∀ s ∈ segments.foldl (fun s segment ↦ s.bind (m.member? · segment)) start,
      m.MembersIn P s := by
  induction segments generalizing start with
  | nil => exact hstart
  | cons segment rest ih =>
    rw [List.foldl_cons]
    apply ih
    intro s hs
    obtain ⟨owner, howner, hmember⟩ := Option.bind_eq_some_iff.1 hs
    obtain ⟨scope, hscope, hsymbol⟩ := exists_scope_of_member? (hstart owner howner) hmember
    exact membersIn_of_symbolIn? hchild hclass hscope hsymbol

include hmodule

theorem membersIn_of_parentSymbol? {parent : String}
    (h : m.parentSymbol? (m.chainAt position) parent = some s) : m.MembersIn P s := by
  unfold parentSymbol? at h
  split at h
  · cases h
  · rename_i head rest hparent
    refine membersIn_of_path hchild hclass ?_ rest s h
    intro owner howner
    rw [pathHead?] at howner
    split at howner
    · -- The class around the place is one of the scopes around it.
      rename_i d hd
      cases howner
      intro e he
      cases he
      split at hd
      · exact of_mem_chainAt hchild hmodule (mem_of_enclosingClass? hd)
      · cases hd
    · obtain ⟨scope, hscope, hsymbol⟩ := exists_scope_of_lookup? hchild hmodule howner
      exact membersIn_of_symbolIn? hchild hclass hscope hsymbol

/-- Whatever resolves is bound in a scope with a property that the module has, the classes of its
table, and with a scope the definitions in its body. -/
theorem exists_scope_of_resolve {parent : Option String}
    (h : m.resolve name position parent = some s) :
    ∃ scope, P scope ∧ m.symbolIn? scope name = some s := by
  simp only [resolve] at h
  split at h
  · rename_i found hfound
    cases h
    exact exists_scope_of_lookup? hchild hmodule hfound
  · split at h
    · cases h
    · cases h
    · obtain ⟨owner, howner, hmember⟩ := Option.bind_eq_some_iff.1 h
      have hmembers := membersIn_of_parentSymbol? hchild hclass hmodule howner
      exact exists_scope_of_member? hmembers hmember

end Scopes

end SourceModule

/-! ## Signatures -/

/-- A scope whose parameter lists have their default values at the end. -/
def Scope.DefaultsLast (scope : Scope) : Prop :=
  ∀ p ∈ parameterListsIn scope.body, p.DefaultsLast

theorem Scope.DefaultsLast.child {scope child : Scope} (hscope : scope.DefaultsLast)
    (h : child ∈ scope.children) : child.DefaultsLast := by
  obtain ⟨s, hs, hchild⟩ := List.mem_filterMap.1 h
  intro p hp
  apply hscope p (subset_parameterListsIn hs _)
  cases s <;> cases hchild
  · exact List.mem_cons_of_mem _ hp
  · exact hp

theorem Scope.DefaultsLast.classDef {body : List Stmt} (hbody : (Scope.module body).DefaultsLast)
    {d : ClassDef} (h : d ∈ ClassTable.ofStatements body) : (Scope.classDef d).DefaultsLast := by
  intro p hp
  exact hbody p (subset_of_mem_classLevelsIn body (mem_of_mem_firstOfEach h) hp)

theorem Scope.DefaultsLast.function {scope : Scope} (hscope : scope.DefaultsLast) {name : String}
    {d : FunctionDef} (h : .function d ∈ scope.bindingsOf name) : d.params.DefaultsLast := by
  cases (scope.mem_bindingsOf_iff name _).1 h with
  | statement hmem hbinds =>
    cases hbinds
    exact hscope _ (subset_parameterListsIn hmem List.mem_cons_self)

theorem Scope.DefaultsLast.lambda {scope : Scope} (hscope : scope.DefaultsLast) {name : String}
    {params : Params Expr} {result : Expr}
    (h : .assignment (.lambda params result) ∈ scope.bindingsOf name) : params.DefaultsLast := by
  cases (scope.mem_bindingsOf_iff name _).1 h with
  | statement hmem hbinds =>
    cases hbinds
    exact hscope _ (subset_parameterListsIn hmem (List.mem_singleton_self params))

theorem mem_of_mem_chosenFunctions {earlier : List FunctionDef} {last d : FunctionDef}
    (h : d ∈ chosenFunctions earlier last) : d ∈ earlier ++ [last] := by
  unfold chosenFunctions at h
  split at h
  · exact List.mem_append_right _ h
  · exact (List.mem_filter.1 h).1

theorem demands_mapM_functionSignature [CharacterNames] {classes : ClassTable}
    {owner : Option ClassDef}
    {functions : List FunctionDef} {signatures : List Signature}
    (hdefaults : ∀ d ∈ functions, d.params.DefaultsLast)
    (h : functions.mapM (functionSignature classes owner) = .ok signatures) :
    List.Forall₂ Signature.Demands signatures (functions.map (·.formals owner.isSome)) := by
  rw [List.forall₂_map_right_iff]
  apply List.Forall₂.flip
  apply Fault.forall₂_of_mapM h
  intro d hd s hs
  exact demands_functionSignature (hdefaults d hd) hs

/-- The signatures of a class demand what its constructor requires. -/
theorem demands_constructorSignatures [CharacterNames] {classes : ClassTable} {d : ClassDef}
    {signatures : List Signature} (hclass : ∀ c ∈ classes, (Scope.classDef c).DefaultsLast)
    (hd : (Scope.classDef d).DefaultsLast) (h : constructorSignatures classes d = .ok signatures) :
    List.Forall₂ Signature.Demands signatures (constructorFormals classes d) := by
  unfold constructorSignatures at h
  unfold constructorFormals
  cases howner : (classes.ancestry d).constructor? with
  | none =>
    rw [howner] at h
    cases h
    exact .cons (demands_nil _) .nil
  | some owner =>
    have hscope : (Scope.classDef owner).DefaultsLast := by
      rcases mem_of_constructor? _ d howner with rfl | hmem
      · exact hd
      · exact hclass owner (List.mem_filter.1 hmem).1
    rw [howner] at h
    simp only [ownConstructorSignatures] at h ⊢
    cases hlast : owner.initializers.getLast? with
    | none =>
      rw [hlast] at h
      obtain ⟨s, hs, h⟩ := Fault.bind_eq_ok_iff.1 h
      cases h
      exact .cons (demands_dataclassSignature hs) .nil
    | some last =>
      rw [hlast] at h
      refine demands_mapM_functionSignature ?_ h
      intro e he
      have hmem := mem_of_mem_chosenFunctions he
      rw [List.dropLast_append_getLast? last hlast] at hmem
      obtain ⟨b, hb, hfunction⟩ := List.mem_filterMap.1 hmem
      cases b <;> cases hfunction
      exact hscope.function hb

namespace SourceModule

/-- The signatures of a symbol in a scope demand what its definition requires. -/
theorem demands_of_symbolIn? [CharacterNames] {m : SourceModule}
    (hclass : ∀ d ∈ m.classes, (Scope.classDef d).DefaultsLast) {scope : Scope}
    (hscope : scope.DefaultsLast) {name : String} {s : Symbol}
    (hs : m.symbolIn? scope name = some s) {shown : List Signature}
    (h : m.signatures s = .ok shown) : List.Forall₂ Signature.Demands shown (m.formals s) := by
  obtain ⟨earlier, last, hbindings, rfl⟩ := exists_bindings_of_symbolIn? hs
  have hlast : last ∈ scope.bindingsOf name := by simp [hbindings]
  cases last with
  | function d =>
    have hmethod : decide ((m.symbolOf name scope earlier (.function d)).kind = .method) =
        scope.classDef?.isSome := by
      cases hclass : scope.classDef?.isSome <;> simp [symbolOf, hclass]
    have hdefaults : ∀ e ∈ chosenFunctions (earlier.filterMap Binding.function?) d,
        e.params.DefaultsLast := by
      intro e he
      rcases List.mem_append.1 (mem_of_mem_chosenFunctions he) with he | he
      · obtain ⟨b, hb, hfunction⟩ := List.mem_filterMap.1 he
        cases b <;> cases hfunction
        exact hscope.function (hbindings ▸ List.mem_append_left _ hb)
      · rw [List.mem_singleton.1 he]
        exact hscope.function hlast
    have hdemands := demands_mapM_functionSignature hdefaults h
    rw [← hmethod] at hdemands
    exact hdemands
  | classDef d =>
    refine demands_constructorSignatures hclass ?_ h
    cases (scope.mem_bindingsOf_iff name _).1 hlast with
    | statement hmem hbinds =>
      cases hbinds
      exact hscope.child (List.mem_filterMap.2 ⟨_, hmem, rfl⟩)
  | parameter p =>
    simp only [signatures, formals, symbolOf] at h ⊢
    cases hhint : p.typeHint with
    | none =>
      rw [hhint] at h
      cases h
      exact .nil
    | some typeHint =>
      rw [hhint] at h
      obtain ⟨found, hfound, rfl⟩ := Fault.map_eq_ok_iff.1 h
      exact demands_callableSignature? hfound
  | assignment value =>
    cases value
    case lambda params result =>
      cases h
      exact .cons (demands_lambdaSignature (hscope.lambda hlast)) .nil
    all_goals
      cases h
      exact .nil
  | annotated typeHint value =>
    obtain ⟨found, hfound, rfl⟩ := Fault.map_eq_ok_iff.1 h
    exact demands_callableSignature? hfound

/-- Every signature of a symbol that resolves demands what the definition does from which it is
made: its required parameters are the leading ones that are given by position and have no default
value, without the receiver of a method, and there are as many as it says. -/
theorem signatures_demand_required [CharacterNames] {body : List Stmt}
    (hdefaults : ∀ p ∈ parameterListsIn body, p.DefaultsLast) {name : String}
    {position : Option Position} {parent : Option String} {s : Symbol}
    (hs : (SourceModule.ofStatements body).resolve name position parent = some s)
    {shown : List Signature} (h : (SourceModule.ofStatements body).signatures s = .ok shown) :
    List.Forall₂ Signature.Demands shown ((SourceModule.ofStatements body).formals s) := by
  have hclass : ∀ d ∈ (ofStatements body).classes, (Scope.classDef d).DefaultsLast := by
    intro d hd
    exact Scope.DefaultsLast.classDef hdefaults hd
  have hchild : ∀ scope : Scope, scope.DefaultsLast →
      ∀ child ∈ scope.children, child.DefaultsLast := by
    intro scope hscope child hchild
    exact hscope.child hchild
  have hmodule : (Scope.module (ofStatements body).body).DefaultsLast := hdefaults
  obtain ⟨scope, hscope, hsymbol⟩ := exists_scope_of_resolve hchild hclass hmodule hs
  exact demands_of_symbolIn? hclass hscope hsymbol h

end SourceModule

/-- A class with a method that takes parameters of all kinds, and receives its instance. -/
def receivingMethod : List Stmt :=
  [.classDef
    { span := ⟨1, 2⟩, name := "C", bases := [], decorators := []
      body := [.function
        { span := ⟨2, 2⟩, isAsync := false, name := "f", decorators := [], returns := none
          body := []
          params :=
            { positionalOnly := [⟨"self", none, none⟩]
              positional := [⟨"a", none, none⟩, ⟨"b", none, some (.name "a")⟩]
              variadic := some ⟨"c", none, none⟩
              keywordOnly := [⟨"d", none, none⟩]
              keywordRest := some ⟨"e", none, none⟩ } }] }]

theorem receivingMethod_demands_required :
    ∃ s shown, (SourceModule.ofStatements receivingMethod).resolve "f" none (some "C") = some s ∧
      (SourceModule.ofStatements receivingMethod).signatures s = .ok [shown] ∧
      shown.parameters.map (·.name) = ["a", "b", "c", "d", "e"] ∧ shown.minArguments = 1 ∧
      shown.Demands [
        ⟨"self", .byPosition, false, true⟩, ⟨"a", .byPosition, false, false⟩,
        ⟨"b", .byPosition, true, false⟩, ⟨"c", .variadic, false, false⟩,
        ⟨"d", .byKeyword, false, false⟩, ⟨"e", .keywordRest, false, false⟩] := by
  have hdefaults : ∀ p ∈ parameterListsIn receivingMethod, p.DefaultsLast := by decide
  have hsignatures : ((SourceModule.ofStatements receivingMethod).resolve "f" none (some "C")).map
      (SourceModule.ofStatements receivingMethod).signatures =
        some (.ok [{
          parameters := [{ name := "a" }, { name := "b" }, { name := "c" }, { name := "d" },
            { name := "e" }]
          minArguments := 1 }]) := by
    decide +kernel
  have hformals : ((SourceModule.ofStatements receivingMethod).resolve "f" none (some "C")).map
      (SourceModule.ofStatements receivingMethod).formals = some [[
        ⟨"self", .byPosition, false, true⟩, ⟨"a", .byPosition, false, false⟩,
        ⟨"b", .byPosition, true, false⟩, ⟨"c", .variadic, false, false⟩,
        ⟨"d", .byKeyword, false, false⟩, ⟨"e", .keywordRest, false, false⟩]] := by
    decide +kernel
  obtain ⟨s, hs, hshown⟩ := Option.map_eq_some_iff.1 hsignatures
  rw [hs, Option.map_some, Option.some.injEq] at hformals
  have hdemands := SourceModule.signatures_demand_required hdefaults hs hshown
  rw [hformals] at hdemands
  exact ⟨s, _, hs, hshown, rfl, rfl, (List.forall₂_cons.1 hdemands).1⟩

end Source

end CallCompletion
