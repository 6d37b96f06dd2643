import CallCompletion.Source.TypeHint
import CallCompletion.Source.Docstring
import CallCompletion.Source.Symbol

/-!
# Signatures

The ways in which the symbols of a module can be called. Overload stubs of a function stand for it
if there are any. A class is called like its own initializer, else like the one generated from its
fields, else like the first of its bases that has either.
-/

namespace CallCompletion.Source

variable [CharacterNames]

/-! ## Decorators and keywords -/

def decoratorNames (decorators : List Expr) : List String :=
  decorators.filterMap fun
    | .call func _ _ => func.lastSegment?
    | e => e.lastSegment?

def FunctionOf.isOverload (d : FunctionDef) : Bool :=
  (decoratorNames d.decorators).contains "overload"

def FunctionOf.isStatic (d : FunctionDef) : Bool :=
  (decoratorNames d.decorators).contains "staticmethod"

/-- Whether the initializer of a class is generated from its fields. -/
def ClassOf.isDataclass (d : ClassDef) : Bool := (decoratorNames d.decorators).contains "dataclass"

/-- The truth of the first constant that a call of `callee` passes under a keyword. -/
def keywordFlag (callee keyword : String) : Expr → Option Bool
  | .call func _ keywords =>
    if func.lastSegment? = some callee then
      keywords.findSome? fun k ↦
        match k.value with
        | .constant c => if k.name = some keyword then some c.truth else none
        | _ => none
    else none
  | _ => none

/-- A setting of the decorator that generates the initializer of a class. -/
def ClassOf.dataclassFlag (d : ClassDef) (keyword : String) : Option Bool :=
  d.decorators.findSome? (keywordFlag "dataclass" keyword)

/-! ## Functions -/

/-- The parameters of a function that a call can give by position: those of a method lack the
instance. -/
def callPositional (d : FunctionDef) (owner : Option ClassDef) : List (Param Expr) :=
  if owner.isSome && !d.isStatic then d.params.byPosition.drop 1 else d.params.byPosition

/-- The parameters of a function as a call shows them. -/
def callParameters (d : FunctionDef) (owner : Option ClassDef) : List (Param Expr) :=
  callPositional d owner ++ d.params.variadic.toList ++ d.params.keywordOnly ++
    d.params.keywordRest.toList

def fallbackCount (params : List (Param Expr)) : Nat := params.countP (·.fallback.isSome)

/-- The number of arguments that have to be given: the positional parameters without default values,
which stand before those with one. -/
def requiredCount (d : FunctionDef) (owner : Option ClassDef) : Nat :=
  (callPositional d owner).length - fallbackCount d.params.byPosition

def functionSignature (classes : ClassTable) (owner : Option ClassDef) (d : FunctionDef) :
    Except Fault Signature := do
  let docs := parameterDocs (documentationOf d.body)
  let parameters ← (callParameters d owner).mapM fun p ↦ do
    let type ← classifyOptional classes p.typeHint
    return { name := p.name, type, documentation := (docs.get? p.name).getD "" }
  let returnType ← classifyOptional classes d.returns
  return { parameters, minArguments := requiredCount d owner, returnType }

/-- The functions that show how to call the last one: the overload stubs among them if there are
any, and else the last one itself. -/
def chosenFunctions (earlier : List FunctionDef) (last : FunctionDef) : List FunctionDef :=
  match (earlier ++ [last]).filter FunctionOf.isOverload with
  | [] => [last]
  | stubs => stubs

/-! ## Callable values -/

/-- The signature of a value with a callable type. -/
def callableSignature? (classes : ClassTable) : Expr → Except Fault (Option Signature)
  | .subscript value (.tuple [parameters, result]) =>
    if value.lastSegment? = some "Callable" then
      match parameters with
      | .list items => do
        let parameters ← items.zipIdx.mapM fun (e, i) ↦ do
          let type ← classify classes e
          return { name := "arg" ++ toString i, type }
        let returnType ← classify classes result
        return some { parameters, minArguments := parameters.length, returnType }
      | _ => do
        let returnType ← classify classes result
        return some { returnType }
    else return none
  | _ => return none

def lambdaSignature (params : Params Expr) : Signature :=
  let positional := params.byPosition
  { parameters := positional.map fun p ↦ { name := p.name }
    minArguments := positional.length - fallbackCount positional }

/-! ## Generated initializers -/

/-- A field of a class with a generated initializer. -/
structure Field where
  typeHint : Expr
  value : Option Expr
  keywordOnly : Bool

def Field.hasDefault (f : Field) : Bool :=
  match f.value with
  | none => false
  | some (.call func _ keywords) =>
    if func.lastSegment? = some "field" then
      keywords.any fun k ↦ k.name = some "default" || k.name = some "default_factory"
    else true
  | some _ => true

/-- The name that marks an annotation, with or without arguments. -/
def markerName? : Expr → Option String
  | .subscript value _ => value.lastSegment?
  | e => e.lastSegment?

/-- Enters the fields of a class body; after a marker all fields are given by keyword only. -/
def enterFields (keywordOnly : Bool) (fields : Table Field) : List Stmt → Table Field
  | [] => fields
  | .annotate _ (.name id) typeHint value :: rest =>
    if markerName? typeHint = some "ClassVar" then enterFields keywordOnly fields rest
    else if markerName? typeHint = some "KW_ONLY" then enterFields true fields rest
    else if value.bind (keywordFlag "field" "init") = some false then
      enterFields keywordOnly fields rest
    else
      let flag := (value.bind (keywordFlag "field" "kw_only")).getD keywordOnly
      enterFields keywordOnly (fields.insert id ⟨typeHint, value, flag⟩) rest
  | _ :: rest => enterFields keywordOnly fields rest

/-- Whether the fields of a class start out as given by keyword only. -/
def ClassOf.startsKeywordOnly (d : ClassDef) : Bool := (d.dataclassFlag "kw_only").getD false

mutual

/-- The fields of a class: those of its bases, the last base first, and then its own. A field that
is declared again keeps its place. -/
def Ancestry.fields : Ancestry → Table Field
  | .node d bases => enterFields d.startsKeywordOnly (Ancestry.inheritedFields bases) d.body

/-- The fields of bases, the last base first. -/
def Ancestry.inheritedFields : List Ancestry → Table Field
  | [] => []
  | .node d bases :: rest =>
    let later := Ancestry.inheritedFields rest
    if d.isDataclass then later.update (Ancestry.fields (.node d bases)) else later

end

def dataclassSignature (classes : ClassTable) (d : ClassDef) : Except Fault Signature := do
  let docs := parameterDocs (documentationOf d.body)
  let fields ← (classes.ancestry d).fields.mapM fun (name, f) ↦ do
    let type ← classify classes f.typeHint
    let parameter : Parameter := { name, type, documentation := (docs.get? name).getD "" }
    return (parameter, f)
  let positional := fields.filter (!·.2.keywordOnly)
  let keyword := fields.filter (·.2.keywordOnly)
  return {
    parameters := (positional ++ keyword).map Prod.fst
    minArguments := (positional.takeWhile (!·.2.hasDefault)).length
    returnType := .other d.name }

/-! ## Constructors -/

/-- The functions that initialize a class, in source order. -/
def ClassOf.initializers (d : ClassDef) : List FunctionDef :=
  ((Scope.classDef d).bindingsOf "__init__").filterMap Binding.function?

/-- Whether a class itself says how it is constructed. -/
def ClassOf.hasConstructor (d : ClassDef) : Bool :=
  !d.initializers.isEmpty || (d.isDataclass && d.dataclassFlag "init" != some false)

mutual

/-- The first class of an ancestry that says how it is constructed, a class before its bases. -/
def Ancestry.constructor? : Ancestry → Option ClassDef
  | .node d bases => if d.hasConstructor then some d else Ancestry.firstConstructor? bases

/-- The first of several ancestries' classes that says how it is constructed. -/
def Ancestry.firstConstructor? : List Ancestry → Option ClassDef
  | [] => none
  | a :: rest => (a.constructor?).or (Ancestry.firstConstructor? rest)

end

def ownConstructorSignatures (classes : ClassTable) (d : ClassDef) :
    Except Fault (List Signature) :=
  match d.initializers.getLast? with
  | some last =>
    (chosenFunctions d.initializers.dropLast last).mapM (functionSignature classes (some d))
  | none => do return [← dataclassSignature classes d]

/-- The signatures under which a class is constructed. Without any constructor it takes no
arguments. -/
def constructorSignatures (classes : ClassTable) (d : ClassDef) : Except Fault (List Signature) :=
  match (classes.ancestry d).constructor? with
  | some owner => ownConstructorSignatures classes owner
  | none => .ok [{}]

def SourceModule.signatures (m : SourceModule) (s : Symbol) : Except Fault (List Signature) :=
  match s.site with
  | none => .ok []
  | some (.function earlier last owner) =>
    (chosenFunctions earlier last).mapM (functionSignature m.classes owner)
  | some (.classDef d) => constructorSignatures m.classes d
  | some (.parameter p) =>
    match p.typeHint with
    | some typeHint => (callableSignature? m.classes typeHint).map Option.toList
    | none => .ok []
  | some (.annotated typeHint _) =>
    (callableSignature? m.classes typeHint).map Option.toList
  | some (.assignment (.lambda params _)) => .ok [lambdaSignature params]
  | some (.assignment _) => .ok []

end CallCompletion.Source
