import CallCompletion.Fault
import CallCompletion.Snippet.Model
import CallCompletion.Source.ClassTable
import CallCompletion.Source.Parser
import CallCompletion.Source.Printer

/-!
# Classification of annotations

An annotation is classified by the last segment of the name it is. Wrappers that allow for the
absence of a value are transparent, and a quoted annotation counts as the expression that its text
is. Some annotations have no class: a binary operation other than a union, whose classification
would call itself, a wrapper around nothing, and a quoted text that no parser takes. -/

namespace CallCompletion.Source

open CallCompletion.Text

/-! ## Unions -/

/-- The members of a union written with bars. -/
def Expr.unionLeaves : Expr → List Expr
  | .binary .bitOr left right => left.unionLeaves ++ right.unionLeaves
  | e => [e]

theorem sizeOf_le_of_mem_unionLeaves (e : Expr) :
    ∀ l ∈ e.unionLeaves, sizeOf l ≤ sizeOf e := by
  fun_induction Expr.unionLeaves e with
  | case1 left right ihl ihr =>
    intro l hl
    have hsize : sizeOf (Expr.binary .bitOr left right) = 1 + sizeOf BinaryOp.bitOr +
        sizeOf left + sizeOf right := rfl
    rcases List.mem_append.1 hl with h | h
    · have := ihl l h
      omega
    · have := ihr l h
      omega
  | case2 e _ =>
    intro l hl
    simp only [List.mem_singleton] at hl
    subst hl
    exact Nat.le_refl _

/-- The one member that is not the absence of a value. -/
def soleMember? (items : List Expr) : Option Expr :=
  match items.filter (!·.isNone) with
  | [e] => some e
  | _ => none

theorem mem_of_soleMember? {items : List Expr} {e : Expr} (h : soleMember? items = some e) :
    e ∈ items := by
  unfold soleMember? at h
  split at h
  · rename_i e' heq
    cases h
    have : e ∈ items.filter (!·.isNone) := by simp [heq]
    exact (List.mem_filter.1 this).1
  · cases h

/-- The arguments of a subscript. -/
def Expr.typeArguments : Expr → List Expr
  | .tuple items => items
  | e => [e]

theorem sizeOf_le_of_mem_typeArguments {index e : Expr} (h : e ∈ index.typeArguments) :
    sizeOf e ≤ sizeOf index := by
  cases index
  case tuple items =>
    have := List.sizeOf_lt_of_mem (show e ∈ items from h)
    have hsize : sizeOf (Expr.tuple items) = 1 + sizeOf items := by simp
    omega
  all_goals
    simp only [Expr.typeArguments, List.mem_singleton] at h
    subst h
    exact Nat.le_refl _

/-! ## Names -/

def numberNames : List String := ["int", "float", "complex"]

def listNames : List String := ["list", "List"]

def tupleNames : List String := ["tuple", "Tuple"]

/-- The class of a type by its name. An enumeration of the module is shown as it was printed. -/
def classifyName (classes : ClassTable) (name printed : String) : TypeDescriptor :=
  if numberNames.contains name then .primitive .number
  else if name = "str" then .primitive .string
  else if name = "bool" then .primitive .boolean
  else if listNames.contains name then .sequence false
  else if tupleNames.contains name then .sequence true
  else
    match classes.get? name with
    | some d => if classes.isEnum d then .enum printed d.enumMembers.head? else .other printed
    | none => .other printed

/-! ## Expressions -/

/-- The parameters of a callable type as a list of annotated parameters with made-up names. -/
def callableParameters : Expr → String
  | .list items =>
    let parts := items.mapIdx fun i e ↦ "arg" ++ toString i ++ ": " ++ e.text
    "(" ++ ", ".intercalate parts ++ ")"
  | _ => "(*args)"

/-- The class of an annotation, given that of quoted ones. -/
def classifyWith (classes : ClassTable) (quoted : String → Except Fault TypeDescriptor) (e : Expr) :
    Except Fault TypeDescriptor :=
  match e with
  | .constant .none => .ok (.primitive .void)
  | .constant (.text s _) => quoted s
  | .constant (.halved t _) => .error (.notUtf8 (.encoding (firstHalves t.codes)))
  | .binary .bitOr left right =>
    match _h : soleMember? (left.unionLeaves ++ right.unionLeaves) with
    | some m => classifyWith classes quoted m
    | none => .ok (.other (Expr.binary .bitOr left right).text)
  | .binary .. => .error .endlessClassification
  | .subscript value index =>
    let printed := (Expr.subscript value index).text
    match value.lastSegment? with
    | none => .ok (.other printed)
    | some name =>
      if name = "Optional" || name = "Annotated" then
        match _h : index.typeArguments with
        | [] => .error .missingTypeArgument
        | item :: _ => classifyWith classes quoted item
      else if name = "Union" then
        match _h : soleMember? index.typeArguments with
        | some item => classifyWith classes quoted item
        | none => .ok (.other printed)
      else if listNames.contains name then .ok (.sequence false)
      else if tupleNames.contains name then .ok (.sequence true)
      else if name = "Callable" then
        match _h : index.typeArguments with
        | [parameters, result] =>
          (classifyWith classes quoted result).map fun returns ↦
            .function (callableParameters parameters) returns.returnKind
        | _ => .ok (.other printed)
      else .ok (.other printed)
  | e =>
    match e.lastSegment? with
    | some name => .ok (classifyName classes name e.text)
    | none => .ok (.other e.text)
termination_by sizeOf e
decreasing_by
  · have hsize : sizeOf (Expr.binary .bitOr left right) = 1 + sizeOf BinaryOp.bitOr +
        sizeOf left + sizeOf right := rfl
    have hop : sizeOf BinaryOp.bitOr = 1 := rfl
    rcases List.mem_append.1 (mem_of_soleMember? _h) with h | h
    · have := sizeOf_le_of_mem_unionLeaves left m h
      omega
    · have := sizeOf_le_of_mem_unionLeaves right m h
      omega
  · have hsize : sizeOf (Expr.subscript value index) = 1 + sizeOf value + sizeOf index := rfl
    have := sizeOf_le_of_mem_typeArguments (show item ∈ index.typeArguments by simp [_h])
    omega
  · have hsize : sizeOf (Expr.subscript value index) = 1 + sizeOf value + sizeOf index := rfl
    have := sizeOf_le_of_mem_typeArguments (mem_of_soleMember? _h)
    omega
  · have hsize : sizeOf (Expr.subscript value index) = 1 + sizeOf value + sizeOf index := rfl
    have := sizeOf_le_of_mem_typeArguments (show result ∈ index.typeArguments by simp [_h])
    omega

variable [CharacterNames]

/-- The class of a quoted annotation, inside which annotations are quoted at most `depth` times. A
text that is no expression is shown as it is. -/
def classifyQuoted (classes : ClassTable) : Nat → String → Except Fault TypeDescriptor
  | 0, s => .ok (.other s)
  | depth + 1, s =>
    if s.toList.contains '\x00' then .error .nulInTypeHint
    else
      match parseExpression s.toList with
      | .ok e => classifyWith classes (classifyQuoted classes depth) e
      | .error _ => .ok (.other s)

/-- The class of an annotation. What is quoted inside a quoted text is shorter than that text, so
that its length bounds how deep quotes nest. -/
def classify (classes : ClassTable) (e : Expr) : Except Fault TypeDescriptor :=
  classifyWith classes (fun s ↦ classifyQuoted classes (s.length + 1) s) e

/-- The class of an annotation that may be missing. -/
def classifyOptional (classes : ClassTable) : Option Expr → Except Fault TypeDescriptor
  | none => .ok (.other "")
  | some e => classify classes e

end CallCompletion.Source
