import CallCompletion.Numeral.Binary64
import CallCompletion.Text.Half

/-!
# The syntax tree of a module

Expressions are kept whole, because they are printed and classified. Of the statements the tree
keeps what a completion can show: functions, classes, assignments, annotations and expressions;
every other statement is a kind with the blocks nested in it. -/

namespace CallCompletion.Source

open CallCompletion.Numeral
open CallCompletion.Text

/-! ## Expressions -/

/-- A constant. A text remembers whether it was marked as Unicode; one with halves of surrogate
pairs is a constant of its own kind. -/
inductive Constant where
  | none
  | bool (value : Bool)
  | ellipsis
  | integer (value : Nat)
  | real (value : Binary64)
  | imaginary (coefficient : Binary64)
  | text (value : String) (marked : Bool)
  | halved (value : HalvedText) (marked : Bool)
  | bytes (value : List Nat)
  deriving DecidableEq, Repr, Inhabited

inductive UnaryOp where
  | invert | not | plus | minus
  deriving DecidableEq, Repr, Inhabited

inductive BinaryOp where
  | add | sub | mul | matMul | div | mod | floorDiv | pow | shiftLeft | shiftRight
  | bitOr | bitXor | bitAnd
  deriving DecidableEq, Repr, Inhabited

inductive BoolOp where
  | and | or
  deriving DecidableEq, Repr, Inhabited

inductive CompareOp where
  | eq | notEq | less | lessEq | greater | greaterEq | is | isNot | isIn | notIn
  deriving DecidableEq, Repr, Inhabited

inductive ComprehensionKind where
  | list | set | generator
  deriving DecidableEq, Repr, Inhabited

structure Param (ε : Type) where
  name : String
  typeHint : Option ε
  fallback : Option ε
  deriving Inhabited

/-- The parameters of a function, by the way they are passed. -/
structure Params (ε : Type) where
  positionalOnly : List (Param ε)
  positional : List (Param ε)
  variadic : Option (Param ε)
  keywordOnly : List (Param ε)
  keywordRest : Option (Param ε)
  deriving Inhabited

/-- A keyword argument; without a name it unpacks a mapping. -/
structure Keyword (ε : Type) where
  name : Option String
  value : ε
  deriving Inhabited

/-- One `for` clause of a comprehension with its conditions. -/
structure Clause (ε : Type) where
  target : ε
  source : ε
  conditions : List ε
  isAsync : Bool
  deriving Inhabited

inductive Expr where
  | constant (value : Constant)
  | name (id : String)
  | attribute (value : Expr) (attr : String)
  | subscript (value index : Expr)
  | slice (lower upper step : Option Expr)
  | call (func : Expr) (args : List Expr) (keywords : List (Keyword Expr))
  | starred (value : Expr)
  | unary (op : UnaryOp) (operand : Expr)
  | binary (op : BinaryOp) (left right : Expr)
  | connective (op : BoolOp) (operands : List Expr)
  | compare (left : Expr) (rest : List (CompareOp × Expr))
  | conditional (test body orElse : Expr)
  | lambda (params : Params Expr) (body : Expr)
  | tuple (items : List Expr)
  | list (items : List Expr)
  | set (items : List Expr)
  | dict (entries : List (Option Expr × Expr))
  | comprehension (kind : ComprehensionKind) (item : Expr) (clauses : List (Clause Expr))
  | dictComprehension (key value : Expr) (clauses : List (Clause Expr))
  | await (value : Expr)
  | yield (value : Option Expr)
  | yieldFrom (value : Expr)
  | assignment (target : String) (value : Expr)
  | joined (parts : List Expr)
  | formatted (value : Expr) (conversion : Option Char) (spec : Option Expr)
  deriving Inhabited

namespace Params

/-- The parameters that can be passed by position. -/
def byPosition {ε : Type} (p : Params ε) : List (Param ε) := p.positionalOnly ++ p.positional

def none {ε : Type} : Params ε := ⟨[], [], .none, [], .none⟩

end Params

namespace Constant

/-- The constant that is the text of the given code points. -/
def ofCodes (codes : List Nat) (marked : Bool) : Constant :=
  if h : codes.any isHalf then .halved ⟨codes, h⟩ marked
  else .text (String.ofList (StandIn.shared.chars codes)) marked

/-- The characters of a constant text, with stand-ins for halves. -/
def text? (standIn : StandIn) : Constant → Option String
  | .text s _ => some s
  | .halved t _ => some (String.ofList (standIn.chars t.codes))
  | _ => .none

/-- What a constant counts as in a condition. -/
def truth : Constant → Bool
  | .none => false
  | .bool b => b
  | .ellipsis => true
  | .integer n => n != 0
  | .real x => !x.isZero
  | .imaginary x => !x.isZero
  | .text s _ => !s.isEmpty
  | .halved .. => true
  | .bytes bs => !bs.isEmpty

end Constant

namespace Expr

/-- The dotted path that a name or a chain of attributes spells. -/
def dotted? : Expr → Option (List String)
  | .name id => some [id]
  | .attribute value attr => value.dotted?.map (· ++ [attr])
  | _ => none

def lastSegment? : Expr → Option String
  | .name id => some id
  | .attribute value attr => if value.dotted?.isSome then some attr else none
  | _ => none

/-- The constant for the absence of a value. -/
def isNone : Expr → Bool
  | .constant .none => true
  | _ => false

end Expr

/-! ## Statements -/

/-- The first and the last line of a statement. -/
structure Span where
  first : Nat
  last : Nat
  deriving DecidableEq, Repr, Inhabited

structure FunctionOf (σ : Type) where
  span : Span
  isAsync : Bool
  name : String
  params : Params Expr
  body : List σ
  decorators : List Expr
  returns : Option Expr

structure ClassOf (σ : Type) where
  span : Span
  name : String
  bases : List Expr
  body : List σ
  decorators : List Expr

/-- A block nested in a statement. The blocks of handlers and cases lie one level deeper than those
of the statement itself. -/
structure Suite (σ : Type) where
  deeper : Bool
  body : List σ

/-- The statements of which only the kind and the nested blocks are kept. -/
inductive StatementKind where
  | augmented | importModules | importNames | branch | loop | asyncLoop | whileLoop | context
  | asyncContext | attempt | groupAttempt | selection | result | delete | raise | assertion
  | globalNames | nonlocalNames | pass | leaveLoop | nextRound
  deriving DecidableEq, Repr, Inhabited

inductive Stmt where
  | function (definition : FunctionOf Stmt)
  | classDef (definition : ClassOf Stmt)
  | assign (span : Span) (targets : List Expr) (value : Expr)
  | annotate (span : Span) (target typeHint : Expr) (value : Option Expr)
  | expression (span : Span) (value : Expr)
  | other (span : Span) (kind : StatementKind) (suites : List (Suite Stmt))

abbrev FunctionDef := FunctionOf Stmt

abbrev ClassDef := ClassOf Stmt

instance : Inhabited Stmt := ⟨.other ⟨0, 0⟩ .pass []⟩

namespace Stmt

def span : Stmt → Span
  | .function d => d.span
  | .classDef d => d.span
  | .assign s .. => s
  | .annotate s .. => s
  | .expression s _ => s
  | .other s .. => s

end Stmt

/-! ## Documentation -/

mutual

/-- A statement in whose documentation each half of a surrogate pair has a character of its own. -/
def Stmt.withOwnHalves : Stmt → Stmt
  | .function ⟨span, isAsync, name, params, body, decorators, returns⟩ =>
    .function ⟨span, isAsync, name, params, Stmt.eachWithOwnHalves body, decorators, returns⟩
  | .classDef ⟨span, name, bases, body, decorators⟩ =>
    .classDef ⟨span, name, bases, Stmt.eachWithOwnHalves body, decorators⟩
  | .expression span (.constant (.halved t marked)) =>
    .expression span (.constant (.text (String.ofList (StandIn.own.chars t.codes)) marked))
  | .expression span value => .expression span value
  | .assign span targets value => .assign span targets value
  | .annotate span target typeHint value => .annotate span target typeHint value
  | .other span kind suites => .other span kind (Stmt.suitesWithOwnHalves suites)

def Stmt.eachWithOwnHalves : List Stmt → List Stmt
  | [] => []
  | s :: rest => s.withOwnHalves :: Stmt.eachWithOwnHalves rest

def Stmt.suitesWithOwnHalves : List (Suite Stmt) → List (Suite Stmt)
  | [] => []
  | ⟨deeper, body⟩ :: rest =>
    ⟨deeper, Stmt.eachWithOwnHalves body⟩ :: Stmt.suitesWithOwnHalves rest

end

/-- The text that documents a body: a constant text as its first statement. -/
def documentation? (body : List Stmt) : Option String :=
  match body with
  | .expression _ (.constant c) :: _ => c.text? .shared
  | _ => none

end CallCompletion.Source
