import CallCompletion.Engine.Contract
import CallCompletion.Source.ClassTable
import CallCompletion.Source.Scope
import CallCompletion.Text.Blank
import CallCompletion.Text.Lines

/-!
# Symbols of a module

A name is looked up in the visible scopes around a position, innermost first. If none binds it, it
can be a member of a parent, which is a path of names: each of them a class, or a variable known to
hold an instance of one.
-/

namespace CallCompletion.Source

open CallCompletion.Text

structure SourceModule where
  body : List Stmt
  classes : ClassTable

def SourceModule.ofStatements (body : List Stmt) : SourceModule := ⟨body, .ofStatements body⟩

/-- Where a symbol is defined. A function comes with the earlier functions of its name in its scope,
some of which may be overload stubs, and with the class whose method it is. -/
inductive Site where
  | function (earlier : List FunctionDef) (last : FunctionDef) (owner : Option ClassDef)
  | classDef (definition : ClassDef)
  | parameter (param : Param Expr)
  | assignment (value : Expr)
  | annotated (typeHint : Expr) (value : Option Expr)

abbrev Symbol := SymbolAt Site

def Site.functions : Site → List FunctionDef
  | .function earlier last _ => earlier ++ [last]
  | _ => []

namespace SourceModule

variable (m : SourceModule)

/-- The kind of a variable bound in a scope: a member if the scope is an enumeration. -/
def variableKind (scope : Scope) : SymbolKind :=
  if scope.classDef?.any m.classes.isEnum then .enumMember else .variable_

def classKind (d : ClassDef) : SymbolKind := if m.classes.isEnum d then .enum else .classType

/-- The symbol that the last one of some bindings of a name makes it in a scope. -/
def symbolOf (name : String) (scope : Scope) (earlier : List Binding) : Binding → Symbol
  | .function d =>
    { name, kind := if scope.classDef?.isSome then .method else .function,
      container := scope.containerName,
      site := some (.function (earlier.filterMap Binding.function?) d scope.classDef?) }
  | .classDef d =>
    { name, kind := m.classKind d, container := scope.containerName, site := some (.classDef d) }
  | .parameter p =>
    { name, kind := .parameter, container := scope.containerName, site := some (.parameter p) }
  | .assignment value =>
    { name, kind := m.variableKind scope, container := scope.containerName,
      site := some (.assignment value) }
  | .annotated typeHint value =>
    { name, kind := m.variableKind scope, container := scope.containerName,
      site := some (.annotated typeHint value) }

def symbolIn? (scope : Scope) (name : String) : Option Symbol :=
  let bindings := scope.bindingsOf name
  bindings.getLast?.map (m.symbolOf name scope bindings.dropLast)

def symbolsIn (scope : Scope) : List Symbol := scope.names.filterMap (m.symbolIn? scope)

/-- The symbol of a name in the first scope that binds it. -/
def lookup? (scopes : List Scope) (name : String) : Option Symbol :=
  scopes.findSome? (m.symbolIn? · name)

/-! ## Parents -/

/-- The last segment of a dotted text, without blanks around it. -/
def lastSegmentOf (text : String) : String :=
  String.ofList (trim ((splitAtChar '.' text.toList).getLast?.getD []))

/-- The name of the class that an annotation or a constructor call gives. -/
def instanceName? : Site → Option String
  | .parameter p => p.typeHint.bind typeHintName?
  | .annotated typeHint _ => typeHintName? typeHint
  | .assignment (.call func _ _) => func.lastSegment?
  | _ => none
where
  /-- The name that an annotation ends in; a quoted annotation counts as its text. -/
  typeHintName? : Expr → Option String
    | .constant c => (c.text? .shared).map lastSegmentOf
    | e => e.lastSegment?

/-- The class whose members a symbol has: the class itself, or that of the instance it holds. -/
def membersClass? (s : Symbol) : Option ClassDef :=
  match s.site with
  | some (.classDef d) => some d
  | some site => ((instanceName? site).filter (!·.isEmpty)).bind m.classes.get?
  | none => none

def member? (s : Symbol) (name : String) : Option Symbol :=
  (m.membersClass? s).bind fun d ↦ m.symbolIn? (.classDef d) name

/-- The symbol at which a path starts: for the names of the instance and of the class itself the
enclosing class, if there is one. -/
def pathHead? (chain : List Scope) (head : String) : Option Symbol :=
  match if head = "self" || head = "cls" then enclosingClass? chain else none with
  | some d => some { name := d.name, kind := .classType, site := some (.classDef d) }
  | none => m.lookup? (visibleScopes chain) head

/-- The symbol that a dotted path leads to. -/
def parentSymbol? (chain : List Scope) (parent : String) : Option Symbol :=
  match (splitAtChar '.' parent.toList).map String.ofList with
  | [] => none
  | head :: rest => rest.foldl (fun s segment ↦ s.bind (m.member? · segment)) (m.pathHead? chain head)

/-! ## Answers -/

def chainAt (position : Option Position) : List Scope :=
  scopeChain m.body (position.map (·.line + 1))

/-- The symbol of a name at a position: the visible one, or else the member of the parent. -/
def resolve (name : String) (position : Option Position) (parent : Option String) :
    Option Symbol :=
  let chain := m.chainAt position
  match m.lookup? (visibleScopes chain) name with
  | some s => some s
  | none =>
    match parent with
    | none | some "" => none
    | some parent => (m.parentSymbol? chain parent).bind (m.member? · name)

/-- The members of a parent at a position. -/
def members (parent : String) (position : Option Position) : List Symbol :=
  match (m.parentSymbol? (m.chainAt position) parent).bind m.membersClass? with
  | none => []
  | some d => m.symbolsIn (.classDef d)

/-- The symbols visible at a position; an inner one hides outer ones of its name. -/
def visible (position : Option Position) : List Symbol :=
  firstOfEach (·.name) ((visibleScopes (m.chainAt position)).flatMap m.symbolsIn)

end SourceModule

end CallCompletion.Source
