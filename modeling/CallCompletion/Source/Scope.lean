import CallCompletion.Source.Syntax
import CallCompletion.Table

/-!
# Scopes

The module, its functions and its classes are scopes. A position lies in a chain of them, each
nested directly in the body of the next. A scope binds names by its parameters and by the
definitions and assignments that stand directly in its body; later bindings of a name come after
earlier ones.
-/

namespace CallCompletion.Source

/-! ## Scopes around a line -/

inductive Scope where
  | module (body : List Stmt)
  | function (definition : FunctionDef)
  | classDef (definition : ClassDef)

def Span.contains (s : Span) (line : Int) : Bool := s.first ≤ line && line ≤ s.last

mutual

/-- The definitions around a line from a statement inwards, outermost first, if the statement is a
definition that contains the line. -/
def Stmt.scopesAt? (line : Int) : Stmt → Option (List Scope)
  | .function ⟨span, isAsync, name, params, body, decorators, returns⟩ =>
    if span.contains line then
      some (.function ⟨span, isAsync, name, params, body, decorators, returns⟩ :: scopesAt line body)
    else none
  | .classDef ⟨span, name, bases, body, decorators⟩ =>
    if span.contains line then
      some (.classDef ⟨span, name, bases, body, decorators⟩ :: scopesAt line body)
    else none
  | .assign .. => none
  | .annotate .. => none
  | .expression .. => none
  | .other .. => none

/-- The definitions around a line in a body, outermost first. -/
def scopesAt (line : Int) : List Stmt → List Scope
  | [] => []
  | s :: rest =>
    match Stmt.scopesAt? line s with
    | some scopes => scopes
    | none => scopesAt line rest

end

/-- The scopes around a line of a module, counted from one, innermost first. Without a line there is
only the module. -/
def scopeChain (body : List Stmt) : Option Int → List Scope
  | none => [.module body]
  | some line => (.module body :: scopesAt line body).reverse

namespace Scope

def classDef? : Scope → Option ClassDef
  | .classDef d => some d
  | _ => none

/-- The name under which symbols of a scope are shown. -/
def containerName : Scope → String
  | .module _ => ""
  | .function d => d.name
  | .classDef d => d.name

def body : Scope → List Stmt
  | .module body => body
  | .function d => d.body
  | .classDef d => d.body

end Scope

/-- The scopes of a chain whose names can be used at its innermost one: a class does not lend its
names to the scopes nested in it. -/
def visibleScopes : List Scope → List Scope
  | [] => []
  | innermost :: rest => innermost :: rest.filter (·.classDef?.isNone)

def enclosingClass? (chain : List Scope) : Option ClassDef := chain.findSome? Scope.classDef?

/-! ## Bindings -/

/-- What gives a name its meaning. -/
inductive Binding where
  | parameter (param : Param Expr)
  | function (definition : FunctionDef)
  | classDef (definition : ClassDef)
  | assignment (value : Expr)
  | annotated (typeHint : Expr) (value : Option Expr)

def Expr.plainName? : Expr → Option String
  | .name id => some id
  | _ => none

namespace Binding

def function? : Binding → Option FunctionDef
  | .function d => some d
  | _ => none

end Binding

/-- The parameters of a function in the order in which they are bound. -/
def Params.bound (p : Params Expr) : List (Param Expr) :=
  p.byPosition ++ p.keywordOnly ++ p.variadic.toList ++ p.keywordRest.toList

def Stmt.bindings : Stmt → List (String × Binding)
  | .function d => [(d.name, .function d)]
  | .classDef d => [(d.name, .classDef d)]
  | .assign _ targets value => targets.filterMap fun t ↦ t.plainName?.map (·, .assignment value)
  | .annotate _ target typeHint value =>
    (target.plainName?.map (·, Binding.annotated typeHint value)).toList
  | .expression .. => []
  | .other .. => []

namespace Scope

def parameterBindings : Scope → List (String × Binding)
  | .function d => d.params.bound.map fun p ↦ (p.name, .parameter p)
  | _ => []

def bindings (s : Scope) : List (String × Binding) :=
  s.parameterBindings ++ s.body.flatMap Stmt.bindings

/-- The bindings of a name, the last one of which counts. -/
def bindingsOf (s : Scope) (name : String) : List Binding :=
  (s.bindings.filter (·.1 == name)).map Prod.snd

/-- The names that a scope binds, in the order of their first bindings. -/
def names (s : Scope) : List String := firstOfEach id (s.bindings.map Prod.fst)

end Scope

end CallCompletion.Source
