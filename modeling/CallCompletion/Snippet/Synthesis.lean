import CallCompletion.Snippet.Literal
import CallCompletion.Snippet.Template

/-!
# Synthesis of call snippets

An argument is the first example in the documentation of its parameter; without one, a literal of
its type; and without that, a tab stop with the name of the parameter. A call snippet lists the
arguments that have to be given.
-/

namespace CallCompletion

def typedDefault (p : Parameter) (config : SnippetConfig) : Except Fault (Option String) :=
  match p.type with
  | .enum name member =>
    .ok (member.bind fun m ↦ if m.isEmpty then none else some (Literal.enumMember name m))
  | .function parameters returns => (Literal.function config.dialect parameters returns).map some
  | .sequence isTuple => .ok (some (Literal.emptySequence config.dialect isTuple))
  | .primitive .string =>
    match config.specialLiterals.get? p.name with
    | some text => .ok (some (Literal.block config.dialect text))
    | none => .ok (Literal.primitive config.dialect .string)
  | .primitive kind => .ok (Literal.primitive config.dialect kind)
  | .other _ => .ok none
  | .unclassified descriptor => .error (.unclassified p.name descriptor)

def synthesize (p : Parameter) (config : SnippetConfig) (tabStop : Int) : Except Fault String :=
  match Example.first? p.documentation with
  | none => .error .endlessExamples
  | some (some example_) => .ok example_
  | some none =>
    match typedDefault p config with
    | .error fault => .error fault
    | .ok (some value) => .ok value
    | .ok none =>
      .ok (Template.placeholder p.name (if config.numberedPlaceholders then tabStop else 1))

/-- The arguments for parameters, whose tab stops count from the given one. -/
def renderFrom (config : SnippetConfig) (tabStop : Int) :
    List Parameter → Except Fault (List String)
  | [] => .ok []
  | p :: rest => do
    let argument ← synthesize p config tabStop
    let more ← renderFrom config (tabStop + 1) rest
    return argument :: more

/-- The arguments that a call of a signature has to give. -/
def renderArguments (s : Signature) (config : SnippetConfig) : Except Fault (List String) :=
  renderFrom config 1 s.requiredParameters

/-- A label with the arguments of the first signature; without signatures, the label alone. -/
def buildSnippet (label : String) (signatures : List Signature) (config : SnippetConfig) :
    Except Fault String :=
  match signatures with
  | [] => .ok label
  | s :: _ => (renderArguments s config).map fun arguments ↦
    label ++ "(" ++ ", ".intercalate arguments ++ ")"

end CallCompletion
