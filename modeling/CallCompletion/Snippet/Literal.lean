import CallCompletion.Fault
import CallCompletion.Snippet.Example
import CallCompletion.Snippet.Model
import CallCompletion.Text.Lines

/-!
# Literals of the dialects

The default values of types, spelled in each dialect. A function literal is made from the printed
parameter list of a call signature, which is cut at the commas outside all brackets.
-/

namespace CallCompletion.Literal

open CallCompletion.Text

def string (s : String) : String := String.ofList (Example.stringLiteral s.toList)

/-- The default value of a primitive type, which `void` does not have. -/
def primitive (dialect : Dialect) : PrimitiveKind → Option String
  | .number => some "0"
  | .string => some (string "")
  | .boolean => some (if dialect = .python then "False" else "false")
  | .void => none

/-- A text of several lines. -/
def block (dialect : Dialect) (text : String) : String :=
  if dialect = .python then "\"\"\"" ++ text ++ "\"\"\"" else "`" ++ text ++ "`"

def emptySequence (dialect : Dialect) (isTuple : Bool) : String :=
  if dialect = .python && isTuple then "()" else "[]"

def enumMember (enumName member : String) : String := enumName ++ "." ++ member

/-! ## Parameter lists -/

/-- A bracket that opens, for the purpose of cutting parameter lists. -/
def isOpener (c : Char) : Bool := c == '(' || c == '[' || c == '{' || c == '<'

/-- A bracket that closes; the head of an arrow does not. -/
def isCloser (previous : Option Char) (c : Char) : Bool :=
  c == ')' || c == ']' || c == '}' ||
    (c == '>' && !(previous == some '=' || previous == some '-'))

/-- The change of depth at a character. -/
def depthStep (previous : Option Char) (c : Char) : Int :=
  if isOpener c then 1 else if isCloser previous c then -1 else 0

/-- The pieces between the commas at depth zero. -/
def cutAtCommas (previous : Option Char) (depth : Int) : List Char → List (List Char)
  | [] => [[]]
  | c :: rest =>
    let depth := depth + depthStep previous c
    let pieces := cutAtCommas (some c) depth rest
    if c = ',' && depth = 0 then [] :: pieces
    else
      match pieces with
      | [] => [[c]]
      | piece :: more => (c :: piece) :: more

/-- The trimmed pieces between the commas outside all brackets, without the blank ones. -/
def splitTopLevel (cs : List Char) : List (List Char) :=
  ((cutAtCommas none 0 cs).map trim).filter (!·.isEmpty)

def withoutParentheses (cs : List Char) : List Char :=
  match cs with
  | '(' :: rest => if rest.getLast? = some ')' then rest.dropLast else cs
  | _ => cs

/-- The name in a printed parameter: what stands before its type and its default, without the mark
of an optional parameter; a rest parameter is starred. -/
def parameterName (part : List Char) : List Char :=
  let name := trim ((part.takeWhile (· != ':')).takeWhile (· != '='))
  let name := (name.reverse.dropWhile (· == '?')).reverse
  match name with
  | '.' :: '.' :: '.' :: rest => '*' :: rest
  | _ => name

def parameterNames (parameters : List Char) : List (List Char) :=
  ((splitTopLevel (withoutParentheses (trim parameters))).map parameterName).filter (!·.isEmpty)

/-- The parameters of a lambda for a printed parameter list. -/
def lambdaParameters (parameters : String) : String :=
  ", ".intercalate ((parameterNames parameters.toList).map String.ofList)

def returnValue (dialect : Dialect) : ReturnKind → Option String
  | .number => some "0"
  | .string => some (string "")
  | .boolean => some (if dialect = .python then "False" else "false")
  | .other => none

/-- A function with the given printed parameter list. -/
def function (dialect : Dialect) (parameters : String) (returns : ReturnKind) :
    Except Fault String :=
  let value := returnValue dialect returns
  match dialect with
  | .python =>
    let names := lambdaParameters parameters
    let head := if names.isEmpty then "lambda:" else "lambda " ++ names ++ ":"
    .ok (head ++ " " ++ value.getD "None")
  | .typescript =>
    let body := (value.map fun v ↦ "return " ++ v ++ ";$0").getD "$0"
    .ok ("function " ++ parameters ++ " \x7b\n\t" ++ body ++ "\n\x7d")
  | .unsupported name => .error (.unknownDialect name)

/-! ## Printed call signatures -/

/-- The shortest prefix that closes as many brackets as it opens. -/
def balancedPrefix? (previous : Option Char) (depth : Int) : List Char → Option (List Char)
  | [] => none
  | c :: rest =>
    let depth := depth + depthStep previous c
    if depth = 0 && isCloser previous c then some [c]
    else (balancedPrefix? (some c) depth rest).map (c :: ·)

/-- A printed call signature without its return annotation: the balanced group that its first
parenthesis opens, or the trimmed text if there is none. -/
def parameterList (signature : List Char) : List Char :=
  let text := trim signature
  if text.head? = some '(' then (balancedPrefix? none 0 text).getD text else text

/-- `parameterList` on strings. -/
def stripReturn (signature : String) : String := String.ofList (parameterList signature.toList)

end CallCompletion.Literal
