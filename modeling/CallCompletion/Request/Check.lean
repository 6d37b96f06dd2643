import CallCompletion.Data.Value
import CallCompletion.Text.Blank
import CallCompletion.Text.Word

/-!
# Checks of requests

A request arrives as a value and has to have a certain shape. A check gives what was demanded, or
everything that is wrong with the value, each problem with the path to it. Problems come in the
order of the fields.
-/

namespace CallCompletion.Request

open CallCompletion.Data
open CallCompletion.Numeral
open CallCompletion.Text

/-! ## Problems -/

/-- One step of the path to a problem. -/
inductive Step where
  | field (name : String)
  | index (n : Nat)
  deriving DecidableEq, Repr

/-- A step as it is shown; a name that holds a dot is set off. -/
def Step.text : Step → String
  | .field name => if name.toList.contains '.' then "`" ++ name ++ "`" else name
  | .index n => toString n

/-- What is wrong at a place. -/
inductive Problem where
  | missing
  | notText
  | notList
  | notTable
  /-- A value that is no record of the given name. -/
  | notRecord (name : String)
  /-- A value outside a list of words. -/
  | notOneOf (words : List String)
  | notBool
  | unreadableBool
  | notInteger
  | unreadableInteger
  | oversizedInteger
  | fractional
  | notFinite
  deriving DecidableEq, Repr

/-- Quoted words, the last two of which are joined by "or". -/
def alternatives : List String → String
  | [] => ""
  | [w] => "'" ++ w ++ "'"
  | [v, w] => "'" ++ v ++ "' or '" ++ w ++ "'"
  | w :: rest => "'" ++ w ++ "', " ++ alternatives rest

def Problem.message : Problem → String
  | .missing => "Field required"
  | .notText => "Input should be a valid string"
  | .notList => "Input should be a valid list"
  | .notTable => "Input should be a valid dictionary"
  | .notRecord name => "Input should be a valid dictionary or instance of " ++ name
  | .notOneOf words => "Input should be " ++ alternatives words
  | .notBool => "Input should be a valid boolean"
  | .unreadableBool => "Input should be a valid boolean, unable to interpret input"
  | .notInteger => "Input should be a valid integer"
  | .unreadableInteger => "Input should be a valid integer, unable to parse string as an integer"
  | .oversizedInteger => "Unable to parse input string as an integer, exceeded maximum size"
  | .fractional => "Input should be a valid integer, got a number with a fractional part"
  | .notFinite => "Input should be a finite number"

def Problem.code : Problem → String
  | .missing => "missing"
  | .notText => "string_type"
  | .notList => "list_type"
  | .notTable => "dict_type"
  | .notRecord _ => "model_type"
  | .notOneOf _ => "literal_error"
  | .notBool => "bool_type"
  | .unreadableBool => "bool_parsing"
  | .notInteger => "int_type"
  | .unreadableInteger => "int_parsing"
  | .oversizedInteger => "int_parsing_size"
  | .fractional => "int_from_float"
  | .notFinite => "finite_number"

structure Issue where
  path : List Step
  problem : Problem
  deriving DecidableEq, Repr

/-- The lines that report an issue; one of the whole value has no path. -/
def Issue.lines (i : Issue) : List String :=
  (if i.path.isEmpty then [] else [".".intercalate (i.path.map Step.text)]) ++
    ["  " ++ i.problem.message ++ " [type=" ++ i.problem.code ++ "]"]

def report (name : String) (issues : List Issue) : String :=
  let plural := if issues.length = 1 then "" else "s"
  "\n".intercalate
    ((toString issues.length ++ " validation error" ++ plural ++ " for " ++ name) ::
      issues.flatMap Issue.lines)

/-! ## Results -/

/-- The result of a check: what was demanded, or all that is wrong. -/
inductive Checked (α : Type) where
  | valid (value : α)
  | invalid (issues : List Issue)

namespace Checked

variable {α β : Type}

def map (f : α → β) : Checked α → Checked β
  | .valid a => .valid (f a)
  | .invalid issues => .invalid issues

/-- Both results; the issues of the first come first. -/
def both (f : Checked (α → β)) (a : Checked α) : Checked β :=
  match f, a with
  | .valid f, .valid a => .valid (f a)
  | .valid _, .invalid issues => .invalid issues
  | .invalid issues, .valid _ => .invalid issues
  | .invalid issues, .invalid more => .invalid (issues ++ more)

instance : Applicative Checked where
  pure := .valid
  map := Checked.map
  seq f a := both f (a ())

/-- A single problem of the whole value. -/
def wrong (p : Problem) : Checked α := .invalid [⟨[], p⟩]

/-- The result of a check one step further in. -/
def under (step : Step) : Checked α → Checked α
  | .valid a => .valid a
  | .invalid issues => .invalid (issues.map fun i ↦ { i with path := step :: i.path })

end Checked

/-! ## Plain values -/

def text : Value → Checked String
  | .text s => .valid s
  | _ => .wrong .notText

def nullable {α : Type} (check : Value → Checked α) : Value → Checked (Option α)
  | .null => .valid none
  | v => (check v).map some

/-- The words that stand for truth values, in lower case. -/
def boolWords : List (String × Bool) :=
  [("1", true), ("0", false), ("true", true), ("false", false), ("t", true), ("f", false),
   ("yes", true), ("no", false), ("y", true), ("n", false), ("on", true), ("off", false)]

/-- A truth value: itself, the numbers zero and one, or a word for it. -/
def bool : Value → Checked Bool
  | .bool b => .valid b
  | .integer n =>
    if n = 1 then .valid true else if n = 0 then .valid false else .wrong .unreadableBool
  | .real x =>
    if x.isZero then .valid false
    else if x.isIntegral && x.truncate? = some 1 then .valid true
    else .wrong .notBool
  | .text s =>
    match boolWords.lookup (String.ofList (lowerAscii s.toList)) with
    | some b => .valid b
    | none => .wrong .unreadableBool
  | _ => .wrong .notBool

/-- Blanks that may stand around a numeral; the separators of records are none. -/
def isPadding (c : Char) : Bool := isBlank c && !(0x1C ≤ c.toNat && c.toNat ≤ 0x1F)

/-- A text without the blanks around it. -/
def withoutPadding (cs : List Char) : List Char :=
  ((cs.dropWhile isPadding).reverse.dropWhile isPadding).reverse

/-- The number written by digits with single underscores between them. -/
def digits? (cs : List Char) : Option Nat :=
  let groups := cs.splitBy fun a b ↦ (a == '_') == (b == '_')
  let wellFormed := groups.all fun g ↦ g.all Char.isDigit || g == ['_']
  let ends := cs.head?.any Char.isDigit && cs.getLast?.any Char.isDigit
  if wellFormed && ends then some (decimalValue (cs.filter Char.isDigit)) else none

/-- A numeral without a point and zeros after it. -/
def withoutZeroFraction (cs : List Char) : List Char :=
  match cs.dropWhile (· != '.') with
  | '.' :: zeros => if zeros.all (· == '0') then cs.takeWhile (· != '.') else cs
  | _ => cs

def integerOfText? (s : String) : Option Int :=
  let cs := withoutPadding s.toList
  let unsigned (cs : List Char) : Option Nat := digits? (withoutZeroFraction cs)
  match cs with
  | '-' :: rest => (unsigned rest).map fun n ↦ -(n : Int)
  | '+' :: rest => (unsigned rest).map fun n ↦ (n : Int)
  | _ => (unsigned cs).map fun n ↦ (n : Int)

/-- An integer: itself, a truth value, a number without a fraction, or a text that is one. -/
def integer : Value → Checked Int
  | .integer n => .valid n
  | .bool b => .valid (if b then 1 else 0)
  | .real x =>
    match x.truncate? with
    | none => .wrong .notFinite
    | some n =>
      if !x.isIntegral then .wrong .fractional
      else if n.natAbs < Nat.pow 2 63 then .valid n
      else .wrong .oversizedInteger
  | .text s =>
    match integerOfText? s with
    | some n => if isWritable n then .valid n else .wrong .oversizedInteger
    | none => .wrong .unreadableInteger
  | _ => .wrong .notInteger

/-! ## Lists, tables and records -/

variable {α : Type}

/-- Items, each of which has to pass a check. -/
def eachFrom (i : Nat) : (items : List Value) → ((v : Value) → v ∈ items → Checked α) →
    Checked (List α)
  | [], _ => .valid []
  | v :: rest, check =>
    List.cons <$> (check v List.mem_cons_self).under (.index i) <*>
      eachFrom (i + 1) rest fun w h ↦ check w (List.mem_cons_of_mem v h)

def texts : Value → Checked (List String)
  | .list items => eachFrom 0 items fun v _ ↦ text v
  | _ => .wrong .notList

def textEntries : List (String × Value) → Checked (Table String)
  | [] => .valid []
  | (name, v) :: rest =>
    List.cons <$> ((text v).under (.field name)).map (name, ·) <*> textEntries rest

def textTable : Value → Checked (Table String)
  | .table entries => textEntries entries
  | _ => .wrong .notTable

/-- A field that has to be there. The check may use that its value is found in the record. -/
def required (record : Table Value) (name : String)
    (check : (v : Value) → record.get? name = some v → Checked α) : Checked α :=
  match h : record.get? name with
  | some v => (check v h).under (.field name)
  | none => .invalid [⟨[.field name], .missing⟩]

def fieldOr (record : Table Value) (name : String) (default : α)
    (check : (v : Value) → record.get? name = some v → Checked α) : Checked α :=
  match h : record.get? name with
  | some v => (check v h).under (.field name)
  | none => .valid default

end CallCompletion.Request
