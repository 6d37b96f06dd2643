import CallCompletion.Data.Moment
import CallCompletion.Numeral.Limit
import CallCompletion.Numeral.Shortest
import CallCompletion.Table
import CallCompletion.Text.Quoted

/-!
# Data

Data as requests and settings files carry it. A value is shown in one of two ways: a text by itself,
or quoted, as it also stands inside lists and tables.
-/

namespace CallCompletion.Data

open CallCompletion.Numeral

inductive Value where
  | null
  | bool (value : Bool)
  | integer (value : Int)
  | real (value : Binary64)
  | text (value : String)
  | moment (value : Moment)
  | list (items : List Value)
  | table (entries : List (String × Value))
  deriving Inhabited

def Value.kindName : Value → String
  | .null => "NoneType"
  | .bool _ => "bool"
  | .integer _ => "int"
  | .real _ => "float"
  | .text _ => "str"
  | .moment (.date _) => "date"
  | .moment (.time _) => "time"
  | .moment (.dateTime ..) => "datetime"
  | .list _ => "list"
  | .table _ => "dict"

def quotedText (s : String) : String := String.ofList (Text.quoted (s.toList.map Char.toNat))

mutual

/-- A value with its texts quoted. -/
def Value.quoted : Value → String
  | .null => "None"
  | .bool true => "True"
  | .bool false => "False"
  | .integer n => toString n
  | .real x => realNumeral x
  | .text s => quotedText s
  | .moment m => m.byParts
  | .list items => "[" ++ ", ".intercalate (Value.quotedEach items) ++ "]"
  | .table entries => "\x7b" ++ ", ".intercalate (Value.quotedEntries entries) ++ "\x7d"

def Value.quotedEach : List Value → List String
  | [] => []
  | v :: rest => v.quoted :: Value.quotedEach rest

def Value.quotedEntries : List (String × Value) → List String
  | [] => []
  | (name, v) :: rest => (quotedText name ++ ": " ++ v.quoted) :: Value.quotedEntries rest

end

mutual

/-- Whether a value can be shown: no integer in it is too long. -/
def Value.isShowable : Value → Bool
  | .integer n => isWritable n
  | .list items => Value.areShowable items
  | .table entries => Value.entriesAreShowable entries
  | _ => true

def Value.areShowable : List Value → Bool
  | [] => true
  | v :: rest => v.isShowable && Value.areShowable rest

def Value.entriesAreShowable : List (String × Value) → Bool
  | [] => true
  | (_, v) :: rest => v.isShowable && Value.entriesAreShowable rest

end

/-- A value as it is shown by itself, if it can be shown. -/
def Value.shown : Value → String
  | .text s => s
  | .moment m => m.standard " "
  | v => v.quoted

/-- The entries of a table; another value has none. -/
def Value.entries : Value → Table Value
  | .table entries => entries
  | _ => []

def Value.get? (v : Value) (name : String) : Option Value := v.entries.get? name

def Value.text? : Value → Option String
  | .text s => some s
  | _ => none

/-- A value that counts as present: neither null nor zero nor empty. -/
def Value.isTruthy : Value → Bool
  | .null => false
  | .bool b => b
  | .integer n => n != 0
  | .real x => !x.isZero
  | .text s => !s.isEmpty
  | .moment _ => true
  | .list items => !items.isEmpty
  | .table entries => !entries.isEmpty

end CallCompletion.Data
