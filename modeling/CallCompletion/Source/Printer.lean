import CallCompletion.Numeral.Limit
import CallCompletion.Numeral.Shortest
import CallCompletion.Source.Syntax
import CallCompletion.Text.Quoted

/-!
# Printing expressions

An expression is printed on one line with the fewest parentheses its operators allow: each place of
an operator has a least binding strength, and an expression that binds less tightly is put in
parentheses. The operands of a connective bind more and more tightly from left to right, so that the
printed nesting is the nesting of the tree.

Inside a formatted text an expression cannot hold a backslash; one that needs it has no printed
form, and neither has one with an integer of too many digits. -/

namespace CallCompletion.Source

open CallCompletion.Numeral
open CallCompletion.Text

/-! ## Binding strengths -/

/-- How tightly an expression binds; larger is tighter. -/
abbrev Strength := Nat

namespace Strength

def named : Strength := 0
def tuple : Strength := 1
def yield : Strength := 2
def test : Strength := 3
def or : Strength := 4
def and : Strength := 5
def not : Strength := 6
def compare : Strength := 7
def operand : Strength := 8
def bitXor : Strength := 9
def bitAnd : Strength := 10
def shift : Strength := 11
def sum : Strength := 12
def term : Strength := 13
def factor : Strength := 14
def power : Strength := 15
def await : Strength := 16
def atom : Strength := 17

def next (s : Strength) : Strength := min (s + 1) atom

end Strength

def UnaryOp.sign : UnaryOp → String
  | .invert => "~"
  | .not => "not "
  | .plus => "+"
  | .minus => "-"

def UnaryOp.strength : UnaryOp → Strength
  | .not => .not
  | _ => .factor

def BinaryOp.sign : BinaryOp → String
  | .add => "+"
  | .sub => "-"
  | .mul => "*"
  | .matMul => "@"
  | .div => "/"
  | .mod => "%"
  | .floorDiv => "//"
  | .pow => "**"
  | .shiftLeft => "<<"
  | .shiftRight => ">>"
  | .bitOr => "|"
  | .bitXor => "^"
  | .bitAnd => "&"

def BinaryOp.strength : BinaryOp → Strength
  | .add | .sub => .sum
  | .mul | .matMul | .div | .mod | .floorDiv => .term
  | .pow => .power
  | .shiftLeft | .shiftRight => .shift
  | .bitOr => .operand
  | .bitXor => .bitXor
  | .bitAnd => .bitAnd

/-- The least strengths of the two operands: powers group to the right, all else to the left. -/
def BinaryOp.operandStrengths (op : BinaryOp) : Strength × Strength :=
  match op with
  | .pow => (op.strength.next, op.strength)
  | _ => (op.strength, op.strength.next)

def BoolOp.word : BoolOp → String
  | .and => "and"
  | .or => "or"

def BoolOp.strength : BoolOp → Strength
  | .and => .and
  | .or => .or

def CompareOp.sign : CompareOp → String
  | .eq => "=="
  | .notEq => "!="
  | .less => "<"
  | .lessEq => "<="
  | .greater => ">"
  | .greaterEq => ">="
  | .is => "is"
  | .isNot => "is not"
  | .isIn => "in"
  | .notIn => "not in"

/-! ## Texts inside formatted texts -/

/-- The quotes of a text: one or three quote characters. -/
def allQuotes : List (List Char) :=
  [['\''], ['"'], ['"', '"', '"'], ['\'', '\'', '\'']]

def occursIn (part : List Char) : List Char → Bool
  | [] => part.isEmpty
  | c :: rest => part.isPrefixOf (c :: rest) || occursIn part rest

/-- A text written with as few escapes as the remaining quotes allow, and the quotes that are still
possible around it. Line feeds and tabs stay as they are unless `escapeSpace` is set. -/
def narrowQuotes (codes : List Nat) (quotes : List (List Char)) (escapeSpace : Bool) :
    List Char × List (List Char) :=
  let escaped := codes.flatMap fun n ↦
    if !escapeSpace && (n = '\n'.toNat || n = '\t'.toNat) then [Char.ofNat n] else plainOrEscaped n
  let possible := if escaped.contains '\n' then quotes.filter (·.length == 3) else quotes
  let possible := possible.filter fun q ↦ !occursIn q escaped
  match possible with
  | [] =>
    let whole := quoted codes
    let mark := whole.headD '\''
    let quote := (quotes.find? (·.contains mark)).getD [mark]
    ((whole.drop 1).dropLast, [quote])
  | _ =>
    match escaped.getLast? with
    | none => (escaped, possible)
    | some last =>
      let other := possible.filter fun q ↦ q.head? != some last
      let same := possible.filter fun q ↦ q.head? == some last
      let sorted := other ++ same
      if other.isEmpty then (escaped.dropLast ++ ['\\', last], sorted) else (escaped, sorted)

/-- A text in quotes that need as few backslashes as possible. -/
def sparinglyQuoted (codes : List Nat) : List Char :=
  let (body, quotes) := narrowQuotes codes allQuotes false
  let quote := quotes.headD ['\'']
  quote ++ body ++ quote

/-- The parts of a formatted text in one pair of quotes; `true` marks the literal parts. -/
def quoteParts : List (List Char) → List (List Nat × Bool) → List Char × List (List Char)
  | quotes, [] => ([], quotes)
  | quotes, (part, literal) :: rest =>
    let (text, quotes) := narrowQuotes part quotes literal
    let (more, quotes) := quoteParts quotes rest
    (text ++ more, quotes)

/-- Braces stand for themselves when they are doubled. -/
def doubleBraces (codes : List Nat) : List Nat :=
  codes.flatMap fun n ↦ if n = '{'.toNat || n = '}'.toNat then [n, n] else [n]

/-! ## Constants -/

/-- Infinities are written as a decimal that overflows. -/
def overflowing (x : Binary64) (text : String) : String :=
  match x with
  | .infinite _ => text.replace "inf" "1e309"
  | _ => text

/-- A constant text, with its mark; `plain` avoids backslashes where it can. -/
def printText (plain : Bool) (codes : List Nat) (marked : Bool) : String :=
  (if marked then "u" else "") ++
    String.ofList (if plain then sparinglyQuoted codes else quoted codes)

def Constant.print (plain : Bool) : Constant → Option String
  | .none => some "None"
  | .bool true => some "True"
  | .bool false => some "False"
  | .ellipsis => some "..."
  | .integer n => if isWritable n then some (toString n) else .none
  | .real x => some (overflowing x (realNumeral x))
  | .imaginary x => some (overflowing x (imaginaryNumeral x))
  | .text s marked => some (printText plain (s.toList.map Char.toNat) marked)
  | .halved t marked => some (printText plain t.codes marked)
  | .bytes bs => some (String.ofList (quotedBytes bs))

/-- A text in parentheses if it binds less tightly than its place demands. -/
def parenthesize (place own : Strength) (text : String) : String :=
  if place > own then "(" ++ text ++ ")" else text

/-- Items separated by commas; a single item is followed by one. -/
def commaItems : List String → String
  | [item] => item ++ ","
  | items => ", ".intercalate items

/-- The strength that the place of an index demands: a tuple needs no parentheses there. -/
def Expr.indexStrength : Expr → Strength
  | .tuple _ => .tuple
  | _ => .test

/-- An expression in braces, with its conversion and its format; it cannot hold a backslash. -/
def inBraces (v : String) (conversion : Option Char) (spec : List Nat) : Option (List Nat) :=
  let v := v.toList
  if v.contains '\\' then none
  else
    let gap := if v.head? == some '{' then [' '] else []
    let mark :=
      match conversion with
      | some c => ['!', c]
      | none => []
    some (('{' :: gap ++ v ++ mark).map Char.toNat ++ spec ++ ['}'.toNat])

/-! ## Expressions -/

mutual

/-- The printed form of an expression at a place of the given strength. -/
def Expr.print (plain : Bool) (place : Strength) : Expr → Option String
  | .constant c => c.print plain
  | .name id => some id
  | .attribute value attr => do
    let v ← value.print plain .atom
    let gap :=
      match value with
      | .constant (.integer _) | .constant (.bool _) => " "
      | _ => ""
    return v ++ gap ++ "." ++ attr
  | .subscript value index => do
    let v ← value.print plain .atom
    let i ← index.print plain index.indexStrength
    return v ++ "[" ++ i ++ "]"
  | .slice lower upper step => do
    let l ← Expr.printOptional plain .test lower
    let u ← Expr.printOptional plain .test upper
    let s ← Expr.printOptional plain .test step
    return l.getD "" ++ ":" ++ u.getD "" ++ (s.map (":" ++ ·)).getD ""
  | .call func args keywords => do
    let f ← func.print plain .atom
    let a ← Expr.printEach plain .test args
    let k ← Expr.printKeywords plain keywords
    return f ++ "(" ++ ", ".intercalate (a ++ k) ++ ")"
  | .starred value => do return "*" ++ (← value.print plain .operand)
  | .unary op operand => do
    let o ← operand.print plain op.strength
    return parenthesize place op.strength (op.sign ++ o)
  | .binary op left right => do
    let l ← left.print plain op.operandStrengths.1
    let r ← right.print plain op.operandStrengths.2
    return parenthesize place op.strength (l ++ " " ++ op.sign ++ " " ++ r)
  | .connective op operands => do
    let items ← Expr.printTighter plain op.strength operands
    return parenthesize place op.strength ((" " ++ op.word ++ " ").intercalate items)
  | .compare left rest => do
    let l ← left.print plain Strength.compare.next
    let r ← Expr.printComparisons plain rest
    return parenthesize place .compare (l ++ r)
  | .conditional test body orElse => do
    let b ← body.print plain Strength.test.next
    let t ← test.print plain Strength.test.next
    let o ← orElse.print plain .test
    return parenthesize place .test (b ++ " if " ++ t ++ " else " ++ o)
  | .lambda params body => do
    let p ← Expr.printParams plain params
    let b ← body.print plain .test
    let head := if p.isEmpty then "lambda" else "lambda " ++ p
    return parenthesize place .test (head ++ ": " ++ b)
  | .tuple items => do
    let printed ← Expr.printEach plain .test items
    let text := commaItems printed
    return if items.isEmpty || place > Strength.tuple then "(" ++ text ++ ")" else text
  | .list items => do return "[" ++ ", ".intercalate (← Expr.printEach plain .test items) ++ "]"
  | .set items => do
    let printed ← Expr.printEach plain .test items
    return if items.isEmpty then "\x7b*()\x7d" else "\x7b" ++ ", ".intercalate printed ++ "\x7d"
  | .dict entries => do
    return "\x7b" ++ ", ".intercalate (← Expr.printEntries plain entries) ++ "\x7d"
  | .comprehension kind item clauses => do
    let i ← item.print plain .test
    let c ← Expr.printClauses plain clauses
    return match kind with
      | .list => "[" ++ i ++ c ++ "]"
      | .set => "\x7b" ++ i ++ c ++ "\x7d"
      | .generator => "(" ++ i ++ c ++ ")"
  | .dictComprehension key value clauses => do
    let k ← key.print plain .test
    let v ← value.print plain .test
    let c ← Expr.printClauses plain clauses
    return "\x7b" ++ k ++ ": " ++ v ++ c ++ "\x7d"
  | .await value => do
    let v ← value.print plain .atom
    return parenthesize place .await ("await " ++ v)
  | .yield value => do
    let v ← Expr.printOptional plain .atom value
    return parenthesize place .yield ("yield" ++ (v.map (" " ++ ·)).getD "")
  | .yieldFrom value => do
    let v ← value.print plain .atom
    return parenthesize place .yield ("yield from " ++ v)
  | .assignment target value => do
    let v ← value.print plain .atom
    return parenthesize place .named (target ++ " := " ++ v)
  | .joined parts => do
    let pieces ← Expr.printPieces parts
    if plain then
      return "f" ++ String.ofList (sparinglyQuoted (pieces.flatMap Prod.fst))
    else
      let (text, quotes) := quoteParts allQuotes pieces
      let quote := quotes.headD ['\'']
      return "f" ++ String.ofList (quote ++ text ++ quote)
  | .formatted value conversion spec => do
    let v ← value.print true Strength.test.next
    let s ← Expr.printSpec spec
    let piece ← inBraces v conversion s
    return "f" ++ String.ofList (sparinglyQuoted piece)

def Expr.printEach (plain : Bool) (place : Strength) : List Expr → Option (List String)
  | [] => some []
  | e :: rest => do return (← e.print plain place) :: (← Expr.printEach plain place rest)

def Expr.printOptional (plain : Bool) (place : Strength) : Option Expr → Option (Option String)
  | none => some none
  | some e => do return some (← e.print plain place)

/-- The operands of a connective, each to bind tighter than the one before. -/
def Expr.printTighter (plain : Bool) (place : Strength) : List Expr → Option (List String)
  | [] => some []
  | e :: rest => do
    return (← e.print plain place.next) :: (← Expr.printTighter plain place.next rest)

def Expr.printComparisons (plain : Bool) : List (CompareOp × Expr) → Option String
  | [] => some ""
  | (op, e) :: rest => do
    let p ← e.print plain Strength.compare.next
    return " " ++ op.sign ++ " " ++ p ++ (← Expr.printComparisons plain rest)

def Expr.printKeywords (plain : Bool) : List (Keyword Expr) → Option (List String)
  | [] => some []
  | ⟨key, value⟩ :: rest => do
    let v ← value.print plain .test
    let head :=
      match key with
      | some n => n ++ "="
      | none => "**"
    return (head ++ v) :: (← Expr.printKeywords plain rest)

def Expr.printEntries (plain : Bool) : List (Option Expr × Expr) → Option (List String)
  | [] => some []
  | (none, value) :: rest => do
    return ("**" ++ (← value.print plain .operand)) :: (← Expr.printEntries plain rest)
  | (some key, value) :: rest => do
    let k ← key.print plain .test
    let v ← value.print plain .test
    return (k ++ ": " ++ v) :: (← Expr.printEntries plain rest)

def Expr.printClauses (plain : Bool) : List (Clause Expr) → Option String
  | [] => some ""
  | ⟨target, source, conditions, isAsync⟩ :: rest => do
    let t ← target.print plain .tuple
    let s ← source.print plain Strength.test.next
    let c ← Expr.printEach plain Strength.test.next conditions
    let head := if isAsync then " async for " else " for "
    return head ++ t ++ " in " ++ s ++ String.join (c.map (" if " ++ ·)) ++
      (← Expr.printClauses plain rest)

def Expr.printParam (plain : Bool) : Param Expr → Option String
  | ⟨id, typeHint, fallback⟩ => do
    let a ← Expr.printOptional plain .test typeHint
    let f ← Expr.printOptional plain .test fallback
    return id ++ (a.map (": " ++ ·)).getD "" ++ (f.map ("=" ++ ·)).getD ""

def Expr.printParamList (plain : Bool) : List (Param Expr) → Option (List String)
  | [] => some []
  | p :: rest => do
    return (← Expr.printParam plain p) :: (← Expr.printParamList plain rest)

/-- A parameter that may be missing, behind its stars. -/
def Expr.printStarParam (plain : Bool) (stars : String) : Option (Param Expr) → Option (List String)
  | none => some []
  | some p => do return [stars ++ (← Expr.printParam plain p)]

def Expr.printParams (plain : Bool) : Params Expr → Option String
  | ⟨positionalOnly, positional, variadic, keywordOnly, keywordRest⟩ => do
    let first ← Expr.printParamList plain positionalOnly
    let second ← Expr.printParamList plain positional
    let star ← Expr.printStarParam plain "*" variadic
    let third ← Expr.printParamList plain keywordOnly
    let last ← Expr.printStarParam plain "**" keywordRest
    let slash := if first.isEmpty then [] else ["/"]
    let star := if star.isEmpty && !third.isEmpty then ["*"] else star
    return ", ".intercalate (first ++ slash ++ second ++ star ++ third ++ last)

/-- One part of a formatted text as it stands between the quotes; `true` marks literal text. -/
def Expr.printPiece : Expr → Option (List Nat × Bool)
  | .constant (.text s _) => some (doubleBraces (s.toList.map Char.toNat), true)
  | .constant (.halved t _) => some (doubleBraces t.codes, true)
  | .formatted value conversion spec => do
    let v ← value.print true Strength.test.next
    let s ← Expr.printSpec spec
    let piece ← inBraces v conversion s
    return (piece, false)
  | .joined parts => do
    let pieces ← Expr.printPieces parts
    return (pieces.flatMap Prod.fst, false)
  | _ => none

def Expr.printSpec : Option Expr → Option (List Nat)
  | none => some []
  | some spec => do
    let p ← Expr.printPiece spec
    return ':'.toNat :: p.1

def Expr.printPieces : List Expr → Option (List (List Nat × Bool))
  | [] => some []
  | e :: rest => do return (← Expr.printPiece e) :: (← Expr.printPieces rest)

end

/-- The printed form of an expression; one that has none prints as the empty text. -/
def Expr.text (e : Expr) : String := (e.print false .test).getD ""

def Params.text (p : Params Expr) : String := (Expr.printParams false p).getD ""

end CallCompletion.Source
