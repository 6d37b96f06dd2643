import CallCompletion.Text.Word

/-!
# Parents at the cursor

What stands before the cursor can be a path whose members are asked for: names with dots between
them, of which the last one is being typed.
-/

namespace CallCompletion.Server

open CallCompletion.Text

/-- The first `n` characters; a negative `n` leaves out that many at the end. -/
def takeInt (n : Int) (cs : List Char) : List Char :=
  if n < 0 then cs.take (cs.length - n.natAbs) else cs.take n.toNat

def withoutLineFeed (cs : List Char) : List Char :=
  if cs.getLast? = some '\n' then cs.dropLast else cs

/-- A character of a path. -/
def isPathChar (c : Char) : Bool := isWordChar c || c == '.'

/-- The longest path that a text ends with. -/
def pathSuffix (cs : List Char) : List Char := (cs.reverse.takeWhile isPathChar).reverse

/-- What comes before the last dot of a path. -/
def beforeLastDot (path : List Char) : List Char :=
  ((path.reverse.dropWhile (· != '.')).drop 1).reverse

/-- The parent that a line asks for the members of: the path before its last dot, from the first
letter or underscore on. -/
def parentOfLine (cs : List Char) : Option String :=
  match (beforeLastDot (pathSuffix (withoutLineFeed cs))).dropWhile (!isNameStart ·) with
  | [] => none
  | parent => some (String.ofList parent)

def parentAt (lines : List (List Char)) (line character : Int) : Option String :=
  if line < 0 then none
  else lines[line.toNat]?.bind fun cs ↦ parentOfLine (takeInt character cs)

end CallCompletion.Server
