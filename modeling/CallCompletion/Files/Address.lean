import CallCompletion.Text.Lines
import CallCompletion.Text.Word

/-!
# Network addresses

The two kinds of addresses a host can be written as: four decimal numbers with dots between them, or
up to eight hexadecimal groups with colons between them, of which one run of zeros may be left out.
-/

namespace CallCompletion.Files

open CallCompletion.Text

/-- One number of an address of the old kind: up to three digits, without needless zeros, below
256. -/
def isOctet (cs : List Char) : Bool :=
  !cs.isEmpty && cs.all Char.isDigit && cs.length ≤ 3 && (cs.head? != some '0' || cs.length == 1) &&
    decimalValue cs < 256

def isOldAddress (cs : List Char) : Bool :=
  let parts := splitAtChar '.' cs
  parts.length == 4 && parts.all isOctet

def isGroup (cs : List Char) : Bool :=
  !cs.isEmpty && cs.length ≤ 4 && cs.all fun c ↦ (hexValue? c).isSome

/-- Groups in which an address of the old kind may stand last, for two groups. -/
def expandLast (groups : List (List Char)) : Option (List (List Char)) :=
  match groups.getLast? with
  | some last =>
    if last.contains '.' then
      if isOldAddress last then some (groups.dropLast ++ [['0'], ['0']]) else none
    else some groups
  | none => none

/-- Groups of which at most one run is left out. -/
def areGroups (groups : List (List Char)) : Bool :=
  let inner := (groups.drop 1).dropLast
  match inner.count [] with
  | 0 => groups.length == 8 && groups.all isGroup
  | 1 =>
    let before := groups.takeWhile (!·.isEmpty)
    let leading := if groups.head? = some [] then [] else before
    let trailing := (groups.reverse.takeWhile (!·.isEmpty)).reverse
    let leadingFits := groups.head? != some [] || (groups.drop 1).head? == some []
    let trailingFits := groups.getLast? != some [] || (groups.reverse.drop 1).head? == some []
    leadingFits && trailingFits && leading.all isGroup && trailing.all isGroup &&
      leading.length + trailing.length < 8
  | _ => false

/-- The name of an interface after an address: not empty, and without another mark. -/
def isZone (cs : List Char) : Bool := !cs.isEmpty && !cs.contains '%'

def isNewAddress (cs : List Char) : Bool :=
  let address := cs.takeWhile (· != '%')
  let zoneFits :=
    match cs.dropWhile (· != '%') with
    | [] => true
    | _ :: zone => isZone zone
  let groups := splitAtChar ':' address
  zoneFits && groups.length ≥ 3 &&
    match expandLast groups with
    | some groups => groups.length ≤ 9 && areGroups groups
    | none => false

/-- An address of a future kind: a mark with a version, a dot, and something after it. -/
def isFutureAddress (cs : List Char) : Bool :=
  match cs with
  | 'v' :: rest =>
    let version := rest.takeWhile fun c ↦ (hexValue? c).isSome
    match rest.drop version.length with
    | '.' :: c :: tail => !version.isEmpty && (c :: tail).all (· != '\n')
    | _ => false
  | _ => false

end CallCompletion.Files
