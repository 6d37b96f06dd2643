import CallCompletion.Data.Toml.Scalar

/-!
# Settings files

A settings file is a sequence of entries, each for the table whose heading stands before it. A table
is declared at most once, and what is written as one value cannot be extended later. Marks on paths
keep track of both: a closed path holds a value that nothing can be added to, a declared one has had
its heading.
-/

namespace CallCompletion.Data.Toml

abbrev Path := List String

/-! ## Marks -/

/-- What is known of a path. -/
inductive Mark where
  /-- The path holds a value, and nothing at or below it can be changed. -/
  | closed
  /-- The table at the path has been declared. -/
  | declared
  deriving DecidableEq, Repr

abbrev Marks := List (Path × Mark)

/-- Whether a path is closed, by itself or by a path that leads to it. -/
def Marks.isClosed (marks : Marks) (path : Path) : Bool :=
  marks.any fun (p, m) ↦ m == .closed && p.isPrefixOf path

def Marks.isDeclared (marks : Marks) (path : Path) : Bool :=
  marks.any fun (p, m) ↦ m == .declared && p == path

/-- Drops the marks at and below a path. -/
def Marks.clear (marks : Marks) (path : Path) : Marks :=
  marks.filter fun (p, _) ↦ !path.isPrefixOf p

/-! ## Tables at paths -/

/-- Changes the table at a path, which is made if it is not there. A list of tables leads to its
last one if `throughLists` is set; another value leads nowhere. -/
def changeAt (throughLists : Bool) (change : Table Value → Option (Table Value)) :
    Path → Table Value → Option (Table Value)
  | [], t => change t
  | name :: rest, t =>
    match t.get? name with
    | none => (changeAt throughLists change rest []).map fun inner ↦ t.insert name (.table inner)
    | some (.table inner) =>
      (changeAt throughLists change rest inner).map fun inner ↦ t.insert name (.table inner)
    | some (.list items) =>
      match throughLists, items.getLast? with
      | true, some (.table inner) =>
        (changeAt throughLists change rest inner).map fun inner ↦
          t.insert name (.list (items.dropLast ++ [.table inner]))
      | _, _ => none
    | some _ => none

def enter (name : String) (value : Value) (t : Table Value) : Option (Table Value) :=
  if (t.get? name).isSome then none else some (t.insert name value)

def addTable (name : String) (t : Table Value) : Option (Table Value) :=
  match t.get? name with
  | none => some (t.insert name (.list [.table []]))
  | some (.list items) => some (t.insert name (.list (items ++ [.table []])))
  | some _ => none

def splitLast : Path → Option (Path × String)
  | [] => none
  | [name] => some ([], name)
  | name :: rest => (splitLast rest).map fun (path, last) ↦ (name :: path, last)

/-! ## Keys -/

/-- A character of a name without quotes. -/
def isBareChar (c : Char) : Bool := c.isAlphanum || c == '-' || c == '_'

def skipSpace (cs : List Char) : List Char := cs.dropWhile isSpace

def readName (cs : List Char) : Option (String × List Char) :=
  match cs with
  | '"' :: rest =>
    (readLineText (rest.length + 1) rest).map fun (text, rest) ↦ (String.ofList text, rest)
  | '\'' :: rest => (readLiteral rest).map fun (text, rest) ↦ (String.ofList text, rest)
  | _ =>
    if cs.head?.any isBareChar then
      some (String.ofList (cs.takeWhile isBareChar), cs.dropWhile isBareChar)
    else none

/-- Reads a path of names with dots between them. The first argument bounds the number of names. -/
def readPathUpTo : Nat → List Char → Option (Path × List Char)
  | 0, _ => none
  | bound + 1, cs => do
    let (name, rest) ← readName cs
    match skipSpace rest with
    | '.' :: rest =>
      let (names, rest) ← readPathUpTo bound (skipSpace rest)
      return (name :: names, rest)
    | rest => return ([name], rest)

def readPath (cs : List Char) : Option (Path × List Char) := readPathUpTo (cs.length + 1) cs

/-! ## Values -/

/-- Skips a comment, in which control characters may not stand. -/
def skipComment (cs : List Char) : Option (List Char) :=
  match cs with
  | '#' :: rest =>
    if (rest.takeWhile (· != '\n')).any isIllegal then none else some (rest.dropWhile (· != '\n'))
  | _ => some cs

/-- Skips blanks, ends of lines and comments. The first argument bounds the number of comments. -/
def skipBetween : Nat → List Char → Option (List Char)
  | 0, cs => some cs
  | bound + 1, cs =>
    match cs.dropWhile isSpaceOrEnd with
    | '#' :: rest => (skipComment ('#' :: rest)).bind (skipBetween bound)
    | rest => some rest

/-- A table written as one value, while it is read. -/
structure Inline where
  table : Table Value
  marks : Marks

/-- Enters a value at a path of a table written as one value. -/
def Inline.enter (t : Inline) (path : Path) (value : Value) : Option Inline := do
  if t.marks.isClosed path then none
  else
    let (parent, name) ← splitLast path
    let table ← changeAt false (Toml.enter name value) parent t.table
    match value with
    | .list _ | .table _ => return ⟨table, (path, .closed) :: t.marks⟩
    | _ => return ⟨table, t.marks⟩

mutual

/-- Reads a value. The first argument bounds how many values there can be. -/
def readValue : Nat → List Char → Except Refusal (Value × List Char)
  | 0, _ => .error .malformed
  | bound + 1, cs =>
    match cs with
    | '[' :: rest => do
      let rest ← orMalformed (skipBetween rest.length rest)
      let (items, rest) ← readItems bound rest
      return (.list items, rest)
    | '\x7b' :: rest =>
      match skipSpace rest with
      | '\x7d' :: rest => .ok (.table [], rest)
      | rest => (readInline bound ⟨[], []⟩ rest).map fun (t, rest) ↦ (.table t, rest)
    | '"' :: _ | '\'' :: _ => (orMalformed (readText cs)).map fun (s, rest) ↦ (.text s, rest)
    | _ => readPlain cs

/-- Reads the items of a list up to its bracket, before which a comma may stand. -/
def readItems : Nat → List Char → Except Refusal (List Value × List Char)
  | 0, _ => .error .malformed
  | bound + 1, cs =>
    match cs with
    | ']' :: rest => .ok ([], rest)
    | _ => do
      let (value, rest) ← readValue bound cs
      let rest ← orMalformed (skipBetween rest.length rest)
      match rest with
      | ']' :: rest => return ([value], rest)
      | ',' :: rest =>
        let rest ← orMalformed (skipBetween rest.length rest)
        let (items, rest) ← readItems bound rest
        return (value :: items, rest)
      | _ => .error .malformed

/-- Reads the entries of a table written as one value up to its brace. -/
def readInline : Nat → Inline → List Char → Except Refusal (Table Value × List Char)
  | 0, _, _ => .error .malformed
  | bound + 1, t, cs => do
    let (path, rest) ← orMalformed (readPath cs)
    match rest with
    | '=' :: rest =>
      let (value, rest) ← readValue bound (skipSpace rest)
      let t ← orMalformed (t.enter path value)
      match skipSpace rest with
      | '\x7d' :: rest => return (t.table, rest)
      | ',' :: rest => readInline bound t (skipSpace rest)
      | _ => .error .malformed
    | _ => .error .malformed

end

/-! ## Documents -/

/-- A document while it is read. -/
structure Document where
  table : Table Value
  marks : Marks
  /-- Tables that paths of entries have passed through since the last heading. They count as
  declared from the next heading on. -/
  passed : List Path
  /-- The table that entries belong to. -/
  heading : Path

namespace Document

def empty : Document := ⟨[], [], [], []⟩

/-- Settles what the entries under the last heading have declared. -/
def settle (d : Document) : Document :=
  { d with marks := d.passed.map (·, .declared) ++ d.marks, passed := [] }

def openTable (d : Document) (path : Path) : Option Document := do
  if d.marks.isDeclared path || d.marks.isClosed path then none
  else
    let table ← changeAt true some path d.table
    return { d with table, marks := (path, .declared) :: d.marks, heading := path }

/-- Adds a table to the list at a path and starts it. -/
def openListItem (d : Document) (path : Path) : Option Document := do
  if d.marks.isClosed path then none
  else
    let (parent, name) ← splitLast path
    let table ← changeAt true (addTable name) parent d.table
    return { d with table, marks := (path, .declared) :: d.marks.clear path, heading := path }

/-- The tables that a path of an entry passes through. -/
def tablesOnTheWay (heading path : Path) : List Path :=
  (path.dropLast.length |> List.range).map fun i ↦ heading ++ path.take (i + 1)

def enterValue (d : Document) (path : Path) (value : Value) : Option Document := do
  let (parent, name) ← splitLast path
  let passed := tablesOnTheWay d.heading path
  if passed.any d.marks.isDeclared || d.marks.isClosed (d.heading ++ parent) then none
  else
    let table ← changeAt true (Toml.enter name value) (d.heading ++ parent) d.table
    let marks :=
      match value with
      | .list _ | .table _ => (d.heading ++ path, .closed) :: d.marks
      | _ => d.marks
    return { d with table, marks, passed := d.passed ++ passed }

def readStatement (d : Document) (cs : List Char) : Except Refusal (Document × List Char) :=
  match cs with
  | '[' :: '[' :: rest => do
    let (path, rest) ← orMalformed (readPath (skipSpace rest))
    let d ← orMalformed (d.settle.openListItem path)
    match rest with
    | ']' :: ']' :: rest => return (d, rest)
    | _ => .error .malformed
  | '[' :: rest => do
    let (path, rest) ← orMalformed (readPath (skipSpace rest))
    let d ← orMalformed (d.settle.openTable path)
    match rest with
    | ']' :: rest => return (d, rest)
    | _ => .error .malformed
  | '#' :: _ => .ok (d, cs)
  | _ => do
    let (path, rest) ← orMalformed (readPath cs)
    match rest with
    | '=' :: rest =>
      let rest := skipSpace rest
      let (value, rest) ← readValue (rest.length + 1) rest
      return (← orMalformed (d.enterValue path value), rest)
    | _ => .error .malformed

/-- Reads the rest of a document. The first argument bounds the number of lines. -/
def readFrom : Nat → Document → List Char → Except Refusal Document
  | 0, d, _ => .ok d
  | bound + 1, d, cs =>
    match skipSpace cs with
    | [] => .ok d
    | '\n' :: rest => readFrom bound d rest
    | cs => do
      let (d, rest) ← d.readStatement cs
      let rest ← orMalformed (skipComment (skipSpace rest))
      match rest with
      | [] => return d
      | '\n' :: rest => readFrom bound d rest
      | _ => .error .malformed

end Document

def read (text : List Char) : Except Refusal (Table Value) :=
  (Document.readFrom (text.length + 1) .empty text).map Document.table

end CallCompletion.Data.Toml
