import CallCompletion.Text.Lines

/-!
# Paths

A path is a root and a list of names. Repeated slashes and names that mean "here" are dropped when a
path is read; the name of the parent directory is kept. A path with exactly two slashes in front is
kept apart from one with a single slash.
-/

namespace CallCompletion.Files

open CallCompletion.Text

/-- Where a path starts. -/
inductive Root where
  /-- At the current directory. -/
  | here
  | slash
  | doubleSlash
  deriving DecidableEq, Repr, Inhabited

def Root.text : Root → String
  | .here => ""
  | .slash => "/"
  | .doubleSlash => "//"

structure Path where
  root : Root
  names : List String
  deriving DecidableEq, Repr, Inhabited

namespace Path

def rootOf : List Char → Root
  | '/' :: '/' :: '/' :: _ => .slash
  | '/' :: '/' :: _ => .doubleSlash
  | '/' :: _ => .slash
  | _ => .here

def ofText (s : String) : Path where
  root := rootOf s.toList
  names := ((splitAtChar '/' s.toList).map String.ofList).filter fun n ↦ n != "" && n != "."

/-- The spelling of a path; the current directory is a dot. -/
def text (p : Path) : String :=
  match p.root, p.names with
  | .here, [] => "."
  | root, names => root.text ++ "/".intercalate names

/-- A path from another one on. One with a root of its own starts there. -/
def join (base p : Path) : Path :=
  match p.root with
  | .here => ⟨base.root, base.names ++ p.names⟩
  | _ => p

end Path

end CallCompletion.Files
