import CallCompletion.Files.Reading
import CallCompletion.Table

/-!
# Files in memory

A directory of files that is held in memory, as the current directory of an otherwise empty machine.
A path is followed name by name: a file leads nowhere further, a directory to what is in it, and the
name of the parent back out.
-/

namespace CallCompletion.Files

/-- The files below the current directory, by their names from there. -/
abbrev Directory := List (List String × List UInt8)

/-- Where a path has led to so far. -/
inductive Place where
  /-- A directory at or below the current one. -/
  | inside (names : List String)
  /-- The content of a file. -/
  | file (bytes : List UInt8)
  /-- A directory above the current one. -/
  | outside
  deriving DecidableEq, Repr

/-- The longest name a file can have, in bytes. -/
def maxNameBytes : Nat := 255

/-- The longest path that can be followed, in bytes. -/
def maxPathBytes : Nat := 4095

def Directory.child (d : Directory) (names : List String) (name : String) :
    Except ReadRefusal Place :=
  let path := names ++ [name]
  if name.utf8ByteSize > maxNameBytes then .error .nameTooLong
  else
    match d.lookup path with
    | some bytes => .ok (.file bytes)
    | none => if d.any (path.isPrefixOf ·.1) then .ok (.inside path) else .error .missing

def Directory.step (d : Directory) (place : Place) (name : String) : Except ReadRefusal Place :=
  match place with
  | .file _ => .error .notDirectory
  | .outside => if name = ".." then .ok .outside else .error .missing
  | .inside names =>
    if name = ".." then .ok (if names.isEmpty then .outside else .inside names.dropLast)
    else d.child names name

def Directory.bytes (d : Directory) (p : Path) : Except ReadRefusal (List UInt8) :=
  if p.text.utf8ByteSize > maxPathBytes then .error .nameTooLong
  else
    let start : Place := if p.root = .here then .inside [] else .outside
    match p.names.foldlM d.step start with
    | .error r => .error r
    | .ok (.file bytes) => .ok bytes
    | .ok _ => .error .isDirectory

/-- The machine with these files. -/
def Directory.store (d : Directory) : FileStore := ⟨d.bytes⟩

def Directory.write (d : Directory) (p : Path) (bytes : List UInt8) : Directory :=
  (p.names, bytes) :: d.filter (·.1 != p.names)

/-- A written file holds its new bytes; all others keep theirs. -/
theorem Directory.lookup_write (d : Directory) (p : Path) (bytes : List UInt8)
    (names : List String) :
    (d.write p bytes).lookup names = if names = p.names then some bytes else d.lookup names := by
  by_cases h : names = p.names
  · simp [write, h]
  · have hne : (names == p.names) = false := beq_false_of_ne h
    simp only [write, List.lookup_cons, hne, lookup_filter_key_ne, if_neg h]

/-! ## Written files -/

/-- A path at which a directory can hold a file: it is written with names that are not too long, and
none of the directories on it is a file. -/
structure Directory.CanHold (d : Directory) (p : Path) : Prop where
  below : p.root = .here
  named : p.names ≠ []
  short : p.text.utf8ByteSize ≤ maxPathBytes
  names_short : ∀ n ∈ p.names, n.utf8ByteSize ≤ maxNameBytes
  forward : ".." ∉ p.names
  directories : ∀ above, above <+: p.names → above ≠ p.names → d.lookup above = none

namespace Directory

variable {d : Directory} {p : Path}

/-- The names of a path lead through directories to the file that is written there. -/
theorem foldlM_step_write (h : d.CanHold p) (bytes : List UInt8) {before rest : List String}
    (hsplit : before ++ rest = p.names) (hrest : rest ≠ []) :
    rest.foldlM (d.write p bytes).step (.inside before) = .ok (.file bytes) := by
  induction rest generalizing before with
  | nil => exact absurd rfl hrest
  | cons n rest ih =>
    have hmem : n ∈ p.names := by simp [← hsplit]
    have hshort := h.names_short n hmem
    have hparent : n ≠ ".." := fun hn ↦ h.forward (hn ▸ hmem)
    have hsplit' : (before ++ [n]) ++ rest = p.names := by simpa using hsplit
    have hlookup := lookup_write d p bytes (before ++ [n])
    rw [List.foldlM_cons, step, if_neg hparent, child, if_neg (Nat.not_lt.2 hshort)]
    by_cases hend : rest = []
    · subst hend
      rw [List.append_nil] at hsplit'
      rw [if_pos hsplit'] at hlookup
      rw [hlookup]
      rfl
    · have hbefore : before ++ [n] ≠ p.names := by
        rw [← hsplit']
        simpa using hend
      have hprefix : before ++ [n] <+: p.names := ⟨rest, hsplit'⟩
      rw [if_neg hbefore, h.directories _ hprefix hbefore] at hlookup
      have hinside : (d.write p bytes).any ((before ++ [n]).isPrefixOf ·.1) = true := by
        simp [write, hprefix]
      simp only [hlookup, hinside, if_true]
      exact ih hsplit' hend

/-- A file that is written can be read. -/
theorem bytes_write (h : d.CanHold p) (bytes : List UInt8) :
    (d.write p bytes).store.bytes p = .ok bytes := by
  have hplace := foldlM_step_write h bytes (List.nil_append p.names) h.named
  change (d.write p bytes).bytes p = .ok bytes
  unfold Directory.bytes
  rw [if_neg (Nat.not_lt.2 h.short), if_pos h.below]
  simp only [hplace]

end Directory

end CallCompletion.Files
