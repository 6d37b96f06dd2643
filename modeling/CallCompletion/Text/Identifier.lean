import CallCompletion.Text.Blank
import CallCompletion.Text.IdentifierPartRanges
import CallCompletion.Text.IdentifierStartRanges
import CallCompletion.Text.Range

/-!
# Identifiers

Identifiers start with a letter of any script or an underscore and go on with letters, marks,
digits and connectors. Full-width forms and the Latin ligatures are read as the plain letters they
are compatible with, so that two spellings of one name are one name. Of the compatibility forms
these are the ones that are covered; every other character stands for itself.
-/

namespace CallCompletion.Text

def isIdentifierStart (c : Char) : Bool :=
  if c.toNat < 128 then c.isAlpha || c == '_' else inRanges identifierStartRanges c.toNat

def isIdentifierPart (c : Char) : Bool :=
  if c.toNat < 128 then c.isAlphanum || c == '_' else inRanges identifierPartRanges c.toNat

def isIdentifier : List Char → Bool
  | [] => false
  | c :: cs => isIdentifierStart c && cs.all isIdentifierPart

/-- A character that can stand nowhere in an identifier is in none. -/
theorem not_mem_of_isIdentifier {cs : List Char} {c : Char} (h : isIdentifier cs = true)
    (hstart : isIdentifierStart c = false) (hpart : isIdentifierPart c = false) : c ∉ cs := by
  cases cs with
  | nil => cases h
  | cons d rest =>
    obtain ⟨hd, hrest⟩ := Bool.and_eq_true_iff.1 h
    intro hmem
    rcases List.mem_cons.1 hmem with rfl | hmem
    · rw [hd] at hstart
      cases hstart
    · rw [List.all_eq_true.1 hrest c hmem] at hpart
      cases hpart

/-- No part of an identifier is blank. -/
theorem isBlank_of_mem_identifier {cs : List Char} {c : Char} (h : isIdentifier cs = true)
    (hc : c ∈ cs) : isBlank c = false := by
  have hblanks : ∀ n ∈ [9, 10, 11, 12, 13, 28, 29, 30, 31, 32, 0x85, 0xa0, 0x1680, 0x2000, 0x2001,
      0x2002, 0x2003, 0x2004, 0x2005, 0x2006, 0x2007, 0x2008, 0x2009, 0x200a, 0x2028, 0x2029,
      0x202f, 0x205f, 0x3000],
      isIdentifierStart (Char.ofNat n) = false ∧ isIdentifierPart (Char.ofNat n) = false := by
    decide +kernel
  rw [← Bool.not_eq_true]
  intro hblank
  have hcode := hblanks c.toNat (by simp [isBlank] at hblank ⊢; omega)
  rw [Char.ofNat_toNat] at hcode
  exact not_mem_of_isIdentifier h hcode.1 hcode.2 hc

/-- The plain spelling of a full-width form or a Latin ligature. -/
def plainForm (c : Char) : List Char :=
  let n := c.toNat
  if 0xff01 ≤ n && n ≤ 0xff5e then [Char.ofNat (n - 0xfee0)]
  else if n == 0xfb00 then ['f', 'f']
  else if n == 0xfb01 then ['f', 'i']
  else if n == 0xfb02 then ['f', 'l']
  else if n == 0xfb03 then ['f', 'f', 'i']
  else if n == 0xfb04 then ['f', 'f', 'l']
  else if n == 0xfb05 || n == 0xfb06 then ['s', 't']
  else [c]

/-- The spelling under which a name is known. -/
def plainName (cs : List Char) : String := String.ofList (cs.flatMap plainForm)

end CallCompletion.Text
