import CallCompletion.Proofs.Classification
import CallCompletion.Proofs.ItemFilling
import Mathlib.Data.List.SplitBy
import Mathlib.Data.List.TakeWhile

/-!
# URIs of absolute paths

The bytes of a path in UTF-8 can be written into a URI in many ways: a byte of a few plain
characters as it stands or as an escape, any other byte as an escape, with hexadecimal digits of
either case, and a slash always as a slash. Whichever way is chosen, nothing in the text divides a
URI or is tidied away, the escapes give back the bytes, and the bytes the path. So an open document
is found by its path, however an editor has written its URI. What can keep it from being found is
only a document listed before it whose URI has no path. -/

namespace CallCompletion

namespace Text

/-! ## Reading the bytes of characters -/

/-- Bytes that continue a character are taken together, if the first of them lies in its range. -/
theorem continuation_map {lo hi : Nat} {tail : List Nat}
    (hfirst : ∀ t ∈ tail.head?, lo ≤ t ∧ t ≤ hi) (htail : ∀ t ∈ tail, 0x80 ≤ t ∧ t ≤ 0xbf)
    (rest : List UInt8) :
    continuation tail.length lo hi (tail.map UInt8.ofNat ++ rest) = tail := by
  induction tail generalizing lo hi with
  | nil => rfl
  | cons t tail ih =>
    obtain ⟨ht, hrest⟩ := List.forall_mem_cons.1 htail
    have hbyte : (UInt8.ofNat t).toNat = t := by
      rw [UInt8.toNat_ofNat', Nat.mod_eq_of_lt (by omega)]
    have hnext : ∀ u ∈ tail.head?, 0x80 ≤ u ∧ u ≤ 0xbf := by
      intro u hu
      exact hrest u (List.mem_of_mem_head? hu)
    have hrange : lo ≤ t ∧ t ≤ hi := hfirst t rfl
    rw [List.length_cons, List.map_cons, List.cons_append, continuation, hbyte, if_pos (by simpa),
      ih hnext hrest]

/-- The number that a lead byte and the bytes after it make up. -/
def numberOf (b : Nat) (tail : List Nat) : Nat :=
  tail.foldl (fun v t ↦ v * 64 + (t - 0x80)) (leadBits b tail.length)

theorem decodeFront_of_lead {b lo hi : Nat} {tail : List Nat} (hb : b < 256)
    (hlead : leadByte b = some (tail.length, lo, hi))
    (hfirst : ∀ t ∈ tail.head?, lo ≤ t ∧ t ≤ hi) (htail : ∀ t ∈ tail, 0x80 ≤ t ∧ t ≤ 0xbf)
    (rest : List UInt8) :
    decodeFront (UInt8.ofNat b) (tail.map UInt8.ofNat ++ rest) =
      .ok (Char.ofNat (numberOf b tail), tail.length + 1) := by
  have hbyte : (UInt8.ofNat b).toNat = b := by rw [UInt8.toNat_ofNat', Nat.mod_eq_of_lt hb]
  simp only [decodeFront, hbyte, hlead, continuation_map hfirst htail rest, if_true]
  rfl

theorem leadByte_of_two {b : Nat} (hlo : 0xc2 ≤ b) (hhi : b < 0xe0) :
    leadByte b = some (1, 0x80, 0xbf) := by
  simp only [leadByte, show ¬b < 0x80 by omega, show ¬b < 0xc2 by omega, hhi, if_true, if_false]

/-- A lead byte of three bytes, with a second one that makes up neither a shorter character nor a
surrogate. -/
theorem leadByte_of_three {b : Nat} (second : Nat) (hlo : 0xe0 ≤ b) (hhi : b < 0xf0)
    (hsecond : 0x80 ≤ second ∧ second ≤ 0xbf) (hlong : b = 0xe0 → 0xa0 ≤ second)
    (hscalar : b = 0xed → second ≤ 0x9f) :
    ∃ lo hi, leadByte b = some (2, lo, hi) ∧ lo ≤ second ∧ second ≤ hi := by
  have hshort : ¬b < 0x80 ∧ ¬b < 0xc2 ∧ ¬b < 0xe0 := by omega
  simp only [leadByte, hshort, if_false]
  by_cases hfirst : b = 0xe0
  · exact ⟨0xa0, 0xbf, by rw [if_pos hfirst], hlong hfirst, hsecond.2⟩
  · rw [if_neg hfirst]
    by_cases hsurrogate : b = 0xed
    · exact ⟨0x80, 0x9f, by rw [if_pos hsurrogate], hsecond.1, hscalar hsurrogate⟩
    · exact ⟨0x80, 0xbf, by rw [if_neg hsurrogate, if_pos hhi], hsecond⟩

/-- A lead byte of four bytes, with a second one that makes up neither a shorter character nor a
number beyond the last one. -/
theorem leadByte_of_four {b : Nat} (second : Nat) (hlo : 0xf0 ≤ b) (hhi : b ≤ 0xf4)
    (hsecond : 0x80 ≤ second ∧ second ≤ 0xbf) (hlong : b = 0xf0 → 0x90 ≤ second)
    (hlast : b = 0xf4 → second ≤ 0x8f) :
    ∃ lo hi, leadByte b = some (3, lo, hi) ∧ lo ≤ second ∧ second ≤ hi := by
  have hshort : ¬b < 0x80 ∧ ¬b < 0xc2 ∧ ¬b < 0xe0 ∧ b ≠ 0xe0 ∧ b ≠ 0xed ∧ ¬b < 0xf0 := by omega
  simp only [leadByte, hshort, if_false]
  by_cases hfirst : b = 0xf0
  · exact ⟨0x90, 0xbf, by rw [if_pos hfirst], hlong hfirst, hsecond.2⟩
  · rw [if_neg hfirst]
    by_cases hbelow : b < 0xf4
    · exact ⟨0x80, 0xbf, by rw [if_pos hbelow], hsecond⟩
    · have hfour : b = 0xf4 := by omega
      exact ⟨0x80, 0x8f, by rw [if_neg hbelow, if_pos hfour], hsecond.1, hlast hfour⟩

/-- The bytes of a character are read as that character, whatever follows them. -/
theorem decodeFront_utf8EncodeChar (c : Char) (rest : List UInt8) :
    ∃ b more, String.utf8EncodeChar c = b :: more ∧
      decodeFront b (more ++ rest) = .ok (c, more.length + 1) := by
  have hscalar : c.val.toNat < 0xd800 ∨ 0xdfff < c.val.toNat ∧ c.val.toNat < 0x110000 := c.valid
  -- It is enough to find the lead byte and what follows it as numbers.
  have hread {b lo hi : Nat} (tail : List Nat) (hb : b < 256)
      (hlead : leadByte b = some (tail.length, lo, hi))
      (hfirst : ∀ t ∈ tail.head?, lo ≤ t ∧ t ≤ hi) (htail : ∀ t ∈ tail, 0x80 ≤ t ∧ t ≤ 0xbf)
      (hnumber : numberOf b tail = c.val.toNat) :
      decodeFront (UInt8.ofNat b) (tail.map UInt8.ofNat ++ rest) = .ok (c, tail.length + 1) := by
    rw [decodeFront_of_lead hb hlead hfirst htail, hnumber]
    exact congrArg (fun d ↦ Except.ok (d, tail.length + 1)) (Char.ofNat_toNat c)
  fun_cases String.utf8EncodeChar c with
  | case1 v hone =>
    have hlead : leadByte v = some (0, 0x80, 0xbf) := if_pos (by omega)
    exact ⟨_, _, rfl, hread [] (by omega) hlead nofun nofun rfl⟩
  | case2 v hone htwo =>
    refine ⟨_, _, rfl, hread [v % 64 + 128] (by omega)
      (leadByte_of_two (by omega) (by omega)) ?_ ?_ ?_⟩
    · rintro t ⟨⟩
      omega
    · rw [List.forall_mem_singleton]
      omega
    · change (v / 64 % 32 + 192 - 0xc0) * 64 + (v % 64 + 128 - 0x80) = v
      omega
  | case3 v hone htwo hthree =>
    obtain ⟨lo, hi, hlead, hrange⟩ := leadByte_of_three (b := v / 4096 % 16 + 224)
      (v / 64 % 64 + 128) (by omega) (by omega) (by omega) (by omega) (by omega)
    refine ⟨_, _, rfl, hread [v / 64 % 64 + 128, v % 64 + 128] (by omega) hlead
      (by simpa using hrange) ?_ ?_⟩
    · simp only [List.forall_mem_cons, List.not_mem_nil, false_imp_iff, implies_true, and_true]
      omega
    · change ((v / 4096 % 16 + 224 - 0xe0) * 64 + (v / 64 % 64 + 128 - 0x80)) * 64 +
        (v % 64 + 128 - 0x80) = v
      omega
  | case4 v hone htwo hthree =>
    obtain ⟨lo, hi, hlead, hrange⟩ := leadByte_of_four (b := v / 262144 % 8 + 240)
      (v / 4096 % 64 + 128) (by omega) (by omega) (by omega) (by omega) (by omega)
    refine ⟨_, _, rfl, hread [v / 4096 % 64 + 128, v / 64 % 64 + 128, v % 64 + 128]
      (by omega) hlead (by simpa using hrange) ?_ ?_⟩
    · simp only [List.forall_mem_cons, List.not_mem_nil, false_imp_iff, implies_true, and_true]
      omega
    · change (((v / 262144 % 8 + 240 - 0xf0) * 64 + (v / 4096 % 64 + 128 - 0x80)) * 64 +
        (v / 64 % 64 + 128 - 0x80)) * 64 + (v % 64 + 128 - 0x80) = v
      omega

/-- The bytes of a text stand for the text. -/
theorem decodeLossyFrom_utf8Encode (cs : List Char) (fuel : Nat)
    (h : (cs.flatMap String.utf8EncodeChar).length ≤ fuel) :
    decodeLossyFrom fuel (cs.flatMap String.utf8EncodeChar) = cs := by
  induction cs generalizing fuel with
  | nil => cases fuel <;> rfl
  | cons c cs ih =>
    obtain ⟨b, more, hc, hfront⟩ :=
      decodeFront_utf8EncodeChar c (cs.flatMap String.utf8EncodeChar)
    rw [List.flatMap_cons, hc] at h ⊢
    rw [List.cons_append, List.length_cons, List.length_append] at h
    obtain ⟨fuel, rfl⟩ : ∃ n, fuel = n + 1 := Nat.exists_eq_add_one.2 (by omega)
    rw [List.cons_append, decodeLossyFrom, hfront]
    simp only [Nat.add_sub_cancel, List.drop_left]
    rw [ih fuel (by omega)]

theorem toList_data_toUTF8 (s : String) :
    s.toUTF8.data.toList = s.toList.flatMap String.utf8EncodeChar := by
  rw [String.toUTF8_eq_toByteArray, ← String.utf8Encode_toList, List.utf8Encode,
    List.toList_data_toByteArray]

/-- Reading the UTF-8 of a text gives the text back. -/
theorem decodeUtf8Lossy_toUTF8 (s : String) : decodeUtf8Lossy s.toUTF8.data.toList = s.toList := by
  rw [toList_data_toUTF8, decodeUtf8Lossy]
  exact decodeLossyFrom_utf8Encode s.toList _ (Nat.le_refl _)

end Text

namespace Files

open CallCompletion.Text

/-! ## Ways to write bytes into a URI -/

/-- A character that stands for its byte in a URI without being escaped: an ASCII letter or digit, a
hyphen, a dot, an underscore or a tilde. -/
def isUnreserved (c : Char) : Bool :=
  c.isAlphanum || c == '-' || c == '.' || c == '_' || c == '~'

/-- The hexadecimal digits of a value, of either case. -/
def IsHexDigit (n : Nat) (c : Char) : Prop := c = Nat.digitChar n ∨ c = (Nat.digitChar n).toUpper

/-- The ways to write a byte of a path. A slash is written as it is. Other bytes may be escaped, and
have to be unless they are unreserved. -/
inductive WritesByte : UInt8 → List Char → Prop
  | slash : WritesByte '/'.toUInt8 ['/']
  | plain {c : Char} : isUnreserved c = true → WritesByte c.toUInt8 [c]
  | escape {b : UInt8} {high low : Char} : b ≠ '/'.toUInt8 → IsHexDigit (b.toNat / 16) high →
      IsHexDigit (b.toNat % 16) low → WritesByte b ['%', high, low]

/-- The texts that write bytes one after the other. -/
inductive Writes : List UInt8 → List Char → Prop
  | nil : Writes [] []
  | cons {b : UInt8} {piece : List Char} {bytes : List UInt8} {rest : List Char} :
      WritesByte b piece → Writes bytes rest → Writes (b :: bytes) (piece ++ rest)

/-- A text that writes the UTF-8 of an absolute path. -/
structure EncodesPath (p e : String) : Prop where
  absolute : p.toList.head? = some '/'
  writes : Writes p.toUTF8.data.toList e.toList

/-- A character that can stand in an encoded path. -/
def isEncoded (c : Char) : Bool := isUnreserved c || c == '/' || c == '%'

theorem IsHexDigit.hexValue? {n : Nat} {c : Char} (h : IsHexDigit n c) (hn : n < 16) :
    hexValue? c = some n := by
  have hall : ∀ n < 16, Text.hexValue? (Nat.digitChar n) = some n ∧
      Text.hexValue? (Nat.digitChar n).toUpper = some n := by decide +kernel
  rcases h with rfl | rfl
  · exact (hall n hn).1
  · exact (hall n hn).2

theorem IsHexDigit.isUnreserved {n : Nat} {c : Char} (h : IsHexDigit n c) (hn : n < 16) :
    isUnreserved c = true := by
  have hall : ∀ n < 16, Files.isUnreserved (Nat.digitChar n) = true ∧
      Files.isUnreserved (Nat.digitChar n).toUpper = true := by decide +kernel
  rcases h with rfl | rfl
  · exact (hall n hn).1
  · exact (hall n hn).2

theorem Writes.isEncoded {bytes : List UInt8} {cs : List Char} (h : Writes bytes cs) :
    ∀ c ∈ cs, isEncoded c = true := by
  induction h with
  | nil => exact nofun
  | @cons b piece bytes rest hpiece _ ih =>
    refine List.forall_mem_append.2 ⟨?_, ih⟩
    cases hpiece with
    | slash => exact List.forall_mem_singleton.2 rfl
    | plain hc => simp [Files.isEncoded, hc]
    | escape _ hhigh hlow =>
      have hb := b.toNat_lt
      simp [Files.isEncoded, hhigh.isUnreserved (by omega), hlow.isUnreserved (by omega)]

theorem toNat_lt_of_isEncoded {c : Char} (h : isEncoded c = true) : c.toNat < 128 := by
  simp only [isEncoded, isUnreserved, Bool.or_eq_true, beq_iff_eq, or_assoc] at h
  rcases h with h | rfl | rfl | rfl | rfl | rfl | rfl
  · exact toNat_lt_of_isAlphanum h
  all_goals decide

/-- Nothing in an encoded path is tidied away, and nothing in it divides a URI. -/
theorem ne_of_isEncoded {c d : Char} (h : isEncoded c = true)
    (hd : d ∈ ['\t', '\r', '\n', '#', '?']) : c ≠ d := by
  have hall : ∀ d ∈ ['\t', '\r', '\n', '#', '?'], isEncoded d = false := by
    simp only [List.forall_mem_cons, List.not_mem_nil, false_imp_iff, implies_true, and_true]
    decide
  rintro rfl
  rw [hall c hd] at h
  cases h

/-- Every spelling of bytes is read as those bytes. -/
theorem escapedBytes_of_writes {bytes : List UInt8} {cs : List Char} (h : Writes bytes cs) :
    escapedBytes cs = bytes := by
  induction h with
  | nil => rfl
  | @cons b piece bytes rest hpiece _ ih =>
    cases hpiece with
    | slash => simp [escapedBytes, ih]
    | @plain c hc =>
      have hpercent : c ≠ '%' := by
        rintro rfl
        exact absurd hc (by decide)
      simp [escapedBytes, ih, hpercent]
    | escape _ hhigh hlow =>
      have hb := b.toNat_lt
      simp only [List.cons_append, List.nil_append, escapedBytes, hhigh.hexValue? (by omega),
        hlow.hexValue? (by omega), ih]
      rw [Nat.div_add_mod, UInt8.ofNat_toNat]

/-- The escapes of an ASCII text are resolved all at once. -/
theorem unescape_of_ascii {cs : List Char} (h : ∀ c ∈ cs, c.toNat < 128) :
    unescape cs = decodeUtf8Lossy (escapedBytes cs) := by
  by_cases hnil : cs = []
  · rw [hnil]
    rfl
  · have hrun : cs.splitBy (fun a b ↦ (a.toNat < 128 : Bool) == (b.toNat < 128 : Bool)) = [cs] := by
      apply List.splitBy_of_isChain hnil
      apply List.Pairwise.isChain
      apply List.pairwise_of_forall_mem_list
      intro a ha b hb
      simp [h a ha, h b hb]
    have hascii : cs.all (fun c ↦ (c.toNat < 128 : Bool)) = true := by simpa using h
    rw [unescape, hrun, List.flatMap_singleton, if_pos hascii]

/-- Every spelling of a text is read as the text. -/
theorem unescape_of_writes {p : String} {cs : List Char} (h : Writes p.toUTF8.data.toList cs) :
    unescape cs = p.toList := by
  calc unescape cs
      = decodeUtf8Lossy (escapedBytes cs) :=
        unescape_of_ascii fun c hc ↦ toNat_lt_of_isEncoded (h.isEncoded c hc)
    _ = decodeUtf8Lossy p.toUTF8.data.toList := by rw [escapedBytes_of_writes h]
    _ = p.toList := decodeUtf8Lossy_toUTF8 p

theorem WritesByte.eq_slash {b : UInt8} {piece : List Char} (h : WritesByte b piece)
    (hb : b = '/'.toUInt8) : piece = ['/'] := by
  cases h with
  | slash => rfl
  | @plain c hc =>
    have hascii : c.toNat < 128 := toNat_lt_of_isEncoded (by simp [isEncoded, hc])
    have hcode : c.toNat % 256 = '/'.toNat := congrArg UInt8.toNat hb
    rw [Nat.mod_eq_of_lt (by omega)] at hcode
    rw [Char.toNat_inj.1 hcode]
  | escape hne _ _ => exact absurd hb hne

/-- The text that writes an absolute path starts with a slash. -/
theorem EncodesPath.exists_slash {p e : String} (h : EncodesPath p e) :
    ∃ rest, e.toList = '/' :: rest := by
  obtain ⟨names, hp⟩ := List.head?_eq_some_iff.1 h.absolute
  have hbytes : p.toUTF8.data.toList =
      '/'.toUInt8 :: names.flatMap String.utf8EncodeChar := by
    rw [toList_data_toUTF8, hp]
    rfl
  have hwrites := h.writes
  generalize p.toUTF8.data.toList = bytes, e.toList = cs at hbytes hwrites
  cases hwrites with
  | nil => cases hbytes
  | @cons b piece bytes rest hpiece hrest =>
    rw [hpiece.eq_slash (List.cons.inj hbytes).1]
    exact ⟨rest, rfl⟩

/-- However its path is written, the URI of a file has that path. -/
theorem EncodesPath.pathOfUri_eq {p e : String} (h : EncodesPath p e) :
    pathOfUri ("file://" ++ e) = .ok (Path.ofText p) := by
  obtain ⟨rest, hslash⟩ := h.exists_slash
  have hencoded := h.writes.isEncoded
  have hkept : ∀ c ∈ e.toList, (c != '\t' && c != '\r' && c != '\n') = true := by
    intro c hc
    simp [ne_of_isEncoded (hencoded c hc)]
  have hfile : ("file://" ++ e).toList = "file://".toList ++ e.toList := String.toList_append
  have htidy : tidyUri ("file://".toList ++ e.toList) = "file://".toList ++ e.toList := by
    change List.filter _ ("file://".toList ++ e.toList) = _
    rw [List.filter_append, List.filter_eq_self.2 hkept]
    rfl
  have hscheme : splitScheme ("file://".toList ++ e.toList) =
      ("file".toList, '/' :: '/' :: e.toList) := by
    rfl
  have hhost : splitHost ('/' :: '/' :: e.toList) = ([], e.toList) := by
    rw [hslash]
    rfl
  have hpath : uriPath e.toList = e.toList := by
    rw [uriPath, List.takeWhile_eq_self_iff]
    intro c hc
    simp [ne_of_isEncoded (hencoded c hc)]
  have htext : String.ofList (unescape (uriPath e.toList)) = p := by
    rw [hpath, unescape_of_writes h.writes, String.ofList_toList]
  unfold pathOfUri
  simp only [hfile, htidy, hscheme, hhost, htext]
  rfl

end Files

namespace Server

open CallCompletion.Files

namespace Workspace

/-! ## The document that a URI of a file is open under -/

/-- The first of some documents that has a path, and the documents before it. -/
structure FirstAt (p : Path) (documents before : Table String) (d : String × String) : Prop where
  listed : ∃ after, documents = before ++ d :: after
  has_path : pathOfUri d.1 = .ok p
  first : ∀ b ∈ before, pathOfUri b.1 ≠ .ok p

theorem exists_firstAt {p : Path} {documents : Table String} {d : String × String}
    (hd : d ∈ documents) (hpath : pathOfUri d.1 = .ok p) :
    ∃ before first, FirstAt p documents before first := by
  classical
  have hfound : (documents.find? fun d ↦ pathOfUri d.1 = .ok p).isSome := by
    rw [List.find?_isSome]
    exact ⟨d, hd, by simpa using hpath⟩
  obtain ⟨first, hfirst⟩ := Option.isSome_iff_exists.1 hfound
  obtain ⟨hhas, before, after, hlisted, hbefore⟩ := List.find?_eq_some_iff_append.1 hfirst
  exact ⟨before, first, ⟨after, hlisted⟩, by simpa using hhas, by simpa using hbefore⟩

/-- The first fault among the URIs of documents. -/
def firstFault? (documents : Table String) : Option Fault :=
  documents.findSome? fun d ↦ Fault.of? (pathOfUri d.1)

/-- The search for a document reads the URIs before it, and stops at the first fault. -/
theorem FirstAt.documentAt?_eq {p : Path} {documents before : Table String} {d : String × String}
    (h : FirstAt p documents before d) :
    documentAt? p documents = ((firstFault? before).map Except.error).getD (.ok (some d.2)) := by
  obtain ⟨⟨after, rfl⟩, hpath, hfirst⟩ := h
  induction before with
  | nil =>
    rw [List.nil_append, documentAt?, hpath]
    exact if_pos rfl
  | cons b before ih =>
    obtain ⟨hb, hbefore⟩ := List.forall_mem_cons.1 hfirst
    rw [List.cons_append, documentAt?, firstFault?, List.findSome?_cons]
    cases hq : pathOfUri b.1 with
    | error f => rfl
    | ok q =>
      have hne : q ≠ p := by
        rintro rfl
        exact hb hq
      exact (if_neg hne).trans (ih hbefore)

theorem FirstAt.sourceAt_eq {w : Workspace} {p : Path} {before : Table String}
    {d : String × String} (h : FirstAt p w.documents before d) :
    w.sourceAt p = ((firstFault? before).map Except.error).getD (.ok (.ok d.2)) := by
  rw [sourceAt, h.documentAt?_eq]
  cases firstFault? before <;> rfl

/-- No document stands in the way exactly when each of them has a path. -/
theorem firstFault?_eq_none_iff {documents : Table String} :
    firstFault? documents = none ↔ ∀ d ∈ documents, ∃ q, pathOfUri d.1 = .ok q := by
  simp only [firstFault?, List.findSome?_eq_none_iff, Fault.exists_ok_iff]

/-- The URI of a file has the path that is written in it. So, if it is open, the source at that path
is the text of the first document with the path, whatever the files are; unless a document before
that one has no path, and then its fault is all there is. -/
theorem sourceAt_of_encodesPath {p e : String} (h : EncodesPath p e) :
    pathOfUri ("file://" ++ e) = .ok (Path.ofText p) ∧
      ∀ (w : Workspace) (text : String), ("file://" ++ e, text) ∈ w.documents →
        (∃ before d, FirstAt (Path.ofText p) w.documents before d) ∧
          ∀ before d, FirstAt (Path.ofText p) w.documents before d →
            ((∀ b ∈ before, ∃ q, pathOfUri b.1 = .ok q) → ∀ files : FileStore,
              { w with files }.sourceAt (Path.ofText p) = .ok (.ok d.2)) ∧
            ∀ f, firstFault? before = some f → ∀ files : FileStore,
              { w with files }.sourceAt (Path.ofText p) = .error f := by
  refine ⟨h.pathOfUri_eq, fun w text hopen ↦ ⟨exists_firstAt hopen h.pathOfUri_eq, ?_⟩⟩
  intro before d hfirst
  have hsource (files : FileStore) : { w with files }.sourceAt (Path.ofText p) =
      ((firstFault? before).map Except.error).getD (.ok (.ok d.2)) :=
    FirstAt.sourceAt_eq (w := { w with files }) hfirst
  constructor
  · intro hpaths files
    rw [hsource, firstFault?_eq_none_iff.2 hpaths]
    rfl
  · intro f hf files
    rw [hsource, hf]
    rfl

/-- A path with a letter beyond ASCII, a blank, a question mark and a dot that need not be
escaped. -/
theorem encodesPath_accented : EncodesPath "/é ?.py" "/%c3%A9%20%3F%2epy" where
  absolute := rfl
  writes := by
    have hbytes : "/é ?.py".toUTF8.data.toList =
        [0x2f, 0xc3, 0xa9, 0x20, 0x3f, 0x2e, 0x70, 0x79] := by decide +kernel
    rw [hbytes]
    refine .cons .slash ?_
    refine .cons (.escape (by decide) (.inl rfl) (.inl rfl)) ?_
    refine .cons (.escape (by decide) (.inr rfl) (.inl rfl)) ?_
    refine .cons (.escape (by decide) (.inl rfl) (.inl rfl)) ?_
    refine .cons (.escape (by decide) (.inl rfl) (.inr rfl)) ?_
    refine .cons (.escape (by decide) (.inl rfl) (.inl rfl)) ?_
    refine .cons (.plain (c := 'p') (by decide)) ?_
    exact .cons (.plain (c := 'y') (by decide)) .nil

/-- A machine without files on which two documents are open. -/
def twoDocuments (first : String) : Workspace where
  root := none
  files := ⟨fun _ ↦ .error .missing⟩
  documents := [(first, ""), ("file:///%c3%A9%20%3F%2epy", "x = 1")]

theorem sourceAt_accented :
    EncodesPath "/é ?.py" "/%c3%A9%20%3F%2epy" ∧
      ("file:///%c3%A9%20%3F%2epy", "x = 1") ∈ (twoDocuments "untitled:1").documents ∧
      (twoDocuments "untitled:1").sourceAt (Path.ofText "/é ?.py") = .ok (.ok "x = 1") := by
  have hopen : ("file:///%c3%A9%20%3F%2epy", "x = 1") ∈ (twoDocuments "untitled:1").documents :=
    List.mem_cons_of_mem _ (List.mem_singleton_self _)
  have hother : pathOfUri "untitled:1" = .ok ⟨.here, ["untitled:1"]⟩ := rfl
  have hfirst : FirstAt (Path.ofText "/é ?.py") (twoDocuments "untitled:1").documents
      [("untitled:1", "")] ("file:///%c3%A9%20%3F%2epy", "x = 1") := by
    refine ⟨⟨[], rfl⟩, encodesPath_accented.pathOfUri_eq, ?_⟩
    rw [List.forall_mem_singleton, hother]
    decide +kernel
  have hsource := (sourceAt_of_encodesPath encodesPath_accented).2 _ _ hopen
  have hpaths : ∀ b ∈ [("untitled:1", "")], ∃ q, pathOfUri b.1 = .ok q := by
    rw [List.forall_mem_singleton]
    exact ⟨_, hother⟩
  exact ⟨encodesPath_accented, hopen, (hsource.2 _ _ hfirst).1 hpaths ⟨fun _ ↦ .error .missing⟩⟩

/-- A document with a path that is not found by it, because the document before it has none. -/
theorem sourceAt_after_strayUri :
    EncodesPath "/é ?.py" "/%c3%A9%20%3F%2epy" ∧
      ("file:///%c3%A9%20%3F%2epy", "x = 1") ∈ (twoDocuments "notes://[draft").documents ∧
      (twoDocuments "notes://[draft").sourceAt (Path.ofText "/é ?.py") = .error .invalidHost := by
  exact ⟨encodesPath_accented, List.mem_cons_of_mem _ (List.mem_singleton_self _), rfl⟩

end Workspace

end Server

end CallCompletion
