import CallCompletion.Server.Parent
import Mathlib.Data.List.DropRight
import Mathlib.Data.List.TakeWhile

/-!
# The parent that a line asks for

The parent at the cursor is found by a pattern that is matched from the left: a name character, then
as many characters of a path as can be, a dot, and the word that is being typed, up to the end of
the line. Of all places where such a match could start the first one counts, and a greedy piece
gives characters back until the rest of the pattern fits. Here this search is written out, piece by
piece, and compared with the path that the line ends with: the match starts at the first name
character of that path, and the dot is its last one. So whatever names with dots between them stand
before the word being typed are the parent. -/

namespace CallCompletion.Server

open CallCompletion.Text

/-! ## Patterns -/

/-- A piece of a pattern. -/
inductive PatternPiece where
  /-- One character of a class. -/
  | one (admits : Char → Bool)
  /-- Any number of characters of a class, as many as the rest of the pattern allows. -/
  | many (admits : Char → Bool)
  /-- The end of the text, or the line feed that ends it. -/
  | lineEnd

/-- A pattern: pieces that match one after the other. -/
abbrev Pattern := List PatternPiece

/-- The ways to take characters of a class off the front of a text, the longest one first. -/
def greedySplits (admits : Char → Bool) : List Char → List (List Char × List Char)
  | [] => [([], [])]
  | c :: cs =>
    if admits c then
      (greedySplits admits cs).map (fun split ↦ (c :: split.1, split.2)) ++ [([], c :: cs)]
    else [([], c :: cs)]

namespace Pattern

/-- The matches of a pattern at the front of a text, as what each piece takes, in the order in which
they are tried. -/
def matchesAt : Pattern → List Char → List (List (List Char))
  | [], _ => [[]]
  | .one _ :: _, [] => []
  | .one admits :: pieces, c :: cs =>
    if admits c then (matchesAt pieces cs).map ([c] :: ·) else []
  | .many admits :: pieces, cs =>
    (greedySplits admits cs).flatMap fun split ↦ (matchesAt pieces split.2).map (split.1 :: ·)
  | .lineEnd :: pieces, cs =>
    if cs = [] ∨ cs = ['\n'] then (matchesAt pieces cs).map ([] :: ·) else []

/-- The match that is found in a text: the first one at the leftmost place that has any. -/
def search (pattern : Pattern) : List Char → Option (List (List Char))
  | [] => (pattern.matchesAt []).head?
  | c :: cs => (pattern.matchesAt (c :: cs)).head?.or (search pattern cs)

/-- The pattern of a parent: a name character and a path, a dot, and a word up to the end of the
line. -/
def parent : Pattern :=
  [.one isNameStart, .many isPathChar, .one (· == '.'), .many isWordChar, .lineEnd]

/-- What the first two pieces of a match take. -/
def group (taken : List (List Char)) : String := String.ofList (taken.take 2).flatten

theorem mem_greedySplits {admits : Char → Bool} {cs : List Char} {split : List Char × List Char} :
    split ∈ greedySplits admits cs ↔
      cs = split.1 ++ split.2 ∧ ∀ c ∈ split.1, admits c = true := by
  obtain ⟨run, rest⟩ := split
  constructor
  · intro h
    fun_induction greedySplits admits cs generalizing run with
    | case1 =>
      cases List.mem_singleton.1 h
      exact ⟨rfl, nofun⟩
    | case2 c cs hc ih =>
      rcases List.mem_append.1 h with h | h
      · obtain ⟨⟨run, rest⟩, hmem, ⟨⟩⟩ := List.mem_map.1 h
        obtain ⟨hsplit, hrun⟩ := ih run hmem
        exact ⟨congrArg (c :: ·) hsplit, List.forall_mem_cons.2 ⟨hc, hrun⟩⟩
      · cases List.mem_singleton.1 h
        exact ⟨rfl, nofun⟩
    | case3 c cs hc =>
      cases List.mem_singleton.1 h
      exact ⟨rfl, nofun⟩
  · rintro ⟨rfl, hrun⟩
    induction run with
    | nil =>
      dsimp only [List.nil_append]
      fun_cases greedySplits admits rest <;> simp
    | cons c run ih =>
      obtain ⟨hc, hrun⟩ := List.forall_mem_cons.1 hrun
      rw [List.cons_append, greedySplits, if_pos hc]
      exact List.mem_append_left _ (List.mem_map.2 ⟨_, ih hrun, rfl⟩)

variable {pieces : Pattern} {cs : List Char} {taken : List (List Char)}

theorem mem_matchesAt_one {admits : Char → Bool} :
    taken ∈ matchesAt (.one admits :: pieces) cs ↔
      ∃ c rest more, cs = c :: rest ∧ admits c = true ∧ more ∈ matchesAt pieces rest ∧
        taken = [c] :: more := by
  cases cs with
  | nil => simp [matchesAt]
  | cons c rest =>
    by_cases hc : admits c = true
    · simp only [matchesAt, hc, if_true, List.mem_map]
      constructor
      · rintro ⟨more, hmore, rfl⟩
        exact ⟨c, rest, more, rfl, hc, hmore, rfl⟩
      · rintro ⟨_, _, more, ⟨⟩, -, hmore, rfl⟩
        exact ⟨more, hmore, rfl⟩
    · rw [matchesAt, if_neg hc]
      constructor
      · exact nofun
      · rintro ⟨_, _, _, ⟨⟩, hadmits, -⟩
        exact absurd hadmits hc

theorem mem_matchesAt_many {admits : Char → Bool} :
    taken ∈ matchesAt (.many admits :: pieces) cs ↔
      ∃ run rest more, cs = run ++ rest ∧ (∀ c ∈ run, admits c = true) ∧
        more ∈ matchesAt pieces rest ∧ taken = run :: more := by
  simp only [matchesAt, List.mem_flatMap, List.mem_map, mem_greedySplits]
  constructor
  · rintro ⟨⟨run, rest⟩, ⟨hsplit, hrun⟩, more, hmore, rfl⟩
    exact ⟨run, rest, more, hsplit, hrun, hmore, rfl⟩
  · rintro ⟨run, rest, more, hsplit, hrun, hmore, rfl⟩
    exact ⟨(run, rest), ⟨hsplit, hrun⟩, more, hmore, rfl⟩

theorem mem_matchesAt_lineEnd :
    taken ∈ matchesAt (.lineEnd :: pieces) cs ↔
      (cs = [] ∨ cs = ['\n']) ∧ ∃ more ∈ matchesAt pieces cs, taken = [] :: more := by
  by_cases hend : cs = [] ∨ cs = ['\n']
  · simp [matchesAt, hend, eq_comm]
  · simp [matchesAt, hend]

/-- The search passes over places where nothing matches. -/
theorem search_append {pattern : Pattern} {before rest : List Char}
    (h : ∀ skipped, skipped <:+ before → skipped ≠ [] → pattern.matchesAt (skipped ++ rest) = []) :
    pattern.search (before ++ rest) = pattern.search rest := by
  induction before with
  | nil => rfl
  | cons c before ih =>
    have hhere : pattern.matchesAt (c :: before ++ rest) = [] := h _ (List.suffix_refl _) nofun
    have hlater := ih fun skipped hskipped ↦ h skipped (hskipped.trans (List.suffix_cons c before))
    rw [List.cons_append] at hhere
    rw [List.cons_append, search, hhere, hlater]
    rfl

theorem search_of_head? {pattern : Pattern} {cs : List Char} {taken : List (List Char)}
    (h : (pattern.matchesAt cs).head? = some taken) : pattern.search cs = some taken := by
  cases cs with
  | nil => exact h
  | cons c cs => rw [search, h, Option.some_or]

end Pattern

/-! ## The path that a text ends with -/

theorem isPathChar_of_isWordChar {c : Char} (h : isWordChar c = true) : isPathChar c = true := by
  rw [isPathChar, h, Bool.true_or]

/-- The longest text of path characters that another text ends with. -/
structure EndsWithPath (text path : List Char) : Prop where
  suffix : path <:+ text
  path_chars : ∀ c ∈ path, isPathChar c = true
  longest : ∀ other, other <:+ text → (∀ c ∈ other, isPathChar c = true) →
    other.length ≤ path.length

theorem endsWithPath_pathSuffix (text : List Char) : EndsWithPath text (pathSuffix text) where
  suffix := List.rtakeWhile_suffix isPathChar text
  path_chars c hc := List.mem_rtakeWhile_imp hc
  longest := by
    rintro other ⟨before, rfl⟩ hchars
    have hreverse : ∀ c ∈ other.reverse, isPathChar c = true := by simpa using hchars
    rw [pathSuffix, List.length_reverse, List.reverse_append,
      List.takeWhile_append_of_pos hreverse, List.length_append, List.length_reverse]
    omega

variable {text path : List Char}

theorem EndsWithPath.isSuffix (h : EndsWithPath text path) {other : List Char}
    (hother : other <:+ text) (hchars : ∀ c ∈ other, isPathChar c = true) : other <:+ path :=
  List.suffix_of_suffix_length_le hother h.suffix (h.longest other hother hchars)

/-- A text ends with one path only. -/
theorem EndsWithPath.eq_pathSuffix (h : EndsWithPath text path) : path = pathSuffix text := by
  have hother := endsWithPath_pathSuffix text
  have hle := h.longest _ hother.suffix hother.path_chars
  exact (hother.isSuffix h.suffix h.path_chars).eq_of_length_le hle

/-! ## The parent in a path -/

/-- A path with a name character before its last dot. -/
def HasNameBeforeDot (path : List Char) : Prop :=
  ∃ before word, path = before ++ '.' :: word ∧ '.' ∉ word ∧ ∃ c ∈ before, isNameStart c = true

/-- The part of a path from its first name character up to its last dot. -/
inductive ParentIn : List Char → List Char → Prop
  | intro {skipped rest word : List Char} {first : Char}
      (hskipped : ∀ c ∈ skipped, isNameStart c = false) (hfirst : isNameStart first = true)
      (hword : '.' ∉ word) :
    ParentIn (skipped ++ first :: rest ++ '.' :: word) (first :: rest)

/-- From its end, a text without a dot is passed over as a whole. -/
theorem ne_dot_of_not_mem {cs : List Char} (h : '.' ∉ cs) :
    ∀ c ∈ cs.reverse, (c != '.') = true := by
  intro c hc
  rw [bne_iff_ne]
  rintro rfl
  exact h (List.mem_reverse.1 hc)

theorem beforeLastDot_append (before : List Char) {word : List Char} (h : '.' ∉ word) :
    beforeLastDot (before ++ '.' :: word) = before := by
  rw [beforeLastDot, List.reverse_append, List.reverse_cons, List.append_assoc,
    List.dropWhile_append_of_pos (ne_dot_of_not_mem h)]
  simp

theorem beforeLastDot_of_not_mem (h : '.' ∉ path) : beforeLastDot path = [] := by
  rw [beforeLastDot, List.dropWhile_eq_nil_iff.2 (ne_dot_of_not_mem h)]
  rfl

/-- A path is cut at its last dot in one way. -/
theorem append_dot_inj {before before' word word' : List Char} (hword : '.' ∉ word)
    (hword' : '.' ∉ word') (h : before ++ '.' :: word = before' ++ '.' :: word') :
    before = before' ∧ word = word' := by
  have hbefore : before = before' := by
    calc before = beforeLastDot (before ++ '.' :: word) := (beforeLastDot_append before hword).symm
      _ = beforeLastDot (before' ++ '.' :: word') := congrArg beforeLastDot h
      _ = before' := beforeLastDot_append before' hword'
  subst hbefore
  exact ⟨rfl, by simpa using h⟩

theorem exists_append_dot (h : '.' ∈ path) :
    ∃ before word, path = before ++ '.' :: word ∧ '.' ∉ word := by
  obtain ⟨word, before, hsplit, hword⟩ := List.eq_append_cons_of_mem (List.mem_reverse.2 h)
  refine ⟨before.reverse, word.reverse, ?_, by simpa using hword⟩
  rw [← List.reverse_reverse path, hsplit]
  simp

/-- The parent in a path is what is left before its last dot from the first name character on. -/
theorem parentIn_append_iff {before word parent : List Char} (hword : '.' ∉ word) :
    ParentIn (before ++ '.' :: word) parent ↔
      parent ≠ [] ∧ before.dropWhile (!isNameStart ·) = parent := by
  constructor
  · intro h
    generalize hpath : before ++ '.' :: word = path at h
    obtain ⟨hskipped, hfirst, hother⟩ := h
    obtain ⟨rfl, -⟩ := append_dot_inj hword hother hpath
    rw [List.dropWhile_append_of_pos (by simpa using hskipped),
      List.dropWhile_cons_of_neg (by simp [hfirst])]
    exact ⟨nofun, rfl⟩
  · rintro ⟨hne, rfl⟩
    obtain ⟨first, rest, hparent⟩ := List.exists_cons_of_ne_nil hne
    have hfirst : isNameStart first = true := by
      have hhead := List.head?_dropWhile_not (!isNameStart ·) before
      rw [hparent] at hhead
      simpa using hhead
    have hbefore : before = before.takeWhile (!isNameStart ·) ++ first :: rest := by
      rw [← hparent, List.takeWhile_append_dropWhile]
    have hskipped : ∀ c ∈ before.takeWhile (!isNameStart ·), isNameStart c = false := by
      intro c hc
      simpa using List.mem_takeWhile_imp hc
    rw [hparent, hbefore]
    exact .intro hskipped hfirst hword

theorem ParentIn.hasNameBeforeDot {parent : List Char} (h : ParentIn path parent) :
    HasNameBeforeDot path := by
  obtain ⟨-, hfirst, hword⟩ := h
  exact ⟨_, _, rfl, hword, _, List.mem_append_right _ List.mem_cons_self, hfirst⟩

theorem HasNameBeforeDot.exists_parentIn (h : HasNameBeforeDot path) :
    ∃ parent, ParentIn path parent := by
  obtain ⟨before, word, rfl, hword, c, hc, hname⟩ := h
  refine ⟨_, (parentIn_append_iff hword).2 ⟨?_, rfl⟩⟩
  intro hnil
  have hskipped := List.dropWhile_eq_nil_iff.1 hnil c hc
  simp [hname] at hskipped

/-- The parent that a line asks for is the one in the path that it ends with. -/
theorem parentOfLine_eq_some_iff {line : List Char} (h : EndsWithPath (withoutLineFeed line) path)
    {parent : String} : parentOfLine line = some parent ↔ ParentIn path parent.toList := by
  rw [parentOfLine, ← h.eq_pathSuffix]
  by_cases hdot : '.' ∈ path
  · obtain ⟨before, word, rfl, hword⟩ := exists_append_dot hdot
    rw [beforeLastDot_append before hword, parentIn_append_iff hword]
    cases before.dropWhile (!isNameStart ·) with
    | nil =>
      constructor
      · exact nofun
      · rintro ⟨hne, hnil⟩
        exact absurd hnil.symm hne
    | cons first rest =>
      constructor
      · rintro ⟨⟩
        rw [String.toList_ofList]
        exact ⟨nofun, rfl⟩
      · rintro ⟨-, hparent⟩
        exact congrArg some ((congrArg String.ofList hparent).trans String.ofList_toList)
  · rw [beforeLastDot_of_not_mem hdot]
    constructor
    · exact nofun
    · intro hparent
      obtain ⟨before, word, rfl, -⟩ := hparent.hasNameBeforeDot
      exact absurd (List.mem_append_right _ List.mem_cons_self) hdot

/-- A line has no parent exactly when its path has no name before a dot. -/
theorem parentOfLine_eq_none_iff {line : List Char}
    (h : EndsWithPath (withoutLineFeed line) path) :
    parentOfLine line = none ↔ ¬HasNameBeforeDot path := by
  rw [Option.eq_none_iff_forall_ne_some]
  constructor
  · intro hnone hname
    obtain ⟨parent, hparent⟩ := hname.exists_parentIn
    refine hnone (String.ofList parent) ((parentOfLine_eq_some_iff h).2 ?_)
    rwa [String.toList_ofList]
  · intro hname parent hparent
    exact hname ((parentOfLine_eq_some_iff h).1 hparent).hasNameBeforeDot

/-! ## The search for a parent -/

/-- What the pattern of a parent matches, up to the end of the line. -/
structure ParentMatch (text : List Char) (first : Char) (rest word : List Char) : Prop where
  text_eq : text = first :: rest ++ '.' :: word
  name_start : isNameStart first = true
  path_chars : ∀ c ∈ rest, isPathChar c = true
  word_chars : ∀ c ∈ word, isWordChar c = true

theorem ParentMatch.forall_isPathChar {first : Char} {rest word : List Char}
    (h : ParentMatch text first rest word) : ∀ c ∈ text, isPathChar c = true := by
  rw [h.text_eq, List.forall_mem_append, List.forall_mem_cons, List.forall_mem_cons]
  refine ⟨⟨?_, h.path_chars⟩, rfl, fun c hc ↦ isPathChar_of_isWordChar (h.word_chars c hc)⟩
  exact isPathChar_of_isWordChar (isWordChar_of_isNameStart h.name_start)

theorem dot_not_mem_of_isWordChar {word : List Char} (h : ∀ c ∈ word, isWordChar c = true) :
    '.' ∉ word := by
  intro hdot
  exact absurd (h '.' hdot) (by decide)

/-- A text is what it is without a line feed at its end, and the end of its line. -/
theorem exists_ending (text : List Char) :
    ∃ ending, (ending = [] ∨ ending = ['\n']) ∧ text = withoutLineFeed text ++ ending := by
  unfold withoutLineFeed
  split
  · next hlast =>
    refine ⟨['\n'], .inr rfl, ?_⟩
    obtain ⟨front, rfl⟩ := List.getLast?_eq_some_iff.1 hlast
    rw [List.dropLast_concat]
  · exact ⟨[], .inl rfl, (List.append_nil text).symm⟩

theorem withoutLineFeed_append {ending : List Char} (hending : ending = [] ∨ ending = ['\n'])
    (h : text.getLast? ≠ some '\n') : withoutLineFeed (text ++ ending) = text := by
  rcases hending with rfl | rfl
  · rw [List.append_nil, withoutLineFeed, if_neg h]
  · rw [withoutLineFeed, if_pos List.getLast?_concat, List.dropLast_concat]

theorem getLast?_ne_lineFeed (h : ∀ c ∈ text, isPathChar c = true) :
    text.getLast? ≠ some '\n' := by
  intro hlast
  exact absurd (h '\n' (List.mem_of_getLast? hlast)) (by decide)

/-- The matches of the pattern are the splits of a text into a path, a dot and a word. -/
theorem mem_matchesAt_parent {taken : List (List Char)} :
    taken ∈ Pattern.parent.matchesAt text ↔
      ∃ first rest word, ParentMatch (withoutLineFeed text) first rest word ∧
        taken = [[first], rest, ['.'], word, []] := by
  constructor
  · intro h
    obtain ⟨first, _, _, rfl, hfirst, hpath, rfl⟩ := Pattern.mem_matchesAt_one.1 h
    obtain ⟨rest, _, _, rfl, hrest, hdotted, rfl⟩ := Pattern.mem_matchesAt_many.1 hpath
    obtain ⟨dot, _, _, rfl, hdot, htyped, rfl⟩ := Pattern.mem_matchesAt_one.1 hdotted
    obtain ⟨word, ending, _, rfl, hword, hend, rfl⟩ := Pattern.mem_matchesAt_many.1 htyped
    obtain ⟨hending, _, hnil, rfl⟩ := Pattern.mem_matchesAt_lineEnd.1 hend
    obtain rfl := eq_of_beq hdot
    obtain rfl := List.mem_singleton.1 hnil
    have hmatch : ParentMatch (first :: rest ++ '.' :: word) first rest word :=
      ⟨rfl, hfirst, hrest, hword⟩
    have htext := withoutLineFeed_append hending (getLast?_ne_lineFeed hmatch.forall_isPathChar)
    rw [List.append_assoc, List.cons_append, List.cons_append] at htext
    rw [htext]
    exact ⟨first, rest, word, hmatch, rfl⟩
  · rintro ⟨first, rest, word, hmatch, rfl⟩
    obtain ⟨ending, hending, htext⟩ := exists_ending text
    rw [hmatch.text_eq, List.append_assoc, List.cons_append, List.cons_append] at htext
    rw [htext]
    refine Pattern.mem_matchesAt_one.2 ⟨first, _, _, rfl, hmatch.name_start, ?_, rfl⟩
    refine Pattern.mem_matchesAt_many.2 ⟨rest, _, _, rfl, hmatch.path_chars, ?_, rfl⟩
    refine Pattern.mem_matchesAt_one.2 ⟨'.', _, _, rfl, beq_self_eq_true '.', ?_, rfl⟩
    refine Pattern.mem_matchesAt_many.2 ⟨word, _, _, rfl, hmatch.word_chars, ?_, rfl⟩
    exact Pattern.mem_matchesAt_lineEnd.2 ⟨hending, [], List.mem_singleton_self _, rfl⟩

/-- Where the pattern of a parent matches, it does so in one way. -/
theorem head?_matchesAt_parent {first : Char} {rest word : List Char}
    (h : ParentMatch (withoutLineFeed text) first rest word) :
    (Pattern.parent.matchesAt text).head? = some [[first], rest, ['.'], word, []] := by
  have hmem := mem_matchesAt_parent.2 ⟨first, rest, word, h, rfl⟩
  obtain ⟨taken, more, hmatches⟩ := List.exists_cons_of_ne_nil (List.ne_nil_of_mem hmem)
  have htaken : taken ∈ Pattern.parent.matchesAt text := by
    rw [hmatches]
    exact List.mem_cons_self
  obtain ⟨first', rest', word', h', rfl⟩ := mem_matchesAt_parent.1 htaken
  obtain ⟨⟨⟩, rfl⟩ := append_dot_inj (dot_not_mem_of_isWordChar h'.word_chars)
    (dot_not_mem_of_isWordChar h.word_chars) (h'.text_eq.symm.trans h.text_eq)
  rw [hmatches, List.head?_cons]

theorem withoutLineFeed_append_of_ne_nil (before : List Char) (h : text ≠ []) :
    withoutLineFeed (before ++ text) = before ++ withoutLineFeed text := by
  have hlast : (before ++ text).getLast? = text.getLast? := List.getLast?_append_of_ne_nil before h
  rw [withoutLineFeed, withoutLineFeed, hlast, List.dropLast_append_of_ne_nil h]
  split <;> rfl

/-- Whatever the pattern matches somewhere in a line is an end of the path at the end of the
line. -/
theorem EndsWithPath.isSuffix_of_match {line : List Char}
    (h : EndsWithPath (withoutLineFeed line) path) {here : List Char} (hhere : here <:+ line)
    {first : Char} {rest word : List Char}
    (hmatch : ParentMatch (withoutLineFeed here) first rest word) :
    first :: rest ++ '.' :: word <:+ path := by
  rw [← hmatch.text_eq]
  refine h.isSuffix ?_ hmatch.forall_isPathChar
  obtain ⟨before, rfl⟩ := hhere
  have hne : here ≠ [] := by
    rintro rfl
    exact absurd hmatch.text_eq nofun
  exact ⟨before, (withoutLineFeed_append_of_ne_nil before hne).symm⟩

/-- Before the first name character of the path at the end of a line nothing matches, and there the
parent does. -/
theorem search_parent_of_parentIn {line parent : List Char}
    (h : EndsWithPath (withoutLineFeed line) path) (hparent : ParentIn path parent) :
    (Pattern.parent.search line).map Pattern.group = some (String.ofList parent) := by
  obtain ⟨before, hbefore⟩ := h.suffix
  obtain ⟨ending, hending, hline⟩ := exists_ending line
  obtain @⟨skipped, rest, word, first, hskipped, hfirst, hword⟩ := hparent
  have hchars := h.path_chars
  simp only [List.forall_mem_append, List.forall_mem_cons] at hchars
  have hmatch : ParentMatch (first :: rest ++ '.' :: word) first rest word := by
    refine ⟨rfl, hfirst, hchars.1.2.2, fun c hc ↦ ?_⟩
    have hpath := hchars.2.2 c hc
    have hdot : c ≠ '.' := ne_of_mem_of_not_mem hc hword
    simpa [isPathChar, hdot] using hpath
  have hhere := withoutLineFeed_append hending (getLast?_ne_lineFeed hmatch.forall_isPathChar)
  have hsplit : line = (before ++ skipped) ++ (first :: rest ++ '.' :: word ++ ending) := by
    rw [hline, ← hbefore]
    simp only [List.append_assoc]
  have hearlier : ∀ passed, passed <:+ before ++ skipped → passed ≠ [] →
      Pattern.parent.matchesAt (passed ++ (first :: rest ++ '.' :: word ++ ending)) = [] := by
    intro passed hpassed hne
    rw [List.eq_nil_iff_forall_not_mem]
    intro taken htaken
    obtain ⟨first', rest', word', hother, -⟩ := mem_matchesAt_parent.1 htaken
    have htext : passed ++ (first :: rest ++ '.' :: word) = first' :: rest' ++ '.' :: word' := by
      rw [← hother.text_eq, withoutLineFeed_append_of_ne_nil passed (by simp), hhere]
    have hplace : passed ++ (first :: rest ++ '.' :: word ++ ending) <:+ line := by
      obtain ⟨x, hx⟩ := hpassed
      exact ⟨x, by rw [hsplit, ← hx, List.append_assoc x]⟩
    have hend := h.isSuffix_of_match hplace hother
    -- A match that starts earlier would start inside what is skipped, with a name character.
    rw [← htext, List.append_assoc skipped] at hend
    obtain ⟨x, hx⟩ := hend
    rw [← List.append_assoc, List.append_left_inj] at hx
    obtain ⟨p, passed, rfl⟩ := List.exists_cons_of_ne_nil hne
    obtain rfl : p = first' := by
      rw [List.cons_append, List.cons_append] at htext
      exact (List.cons.inj htext).1
    have hname := hskipped p (by simp [← hx])
    rw [hother.name_start] at hname
    cases hname
  rw [hsplit, Pattern.search_append hearlier,
    Pattern.search_of_head? (head?_matchesAt_parent (hhere ▸ hmatch))]
  simp [Pattern.group]

/-- The pattern is found nowhere in a line whose path has no name before a dot. -/
theorem search_parent_eq_none {line : List Char} (h : EndsWithPath (withoutLineFeed line) path)
    (hname : ¬HasNameBeforeDot path) : Pattern.parent.search line = none := by
  have hnowhere : ∀ here, here <:+ line → here ≠ [] →
      Pattern.parent.matchesAt (here ++ []) = [] := by
    intro here hhere _
    rw [List.append_nil, List.eq_nil_iff_forall_not_mem]
    intro taken htaken
    obtain ⟨first, rest, word, hmatch, -⟩ := mem_matchesAt_parent.1 htaken
    obtain ⟨before, rfl⟩ := h.isSuffix_of_match hhere hmatch
    refine hname ⟨before ++ first :: rest, word, (List.append_assoc before _ _).symm,
      dot_not_mem_of_isWordChar hmatch.word_chars, first, ?_, hmatch.name_start⟩
    exact List.mem_append_right _ List.mem_cons_self
  calc Pattern.parent.search line
      = Pattern.parent.search (line ++ []) := by rw [List.append_nil]
    _ = Pattern.parent.search [] := Pattern.search_append hnowhere
    _ = none := rfl

/-- The parent that a line asks for is what the search for the pattern finds. -/
theorem parentOfLine_eq_search (line : List Char) :
    parentOfLine line = (Pattern.parent.search line).map Pattern.group := by
  have hpath := endsWithPath_pathSuffix (withoutLineFeed line)
  by_cases hname : HasNameBeforeDot (pathSuffix (withoutLineFeed line))
  · obtain ⟨parent, hparent⟩ := hname.exists_parentIn
    rw [search_parent_of_parentIn hpath hparent, parentOfLine_eq_some_iff hpath,
      String.toList_ofList]
    exact hparent
  · rw [search_parent_eq_none hpath hname, (parentOfLine_eq_none_iff hpath).2 hname]
    rfl

/-! ## Chains of names -/

/-- Names with dots between them. -/
inductive NameChain : List Char → Prop
  | name {first : Char} {rest : List Char} (hfirst : isNameStart first = true)
      (hrest : ∀ c ∈ rest, isWordChar c = true) : NameChain (first :: rest)
  | dotted {first : Char} {rest chain : List Char} (hfirst : isNameStart first = true)
      (hrest : ∀ c ∈ rest, isWordChar c = true) (hchain : NameChain chain) :
      NameChain (first :: rest ++ '.' :: chain)

theorem NameChain.exists_name_start {chain : List Char} (h : NameChain chain) :
    ∃ first rest, chain = first :: rest ∧ isNameStart first = true := by
  cases h with
  | name hfirst _ => exact ⟨_, _, rfl, hfirst⟩
  | dotted hfirst _ _ => exact ⟨_, _, rfl, hfirst⟩

theorem NameChain.forall_isPathChar {chain : List Char} (h : NameChain chain) :
    ∀ c ∈ chain, isPathChar c = true := by
  have hname {first : Char} {rest : List Char} (hfirst : isNameStart first = true)
      (hrest : ∀ c ∈ rest, isWordChar c = true) : ∀ c ∈ first :: rest, isPathChar c = true := by
    refine List.forall_mem_cons.2 ⟨?_, fun c hc ↦ isPathChar_of_isWordChar (hrest c hc)⟩
    exact isPathChar_of_isWordChar (isWordChar_of_isNameStart hfirst)
  induction h with
  | name hfirst hrest => exact hname hfirst hrest
  | dotted hfirst hrest _ ih =>
    exact List.forall_mem_append.2 ⟨hname hfirst hrest, List.forall_mem_cons.2 ⟨rfl, ih⟩⟩

/-- Path characters after a character that is none are the longest path that a text ends with. -/
theorem endsWithPath_append {before : List Char}
    (hbefore : ∀ c ∈ before.getLast?, isPathChar c = false)
    (hpath : ∀ c ∈ path, isPathChar c = true) : EndsWithPath (before ++ path) path where
  suffix := List.suffix_append before path
  path_chars := hpath
  longest := by
    intro other hother hchars
    by_contra hlonger
    obtain ⟨x, rfl⟩ := List.suffix_of_suffix_length_le (List.suffix_append before path) hother
      (by omega)
    obtain ⟨y, hy⟩ := hother
    rw [← List.append_assoc, List.append_left_inj] at hy
    have hne : x ≠ [] := by
      rintro rfl
      exact hlonger (Nat.le_refl _)
    have hlast : before.getLast? = some (x.getLast hne) := by
      rw [← hy, List.getLast?_append_of_ne_nil y hne, List.getLast?_eq_some_getLast hne]
    have hnone := hbefore _ hlast
    rw [hchars _ (List.mem_append_left _ (List.getLast_mem hne))] at hnone
    cases hnone

theorem parentOfLine_append {before chain word : List Char}
    (hbefore : ∀ c ∈ before.getLast?, isPathChar c = false) (hchain : NameChain chain)
    (hword : ∀ c ∈ word, isWordChar c = true) :
    parentOfLine (before ++ chain ++ '.' :: word) = some (String.ofList chain) := by
  have hdotted : ∀ c ∈ '.' :: word, isPathChar c = true :=
    List.forall_mem_cons.2 ⟨rfl, fun c hc ↦ isPathChar_of_isWordChar (hword c hc)⟩
  have hpath : ∀ c ∈ chain ++ '.' :: word, isPathChar c = true :=
    List.forall_mem_append.2 ⟨hchain.forall_isPathChar, hdotted⟩
  have hline : withoutLineFeed (before ++ chain ++ '.' :: word) =
      before ++ (chain ++ '.' :: word) := by
    rw [withoutLineFeed, List.getLast?_append_of_ne_nil _ (List.cons_ne_nil '.' word),
      if_neg (getLast?_ne_lineFeed hdotted), List.append_assoc]
  have hends := endsWithPath_append hbefore hpath
  rw [← hline] at hends
  rw [parentOfLine_eq_some_iff hends, String.toList_ofList]
  obtain ⟨first, rest, rfl, hfirst⟩ := hchain.exists_name_start
  have hskipped : ∀ c ∈ ([] : List Char), isNameStart c = false := nofun
  exact .intro hskipped hfirst (dot_not_mem_of_isWordChar hword)

theorem parentAt_eq {lines : List (List Char)} {line : Nat} {cs : List Char}
    (h : lines[line]? = some cs) (character : Int) :
    parentAt lines line character = parentOfLine (takeInt character cs) := by
  rw [parentAt, if_neg (by omega), Int.toNat_natCast, h]
  rfl

/-- The parent at a place of a text depends on the path that the line ends with there. There is
none if the path has no name character before its last dot, and else it goes from the first such
character up to that dot; this is what the search for the pattern finds. Names with dots between
them, a dot and a word, after something that belongs to no path, have these names as their
parent. -/
theorem parentAt_of_line {lines : List (List Char)} {line : Nat} {cs : List Char}
    (hline : lines[line]? = some cs) (character : Int) :
    (∃ path, EndsWithPath (withoutLineFeed (takeInt character cs)) path) ∧
      (∀ path, EndsWithPath (withoutLineFeed (takeInt character cs)) path →
        (parentAt lines line character = none ↔ ¬HasNameBeforeDot path) ∧
        ∀ parent : String,
          parentAt lines line character = some parent ↔ ParentIn path parent.toList) ∧
      (∀ before chain word : List Char, (∀ c ∈ before.getLast?, isPathChar c = false) →
        NameChain chain → (∀ c ∈ word, isWordChar c = true) →
        takeInt character cs = before ++ chain ++ '.' :: word →
          parentAt lines line character = some (String.ofList chain)) ∧
      parentAt lines line character =
        (Pattern.parent.search (takeInt character cs)).map Pattern.group := by
  rw [parentAt_eq hline]
  refine ⟨⟨_, endsWithPath_pathSuffix _⟩, fun path hpath ↦ ⟨parentOfLine_eq_none_iff hpath,
    fun parent ↦ parentOfLine_eq_some_iff hpath⟩, ?_, parentOfLine_eq_search _⟩
  intro before chain word hbefore hchain hword htext
  rw [htext]
  exact parentOfLine_append hbefore hchain hword

/-- A path that starts with a digit and a letter beyond ASCII, before a line feed. -/
theorem parentAt_mixedPath :
    ["1.é.m.x.ru\n".toList][0]? = some "1.é.m.x.ru\n".toList ∧
      parentAt ["1.é.m.x.ru\n".toList] (0 : Nat) 99 = some "m.x" := by
  have hpath : EndsWithPath (withoutLineFeed (takeInt 99 "1.é.m.x.ru\n".toList))
      "1.é.m.x.ru".toList := by
    have heq : pathSuffix (withoutLineFeed (takeInt 99 "1.é.m.x.ru\n".toList)) =
        "1.é.m.x.ru".toList := by decide +kernel
    rw [← heq]
    exact endsWithPath_pathSuffix _
  have hskipped : ∀ c ∈ "1.é.".toList, isNameStart c = false := by
    have hall : "1.é.".toList.all (!isNameStart ·) = true := by decide
    intro c hc
    simpa using List.all_eq_true.1 hall c hc
  have hparent : ParentIn "1.é.m.x.ru".toList "m.x".toList :=
    @ParentIn.intro "1.é.".toList ".x".toList "ru".toList 'm' hskipped rfl (by decide)
  exact ⟨rfl, (((parentAt_of_line rfl 99).2.1 _ hpath).2 "m.x").2 hparent⟩

end CallCompletion.Server
