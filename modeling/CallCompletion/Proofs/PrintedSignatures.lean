import CallCompletion.Proofs.CallText
import CallCompletion.Snapshot.Model
import Mathlib.Data.List.TakeWhile

/-!
# Lambdas from printed signatures

A function type comes with a printed call signature. Its return annotation is cut off at the
bracket that closes the parameter list, the list is cut at the commas outside all brackets, and each
piece gives a name. The two cuts count brackets by the same rule; a type whose brackets are nested
and whose commas lie inside them is passed over by both, so that a lambda has one name for each
parameter, whatever the types are.
-/

namespace CallCompletion.Literal

open CallCompletion.Text

/-! ## Nested texts -/

/-- The change of depth over a text that follows the given character. -/
def depthOver (previous : Option Char) : List Char → Int
  | [] => 0
  | c :: rest => depthStep previous c + depthOver (some c) rest

/-- The character before what follows a text. -/
def lastOr (previous : Option Char) : List Char → Option Char
  | [] => previous
  | c :: rest => lastOr (some c) rest

/-- The brackets of a text are nested: none closes more than the text has opened, and in the end all
are closed. -/
structure Nested (previous : Option Char) (cs : List Char) : Prop where
  nonneg : ∀ n, 0 ≤ depthOver previous (cs.take n)
  closed : depthOver previous cs = 0

/-- A nested text in which every comma lies inside brackets. -/
structure Enclosed (previous : Option Char) (cs : List Char) : Prop
    extends Nested previous cs where
  noComma : ∀ n, cs[n]? = some ',' → depthOver previous (cs.take n) ≠ 0

theorem depthOver_append (previous : Option Char) (cs ds : List Char) :
    depthOver previous (cs ++ ds) =
      depthOver previous cs + depthOver (lastOr previous cs) ds := by
  induction cs generalizing previous with
  | nil => simp [depthOver, lastOr]
  | cons c cs ih =>
    rw [List.cons_append, depthOver, ih, depthOver, lastOr]
    omega

theorem depthOver_take_append {n : Nat} {cs : List Char} (hn : cs.length ≤ n)
    (previous : Option Char) (ds : List Char) :
    depthOver previous ((cs ++ ds).take n) =
      depthOver previous cs + depthOver (lastOr previous cs) (ds.take (n - cs.length)) := by
  rw [List.take_append, List.take_of_length_le hn, depthOver_append]

theorem Nested.append {previous : Option Char} {cs ds : List Char} (h : Nested previous cs)
    (h' : Nested (lastOr previous cs) ds) : Nested previous (cs ++ ds) where
  nonneg n := by
    rcases Nat.le_total n cs.length with hn | hn
    · rw [List.take_append_of_le_length hn]
      exact h.nonneg n
    · rw [depthOver_take_append hn, h.closed, Int.zero_add]
      exact h'.nonneg _
  closed := by rw [depthOver_append, h.closed, h'.closed, Int.add_zero]

theorem Enclosed.append {previous : Option Char} {cs ds : List Char} (h : Enclosed previous cs)
    (h' : Enclosed (lastOr previous cs) ds) : Enclosed previous (cs ++ ds) where
  toNested := h.toNested.append h'.toNested
  noComma n hcomma := by
    rcases Nat.lt_or_ge n cs.length with hn | hn
    · rw [List.getElem?_append_left hn] at hcomma
      rw [List.take_append_of_le_length (Nat.le_of_lt hn)]
      exact h.noComma n hcomma
    · rw [List.getElem?_append_right hn] at hcomma
      rw [depthOver_take_append hn, h.closed, Int.zero_add]
      exact h'.noComma _ hcomma

/-- A bracket that opens or closes. -/
def isBracket (c : Char) : Bool := isOpener c || c == ')' || c == ']' || c == '}' || c == '>'

theorem depthStep_of_not_bracket {c : Char} (hc : isBracket c = false) (previous : Option Char) :
    depthStep previous c = 0 := by
  simp_all [isBracket, depthStep, isCloser]

theorem depthOver_of_not_bracket {cs : List Char} (h : ∀ c ∈ cs, isBracket c = false)
    (previous : Option Char) : depthOver previous cs = 0 := by
  induction cs generalizing previous with
  | nil => rfl
  | cons c cs ih =>
    obtain ⟨hc, hcs⟩ := List.forall_mem_cons.1 h
    rw [depthOver, depthStep_of_not_bracket hc, ih hcs, Int.add_zero]

theorem Nested.of_not_bracket {cs : List Char} (h : ∀ c ∈ cs, isBracket c = false)
    (previous : Option Char) : Nested previous cs where
  nonneg n := by
    have hzero : depthOver previous (cs.take n) = 0 :=
      depthOver_of_not_bracket (fun c hc ↦ h c (List.mem_of_mem_take hc)) previous
    exact Int.le_of_eq hzero.symm
  closed := depthOver_of_not_bracket h previous

theorem Enclosed.of_not_bracket {cs : List Char} (h : ∀ c ∈ cs, isBracket c = false)
    (hcomma : ',' ∉ cs) (previous : Option Char) : Enclosed previous cs where
  toNested := .of_not_bracket h previous
  noComma _ hn := absurd (List.mem_of_getElem? hn) hcomma

/-- Only the two characters of arrows change how the text after them is counted. -/
theorem depthOver_space (cs : List Char) : depthOver (some ' ') cs = depthOver none cs := by
  cases cs <;> rfl

theorem Enclosed.after_space {cs : List Char} (h : Enclosed none cs) : Enclosed (some ' ') cs where
  nonneg n := by
    rw [depthOver_space]
    exact h.nonneg n
  closed := by
    rw [depthOver_space]
    exact h.closed
  noComma n := by
    rw [depthOver_space]
    exact h.noComma n

instance (previous : Option Char) (cs : List Char) : Decidable (Enclosed previous cs) :=
  decidable_of_iff
    (depthOver previous cs = 0 ∧ ∀ n < cs.length, 0 ≤ depthOver previous (cs.take n) ∧
      (cs[n]? = some ',' → depthOver previous (cs.take n) ≠ 0)) (by
    constructor
    · rintro ⟨hclosed, hinside⟩
      refine ⟨⟨fun n ↦ ?_, hclosed⟩, fun n hcomma ↦ ?_⟩
      · rcases Nat.lt_or_ge n cs.length with hn | hn
        · exact (hinside n hn).1
        · have hzero : depthOver previous (cs.take n) = 0 := by
            rw [List.take_of_length_le hn, hclosed]
          exact Int.le_of_eq hzero.symm
      · exact (hinside n (List.getElem?_eq_some_iff.1 hcomma).1).2 hcomma
    · intro h
      exact ⟨h.closed, fun n _ ↦ ⟨h.nonneg n, h.noComma n⟩⟩)

/-! ## The two cuts -/

/-- Brackets that are nested inside an open one do not close it. -/
theorem balancedPrefix?_append {previous : Option Char} {depth : Int} {cs : List Char}
    (h : ∀ n, 0 < depth + depthOver previous (cs.take n)) (rest : List Char) :
    balancedPrefix? previous depth (cs ++ rest) =
      (balancedPrefix? (lastOr previous cs) (depth + depthOver previous cs) rest).map
        (cs ++ ·) := by
  induction cs generalizing previous depth with
  | nil => simp [depthOver, lastOr]
  | cons c cs ih =>
    have hstep (n : Nat) :
        0 < depth + depthStep previous c + depthOver (some c) (cs.take n) := by
      have hn := h (n + 1)
      rw [List.take_succ_cons, depthOver] at hn
      omega
    have hopen : depth + depthStep previous c ≠ 0 := by
      have hzero := hstep 0
      rw [List.take_zero, depthOver] at hzero
      omega
    rw [List.cons_append, balancedPrefix?, ih hstep]
    simp only [hopen, decide_false, Bool.false_and, Bool.false_eq_true, if_false, Option.map_map,
      depthOver, lastOr, Int.add_assoc]
    rfl

theorem cutAtCommas_ne_nil (previous : Option Char) (depth : Int) (cs : List Char) :
    cutAtCommas previous depth cs ≠ [] := by
  cases cs with
  | nil => exact List.cons_ne_nil _ _
  | cons c rest =>
    rw [cutAtCommas]
    split
    · exact List.cons_ne_nil _ _
    · split <;> exact List.cons_ne_nil _ _

/-- Commas inside brackets do not cut. -/
theorem cutAtCommas_append {previous : Option Char} {depth : Int} {cs : List Char}
    (h : ∀ n, cs[n]? = some ',' → depth + depthOver previous (cs.take n) ≠ 0) (rest : List Char) :
    cutAtCommas previous depth (cs ++ rest) =
      (cutAtCommas (lastOr previous cs) (depth + depthOver previous cs) rest).modifyHead
        (cs ++ ·) := by
  induction cs generalizing previous depth with
  | nil =>
    obtain ⟨piece, more, hcut⟩ := List.exists_cons_of_ne_nil
      (cutAtCommas_ne_nil previous depth rest)
    simp [depthOver, lastOr, hcut]
  | cons c cs ih =>
    have hstep (n : Nat) (hn : cs[n]? = some ',') :
        depth + depthStep previous c + depthOver (some c) (cs.take n) ≠ 0 := by
      have hne := h (n + 1) hn
      rw [List.take_succ_cons, depthOver] at hne
      omega
    have hkeep : ¬ (c = ',' ∧ depth + depthStep previous c = 0) := by
      rintro ⟨rfl, hzero⟩
      have hne := h 0 rfl
      rw [List.take_zero, depthOver] at hne
      rw [depthStep_of_not_bracket (by decide)] at hzero
      exact hne hzero
    obtain ⟨piece, more, hcut⟩ := List.exists_cons_of_ne_nil
      (cutAtCommas_ne_nil (lastOr (some c) cs)
        (depth + depthStep previous c + depthOver (some c) cs) rest)
    rw [List.cons_append, cutAtCommas, ih hstep]
    simp only [depthOver, lastOr, ← Int.add_assoc, hcut, List.modifyHead_cons, Bool.and_eq_true,
      decide_eq_true_eq, hkeep, if_false, List.cons_append]

/-! ## Printed parameters -/

/-- A character of a parameter's name. -/
def isNameChar (c : Char) : Bool :=
  !isBlank c && !isBracket c && c != ',' && c != ':' && c != '=' && c != '?'

/-- The name of a printed parameter. -/
structure PrintedName where
  text : String
  ne_empty : text ≠ ""
  plain : ∀ c ∈ text.toList, isNameChar c = true
  no_dot : text.toList.head? ≠ some '.'

/-- The type of a printed parameter. -/
structure PrintedType where
  text : String
  enclosed : Enclosed none text.toList

/-- Whether a printed parameter can be left out, or stands for all that follow. -/
inductive ParameterMark where
  | plain | optional | rest

/-- A parameter as a call signature prints it: `name`, `name?` or `...name`, each by itself or with
a colon and a type. -/
structure PrintedParameter where
  name : PrintedName
  mark : ParameterMark := .plain
  type : Option PrintedType := none

namespace PrintedParameter

/-- The name with its mark. -/
def markedName (p : PrintedParameter) : String :=
  match p.mark with
  | .plain => p.name.text
  | .optional => p.name.text ++ "?"
  | .rest => "..." ++ p.name.text

/-- The parameter as it is printed. -/
def text (p : PrintedParameter) : String :=
  match p.type with
  | none => p.markedName
  | some type => p.markedName ++ ": " ++ type.text

/-- The parameter in a lambda. -/
def lambdaName (p : PrintedParameter) : String :=
  match p.mark with
  | .rest => "*" ++ p.name.text
  | _ => p.name.text

/-- What follows the name: nothing, or a colon and the type. -/
def typeSuffix (p : PrintedParameter) : List Char :=
  (p.type.map fun type ↦ ':' :: ' ' :: type.text.toList).getD []

variable (p : PrintedParameter)

theorem toList_text : p.text.toList = p.markedName.toList ++ p.typeSuffix := by
  unfold text typeSuffix
  cases p.type <;> simp

theorem toList_markedName_ne_nil : p.markedName.toList ≠ [] := by
  have hname : p.name.text.toList ≠ [] := by simpa using p.name.ne_empty
  unfold markedName
  cases p.mark <;> simp [hname]

/-- The marks bring nothing with them that counts for the cuts. -/
theorem plain_of_mem_markedName {c : Char} (h : c ∈ p.markedName.toList) :
    isBlank c = false ∧ isBracket c = false ∧ c ≠ ',' ∧ c ≠ ':' ∧ c ≠ '=' := by
  have hcases : isNameChar c = true ∨ c = '?' ∨ c = '.' := by
    unfold markedName at h
    cases hmark : p.mark with
    | plain =>
      rw [hmark] at h
      exact .inl (p.name.plain c h)
    | optional =>
      rw [hmark, String.toList_append, List.mem_append] at h
      exact h.imp (p.name.plain c) fun hmem ↦ .inl (by simpa using hmem)
    | rest =>
      rw [hmark, String.toList_append, List.mem_append] at h
      exact h.symm.imp (p.name.plain c) fun hmem ↦ .inr (by simpa using hmem)
  rcases hcases with hname | rfl | rfl
  · simp only [isNameChar, Bool.and_eq_true, Bool.not_eq_true', bne_iff_ne] at hname
    obtain ⟨⟨⟨⟨⟨hblank, hbracket⟩, hcomma⟩, hcolon⟩, hequals⟩, -⟩ := hname
    exact ⟨hblank, hbracket, hcomma, hcolon, hequals⟩
  · decide
  · decide

/-- A printed parameter closes the brackets it opens, and no comma of it stands outside them. -/
theorem enclosed_text (previous : Option Char) : Enclosed previous p.text.toList := by
  have hname : Enclosed previous p.markedName.toList := by
    apply Enclosed.of_not_bracket
    · exact fun c hc ↦ (p.plain_of_mem_markedName hc).2.1
    · exact fun hcomma ↦ (p.plain_of_mem_markedName hcomma).2.2.1 rfl
  have hcolon (previous : Option Char) : Enclosed previous [':', ' '] :=
    .of_not_bracket (by simp [isBracket, isOpener]) (by decide) previous
  rw [toList_text, typeSuffix]
  apply hname.append
  cases p.type with
  | none => exact .of_not_bracket (by simp) (by simp) _
  | some type => exact (hcolon _).append type.enclosed.after_space

/-- What is left of a printed parameter after trimming. -/
theorem exists_trim_text : ∃ after, trim p.text.toList = p.markedName.toList ++ after ∧
    (after = [] ∨ ∃ rest, after = ':' :: rest) := by
  have hblank (c : Char) (hc : c ∈ p.markedName.toList) : isBlank c = false :=
    (p.plain_of_mem_markedName hc).1
  rw [toList_text, typeSuffix]
  cases p.type with
  | none => exact ⟨[], by simpa using trim_of_not_blank hblank, .inl rfl⟩
  | some type =>
    obtain ⟨first, middle, hfirst⟩ := List.exists_cons_of_ne_nil p.toList_markedName_ne_nil
    refine ⟨':' :: trimRight (' ' :: type.text.toList), ?_, .inr ⟨_, rfl⟩⟩
    rw [hfirst] at hblank ⊢
    exact trim_cons_append_cons (hblank first List.mem_cons_self) (by decide) middle _

theorem takeWhile_markedName {after : List Char} (h : after = [] ∨ ∃ rest, after = ':' :: rest) :
    ((p.markedName.toList ++ after).takeWhile (· != ':')).takeWhile (· != '=') =
      p.markedName.toList := by
  have hcolon : ∀ c ∈ p.markedName.toList, (c != ':') = true := fun c hc ↦
    bne_iff_ne.2 (p.plain_of_mem_markedName hc).2.2.2.1
  have hequals : ∀ c ∈ p.markedName.toList, (c != '=') = true := fun c hc ↦
    bne_iff_ne.2 (p.plain_of_mem_markedName hc).2.2.2.2
  have hafter : after.takeWhile (· != ':') = [] := by
    rcases h with rfl | ⟨rest, rfl⟩
    · rfl
    · exact List.takeWhile_cons_of_neg (by decide)
  rw [List.takeWhile_append_of_pos hcolon, hafter, List.append_nil]
  exact List.takeWhile_eq_self_iff.2 hequals

theorem dropWhile_reverse_of_not_mem {cs : List Char} (h : '?' ∉ cs) :
    cs.reverse.dropWhile (· == '?') = cs.reverse := by
  rw [List.dropWhile_eq_self_iff]
  intro hlength heq
  apply h
  rw [← List.mem_reverse, ← eq_of_beq heq]
  exact List.getElem_mem hlength

/-- A question mark at the end goes away; points in front stay. -/
theorem dropWhile_reverse_markedName :
    (p.markedName.toList.reverse.dropWhile (· == '?')).reverse =
      match p.mark with
      | .rest => '.' :: '.' :: '.' :: p.name.text.toList
      | _ => p.name.text.toList := by
  have hquestion : '?' ∉ p.name.text.toList := by
    intro hmem
    have hchar := p.name.plain '?' hmem
    revert hchar
    decide
  cases hmark : p.mark with
  | plain =>
    simp only [markedName, hmark]
    rw [dropWhile_reverse_of_not_mem hquestion, List.reverse_reverse]
  | optional =>
    have hreverse : p.markedName.toList.reverse = '?' :: p.name.text.toList.reverse := by
      simp [markedName, hmark]
    rw [hreverse, List.dropWhile_cons_of_pos (by decide), dropWhile_reverse_of_not_mem hquestion,
      List.reverse_reverse]
  | rest =>
    have hname : p.markedName.toList = '.' :: '.' :: '.' :: p.name.text.toList := by
      simp [markedName, hmark]
    rw [hname, dropWhile_reverse_of_not_mem (by simpa using hquestion), List.reverse_reverse]

/-- The name of a printed parameter is found before its colon, without its mark. -/
theorem parameterName_append {after : List Char} (h : after = [] ∨ ∃ rest, after = ':' :: rest) :
    parameterName (p.markedName.toList ++ after) = p.lambdaName.toList := by
  have htrim : trim p.markedName.toList = p.markedName.toList :=
    trim_of_not_blank fun c hc ↦ (p.plain_of_mem_markedName hc).1
  have hdots (rest : List Char) : p.name.text.toList ≠ '.' :: rest := by
    intro heq
    apply p.name.no_dot
    rw [heq, List.head?_cons]
  simp only [parameterName, p.takeWhile_markedName h, htrim, dropWhile_reverse_markedName,
    lambdaName]
  cases p.mark with
  | plain | optional =>
    simp only
    split
    · next heq => exact absurd heq (hdots _)
    · rfl
  | rest => simp

theorem toList_lambdaName_ne_nil : p.lambdaName.toList ≠ [] := by
  have hname : p.name.text.toList ≠ [] := by simpa using p.name.ne_empty
  unfold lambdaName
  cases p.mark <;> simp [hname]

theorem parameterName_trim : parameterName (trim p.text.toList) = p.lambdaName.toList := by
  obtain ⟨after, htrim, hafter⟩ := p.exists_trim_text
  rw [htrim, p.parameterName_append hafter]

theorem trim_text_ne_nil : trim p.text.toList ≠ [] := by
  obtain ⟨after, htrim, -⟩ := p.exists_trim_text
  rw [htrim]
  exact List.append_ne_nil_of_left_ne_nil p.toList_markedName_ne_nil after

end PrintedParameter

/-! ## Printed parameter lists -/

/-- The parameters as a call signature lists them, without the parentheses. -/
def printedList (ps : List PrintedParameter) : String := ", ".intercalate (ps.map (·.text))

/-- What follows the first parameter of a list. -/
def printedRest (ps : List PrintedParameter) : List Char :=
  ps.flatMap fun p ↦ [',', ' '] ++ p.text.toList

theorem toList_printedList_cons (p : PrintedParameter) (ps : List PrintedParameter) :
    (printedList (p :: ps)).toList = p.text.toList ++ printedRest ps := by
  rw [printedList, String.toList_intercalate, List.map_cons, List.map_cons,
    intercalate_cons_eq_flatMap, List.flatMap_map, List.flatMap_map]
  rfl

theorem nested_printedRest (previous : Option Char) (ps : List PrintedParameter) :
    Nested previous (printedRest ps) := by
  induction ps generalizing previous with
  | nil => exact .of_not_bracket (by simp [printedRest]) previous
  | cons p ps ih =>
    have hcomma : Nested previous [',', ' '] :=
      .of_not_bracket (by simp [isBracket, isOpener]) previous
    exact (hcomma.append (p.enclosed_text _).toNested).append (ih _)

theorem nested_printedList (previous : Option Char) (ps : List PrintedParameter) :
    Nested previous (printedList ps).toList := by
  cases ps with
  | nil => exact .of_not_bracket (by simp [printedList]) previous
  | cons p ps =>
    rw [toList_printedList_cons]
    exact (p.enclosed_text previous).toNested.append (nested_printedRest _ ps)

/-- An enclosed text is a piece by itself. -/
theorem Enclosed.cutAtCommas_append {previous : Option Char} {cs : List Char}
    (h : Enclosed previous cs) (rest : List Char) :
    cutAtCommas previous 0 (cs ++ rest) =
      (cutAtCommas (lastOr previous cs) 0 rest).modifyHead (cs ++ ·) := by
  have hcomma (n : Nat) (hn : cs[n]? = some ',') :
      0 + depthOver previous (cs.take n) ≠ 0 := by
    rw [Int.zero_add]
    exact h.noComma n hn
  rw [Literal.cutAtCommas_append hcomma, h.closed, Int.add_zero]

/-- A list of parameters is cut between each two of them. -/
theorem cutAtCommas_printedRest {previous : Option Char} {cs : List Char} (h : Enclosed previous cs)
    (ps : List PrintedParameter) :
    cutAtCommas previous 0 (cs ++ printedRest ps) = cs :: ps.map fun p ↦ ' ' :: p.text.toList := by
  induction ps generalizing previous cs with
  | nil =>
    rw [h.cutAtCommas_append]
    simp [printedRest, cutAtCommas]
  | cons p ps ih =>
    have hblank : Enclosed (some ',') [' '] :=
      .of_not_bracket (by simp [isBracket, isOpener]) (by decide) _
    have hnext := ih (hblank.append (p.enclosed_text _))
    have hcomma : cutAtCommas (lastOr previous cs) 0 (printedRest (p :: ps)) =
        [] :: cutAtCommas (some ',') 0 ([' '] ++ p.text.toList ++ printedRest ps) := by
      rfl
    rw [h.cutAtCommas_append, hcomma, hnext]
    simp

/-- A printed list is cut into its parameters. -/
theorem splitTopLevel_printedList (ps : List PrintedParameter) :
    splitTopLevel (printedList ps).toList = ps.map fun p ↦ trim p.text.toList := by
  cases ps with
  | nil => rfl
  | cons p ps =>
    have hblank (q : PrintedParameter) : trim (' ' :: q.text.toList) = trim q.text.toList :=
      trim_cons_of_blank (by decide) _
    have hpieces : (cutAtCommas none 0 (printedList (p :: ps)).toList).map trim =
        (p :: ps).map fun q ↦ trim q.text.toList := by
      rw [toList_printedList_cons, cutAtCommas_printedRest (p.enclosed_text none)]
      simp [hblank]
    rw [splitTopLevel, hpieces, List.filter_eq_self]
    intro piece hpiece
    obtain ⟨q, -, rfl⟩ := List.mem_map.1 hpiece
    simpa using q.trim_text_ne_nil

/-- A printed parameter list in its parentheses gives one name for each parameter. -/
theorem parameterNames_printedList (ps : List PrintedParameter) :
    parameterNames ('(' :: (printedList ps).toList ++ [')']) =
      ps.map (·.lambdaName.toList) := by
  have htrim : trim ('(' :: (printedList ps).toList ++ [')']) =
      '(' :: (printedList ps).toList ++ [')'] :=
    trim_cons_append_cons (by decide) (by decide) _ []
  have hinside : withoutParentheses ('(' :: (printedList ps).toList ++ [')']) =
      (printedList ps).toList := by
    simp [withoutParentheses]
  have hnames : (ps.map fun p ↦ trim p.text.toList).map parameterName =
      ps.map (·.lambdaName.toList) := by
    simp [PrintedParameter.parameterName_trim]
  rw [parameterNames, htrim, hinside, splitTopLevel_printedList, hnames, List.filter_eq_self]
  intro name hname
  obtain ⟨p, -, rfl⟩ := List.mem_map.1 hname
  simpa using p.toList_lambdaName_ne_nil

/-- The return annotation is cut off, whatever it is: inside the parentheses the depth never comes
back to zero. -/
theorem parameterList_printedList (ps : List PrintedParameter) (tail : List Char) :
    parameterList ('(' :: (printedList ps).toList ++ ')' :: tail) =
      '(' :: (printedList ps).toList ++ [')'] := by
  have hnested := nested_printedList (some '(') ps
  have hopen (n : Nat) : 0 < 1 + depthOver (some '(') ((printedList ps).toList.take n) := by
    have hn := hnested.nonneg n
    omega
  have hinside (after : List Char) :
      balancedPrefix? (some '(') 1 ((printedList ps).toList ++ ')' :: after) =
        some ((printedList ps).toList ++ [')']) := by
    rw [balancedPrefix?_append hopen, hnested.closed]
    simp [balancedPrefix?, depthStep, isOpener, isCloser]
  have htrim : trim ('(' :: (printedList ps).toList ++ ')' :: tail) =
      '(' :: (printedList ps).toList ++ ')' :: trimRight tail :=
    trim_cons_append_cons (by decide) (by decide) _ tail
  have hstep (rest : List Char) : balancedPrefix? none 0 ('(' :: rest) =
      (balancedPrefix? (some '(') 1 rest).map ('(' :: ·) := by
    rfl
  rw [parameterList, htrim]
  simp [hstep, hinside]

end CallCompletion.Literal

namespace CallCompletion

open Literal

/-- The text of a lambda. -/
def lambdaText (names : List String) (value : String) : String :=
  match names with
  | [] => "lambda: " ++ value
  | _ => "lambda " ++ ", ".intercalate names ++ ": " ++ value

/-- The value that a lambda returns. -/
def ReturnKind.lambdaValue : ReturnKind → String
  | .number => "0"
  | .string => "\"\""
  | .boolean => "False"
  | .other => "None"

theorem returnValue_python (returns : ReturnKind) :
    (returnValue .python returns).getD "None" = returns.lambdaValue := by
  cases returns <;> rfl

/-- The lambda takes the parameters of the list by their names. -/
theorem lambdaParameters_printedList (ps : List PrintedParameter) :
    lambdaParameters ("(" ++ printedList ps ++ ")") =
      ", ".intercalate (ps.map (·.lambdaName)) := by
  have hlist : ("(" ++ printedList ps ++ ")").toList = '(' :: (printedList ps).toList ++ [')'] := by
    simp
  have hnames : (fun p : PrintedParameter ↦ String.ofList p.lambdaName.toList) =
      (·.lambdaName) := by
    funext p
    exact String.ofList_toList
  rw [lambdaParameters, hlist, parameterNames_printedList, List.map_map]
  exact congrArg (fun names ↦ ", ".intercalate (ps.map names)) hnames

theorem intercalate_ne_empty {first : String} (h : first ≠ "") (rest : List String) :
    ", ".intercalate (first :: rest) ≠ "" := by
  rw [ne_eq, ← String.toList_inj, String.toList_intercalate, List.map_cons,
    Text.intercalate_cons_eq_flatMap]
  simp [h]

/-- The literal of a printed parameter list. -/
theorem function_printedList (ps : List PrintedParameter) (returns : ReturnKind) :
    Literal.function .python ("(" ++ printedList ps ++ ")") returns =
      .ok (lambdaText (ps.map (·.lambdaName)) returns.lambdaValue) := by
  simp only [Literal.function, lambdaParameters_printedList, returnValue_python]
  cases ps with
  | nil => rfl
  | cons p ps =>
    have hname : p.lambdaName ≠ "" := by simpa using p.toList_lambdaName_ne_nil
    have hempty : (", ".intercalate ((p :: ps).map (·.lambdaName))).isEmpty = false := by
      simpa [String.isEmpty_iff] using intercalate_ne_empty hname (ps.map (·.lambdaName))
    rw [hempty, if_neg (by decide), lambdaText]
    · apply congrArg
      apply String.toList_inj.1
      simp
    · simp

namespace Snapshot

theorem returnKind_classify {t : TypeSnapshot} (h : t.kind ≠ .primitive) :
    t.classify.returnKind = .other := by
  have hfunction : t.asFunction.returnKind = .other := by
    unfold TypeSnapshot.asFunction
    split <;> rfl
  unfold TypeSnapshot.classify
  split
  · contradiction
  · split <;> rfl
  · exact hfunction
  · split
    · exact hfunction
    · split <;> rfl
  · rfl

/-- What a function returns is decided by the class of its result type. -/
theorem returnKind_eq (t : Option TypeSnapshot) :
    returnKind t = (classifyOptional t).returnKind := by
  cases t with
  | none => rfl
  | some t =>
    change (t.primitive?.map ReturnKind.ofPrimitive).getD .other = t.classify.returnKind
    by_cases hkind : t.kind = .primitive
    · rw [TypeSnapshot.classify, hkind]
      cases t.primitive? <;> rfl
    · rw [returnKind_classify hkind, TypeSnapshot.primitive?, if_neg hkind]
      rfl

/-- The class of a function type is made from its first call signature. -/
theorem classify_of_signature {t : TypeSnapshot} {s : SignatureSnapshot}
    {more : List SignatureSnapshot} {text : String}
    (hkind : t.kind = .function ∨ t.kind = .object ∧ t.isAnonymous = true)
    (hsignatures : t.callSignatures = s :: more) (htext : stripReturn s.text = text)
    (hne : text ≠ "") :
    t.classify = .function text (classifyOptional s.returnType).returnKind := by
  have hfunction : t.classify = t.asFunction := by
    rcases hkind with hkind | ⟨hkind, hanonymous⟩
    · simp [TypeSnapshot.classify, hkind]
    · simp [TypeSnapshot.classify, hkind, hanonymous]
  have hparameters : orElseText (some text) "()" = text := by
    unfold orElseText
    split <;> simp_all
  rw [hfunction, TypeSnapshot.asFunction, hsignatures]
  simp only [htext, hparameters, returnKind_eq]

/-- A function type with a printed call signature is rendered as a lambda: one name for each
parameter, in order, and the default of what the function returns. -/
theorem typedDefault_printedSignature {t : TypeSnapshot} {s : SignatureSnapshot}
    {more : List SignatureSnapshot} {ps : List PrintedParameter} {tail : String}
    (hkind : t.kind = .function ∨ t.kind = .object ∧ t.isAnonymous = true)
    (hsignatures : t.callSignatures = s :: more)
    (htext : s.text = "(" ++ ", ".intercalate (ps.map (·.text)) ++ ")" ++ tail)
    {p : Parameter} {config : SnippetConfig} (htype : p.type = t.classify)
    (hdialect : config.dialect = .python) :
    typedDefault p config = .ok (some (lambdaText (ps.map (·.lambdaName))
      (classifyOptional s.returnType).returnKind.lambdaValue)) := by
  have hstrip : stripReturn s.text = "(" ++ printedList ps ++ ")" := by
    have hlist : s.text.toList = '(' :: (printedList ps).toList ++ ')' :: tail.toList := by
      simp [htext, printedList]
    apply String.toList_inj.1
    rw [stripReturn, hlist, parameterList_printedList]
    simp
  have hclass := classify_of_signature hkind hsignatures hstrip (by simp)
  rw [typedDefault, htype, hclass]
  simp only [hdialect, function_printedList]
  rfl

/-- The parameters `key: string`, `visit?: (k: string, v: Map<string, number>) => void` and
`...rest: number[]`. -/
def visitParameters : List PrintedParameter :=
  [{ name := ⟨"key", by decide, List.all_eq_true.1 (by decide), by decide⟩
     type := some ⟨"string", by decide⟩ },
    { name := ⟨"visit", by decide, List.all_eq_true.1 (by decide), by decide⟩
      mark := .optional
      type := some ⟨"(k: string, v: Map<string, number>) => void", by decide +kernel⟩ },
    { name := ⟨"rest", by decide, List.all_eq_true.1 (by decide), by decide⟩
      mark := .rest
      type := some ⟨"number[]", by decide⟩ }]

/-- A number. -/
def numberType : TypeSnapshot where
  kind := .primitive
  printed := "number"
  intrinsic := none
  enumName := none
  enumMembers := []
  isTuple := false
  isAnonymous := false
  callSignatures := []

/-- A call signature with these parameters that returns a number. -/
def visitSignature : SignatureSnapshot where
  text := "(key: string, visit?: (k: string, v: Map<string, number>) => void, " ++
    "...rest: number[]): Array<() => number>"
  parameters := []
  minArguments := 0
  returnType := some numberType

/-- The type of a function with that signature. -/
def visitType : TypeSnapshot where
  kind := .object
  printed := ""
  intrinsic := none
  enumName := none
  enumMembers := []
  isTuple := false
  isAnonymous := true
  callSignatures := [visitSignature]

theorem typedDefault_visitType :
    typedDefault { name := "f", type := visitType.classify } { dialect := .python } =
      .ok (some "lambda key, visit, *rest: 0") := by
  have htext : visitSignature.text = "(" ++ ", ".intercalate (visitParameters.map (·.text)) ++
      ")" ++ ": Array<() => number>" := by
    decide +kernel
  have hsignatures : visitType.callSignatures = [visitSignature] := rfl
  rw [typedDefault_printedSignature (.inr ⟨rfl, rfl⟩) hsignatures htext rfl rfl]
  decide +kernel

end Snapshot

end CallCompletion
