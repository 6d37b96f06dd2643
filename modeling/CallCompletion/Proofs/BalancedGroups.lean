import CallCompletion.Proofs.PrintedSignatures

/-!
# The group that a parenthesis opens

A printed call signature is cut behind the group that its first parenthesis opens. The cut is
found by a counter that goes up at each bracket that opens and down at each one that closes,
whatever their kinds are; the head of an arrow does not close. The group is the shortest beginning
of the text that closes as many brackets as it opens, so that nothing behind it has any bearing on
it.
-/

namespace CallCompletion.Literal

open CallCompletion.Text

/-! ## Counted brackets -/

/-- The number of brackets that a text opens. -/
def openings (cs : List Char) : Nat := cs.countP (['(', '[', '{', '<'].contains ·)

/-- The number of brackets that a text closes after the given character. The heads of the arrows
`=>` and `->` do not count. -/
def closingsAfter (previous : Option Char) (cs : List Char) : Nat :=
  (cs.zip (previous :: cs.map some)).countP fun (c, before) ↦
    [')', ']', '}'].contains c || c == '>' && !([some '=', some '-'].contains before)

/-- The number of brackets that a text closes. -/
def closings (cs : List Char) : Nat := closingsAfter none cs

/-- A text that is not empty and closes as many brackets as it opens. -/
structure Balanced (cs : List Char) : Prop where
  ne_nil : cs ≠ []
  balanced : openings cs = closings cs

/-- The shortest beginning of a text that is balanced. -/
structure ShortestBalanced (text group : List Char) : Prop extends Balanced group where
  begins : group <+: text
  shortest : ∀ other, other <+: text → Balanced other → group.length ≤ other.length

theorem closingsAfter_cons (previous : Option Char) (c : Char) (cs : List Char) :
    closingsAfter previous (c :: cs) =
      closingsAfter (some c) cs + if isCloser previous c then 1 else 0 := by
  have hcloses : ([')', ']', '}'].contains c ||
      c == '>' && !([some '=', some '-'].contains previous)) = isCloser previous c := by
    rw [Bool.eq_iff_iff]
    simp [isCloser, or_assoc]
  rw [closingsAfter, List.map_cons, List.zip_cons_cons, List.countP_cons]
  simp only [hcloses]
  rfl

/-- The depth after a text is what is left open of its brackets. -/
theorem depthOver_eq (previous : Option Char) (cs : List Char) :
    depthOver previous cs = openings cs - closingsAfter previous cs := by
  induction cs generalizing previous with
  | nil => rfl
  | cons c cs ih =>
    have hopens : ['(', '[', '{', '<'].contains c = isOpener c := by
      rw [Bool.eq_iff_iff]
      simp [isOpener, or_assoc]
    have hnot : isOpener c = true → isCloser previous c = false := by
      intro hopener
      simp only [isOpener, Bool.or_eq_true, beq_iff_eq] at hopener
      rcases hopener with ((rfl | rfl) | rfl) | rfl <;> rfl
    have hcount : openings (c :: cs) = openings cs + if isOpener c then 1 else 0 := by
      rw [openings, List.countP_cons, hopens, openings]
    rw [depthOver, ih, closingsAfter_cons, hcount, depthStep]
    cases hopener : isOpener c with
    | true =>
      simp only [hnot hopener, if_true, Bool.false_eq_true, if_false]
      omega
    | false =>
      cases isCloser previous c with
      | true =>
        simp only [if_true, Bool.false_eq_true, if_false]
        omega
      | false =>
        simp only [Bool.false_eq_true, if_false]
        omega

/-! ## The counter -/

/-- One step of the counter inside an open bracket: it stays above zero unless the scan stops. -/
theorem pos_of_not_stop {previous : Option Char} {depth : Int} {c : Char} (hdepth : 0 < depth)
    (h : ¬ (depth + depthStep previous c = 0 && isCloser previous c) = true) :
    0 < depth + depthStep previous c := by
  simp only [Bool.and_eq_true, decide_eq_true_eq, not_and, Bool.not_eq_true] at h
  unfold depthStep at h ⊢
  split
  · omega
  · next hopener =>
    rw [if_neg hopener] at h
    split
    · next hcloser =>
      rw [if_pos hcloser] at h
      have hne : depth + -1 ≠ 0 := fun hzero ↦ absurd (h hzero) (by simp [hcloser])
      omega
    · omega

/-- Inside an open bracket, the scan stops where the counter comes to zero for the first time. -/
theorem depthOver_of_balancedPrefix? {previous : Option Char} {depth : Int} {cs group : List Char}
    (h : balancedPrefix? previous depth cs = some group) (hdepth : 0 < depth) :
    group <+: cs ∧ depth + depthOver previous group = 0 ∧
      ∀ n < group.length, 0 < depth + depthOver previous (group.take n) := by
  induction cs generalizing previous depth group with
  | nil => cases h
  | cons c rest ih =>
    have hfront : 0 < depth + depthOver previous [] := by
      rw [depthOver, Int.add_zero]
      exact hdepth
    rw [balancedPrefix?] at h
    split at h
    · next hstop =>
      cases h
      simp only [Bool.and_eq_true, decide_eq_true_eq] at hstop
      refine ⟨List.prefix_append [c] rest, ?_, ?_⟩
      · rw [depthOver, depthOver, Int.add_zero]
        exact hstop.1
      · intro n hn
        obtain rfl : n = 0 := by simpa using hn
        exact hfront
    · next hgo =>
      obtain ⟨inner, hinner, rfl⟩ := Option.map_eq_some_iff.1 h
      obtain ⟨hbegins, hzero, hpos⟩ := ih hinner (pos_of_not_stop hdepth hgo)
      refine ⟨(List.prefix_cons_inj c).2 hbegins, ?_, ?_⟩
      · rw [depthOver, ← Int.add_assoc]
        exact hzero
      · intro n hn
        cases n with
        | zero => exact hfront
        | succ n =>
          rw [List.take_succ_cons, depthOver, ← Int.add_assoc]
          exact hpos n (Nat.lt_of_succ_lt_succ hn)

/-- A scan that does not stop has the counter above zero all the way. -/
theorem depthOver_of_balancedPrefix?_eq_none {previous : Option Char} {depth : Int} {cs : List Char}
    (h : balancedPrefix? previous depth cs = none) (hdepth : 0 < depth) (n : Nat) :
    0 < depth + depthOver previous (cs.take n) := by
  induction cs generalizing previous depth n with
  | nil =>
    rw [List.take_nil, depthOver, Int.add_zero]
    exact hdepth
  | cons c rest ih =>
    rw [balancedPrefix?] at h
    split at h
    · cases h
    · next hgo =>
      cases n with
      | zero =>
        rw [List.take_zero, depthOver, Int.add_zero]
        exact hdepth
      | succ n =>
        rw [List.take_succ_cons, depthOver, ← Int.add_assoc]
        exact ih (Option.map_eq_none_iff.1 h) (pos_of_not_stop hdepth hgo) n

/-- The counter above zero, in terms of the brackets. -/
theorem closings_lt_iff {cs : List Char} : closings cs < openings cs ↔ 0 < depthOver none cs := by
  rw [depthOver_eq, closings]
  omega

theorem balanced_iff {cs : List Char} : Balanced cs ↔ cs ≠ [] ∧ depthOver none cs = 0 := by
  rw [depthOver_eq]
  constructor
  · intro h
    have hbalanced := h.balanced
    rw [closings] at hbalanced
    exact ⟨h.ne_nil, by omega⟩
  · rintro ⟨hne, hzero⟩
    refine ⟨hne, ?_⟩
    rw [closings]
    omega

/-! ## The group of a text -/

/-- A scan that stops does so at a bracket. -/
theorem exists_last_of_balancedPrefix? {previous : Option Char} {depth : Int} {cs group : List Char}
    (h : balancedPrefix? previous depth cs = some group) :
    ∃ before last, group = before ++ [last] ∧ isBlank last = false := by
  induction cs generalizing previous depth group with
  | nil => cases h
  | cons c rest ih =>
    rw [balancedPrefix?] at h
    split at h
    · next hstop =>
      cases h
      refine ⟨[], c, rfl, ?_⟩
      simp only [Bool.and_eq_true, isCloser, Bool.or_eq_true, beq_iff_eq] at hstop
      rcases hstop.2 with ((rfl | rfl) | rfl) | ⟨rfl, -⟩ <;> decide
    · obtain ⟨inner, hinner, rfl⟩ := Option.map_eq_some_iff.1 h
      obtain ⟨before, last, rfl, hlast⟩ := ih hinner
      exact ⟨c :: before, last, rfl, hlast⟩

/-- What follows the place where a scan stops has no bearing on it. -/
theorem balancedPrefix?_append_of_some {previous : Option Char} {depth : Int}
    {cs group : List Char} (h : balancedPrefix? previous depth cs = some group)
    (more : List Char) : balancedPrefix? previous depth (cs ++ more) = some group := by
  induction cs generalizing previous depth group with
  | nil => cases h
  | cons c rest ih =>
    rw [balancedPrefix?] at h
    rw [List.cons_append, balancedPrefix?]
    split at h
    · next hstop => rw [if_pos hstop, h]
    · next hgo =>
      obtain ⟨inner, hinner, rfl⟩ := Option.map_eq_some_iff.1 h
      rw [if_neg hgo, ih hinner, Option.map_some]

/-- At an opening parenthesis a group begins. -/
theorem balancedPrefix?_parenthesis (rest : List Char) :
    balancedPrefix? none 0 ('(' :: rest) =
      (balancedPrefix? (some '(') 1 rest).map ('(' :: ·) := by
  rfl

theorem depthOver_parenthesis (cs : List Char) :
    depthOver none ('(' :: cs) = 1 + depthOver (some '(') cs := by
  rfl

/-- The scan from a first parenthesis on: the counter is above zero inside the group and comes to
zero at its end. -/
theorem depthOver_of_group {rest group : List Char}
    (h : balancedPrefix? none 0 ('(' :: rest) = some group) :
    group <+: '(' :: rest ∧ group ≠ [] ∧ depthOver none group = 0 ∧
      ∀ n, 0 < n → n < group.length → 0 < depthOver none (group.take n) := by
  rw [balancedPrefix?_parenthesis] at h
  obtain ⟨inner, hinner, rfl⟩ := Option.map_eq_some_iff.1 h
  obtain ⟨hbegins, hzero, hpos⟩ := depthOver_of_balancedPrefix? hinner Int.one_pos
  refine ⟨(List.prefix_cons_inj _).2 hbegins, List.cons_ne_nil _ _, hzero, ?_⟩
  intro n hn hlength
  obtain ⟨k, rfl⟩ : ∃ k, n = k + 1 := ⟨n - 1, by omega⟩
  rw [List.take_succ_cons, depthOver_parenthesis]
  exact hpos k (Nat.lt_of_succ_lt_succ hlength)

theorem depthOver_of_no_group {rest : List Char}
    (h : balancedPrefix? none 0 ('(' :: rest) = none) {n : Nat} (hn : 0 < n) :
    0 < depthOver none (('(' :: rest).take n) := by
  rw [balancedPrefix?_parenthesis] at h
  obtain ⟨k, rfl⟩ : ∃ k, n = k + 1 := ⟨n - 1, by omega⟩
  rw [List.take_succ_cons, depthOver_parenthesis]
  exact depthOver_of_balancedPrefix?_eq_none (Option.map_eq_none_iff.1 h) Int.one_pos k

/-- A beginning of a text that is shorter than a second one is a beginning of that one. -/
theorem eq_take_of_lt {text group other : List Char} (hgroup : group <+: text)
    (hother : other <+: text) (h : other.length < group.length) :
    other = group.take other.length :=
  List.prefix_iff_eq_take.1 (List.prefix_of_prefix_length_le hother hgroup (Nat.le_of_lt h))

/-- The group that is found balances, and nothing shorter does. -/
theorem shortestBalanced_of_group {rest group : List Char}
    (h : balancedPrefix? none 0 ('(' :: rest) = some group) :
    ShortestBalanced ('(' :: rest) group := by
  obtain ⟨hbegins, hne, hzero, hpos⟩ := depthOver_of_group h
  refine ⟨balanced_iff.2 ⟨hne, hzero⟩, hbegins, ?_⟩
  intro other hother hbalanced
  by_contra hlength
  have hlt : other.length < group.length := Nat.lt_of_not_le hlength
  obtain ⟨hother_ne, hother_zero⟩ := balanced_iff.1 hbalanced
  have hdepth := hpos other.length (List.length_pos_iff.2 hother_ne) hlt
  rw [← eq_take_of_lt hbegins hother hlt, hother_zero] at hdepth
  exact absurd hdepth (Int.lt_irrefl 0)

/-- Where no group is found, no prefix balances. -/
theorem not_balanced_of_no_group {rest other : List Char}
    (h : balancedPrefix? none 0 ('(' :: rest) = none) (hother : other <+: '(' :: rest) :
    ¬ Balanced other := by
  intro hbalanced
  obtain ⟨hne, hzero⟩ := balanced_iff.1 hbalanced
  have hdepth := depthOver_of_no_group h (List.length_pos_iff.2 hne)
  rw [← List.prefix_iff_eq_take.1 hother, hzero] at hdepth
  exact absurd hdepth (Int.lt_irrefl 0)

/-- The scan finds the shortest balanced beginning. -/
theorem group_eq_some_iff {rest group : List Char} :
    balancedPrefix? none 0 ('(' :: rest) = some group ↔ ShortestBalanced ('(' :: rest) group := by
  refine ⟨shortestBalanced_of_group, fun h ↦ ?_⟩
  cases hscan : balancedPrefix? none 0 ('(' :: rest) with
  | none => exact absurd h.toBalanced (not_balanced_of_no_group hscan h.begins)
  | some found =>
    have hfound := shortestBalanced_of_group hscan
    have hlength : found.length = group.length :=
      Nat.le_antisymm (hfound.shortest group h.begins h.toBalanced)
        (h.shortest found hfound.begins hfound.toBalanced)
    have hsame : found = group := by
      rw [List.prefix_iff_eq_take.1 hfound.begins, List.prefix_iff_eq_take.1 h.begins, hlength]
    rw [hsame]

theorem ShortestBalanced.self {text group : List Char} (h : ShortestBalanced text group) :
    ShortestBalanced group group where
  toBalanced := h.toBalanced
  begins := List.prefix_refl group
  shortest other hother := h.shortest other (hother.trans h.begins)

theorem ShortestBalanced.head?_eq {rest group : List Char}
    (h : ShortestBalanced ('(' :: rest) group) : group.head? = some '(' := by
  obtain ⟨more, hmore⟩ := h.begins
  cases group with
  | nil => exact absurd rfl h.ne_nil
  | cons c group => rw [(List.cons.inj hmore).1, List.head?_cons]

/-! ## Parameter lists -/

theorem parameterList_trim (signature : List Char) :
    parameterList (trim signature) = parameterList signature := by
  rw [parameterList, trim_trim, parameterList]

theorem parameterList_of_not_parenthesis {signature : List Char}
    (h : (trim signature).head? ≠ some '(') : parameterList signature = trim signature := by
  rw [parameterList, if_neg h]

theorem parameterList_of_parenthesis {signature : List Char}
    (h : (trim signature).head? = some '(') :
    parameterList signature =
      (balancedPrefix? none 0 (trim signature)).getD (trim signature) := by
  rw [parameterList, if_pos h]

/-- Behind a group, a text can be trimmed without touching the group. -/
theorem trim_group_append {rest group : List Char}
    (h : balancedPrefix? none 0 ('(' :: rest) = some group) (more : List Char) :
    trim (group ++ more) = group ++ trimRight more := by
  rw [balancedPrefix?_parenthesis] at h
  obtain ⟨inner, hinner, rfl⟩ := Option.map_eq_some_iff.1 h
  obtain ⟨before, last, rfl, hlast⟩ := exists_last_of_balancedPrefix? hinner
  have hparenthesis : isBlank '(' = false := by decide
  simpa using trim_cons_append_cons hparenthesis hlast before more

/-- A balanced group is found whatever follows it. -/
theorem parameterList_append {group : List Char} (hhead : group.head? = some '(')
    (h : ShortestBalanced group group) (more : List Char) :
    parameterList (group ++ more) = group := by
  obtain ⟨rest, rfl⟩ : ∃ rest, group = '(' :: rest := List.head?_eq_some_iff.1 hhead
  have hscan := group_eq_some_iff.2 h
  have htrim := trim_group_append hscan more
  have hfront : (trim ('(' :: rest ++ more)).head? = some '(' := by
    rw [htrim, List.cons_append, List.head?_cons]
  rw [parameterList_of_parenthesis hfront, htrim, balancedPrefix?_append_of_some hscan,
    Option.getD_some]

/-- A signature that starts with a parenthesis gives its group, inside of which the counter is above
zero; or it has no group, and the counter is above zero to the end. -/
theorem parameterList_cases {signature : List Char} (h : (trim signature).head? = some '(') :
    (ShortestBalanced (trim signature) (parameterList signature) ∨
      parameterList signature = trim signature ∧
        ∀ other, other <+: trim signature → ¬ Balanced other) ∧
    ∀ n, 0 < n → n < (parameterList signature).length →
      closings ((parameterList signature).take n) <
        openings ((parameterList signature).take n) := by
  rw [parameterList_of_parenthesis h]
  obtain ⟨rest, hrest⟩ : ∃ rest, trim signature = '(' :: rest := List.head?_eq_some_iff.1 h
  rw [hrest]
  cases hscan : balancedPrefix? none 0 ('(' :: rest) with
  | none =>
    refine ⟨.inr ⟨rfl, fun other ↦ not_balanced_of_no_group hscan⟩, fun n hn _ ↦ ?_⟩
    rw [closings_lt_iff]
    exact depthOver_of_no_group hscan hn
  | some group =>
    refine ⟨.inl (shortestBalanced_of_group hscan), fun n hn hlength ↦ ?_⟩
    rw [closings_lt_iff]
    exact (depthOver_of_group hscan).2.2.2 n hn hlength

/-- A parameter list is its own parameter list. -/
theorem parameterList_parameterList (signature : List Char) :
    parameterList (parameterList signature) = parameterList signature := by
  by_cases hhead : (trim signature).head? = some '('
  · rcases (parameterList_cases hhead).1 with hgroup | ⟨hwhole, -⟩
    · obtain ⟨rest, hrest⟩ := List.head?_eq_some_iff.1 hhead
      have hfront : (parameterList signature).head? = some '(' :=
        (hrest ▸ hgroup).head?_eq
      have hkept := parameterList_append hfront hgroup.self []
      rwa [List.append_nil] at hkept
    · rw [hwhole, parameterList_trim, hwhole]
  · rw [parameterList_of_not_parenthesis hhead, parameterList_trim,
      parameterList_of_not_parenthesis hhead]

/-- A signature is reduced to the shortest balanced beginning of its trimmed text if that text
starts with a parenthesis and has one, and else to the trimmed text. A second reduction changes
nothing, the counter is above zero before the end of what is left, and whatever is written behind a
group is cut off. -/
theorem stripReturn_eq_shortestBalanced (signature : String) :
    (((trim signature.toList).head? = some '(' ∧
        ∃ group, group <+: trim signature.toList ∧ Balanced group) →
      ShortestBalanced (trim signature.toList) (stripReturn signature).toList) ∧
    (¬ ((trim signature.toList).head? = some '(' ∧
        ∃ group, group <+: trim signature.toList ∧ Balanced group) →
      (stripReturn signature).toList = trim signature.toList) ∧
    stripReturn (stripReturn signature) = stripReturn signature ∧
    ((trim signature.toList).head? = some '(' →
      ∀ n, 0 < n → n < (stripReturn signature).toList.length →
        closings ((stripReturn signature).toList.take n) <
          openings ((stripReturn signature).toList.take n)) ∧
    (signature.toList.head? = some '(' → ShortestBalanced signature.toList signature.toList →
      ∀ more, stripReturn (signature ++ more) = signature) := by
  have hlist (s : String) : (stripReturn s).toList = parameterList s.toList := by
    rw [stripReturn, String.toList_ofList]
  simp only [← String.toList_inj, hlist]
  refine ⟨?_, ?_, parameterList_parameterList _, fun h ↦ (parameterList_cases h).2, ?_⟩
  · rintro ⟨hhead, group, hbegins, hbalanced⟩
    rcases (parameterList_cases hhead).1 with hgroup | ⟨-, hnone⟩
    · exact hgroup
    · exact absurd hbalanced (hnone group hbegins)
  · intro hnot
    by_cases hhead : (trim signature.toList).head? = some '('
    · rcases (parameterList_cases hhead).1 with hgroup | ⟨hwhole, -⟩
      · exact absurd ⟨hhead, _, hgroup.begins, hgroup.toBalanced⟩ hnot
      · exact hwhole
    · exact parameterList_of_not_parenthesis hhead
  · intro hhead hgroup more
    rw [String.toList_append]
    exact parameterList_append hhead hgroup more.toList

/-- Brackets of all kinds, an arrow inside the group and one behind it. -/
example : stripReturn " (f: (x: T[]) => Map<K, V>, n: int) -> Dict[K, V] " =
    "(f: (x: T[]) => Map<K, V>, n: int)" := by
  decide

/-- A parenthesis that the head of an arrow leaves open. -/
example : stripReturn "(a => b, c " = "(a => b, c" := by decide

end CallCompletion.Literal
