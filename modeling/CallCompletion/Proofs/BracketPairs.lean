import CallCompletion.Proofs.Brackets
import Mathlib.Data.List.Basic

/-!
# Brackets and their partners

A closing bracket closes the opening one before it that has balanced brackets in between. A stack
on which opening brackets are put, and from which closing ones take the top, holds in the end just
the opening brackets that no later bracket closes, whatever closing brackets find no partner.

How many closing brackets of a row are without partner tells whether a bracket before it is closed:
it is if there is one at least. By this count the bottom of the stack is the first opening bracket
that is never closed.
-/

namespace CallCompletion.Source

/-! ## Brackets that close one another -/

/-- A bracket and the line it stands on. -/
structure PlacedBracket where
  line : Nat
  mark : Char
  deriving DecidableEq, Repr

/-- Whether a bracket opens or closes. -/
def PlacedBracket.kind (bracket : PlacedBracket) : Bracket :=
  if BracketScan.isOpening bracket.mark then .opening else .closing

/-- Brackets that all close one another, with marks that fit. -/
inductive Balanced (fits : Char → Char → Prop) : List PlacedBracket → Prop where
  | nil : Balanced fits []
  | group {opening closing : PlacedBracket} {inner after : List PlacedBracket} :
      opening.kind = .opening → closing.kind = .closing → fits opening.mark closing.mark →
      Balanced fits inner → Balanced fits after →
      Balanced fits (opening :: inner ++ closing :: after)

/-- A closing bracket that fits stands behind an opening one, with balanced brackets in between. -/
def ClosedIn (fits : Char → Char → Prop) (opening : PlacedBracket)
    (after : List PlacedBracket) : Prop :=
  ∃ inner closing rest, after = inner ++ closing :: rest ∧ closing.kind = .closing ∧
    fits opening.mark closing.mark ∧ Balanced fits inner

/-- Every closing bracket closes an earlier opening one that it fits. -/
def ClosingsMatch (fits : Char → Char → Prop) (brackets : List PlacedBracket) : Prop :=
  ∀ before closing after, brackets = before ++ closing :: after → closing.kind = .closing →
    ∃ front opening inner, before = front ++ opening :: inner ∧ opening.kind = .opening ∧
      fits opening.mark closing.mark ∧ Balanced fits inner

/-- The first bracket with a property that may depend on what follows it. -/
def IsFirst (p : PlacedBracket → List PlacedBracket → Prop) (brackets : List PlacedBracket)
    (bracket : PlacedBracket) : Prop :=
  ∃ before after, brackets = before ++ bracket :: after ∧ p bracket after ∧
    ∀ front other inner, before = front ++ other :: inner → ¬ p other (inner ++ bracket :: after)

/-- An opening bracket that is never closed. -/
def Unclosed (fits : Char → Char → Prop) (bracket : PlacedBracket)
    (after : List PlacedBracket) : Prop :=
  bracket.kind = .opening ∧ ¬ ClosedIn fits bracket after

theorem not_isFirst_nil {p : PlacedBracket → List PlacedBracket → Prop}
    {bracket : PlacedBracket} : ¬ IsFirst p [] bracket := by
  rintro ⟨before, after, hsplit, -⟩
  simp at hsplit

/-- If the front bracket of a row has the property it is the first; if not, the rest has it. -/
theorem isFirst_cons_iff {p : PlacedBracket → List PlacedBracket → Prop}
    {first bracket : PlacedBracket} {rest : List PlacedBracket} :
    IsFirst p (first :: rest) bracket ↔
      p first rest ∧ first = bracket ∨ ¬ p first rest ∧ IsFirst p rest bracket := by
  constructor
  · rintro ⟨before, after, hsplit, hbracket, hbefore⟩
    cases before with
    | nil =>
      obtain ⟨rfl, rfl⟩ := List.cons.inj hsplit
      exact Or.inl ⟨hbracket, rfl⟩
    | cons _ before =>
      obtain ⟨rfl, rfl⟩ := List.cons.inj hsplit
      refine Or.inr ⟨hbefore [] first before rfl, before, after, rfl, hbracket, ?_⟩
      intro front other inner h
      exact hbefore (first :: front) other inner (congrArg (first :: ·) h)
  · rintro (⟨hfirst, rfl⟩ | ⟨hfirst, before, after, rfl, hbracket, hbefore⟩)
    · exact ⟨[], rest, rfl, hfirst, by simp⟩
    · refine ⟨first :: before, after, rfl, hbracket, fun front other inner h ↦ ?_⟩
      cases front with
      | nil =>
        obtain ⟨rfl, rfl⟩ := List.cons.inj h
        exact hfirst
      | cons _ front => exact hbefore front other inner (List.cons.inj h).2

/-- Only the places in the row matter for which of its brackets is the first. -/
theorem isFirst_congr {p q : PlacedBracket → List PlacedBracket → Prop}
    {brackets : List PlacedBracket}
    (h : ∀ before bracket after, brackets = before ++ bracket :: after →
      (p bracket after ↔ q bracket after)) (bracket : PlacedBracket) :
    IsFirst p brackets bracket ↔ IsFirst q brackets bracket := by
  induction brackets with
  | nil => exact iff_of_false not_isFirst_nil not_isFirst_nil
  | cons first rest ih =>
    have hrest := ih fun before other after hsplit ↦
      h (first :: before) other after (congrArg (first :: ·) hsplit)
    rw [isFirst_cons_iff, isFirst_cons_iff, h [] first rest rfl, hrest]

/-! ## The brackets that are left -/

/-- The number of closing brackets that close none of the brackets before them. -/
def surplus : List PlacedBracket → Nat
  | [] => 0
  | bracket :: rest =>
    match bracket.kind with
    | .opening => surplus rest - 1
    | .closing => surplus rest + 1

/-- The opening brackets that no later bracket closes. -/
def leftOpen : List PlacedBracket → List PlacedBracket
  | [] => []
  | bracket :: rest =>
    if bracket.kind = .opening ∧ surplus rest = 0 then bracket :: leftOpen rest else leftOpen rest

theorem surplus_cons_of_opening {bracket : PlacedBracket} (h : bracket.kind = .opening)
    (rest : List PlacedBracket) : surplus (bracket :: rest) = surplus rest - 1 := by
  simp only [surplus, h]

theorem surplus_cons_of_closing {bracket : PlacedBracket} (h : bracket.kind = .closing)
    (rest : List PlacedBracket) : surplus (bracket :: rest) = surplus rest + 1 := by
  simp only [surplus, h]

/-- What a bracket does to the lines of the open brackets. -/
def PlacedBracket.push (openers : List Nat) (bracket : PlacedBracket) : List Nat :=
  Bracket.push bracket.line openers bracket.kind

/-- The stack holds the brackets that are left open, on top of what the surplus leaves of it. -/
theorem foldl_push_eq (brackets : List PlacedBracket) (openers : List Nat) :
    brackets.foldl PlacedBracket.push openers =
      ((leftOpen brackets).map PlacedBracket.line).reverse ++ openers.drop (surplus brackets) := by
  induction brackets generalizing openers with
  | nil => rfl
  | cons bracket rest ih =>
    rw [List.foldl_cons, ih, PlacedBracket.push]
    cases hkind : bracket.kind with
    | opening =>
      rw [surplus_cons_of_opening hkind, leftOpen]
      cases hsurplus : surplus rest <;> simp [hkind, Bracket.push]
    | closing =>
      rw [surplus_cons_of_closing hkind, leftOpen]
      simp [hkind, Bracket.push]

/-- Balanced brackets change nothing for those behind them. -/
theorem Balanced.append {fits : Char → Char → Prop} {brackets : List PlacedBracket}
    (h : Balanced fits brackets) (rest : List PlacedBracket) :
    surplus (brackets ++ rest) = surplus rest ∧ leftOpen (brackets ++ rest) = leftOpen rest := by
  induction h generalizing rest with
  | nil => exact ⟨rfl, rfl⟩
  | @group opening closing inner after hopening hclosing _ _ _ ihinner ihafter =>
    have hshape : opening :: inner ++ closing :: after ++ rest =
        opening :: (inner ++ closing :: (after ++ rest)) := by simp
    have hinside : surplus (inner ++ closing :: (after ++ rest)) = surplus rest + 1 := by
      rw [(ihinner _).1, surplus_cons_of_closing hclosing, (ihafter rest).1]
    rw [hshape]
    constructor
    · rw [surplus_cons_of_opening hopening, hinside, Nat.add_sub_cancel]
    · rw [leftOpen, hinside, if_neg (by simp), (ihinner _).2, leftOpen, if_neg (by simp [hclosing]),
        (ihafter rest).2]

/-- Where there is a surplus, its first closing bracket stands behind balanced ones. -/
theorem exists_of_surplus_ne_zero {brackets : List PlacedBracket} (h : surplus brackets ≠ 0) :
    ∃ inner closing rest, brackets = inner ++ closing :: rest ∧ closing.kind = .closing ∧
      Balanced (fun _ _ ↦ True) inner ∧ surplus rest + 1 = surplus brackets := by
  match brackets with
  | [] => exact absurd rfl h
  | bracket :: rest =>
    cases hkind : bracket.kind with
    | closing =>
      exact ⟨[], bracket, rest, rfl, hkind, .nil, (surplus_cons_of_closing hkind rest).symm⟩
    | opening =>
      -- The first surplus bracket of the rest closes this one, the next is the one sought.
      rw [surplus_cons_of_opening hkind] at h ⊢
      have hsurplus : surplus rest ≠ 0 := by omega
      obtain ⟨inner, closing, later, hrest, hclosing, hinner, hlater⟩ :=
        exists_of_surplus_ne_zero hsurplus
      have hshorter : later.length < rest.length := by grind
      have hleft : surplus later ≠ 0 := by omega
      obtain ⟨middle, found, after, rfl, hfound, hmiddle, hafter⟩ :=
        exists_of_surplus_ne_zero hleft
      refine ⟨bracket :: inner ++ closing :: middle, found, after, by simp [hrest], hfound,
        .group hkind hclosing trivial hinner hmiddle, ?_⟩
      omega
termination_by brackets.length
decreasing_by
  · exact Nat.lt_succ_self rest.length
  · exact Nat.lt_succ_of_lt hshorter

/-- An opening bracket with no surplus behind it is left. -/
theorem mem_leftOpen_append {bracket : PlacedBracket} {after : List PlacedBracket}
    (hkind : bracket.kind = .opening) (hafter : surplus after = 0) (before : List PlacedBracket) :
    bracket ∈ leftOpen (before ++ bracket :: after) := by
  induction before with
  | nil => simp [leftOpen, hkind, hafter]
  | cons first rest ih =>
    rw [List.cons_append, leftOpen]
    split
    · exact List.mem_cons_of_mem _ ih
    · exact ih

/-- Balanced brackets do not end with an opening bracket and balanced ones behind it. -/
theorem not_balanced_append_cons {fits fits' : Char → Char → Prop} {opening : PlacedBracket}
    {before after : List PlacedBracket} (hopening : opening.kind = .opening)
    (hafter : Balanced fits after) : ¬ Balanced fits' (before ++ opening :: after) := by
  intro h
  have hnone : leftOpen (before ++ opening :: after) = [] := by
    simpa [leftOpen] using (h.append []).2
  have hzero : surplus after = 0 := by
    simpa [surplus] using (hafter.append []).1
  have hmem := mem_leftOpen_append hopening hzero before
  rw [hnone] at hmem
  cases hmem

/-- The partner of a closing bracket is the only opening bracket with balanced ones in between. -/
theorem eq_of_balanced {fits fits' : Char → Char → Prop} {opening opening' : PlacedBracket}
    {front front' inner inner' : List PlacedBracket}
    (h : front ++ opening :: inner = front' ++ opening' :: inner')
    (hopening : opening.kind = .opening) (hopening' : opening'.kind = .opening)
    (hinner : Balanced fits inner) (hinner' : Balanced fits' inner') :
    opening = opening' ∧ inner = inner' := by
  rcases List.append_eq_append_iff.1 h with ⟨more, -, hmore⟩ | ⟨more, -, hmore⟩
  · cases more with
    | nil => exact List.cons.inj hmore
    | cons first more =>
      obtain ⟨-, rfl⟩ := List.cons.inj hmore
      exact absurd hinner (not_balanced_append_cons hopening' hinner')
  · cases more with
    | nil => exact (List.cons.inj hmore).imp Eq.symm Eq.symm
    | cons first more =>
      obtain ⟨-, rfl⟩ := List.cons.inj hmore
      exact absurd hinner' (not_balanced_append_cons hopening hinner)

/-- Where all closing brackets fit their partners, a bracket is closed if and only if there is a
surplus of closing brackets behind it. -/
theorem ClosingsMatch.closedIn_iff {fits : Char → Char → Prop} {brackets : List PlacedBracket}
    (hmatch : ClosingsMatch fits brackets) {before after : List PlacedBracket}
    {opening : PlacedBracket} (hbrackets : brackets = before ++ opening :: after)
    (hopening : opening.kind = .opening) : ClosedIn fits opening after ↔ surplus after ≠ 0 := by
  constructor
  · rintro ⟨inner, closing, rest, rfl, hclosing, -, hinner⟩
    rw [(hinner.append _).1, surplus_cons_of_closing hclosing]
    exact Nat.succ_ne_zero _
  · intro hsurplus
    obtain ⟨inner, closing, rest, rfl, hclosing, hinner, -⟩ := exists_of_surplus_ne_zero hsurplus
    have hshape : brackets = (before ++ opening :: inner) ++ closing :: rest := by
      simp [hbrackets]
    obtain ⟨front, opening', inner', hfront, hopening', hfits, hinner'⟩ :=
      hmatch _ closing rest hshape hclosing
    obtain ⟨rfl, rfl⟩ := eq_of_balanced hfront hopening hopening' hinner hinner'
    exact ⟨inner, closing, rest, rfl, hclosing, hfits, hinner'⟩

/-- The first bracket that is left is the first one with no surplus behind it. -/
theorem head?_leftOpen_eq_some_iff {brackets : List PlacedBracket} {bracket : PlacedBracket} :
    (leftOpen brackets).head? = some bracket ↔
      IsFirst (fun bracket after ↦ bracket.kind = .opening ∧ surplus after = 0) brackets
        bracket := by
  induction brackets with
  | nil => exact iff_of_false (by simp [leftOpen]) not_isFirst_nil
  | cons first rest ih =>
    rw [leftOpen, isFirst_cons_iff]
    split
    · next hfirst => simp [hfirst]
    · next hfirst => rw [ih, and_iff_right hfirst, or_iff_right fun h ↦ hfirst h.1]

/-- Where closings match, a bracket is never closed when no surplus of closings follows it. -/
theorem ClosingsMatch.unclosed_iff {fits : Char → Char → Prop} {brackets : List PlacedBracket}
    (hmatch : ClosingsMatch fits brackets) (before : List PlacedBracket) (bracket : PlacedBracket)
    (after : List PlacedBracket) (hbrackets : brackets = before ++ bracket :: after) :
    bracket.kind = .opening ∧ surplus after = 0 ↔ Unclosed fits bracket after := by
  apply and_congr_right
  intro hopening
  rw [hmatch.closedIn_iff hbrackets hopening, not_not]

/-- The outermost bracket left open is the first one that is never closed. -/
theorem ClosingsMatch.head?_leftOpen_eq_some_iff {fits : Char → Char → Prop}
    {brackets : List PlacedBracket} (hmatch : ClosingsMatch fits brackets)
    {bracket : PlacedBracket} :
    (leftOpen brackets).head? = some bracket ↔ IsFirst (Unclosed fits) brackets bracket := by
  rw [Source.head?_leftOpen_eq_some_iff, isFirst_congr hmatch.unclosed_iff]

/-- No bracket is left if and only if each one is closed. -/
theorem ClosingsMatch.head?_leftOpen_eq_none_iff {fits : Char → Char → Prop}
    {brackets : List PlacedBracket} (hmatch : ClosingsMatch fits brackets) :
    (leftOpen brackets).head? = none ↔
      ∀ before bracket after, brackets = before ++ bracket :: after →
        ¬ Unclosed fits bracket after := by
  constructor
  · intro hnone before bracket after hsplit hunclosed
    obtain ⟨hopening, hzero⟩ := (hmatch.unclosed_iff before bracket after hsplit).2 hunclosed
    have hmem := mem_leftOpen_append hopening hzero before
    rw [← hsplit, List.head?_eq_none_iff.1 hnone] at hmem
    cases hmem
  · intro hclosed
    cases hhead : (leftOpen brackets).head? with
    | none => rfl
    | some bracket =>
      obtain ⟨before, after, hsplit, hunclosed, -⟩ := hmatch.head?_leftOpen_eq_some_iff.1 hhead
      exact absurd hunclosed (hclosed before bracket after hsplit)

end CallCompletion.Source
