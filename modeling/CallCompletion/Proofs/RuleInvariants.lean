import CallCompletion.Source.Grammar.Rule

/-!
# What rules ensure

A property of phrases is kept by a grammar if each of its rules yields only phrases that have it. A
rule can also yield what another rule has yielded at the same place before, so that the property has
to hold of everything that a reading remembers. Here it is shown how such properties pass from
rules to the rules that are made of them. Only the first reading is considered, in which the rules
that look for errors take no part.
-/

namespace CallCompletion.Source

/-- The property of phrases, for what a remembered rule yields. -/
def Yield.Fits (good : Phrase → Prop) : Yield → Prop
  | .phrase p => good p
  | _ => True

/-- All phrases that a reading remembers have the property. -/
def State.Remembers (good : Phrase → Prop) (s : State) : Prop :=
  ∀ (place : Nat) (memories : List Memory), s.memory[place]? = some memories →
    ∀ m ∈ memories, ∀ y after, m.outcome = some (y, after) → y.Fits good

/-- The value that was read, if there is one, is as required, and so is what is remembered. -/
inductive Reply.Fits {α : Type} (good : Phrase → Prop) (post : α → Prop) : Reply α → Prop
  | ok {a : α} {s : State} (ha : post a) (hs : s.Remembers good) : Fits good post (.ok a s)
  | fail {s : State} (hs : s.Remembers good) : Fits good post (.fail s)
  | halt {reason : Halt} : Fits good post (.halt reason)

namespace Rule

/-- A rule that yields only values as required, and remembers only phrases with the property. -/
def Ensures {α : Type} (good : Phrase → Prop) (c : Context) (r : Rule α) (post : α → Prop) : Prop :=
  ∀ s, s.Remembers good → (r c s).Fits good post

namespace Ensures

variable {α β : Type} {good : Phrase → Prop} {c : Context} {r : Rule α} {post : α → Prop}

theorem of_eq_ok (h : r.Ensures good c post) {s s' : State} (hs : s.Remembers good) {a : α}
    (hread : r c s = .ok a s') : post a := by
  have hreply := h s hs
  rw [hread] at hreply
  cases hreply with
  | ok ha _ => exact ha

theorem mono (h : r.Ensures good c post) {weaker : α → Prop} (himp : ∀ a, post a → weaker a) :
    r.Ensures good c weaker := by
  intro s hs
  have hreply := h s hs
  generalize r c s = reply at hreply ⊢
  cases hreply with
  | ok ha hs => exact .ok (himp _ ha) hs
  | fail hs => exact .fail hs
  | halt => exact .halt

/-- What is known of the values of a rule from elsewhere can be required too. -/
theorem and (h : r.Ensures good c post) {more : α → Prop}
    (hmore : ∀ s a s', r c s = .ok a s' → more a) : r.Ensures good c fun a ↦ post a ∧ more a := by
  intro s hs
  have hreply := h s hs
  cases hr : r c s with
  | ok a s' =>
    rw [hr] at hreply
    cases hreply with
    | ok ha hs => exact .ok ⟨ha, hmore s a s' hr⟩ hs
  | fail s' =>
    rw [hr] at hreply
    cases hreply with
    | fail hs => exact .fail hs
  | halt reason => exact .halt

theorem pure {a : α} (h : post a) : (Pure.pure a : Rule α).Ensures good c post :=
  fun _ hs ↦ .ok h hs

theorem fail : (Rule.fail : Rule α).Ensures good c post :=
  fun _ hs ↦ .fail hs

theorem errorAt (line : Nat) : (Rule.errorAt line : Rule α).Ensures good c post :=
  fun _ _ ↦ .halt

theorem errorHere : (Rule.errorHere : Rule α).Ensures good c post :=
  fun _ _ ↦ .halt

/-! ## One rule after another, or instead of another -/

/-- A rule in sequence may use what the rule before it ensures. -/
theorem bind {f : α → Rule β} {next : β → Prop} (hr : r.Ensures good c post)
    (hf : ∀ a, post a → (f a).Ensures good c next) : (r >>= f).Ensures good c next := by
  intro s hs
  have hreply := hr s hs
  change (andThen r f c s).Fits good next
  unfold andThen
  generalize r c s = reply at hreply ⊢
  cases hreply with
  | ok ha hs => exact hf _ ha _ hs
  | fail hs => exact .fail hs
  | halt => exact .halt

theorem orElse {other : Rule α} (hr : r.Ensures good c post) (hother : other.Ensures good c post) :
    (r <|> other).Ensures good c post := by
  intro s hs
  have hreply := hr s hs
  change (Rule.orElse r (fun _ ↦ other) c s).Fits good post
  unfold Rule.orElse
  generalize r c s = reply at hreply ⊢
  cases hreply with
  | ok ha hs => exact .ok ha hs
  | fail hs => exact hother _ hs
  | halt => exact .halt

theorem optional (hr : r.Ensures good c post) :
    (Rule.optional r).Ensures good c fun found ↦ ∀ a ∈ found, post a := by
  intro s hs
  have hreply := hr s hs
  unfold Rule.optional
  generalize r c s = reply at hreply ⊢
  cases hreply with
  | ok ha hs => exact .ok (fun b hb ↦ Option.mem_some_iff.1 hb ▸ ha) hs
  | fail hs => exact .ok (fun _ hb ↦ nomatch hb) hs
  | halt => exact .halt

theorem settle {tail : α → Rule β} {other : Rule β} {next : β → Prop} (hr : r.Ensures good c post)
    (htail : ∀ a, post a → (tail a).Ensures good c next) (hother : other.Ensures good c next) :
    (Rule.settle r tail other).Ensures good c next := by
  intro s hs
  have hreply := hr s hs
  unfold Rule.settle
  generalize r c s = reply at hreply ⊢
  cases hreply with
  | ok ha hs => exact htail _ ha _ hs
  | fail hs => exact hother _ hs
  | halt => exact .halt

theorem ahead (hr : r.Ensures good c post) :
    (Rule.ahead r).Ensures good c fun _ ↦ True := by
  intro s hs
  have hreply := hr s hs
  unfold Rule.ahead
  generalize r c s = reply at hreply ⊢
  cases hreply with
  | ok _ hs => exact .ok trivial hs
  | fail hs => exact .fail hs
  | halt => exact .halt

theorem notAhead (hr : r.Ensures good c post) :
    (Rule.notAhead r).Ensures good c fun _ ↦ True := by
  intro s hs
  have hreply := hr s hs
  unfold Rule.notAhead
  generalize r c s = reply at hreply ⊢
  cases hreply with
  | ok _ hs => exact .fail hs
  | fail hs => exact .ok trivial hs
  | halt => exact .halt

/-! ## Repetitions -/

/-- Each of several matches satisfies what one match does. -/
theorem manyUpTo (hr : r.Ensures good c post) (n : Nat) :
    (Rule.manyUpTo r n).Ensures good c fun l ↦ ∀ a ∈ l, post a := by
  induction n with
  | zero => exact fun _ hs ↦ .ok (fun _ ha ↦ absurd ha List.not_mem_nil) hs
  | succ n ih =>
    intro s hs
    have hreply := hr s hs
    unfold Rule.manyUpTo
    generalize r c s = reply at hreply ⊢
    cases hreply with
    | ok ha hs =>
      dsimp only
      split
      · exact .ok (fun _ hb ↦ absurd hb List.not_mem_nil) hs
      · have hmore := ih _ hs
        generalize Rule.manyUpTo r n c _ = reply at hmore ⊢
        cases hmore with
        | ok hrest hs => exact .ok (List.forall_mem_cons.2 ⟨ha, hrest⟩) hs
        | fail hs => exact .fail hs
        | halt => exact .halt
    | fail hs => exact .ok (fun _ hb ↦ absurd hb List.not_mem_nil) hs
    | halt => exact .halt

theorem many (hr : r.Ensures good c post) :
    (Rule.many r).Ensures good c fun l ↦ ∀ a ∈ l, post a :=
  hr.manyUpTo _

theorem many1 (hr : r.Ensures good c post) :
    (Rule.many1 r).Ensures good c fun l ↦ ∀ a ∈ l, post a :=
  hr.bind fun _ ha ↦ hr.many.bind fun _ hrest ↦ .pure (List.forall_mem_cons.2 ⟨ha, hrest⟩)

theorem sepBy1 {separator : Rule β} {between : β → Prop} (hr : r.Ensures good c post)
    (hseparator : separator.Ensures good c between) :
    (Rule.sepBy1 r separator).Ensures good c fun l ↦ ∀ a ∈ l, post a :=
  hr.bind fun _ ha ↦ (hseparator.bind fun _ _ ↦ hr).many.bind fun _ hrest ↦
    .pure (List.forall_mem_cons.2 ⟨ha, hrest⟩)

/-! ## Tokens -/

theorem current : Rule.current.Ensures good c fun _ ↦ True := by
  intro s hs
  unfold Rule.current
  split
  · refine .ok trivial ?_
    split <;> exact hs
  · split
    · exact .halt
    · exact .ok trivial hs

theorem accept (test : Token → Bool) : (Rule.accept test).Ensures good c fun _ ↦ True := by
  intro s hs
  have hreply := Ensures.current (c := c) s hs
  unfold Rule.accept
  generalize Rule.current c s = reply at hreply ⊢
  cases hreply with
  | ok _ hs =>
    dsimp only
    split
    · exact .ok trivial hs
    · exact .fail hs
  | fail hs => exact .fail hs
  | halt => exact .halt

/-- A token changes nothing of what the rest ensures. -/
theorem token {test : Token → Bool} {f : Token → Rule α} (hf : ∀ t, (f t).Ensures good c post) :
    (Rule.accept test >>= f).Ensures good c post :=
  (accept test).bind fun t _ ↦ hf t

theorem line : Rule.line.Ensures good c fun _ ↦ True :=
  current.bind fun _ _ ↦ .pure trivial

/-! ## Errors and memory -/

/-- A rule that looks for errors never matches. -/
theorem diagnose (hquiet : c.diagnosing = false) (r : Rule Unit) :
    (Rule.diagnose r : Rule α).Ensures good c post := by
  intro s hs
  simp only [Rule.diagnose, hquiet, Bool.false_eq_true, if_false]
  exact .fail hs

theorem remembers_remember {s : State} (hs : s.Remembers good) (place : Nat) (name : RuleName)
    {outcome : Option (Yield × Nat)} (h : ∀ y after, outcome = some (y, after) → y.Fits good) :
    (remember s place name outcome).Remembers good := by
  intro other memories hget m hm y after hy
  rw [remember, Array.getElem?_modify] at hget
  split at hget
  · obtain ⟨earlier, hearlier, rfl⟩ := Option.map_eq_some_iff.1 hget
    rcases List.mem_cons.1 hm with rfl | hm
    · exact h y after hy
    · exact hs _ earlier hearlier m hm y after hy
  · exact hs other memories hget m hm y after hy

theorem fits_of_remembered {s : State} (hs : s.Remembers good) {name : RuleName} {y : Yield}
    {after : Nat} (h : remembered s name = some (some (y, after))) : y.Fits good := by
  unfold remembered at h
  split at h
  · next memories hget =>
    obtain ⟨m, hfound, houtcome⟩ := Option.map_eq_some_iff.1 h
    exact hs _ memories hget m (List.mem_of_find?_eq_some hfound) y after houtcome
  · cases h

/-- Remembering keeps what a rule ensures, since only fitting outcomes are remembered. -/
theorem memoize {wrap : α → Yield} {unwrap : Yield → Option α} (name : RuleName)
    (hwrap : ∀ a, post a → (wrap a).Fits good)
    (hunwrap : ∀ y a, y.Fits good → unwrap y = some a → post a) (hr : r.Ensures good c post) :
    (Rule.memoize name wrap unwrap r).Ensures good c post := by
  intro s hs
  unfold Rule.memoize
  split
  · exact .fail hs
  · next y after hy =>
    split
    · next a ha => exact .ok (hunwrap y a (fits_of_remembered hs hy) ha) hs
    · exact .fail hs
  · have hreply := hr s hs
    generalize r c s = reply at hreply ⊢
    cases hreply with
    | ok ha hs =>
      refine .ok ha (remembers_remember hs _ name ?_)
      rintro _ _ ⟨⟩
      exact hwrap _ ha
    | @fail s' hs =>
      have hmemory : (remember s' s.position name none).Remembers good :=
        remembers_remember hs _ name fun _ _ h ↦ nomatch h
      exact .fail hmemory
    | halt => exact .halt

theorem memoPhrase {r : Rule Phrase} (name : RuleName) (hr : r.Ensures good c good) :
    (Rule.memoPhrase name r).Ensures good c good := by
  apply memoize name (fun _ hp ↦ hp) _ hr
  intro y p hy hp
  cases y with
  | phrase q =>
    cases hp
    exact hy
  | arguments | statement | statements | unit => cases hp

end Ensures

end Rule

end CallCompletion.Source
