/-!
# Tables

A table maps names to values and keeps the order in which the names were first entered. Entering a
name again replaces its value in place.
-/

namespace CallCompletion

/-- The first element of each key. -/
def firstOfEach {α : Type} (key : α → String) : List α → List α
  | [] => []
  | a :: rest => a :: (firstOfEach key rest).filter (key · != key a)

theorem find?_filter_key_ne {α : Type} (key : α → String) (l : List α) (k k' : String)
    (h : k ≠ k') :
    (l.filter (key · != k')).find? (key · == k) = l.find? (key · == k) := by
  induction l with
  | nil => rfl
  | cons a rest ih =>
    by_cases ha : key a = k'
    · simp [ha, ih, Ne.symm h]
    · simp only [List.filter_cons, bne_iff_ne, ne_eq, ha, not_false_eq_true, if_true,
        List.find?_cons, ih]

/-- Without the entries of one key, the others are found as before. -/
theorem lookup_filter_key_ne {κ α : Type} [BEq κ] [LawfulBEq κ] [DecidableEq κ]
    (l : List (κ × α)) (k other : κ) :
    (l.filter (·.1 != k)).lookup other = if other = k then none else l.lookup other := by
  induction l with
  | nil => simp
  | cons e rest ih =>
    obtain ⟨n, v⟩ := e
    by_cases hn : n = k
    · subst hn
      by_cases ho : other = n
      · simpa [ho] using ih
      · simpa [ho, List.lookup_cons, beq_false_of_ne ho] using ih
    · by_cases ho : other = n
      · simp [hn, ho]
      · simp [hn, List.lookup_cons, beq_false_of_ne ho, ih]

/-- The element found under a key is the first one that bears it. -/
theorem find?_firstOfEach {α : Type} (key : α → String) (l : List α) (k : String) :
    (firstOfEach key l).find? (key · == k) = l.find? (key · == k) := by
  induction l with
  | nil => rfl
  | cons a rest ih =>
    by_cases ha : key a = k
    · simp [firstOfEach, ha]
    · simp only [firstOfEach, List.find?_cons, beq_false_of_ne ha]
      rw [find?_filter_key_ne key _ k (key a) (Ne.symm ha), ih]

/-- Each key is kept once. -/
theorem filter_firstOfEach {α : Type} (key : α → String) (l : List α) (k : String) :
    (firstOfEach key l).filter (key · == k) = (l.find? (key · == k)).toList := by
  induction l with
  | nil => rfl
  | cons a rest ih =>
    by_cases ha : key a = k
    · -- What is left after `a` bears other keys.
      have hnone : ((firstOfEach key rest).filter (key · != key a)).filter (key · == k) = [] := by
        simp [List.filter_filter, ha]
      simp [firstOfEach, ha, ← hnone]
    · have hsame : ((firstOfEach key rest).filter (key · != key a)).filter (key · == k) =
          (firstOfEach key rest).filter (key · == k) := by
        rw [List.filter_filter]
        congr 1
        funext b
        by_cases hb : key b = k
        · simp [hb, Ne.symm ha]
        · simp [hb]
      rw [firstOfEach, List.filter_cons_of_neg (by simpa using ha), hsame, ih,
        List.find?_cons_of_neg (by simpa using ha)]

theorem mem_firstOfEach_id (l : List String) (k : String) : k ∈ firstOfEach id l ↔ k ∈ l := by
  induction l with
  | nil => rfl
  | cons a rest ih =>
    by_cases ha : k = a
    · simp [firstOfEach, ha]
    · simp [firstOfEach, ha, ih]

/-- A table from names to values, in the order of entry. -/
abbrev Table (α : Type) := List (String × α)

namespace Table

variable {α : Type}

def get? (t : Table α) (name : String) : Option α := t.lookup name

/-- Enters a value; a name that is known keeps its place. -/
def insert : Table α → String → α → Table α
  | [], name, value => [(name, value)]
  | (n, v) :: rest, name, value =>
    if n = name then (n, value) :: rest else (n, v) :: insert rest name value

/-- Enters all values of another table, in its order. -/
def update (t other : Table α) : Table α := other.foldl (fun t e ↦ t.insert e.1 e.2) t

/-- The table of a list of entries, of which the last one of each name counts. -/
def ofEntries (entries : List (String × α)) : Table α := update [] entries

def names (t : Table α) : List String := t.map Prod.fst

theorem mem_of_get? {t : Table α} {name : String} {value : α} (h : t.get? name = some value) :
    (name, value) ∈ t := by
  induction t with
  | nil => simp [get?] at h
  | cons e rest ih =>
    obtain ⟨n, v⟩ := e
    by_cases hn : name = n
    · subst hn
      have hv : v = value := by simpa [get?] using h
      simp [hv]
    · have hrest : get? rest name = some value := by
        simpa [get?, List.lookup_cons, beq_false_of_ne hn] using h
      exact List.mem_cons_of_mem _ (ih hrest)

/-- An entered value is found under its name; all others are as before. -/
theorem get?_insert (t : Table α) (name : String) (value : α) (other : String) :
    (t.insert name value).get? other = if other = name then some value else t.get? other := by
  induction t with
  | nil =>
    by_cases h : other = name
    · simp [insert, get?, h]
    · simp [insert, get?, List.lookup_cons, beq_false_of_ne h, h]
  | cons e rest ih =>
    obtain ⟨n, v⟩ := e
    unfold insert
    by_cases hn : n = name
    · subst hn
      by_cases h : other = n
      · simp [get?, h]
      · simp [get?, List.lookup_cons, beq_false_of_ne h, h]
    · simp only [hn, if_false]
      by_cases h : other = n
      · subst h
        simp [get?, hn]
      · simpa [get?, List.lookup_cons, beq_false_of_ne h] using ih

end Table

end CallCompletion
