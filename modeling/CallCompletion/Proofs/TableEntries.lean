import CallCompletion.Table
import Mathlib.Data.List.Basic
import Mathlib.Data.List.Induction

/-!
# Entries of tables

A table that is filled entry by entry holds each name once, at the place where it was entered first
and with the value that was entered last.
-/

namespace CallCompletion

theorem nodup_firstOfEach_id (l : List String) : (firstOfEach id l).Nodup := by
  induction l with
  | nil => exact List.nodup_nil
  | cons a rest ih =>
    rw [firstOfEach, List.nodup_cons]
    exact ⟨by simp, ih.filter _⟩

theorem firstOfEach_id_filter (p : String → Bool) (l : List String) :
    firstOfEach id (l.filter p) = (firstOfEach id l).filter p := by
  induction l with
  | nil => rfl
  | cons a rest ih =>
    rw [firstOfEach, List.filter_cons, List.filter_cons, List.filter_comm]
    by_cases ha : p a = true
    · rw [if_pos ha, if_pos ha, firstOfEach, ih]
    · -- What bears the name `a` is dropped in any case.
      have hkeep : ∀ b ∈ (firstOfEach id rest).filter p, (b != a) = true := by
        intro b hb
        have hne : b ≠ a := by
          rintro rfl
          exact ha (List.mem_filter.1 hb).2
        exact bne_iff_ne.2 hne
      rw [if_neg ha, if_neg ha, ih]
      exact (List.filter_eq_self.2 hkeep).symm

theorem firstOfEach_id_append_singleton (l : List String) (k : String) :
    firstOfEach id (l ++ [k]) = if k ∈ l then firstOfEach id l else firstOfEach id l ++ [k] := by
  induction l with
  | nil => rfl
  | cons a rest ih =>
    rw [List.cons_append, firstOfEach, ih, firstOfEach]
    by_cases ha : k = a
    · subst ha
      by_cases hmem : k ∈ rest <;> simp [hmem]
    · by_cases hmem : k ∈ rest <;> simp [ha, hmem]

/-! ## Tables by their names -/

theorem lookup_map_snd {α β : Type} (g : α → β) (l : List (String × α)) (name : String) :
    (l.map fun e ↦ (e.1, g e.2)).lookup name = (l.lookup name).map g := by
  induction l with
  | nil => rfl
  | cons e rest ih =>
    obtain ⟨n, v⟩ := e
    rw [List.map_cons, List.lookup_cons, List.lookup_cons, ih]
    cases name == n <;> rfl

namespace Table

variable {α : Type}

/-- The table of the names of a list that have a value, in the order of the list. -/
def ofNames (names : List String) (value : String → Option α) : Table α :=
  names.filterMap fun name ↦ (value name).map (name, ·)

theorem eq_ofNames {t : Table α} (h : t.names.Nodup) : t = ofNames t.names t.get? := by
  induction t with
  | nil => rfl
  | cons e rest ih =>
    obtain ⟨n, v⟩ := e
    obtain ⟨hnot, hrest⟩ := List.nodup_cons.1 h
    have hlater : ofNames (names rest) (get? ((n, v) :: rest)) =
        ofNames (names rest) (get? rest) := by
      apply List.filterMap_congr
      intro name hname
      have hne : (name == n) = false := by
        apply beq_false_of_ne
        rintro rfl
        exact hnot hname
      simp [get?, List.lookup_cons, hne]
    calc (n, v) :: rest
        = (n, v) :: ofNames (names rest) (get? rest) := by rw [← ih hrest]
      _ = (n, v) :: ofNames (names rest) (get? ((n, v) :: rest)) := by rw [hlater]
      _ = ofNames (names ((n, v) :: rest)) (get? ((n, v) :: rest)) :=
        (List.filterMap_cons_some (by simp [get?])).symm

theorem names_insert (t : Table α) (name : String) (value : α) :
    (t.insert name value).names = if name ∈ t.names then t.names else t.names ++ [name] := by
  induction t with
  | nil => simp [insert, names]
  | cons e rest ih =>
    obtain ⟨n, v⟩ := e
    rw [insert]
    by_cases hn : n = name
    · simp [names, hn]
    · have hrest : names (insert rest name value) =
          if name ∈ names rest then names rest else names rest ++ [name] := ih
      by_cases hmem : name ∈ names rest
      · simp_all [names]
      · simp_all [names, Ne.symm hn]

/-- Of two values entered under one name the later one counts. -/
theorem insert_insert (t : Table α) (name : String) (value later : α) :
    (t.insert name value).insert name later = t.insert name later := by
  induction t with
  | nil => simp [insert]
  | cons e rest ih =>
    obtain ⟨n, v⟩ := e
    by_cases hn : n = name
    · simp [insert, hn]
    · simp [insert, hn, ih]

theorem map_insert {β : Type} (g : α → β) (t : Table α) (name : String) (value : α) :
    (t.insert name value).map (fun e ↦ (e.1, g e.2)) =
      Table.insert (t.map fun e ↦ (e.1, g e.2)) name (g value) := by
  induction t with
  | nil => rfl
  | cons e rest ih =>
    obtain ⟨n, v⟩ := e
    by_cases hn : n = name
    · simp [insert, hn]
    · simpa [insert, hn] using ih

theorem insert_of_not_mem {t : Table α} {name : String} (value : α) (h : name ∉ t.names) :
    t.insert name value = t ++ [(name, value)] := by
  induction t with
  | nil => rfl
  | cons e rest ih =>
    have hne : name ≠ e.1 := List.ne_of_not_mem_cons h
    have hrest : name ∉ names rest := List.not_mem_of_not_mem_cons h
    rw [insert, if_neg hne.symm, ih hrest, List.cons_append]

theorem ofEntries_append_singleton (entries : List (String × α)) (e : String × α) :
    ofEntries (entries ++ [e]) = (ofEntries entries).insert e.1 e.2 := by
  simp [ofEntries, update]

/-- Laying entries over a table is entering them after it. -/
theorem update_ofEntries (entries more : List (String × α)) :
    (ofEntries entries).update more = ofEntries (entries ++ more) := by
  rw [ofEntries, ofEntries, update, update, update, List.foldl_append]

theorem names_ofEntries (entries : List (String × α)) :
    (ofEntries entries).names = firstOfEach id (entries.map Prod.fst) := by
  induction entries using List.reverseRecOn with
  | nil => rfl
  | append_singleton entries e ih =>
    rw [ofEntries_append_singleton, names_insert, List.map_append, List.map_singleton,
      firstOfEach_id_append_singleton, ih]
    simp only [mem_firstOfEach_id]

/-- The last entry of a name counts. -/
theorem get?_ofEntries (entries : List (String × α)) (name : String) :
    (ofEntries entries).get? name = entries.reverse.lookup name := by
  induction entries using List.reverseRecOn with
  | nil => rfl
  | append_singleton entries e ih =>
    rw [ofEntries_append_singleton, get?_insert, ih, List.reverse_append, List.reverse_singleton,
      List.singleton_append, List.lookup_cons]
    by_cases h : name = e.1
    · rw [if_pos h, beq_iff_eq.2 h]
    · rw [if_neg h, beq_false_of_ne h]

/-- A name stands where it was entered first, with the value that was entered last. -/
theorem ofEntries_eq_ofNames (entries : List (String × α)) :
    ofEntries entries =
      ofNames (firstOfEach id (entries.map Prod.fst)) (entries.reverse.lookup ·) := by
  have hnodup : (ofEntries entries).names.Nodup := by
    rw [names_ofEntries]
    exact nodup_firstOfEach_id _
  rw [eq_ofNames hnodup, names_ofEntries]
  congr 1
  funext name
  exact get?_ofEntries entries name

theorem ofEntries_eq_self {t : Table α} (h : t.names.Nodup) : ofEntries t = t := by
  induction t using List.reverseRecOn with
  | nil => rfl
  | append_singleton t e ih =>
    rw [names, List.map_append, List.nodup_append] at h
    obtain ⟨ht, -, hdisjoint⟩ := h
    rw [ofEntries_append_singleton, ih ht, insert_of_not_mem]
    intro hmem
    exact hdisjoint e.1 hmem e.1 (by simp) rfl

/-- A table over which another one is laid gives the values of the other one first. -/
theorem get?_update (t other : Table α) (name : String) :
    (t.update other).get? name = ((ofEntries other).get? name).or (t.get? name) := by
  induction other using List.reverseRecOn with
  | nil => rfl
  | append_singleton other e ih =>
    have hlast : t.update (other ++ [e]) = (t.update other).insert e.1 e.2 := by
      simp [update]
    rw [hlast, get?_insert, ofEntries_append_singleton, get?_insert, ih]
    by_cases h : name = e.1
    · simp [h]
    · simp [h]

theorem nodup_names_insert {t : Table α} (h : t.names.Nodup) (name : String) (value : α) :
    (t.insert name value).names.Nodup := by
  rw [names_insert]
  split
  · exact h
  · next hnew =>
    rw [List.nodup_append]
    refine ⟨h, by simp, ?_⟩
    rintro a ha b hb rfl
    exact hnew (List.mem_singleton.1 hb ▸ ha)

theorem nodup_names_update {t : Table α} (h : t.names.Nodup) (other : Table α) :
    (t.update other).names.Nodup := by
  induction other generalizing t with
  | nil => exact h
  | cons e other ih => exact ih (nodup_names_insert h e.1 e.2)

theorem mem_insert {t : Table α} {name : String} {value : α} {e : String × α}
    (h : e ∈ t.insert name value) : e ∈ t ∨ e.2 = value := by
  induction t with
  | nil => exact .inr (by rw [List.mem_singleton.1 h])
  | cons first rest ih =>
    rw [insert] at h
    split at h
    · rcases List.mem_cons.1 h with rfl | hrest
      · exact .inr rfl
      · exact .inl (List.mem_cons_of_mem _ hrest)
    · rcases List.mem_cons.1 h with rfl | hrest
      · exact .inl List.mem_cons_self
      · rcases ih hrest with hmem | hvalue
        · exact .inl (List.mem_cons_of_mem _ hmem)
        · exact .inr hvalue

end Table

end CallCompletion
