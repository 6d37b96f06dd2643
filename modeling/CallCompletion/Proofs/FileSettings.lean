import CallCompletion.Proofs.TableEntries
import CallCompletion.Settings

/-!
# What a settings file can hold

A settings file has no spelling for null and names nothing twice in one table. Whatever is read
from one is a value without null in which every table, at any depth, holds each of its names once,
whether the table was written as one value or put together under headings.
-/

namespace CallCompletion.Data

/-- A value that a settings file can hold: nothing in it is null, and every table in it holds each
of its names once. -/
inductive Value.IsSetting : Value → Prop
  | bool (b : Bool) : IsSetting (.bool b)
  | integer (n : Int) : IsSetting (.integer n)
  | real (x : Numeral.Binary64) : IsSetting (.real x)
  | text (s : String) : IsSetting (.text s)
  | moment (m : Moment) : IsSetting (.moment m)
  | list {items : List Value} : (∀ v ∈ items, v.IsSetting) → IsSetting (.list items)
  | table {entries : Table Value} :
    entries.names.Nodup → (∀ e ∈ entries, e.2.IsSetting) → IsSetting (.table entries)

namespace Value.IsSetting

theorem ne_null {v : Value} (h : v.IsSetting) : v ≠ .null := by
  rintro rfl
  cases h

theorem empty : (Value.table []).IsSetting :=
  .table (by simp [Table.names]) (by simp)

theorem nodup {entries : Table Value} (h : (Value.table entries).IsSetting) :
    entries.names.Nodup := by
  cases h with
  | table hnames _ => exact hnames

theorem nodup_entries {v : Value} (h : v.IsSetting) : v.entries.names.Nodup := by
  cases h with
  | table hnames _ => exact hnames
  | _ => exact List.nodup_nil

theorem of_mem {entries : Table Value} (h : (Value.table entries).IsSetting) {e : String × Value}
    (he : e ∈ entries) : e.2.IsSetting := by
  cases h with
  | table _ hentries => exact hentries e he

theorem of_get? {entries : Table Value} (h : (Value.table entries).IsSetting) {name : String}
    {v : Value} (hv : entries.get? name = some v) : v.IsSetting :=
  h.of_mem (Table.mem_of_get? hv)

theorem of_mem_items {items : List Value} (h : (Value.list items).IsSetting) {v : Value}
    (hv : v ∈ items) : v.IsSetting := by
  cases h with
  | list hitems => exact hitems v hv

/-- What is entered under a name that is known takes the place of what was there. -/
theorem insert {t : Table Value} (h : (Value.table t).IsSetting) {v : Value} (hv : v.IsSetting)
    (name : String) : (Value.table (t.insert name v)).IsSetting := by
  refine .table (Table.nodup_names_insert h.nodup name v) ?_
  intro e he
  rcases Table.mem_insert he with hmem | hvalue
  · exact h.of_mem hmem
  · rw [hvalue]
    exact hv

theorem append_item {items : List Value} (h : ∀ v ∈ items, v.IsSetting) {v : Value}
    (hv : v.IsSetting) : (Value.list (items ++ [v])).IsSetting := by
  refine .list fun w hw ↦ ?_
  rcases List.mem_append.1 hw with hmem | hlast
  · exact h w hmem
  · rw [List.mem_singleton.1 hlast]
    exact hv

end Value.IsSetting

namespace Toml

/-! ## Tables at paths -/

/-- A change of a table that leaves it one of a settings file. -/
def KeepsSettings (change : Table Value → Option (Table Value)) : Prop :=
  ∀ {t t' : Table Value}, change t = some t' →
    (Value.table t).IsSetting → (Value.table t').IsSetting

theorem keepsSettings_some : KeepsSettings some := by
  intro t t' h ht
  cases h
  exact ht

theorem keepsSettings_enter {v : Value} (hv : v.IsSetting) (name : String) :
    KeepsSettings (enter name v) := by
  intro t t' h ht
  unfold enter at h
  split at h
  · cases h
  · cases h
    exact ht.insert hv name

theorem keepsSettings_addTable (name : String) : KeepsSettings (addTable name) := by
  intro t t' h ht
  unfold addTable at h
  split at h
  · cases h
    exact ht.insert (.list (by simpa using .empty)) name
  · next items hitems =>
    cases h
    exact ht.insert (.append_item (fun v ↦ (ht.of_get? hitems).of_mem_items) .empty) name
  · cases h

/-- A change that keeps tables well-formed does so at every path. -/
theorem keepsSettings_changeAt {change : Table Value → Option (Table Value)}
    (hchange : KeepsSettings change) (throughLists : Bool) (path : Path) :
    KeepsSettings (changeAt throughLists change path) := by
  induction path with
  | nil => exact hchange
  | cons name rest ih =>
    intro t t' h ht
    rw [changeAt] at h
    split at h
    · obtain ⟨inner, hinner, rfl⟩ := Option.map_eq_some_iff.1 h
      exact ht.insert (ih hinner .empty) name
    · next table htable =>
      obtain ⟨inner, hinner, rfl⟩ := Option.map_eq_some_iff.1 h
      exact ht.insert (ih hinner (ht.of_get? htable)) name
    · next items hitems =>
      have hsetting := ht.of_get? hitems
      split at h
      · next last hlast =>
        obtain ⟨inner, hinner, rfl⟩ := Option.map_eq_some_iff.1 h
        have hchanged := ih hinner (hsetting.of_mem_items (List.mem_of_getLast? hlast))
        have hbefore : ∀ v ∈ items.dropLast, v.IsSetting :=
          fun v hv ↦ hsetting.of_mem_items (List.dropLast_subset items hv)
        exact ht.insert (.append_item hbefore hchanged) name
      · cases h
    · cases h

/-! ## Values -/

theorem isSetting_of_readBased {cs rest : List Char} {v : Value}
    (h : readBased cs = some (v, rest)) : v.IsSetting := by
  unfold readBased at h
  split at h
  case h_4 => cases h
  all_goals
    obtain ⟨⟨digits, more⟩, -, heq⟩ := Option.map_eq_some_iff.1 h
    cases heq
    exact .integer _

theorem isSetting_of_decimalOf {negative : Bool} {whole : List Char} {fraction : Option (List Char)}
    {exponent : Option Int} {v : Value} (h : decimalOf negative whole fraction exponent = .ok v) :
    v.IsSetting := by
  simp only [decimalOf] at h
  split at h
  · split at h
    · cases h
    · cases h
      exact .integer _
  · cases h
    exact .real _

theorem isSetting_of_readDecimal {cs rest : List Char} {v : Value}
    (h : readDecimal cs = some (.ok (v, rest))) : v.IsSetting := by
  unfold readDecimal at h
  obtain ⟨⟨whole, more⟩, -, h⟩ := Option.bind_eq_some_iff.1 h
  obtain ⟨value, hvalue, heq⟩ := Fault.map_eq_ok_iff.1 (Option.some.inj h)
  cases heq
  exact isSetting_of_decimalOf hvalue

theorem isSetting_of_readWord {cs rest : List Char} {v : Value}
    (h : readWord cs = some (v, rest)) : v.IsSetting := by
  obtain ⟨word, hword, heq⟩ := Option.map_eq_some_iff.1 h
  cases heq
  have hmem := List.mem_of_find?_eq_some hword
  simp only [words, List.mem_cons, List.not_mem_nil, or_false] at hmem
  rcases hmem with rfl | rfl | rfl | rfl | rfl | rfl | rfl | rfl <;> constructor

/-- Dates, times, numbers and words hold no table. -/
theorem isSetting_of_readPlain {cs rest : List Char} {v : Value}
    (h : readPlain cs = .ok (v, rest)) : v.IsSetting := by
  unfold readPlain at h
  split at h
  · split at h
    · cases h
    · split at h <;> cases h <;> exact .moment _
  · have hreading := (Option.getD_eq_iff.1 h).resolve_right (by simp)
    simp only [Option.orElse_eq_orElse, Option.orElse_eq_or, Option.or_eq_some_iff,
      Option.map_eq_some_iff, Except.ok.injEq, exists_eq_right] at hreading
    rcases hreading with (⟨⟨time, more⟩, -, heq⟩ | ⟨-, hbased⟩) | ⟨-, hdecimal | ⟨-, hword⟩⟩
    · cases heq
      exact .moment _
    · exact isSetting_of_readBased hbased
    · exact isSetting_of_readDecimal hdecimal
    · exact isSetting_of_readWord hword

theorem Inline.isSetting_of_enter {t t' : Inline} {path : Path} {v : Value}
    (h : t.enter path v = some t') (ht : (Value.table t.table).IsSetting) (hv : v.IsSetting) :
    (Value.table t'.table).IsSetting := by
  unfold Inline.enter at h
  split at h
  · cases h
  · obtain ⟨⟨parent, name⟩, -, h⟩ := Option.bind_eq_some_iff.1 h
    obtain ⟨table, htable, h⟩ := Option.bind_eq_some_iff.1 h
    have hsetting := keepsSettings_changeAt (keepsSettings_enter hv name) false parent htable ht
    split at h <;> cases h <;> exact hsetting

/-- Values, items and tables written as one value, by the number of values that there can be. -/
theorem isSetting_of_readValue (bound : Nat) :
    (∀ cs rest v, readValue bound cs = .ok (v, rest) → v.IsSetting) ∧
    (∀ cs rest items, readItems bound cs = .ok (items, rest) → ∀ v ∈ items, v.IsSetting) ∧
    ∀ t cs rest t', readInline bound t cs = .ok (t', rest) →
      (Value.table t.table).IsSetting → (Value.table t').IsSetting := by
  induction bound with
  | zero =>
    refine ⟨?_, ?_, ?_⟩
    · intro cs rest v h
      cases h
    · intro cs rest items h
      cases h
    · intro t cs rest t' h
      cases h
  | succ bound ih =>
    obtain ⟨hvalue, hitems, hinline⟩ := ih
    refine ⟨?_, ?_, ?_⟩
    · intro cs rest v h
      unfold readValue at h
      split at h
      · obtain ⟨_, -, h⟩ := Fault.bind_eq_ok_iff.1 h
        obtain ⟨⟨items, more⟩, hread, h⟩ := Fault.bind_eq_ok_iff.1 h
        cases h
        exact .list (hitems _ _ _ hread)
      · split at h
        · cases h
          exact .empty
        · obtain ⟨⟨t, more⟩, hread, heq⟩ := Fault.map_eq_ok_iff.1 h
          cases heq
          exact hinline _ _ _ _ hread .empty
      · obtain ⟨⟨s, more⟩, -, heq⟩ := Fault.map_eq_ok_iff.1 h
        cases heq
        exact .text s
      · obtain ⟨⟨s, more⟩, -, heq⟩ := Fault.map_eq_ok_iff.1 h
        cases heq
        exact .text s
      · exact isSetting_of_readPlain h
    · intro cs rest items h
      unfold readItems at h
      split at h
      · cases h
        simp
      · obtain ⟨⟨v, more⟩, hread, h⟩ := Fault.bind_eq_ok_iff.1 h
        obtain ⟨more, -, h⟩ := Fault.bind_eq_ok_iff.1 h
        split at h
        · cases h
          simpa using hvalue _ _ _ hread
        · obtain ⟨more, -, h⟩ := Fault.bind_eq_ok_iff.1 h
          obtain ⟨⟨others, more⟩, hothers, h⟩ := Fault.bind_eq_ok_iff.1 h
          cases h
          exact List.forall_mem_cons.2 ⟨hvalue _ _ _ hread, hitems _ _ _ hothers⟩
        · cases h
    · intro t cs rest t' h ht
      unfold readInline at h
      obtain ⟨⟨path, more⟩, -, h⟩ := Fault.bind_eq_ok_iff.1 h
      dsimp only at h
      split at h
      · obtain ⟨⟨v, more⟩, hread, h⟩ := Fault.bind_eq_ok_iff.1 h
        obtain ⟨entered, henter, h⟩ := Fault.bind_eq_ok_iff.1 h
        have hentered :=
          Inline.isSetting_of_enter (orMalformed_eq_ok_iff.1 henter) ht (hvalue _ _ _ hread)
        split at h
        · cases h
          exact hentered
        · exact hinline _ _ _ _ h hentered
        · cases h
      · cases h

/-! ## Documents -/

namespace Document

/-- What has been read of a document so far can stand in a settings file. -/
def IsSetting (d : Document) : Prop := (Value.table d.table).IsSetting

theorem IsSetting.openTable {d d' : Document} {path : Path} (h : d.openTable path = some d')
    (hd : d.IsSetting) : d'.IsSetting := by
  unfold Document.openTable at h
  split at h
  · cases h
  · obtain ⟨table, htable, h⟩ := Option.bind_eq_some_iff.1 h
    cases h
    exact keepsSettings_changeAt keepsSettings_some true path htable hd

theorem IsSetting.openListItem {d d' : Document} {path : Path} (h : d.openListItem path = some d')
    (hd : d.IsSetting) : d'.IsSetting := by
  unfold Document.openListItem at h
  split at h
  · cases h
  · obtain ⟨⟨parent, name⟩, -, h⟩ := Option.bind_eq_some_iff.1 h
    obtain ⟨table, htable, h⟩ := Option.bind_eq_some_iff.1 h
    cases h
    exact keepsSettings_changeAt (keepsSettings_addTable name) true parent htable hd

theorem IsSetting.enterValue {d d' : Document} {path : Path} {v : Value}
    (h : d.enterValue path v = some d') (hd : d.IsSetting) (hv : v.IsSetting) : d'.IsSetting := by
  unfold Document.enterValue at h
  obtain ⟨⟨parent, name⟩, -, h⟩ := Option.bind_eq_some_iff.1 h
  simp only at h
  split at h
  · cases h
  · obtain ⟨table, htable, h⟩ := Option.bind_eq_some_iff.1 h
    cases h
    exact keepsSettings_changeAt (keepsSettings_enter hv name) true _ htable hd

/-- One entry or heading. -/
theorem IsSetting.readStatement {d d' : Document} {cs rest : List Char}
    (h : d.readStatement cs = .ok (d', rest)) (hd : d.IsSetting) : d'.IsSetting := by
  unfold Document.readStatement at h
  split at h
  · obtain ⟨⟨path, more⟩, -, h⟩ := Fault.bind_eq_ok_iff.1 h
    obtain ⟨opened, hopen, h⟩ := Fault.bind_eq_ok_iff.1 h
    have hopened : opened.IsSetting := IsSetting.openListItem (orMalformed_eq_ok_iff.1 hopen) hd
    split at h
    · cases h
      exact hopened
    · cases h
  · obtain ⟨⟨path, more⟩, -, h⟩ := Fault.bind_eq_ok_iff.1 h
    obtain ⟨opened, hopen, h⟩ := Fault.bind_eq_ok_iff.1 h
    have hopened : opened.IsSetting := IsSetting.openTable (orMalformed_eq_ok_iff.1 hopen) hd
    split at h
    · cases h
      exact hopened
    · cases h
  · cases h
    exact hd
  · obtain ⟨⟨path, more⟩, -, h⟩ := Fault.bind_eq_ok_iff.1 h
    dsimp only at h
    split at h
    · obtain ⟨⟨v, more⟩, hread, h⟩ := Fault.bind_eq_ok_iff.1 h
      obtain ⟨entered, henter, h⟩ := Fault.bind_eq_ok_iff.1 h
      cases h
      exact hd.enterValue (orMalformed_eq_ok_iff.1 henter)
        ((isSetting_of_readValue _).1 _ _ _ hread)
    · cases h

/-- All entries and headings, one after another. -/
theorem IsSetting.readFrom {bound : Nat} {d d' : Document} {cs : List Char}
    (h : readFrom bound d cs = .ok d') (hd : d.IsSetting) : d'.IsSetting := by
  induction bound generalizing d cs with
  | zero =>
    cases h
    exact hd
  | succ bound ih =>
    unfold Document.readFrom at h
    split at h
    · cases h
      exact hd
    · exact ih h hd
    · obtain ⟨⟨next, more⟩, hstatement, h⟩ := Fault.bind_eq_ok_iff.1 h
      obtain ⟨more, -, h⟩ := Fault.bind_eq_ok_iff.1 h
      have hnext := hd.readStatement hstatement
      split at h
      · cases h
        exact hnext
      · exact ih h hnext
      · cases h

end Document

/-- Every table that is read is one that a settings file can hold. -/
theorem isSetting_of_read {cs : List Char} {t : Table Value} (h : read cs = .ok t) :
    (Value.table t).IsSetting := by
  obtain ⟨d, hd, rfl⟩ := Fault.map_eq_ok_iff.1 h
  exact Document.IsSetting.readFrom hd .empty

end Toml

end CallCompletion.Data

namespace CallCompletion.Settings

open CallCompletion.Data
open CallCompletion.Files

/-- The section on snippets is made of settings. -/
theorem isSetting_of_loadSection {files : FileStore} {p : Path} {defaults : Table Value}
    (h : loadSection files p = .ok defaults) : (Value.table defaults).IsSetting := by
  obtain ⟨settings, hload, rfl⟩ := Fault.map_eq_ok_iff.1 h
  have hsettings : (Value.table settings).IsSetting := by
    obtain ⟨reading, -, hread⟩ := Fault.bind_eq_ok_iff.1 hload
    cases reading with
    | error refusal =>
      cases hread
      exact .empty
    | ok text =>
      dsimp only at hread
      split at hread
      · rename_i t hparsed
        cases hread
        exact Toml.isSetting_of_read hparsed
      · cases hread
        exact .empty
      · cases hread
  unfold snippetSection
  cases hsection : settings.get? "snippet" with
  | none => exact .empty
  | some v =>
    have hv := hsettings.of_get? hsection
    cases v with
    | table entries => exact hv
    | _ => exact .empty

end CallCompletion.Settings
