import CallCompletion.Proofs.Classification
import CallCompletion.Proofs.FileSettings
import CallCompletion.Request.Record

/-!
# Which settings count

Three layers say how snippets are written: the options of a request, the section of the settings
file and what is built in. A setting is taken from the first layer that has it, and each block
literal is a setting of its own. What the file holds may be of any kind: an entry that is no text
is no literal, a value that is no table has no literals, and whether placeholders are numbered can
be said by truth values, numbers and words. Only a dialect that is not known is a fault.
-/

namespace CallCompletion

theorem Dialect.ofName?_eq_some_iff {s : String} {d : Dialect} :
    ofName? s = some d ↔ d.IsSupported ∧ d.name = s := by
  constructor
  · intro h
    have hmem := List.mem_of_find?_eq_some h
    have hname := List.find?_some h
    simp only [List.mem_cons, List.not_mem_nil, or_false] at hmem
    refine ⟨?_, by simpa using hname⟩
    rcases hmem with rfl | rfl <;> exact fun name ↦ Dialect.noConfusion
  · rintro ⟨hsupported, rfl⟩
    cases d with
    | typescript => rfl
    | python => rfl
    | unsupported name => exact absurd rfl (hsupported name)

namespace Settings

open CallCompletion.Data
open CallCompletion.Files
open CallCompletion.Request
open CallCompletion.Text

/-! ## What each layer says -/

/-- The literal that a request sets for a name; the last one counts. -/
def requestedLiteral? (options : SnippetOptions) (name : String) : Option String :=
  (Table.ofEntries options.specialLiterals).get? name

/-- The literal that a section sets for a name, if it is a text. -/
def sectionLiteral? (defaults : Table Value) (name : String) : Option String :=
  (defaults.get? literalsName).bind fun v ↦ (v.get? name).bind Value.text?

/-- What is said about the dialect, by the request or else by the section. -/
def dialectSetting? (options : SnippetOptions) (defaults : Table Value) : Option Value :=
  (options.dialect.map Value.text).or (defaults.get? "dialect")

/-- A setting that names a dialect, up to the case of its letters and the blanks around it. -/
def NamesDialect (v : Value) (d : Dialect) : Prop :=
  d.IsSupported ∧ d.name = String.ofList (lowerAscii (trim v.shown.toList))

/-- A setting that is not empty and names no dialect. -/
def NamesNoDialect (v : Value) : Prop := v ≠ .text "" ∧ ∀ d, ¬ NamesDialect v d

/-- A setting that turns something on. -/
inductive TurnsOn : Value → Prop
  | bool : TurnsOn (.bool true)
  | integer {n : Int} : n ≠ 0 → TurnsOn (.integer n)
  | text {s : String} :
    String.ofList (lowerAscii (trim s.toList)) ∈ ["1", "true", "yes", "on"] → TurnsOn (.text s)

/-- Each setting is that of the first layer that has it. -/
structure FollowsPrecedence (options : SnippetOptions) (defaults : Table Value) (default : Dialect)
    (config : SnippetConfig) : Prop where
  literal : ∀ name, config.specialLiterals.get? name =
    (requestedLiteral? options name).or
      ((sectionLiteral? defaults name).or (builtinLiterals.get? name))
  dialect_default :
    dialectSetting? options defaults = none ∨ dialectSetting? options defaults = some (.text "") →
      config.dialect = default
  dialect_named : ∀ v, dialectSetting? options defaults = some v → v ≠ .text "" →
    NamesDialect v config.dialect
  numbered_requested : ∀ b, options.numberedPlaceholders = some b →
    config.numberedPlaceholders = b
  numbered_section : ∀ v, options.numberedPlaceholders = none →
    defaults.get? "numbered_placeholders" = some v →
      (config.numberedPlaceholders = true ↔ TurnsOn v)
  numbered_default : options.numberedPlaceholders = none →
    defaults.get? "numbered_placeholders" = none → config.numberedPlaceholders = true

/-! ## What a setting means -/

theorem truth_eq_true_iff (v : Value) : truth v = true ↔ TurnsOn v := by
  constructor
  · intro h
    cases v with
    | bool b =>
      cases (h : b = true)
      exact .bool
    | integer n => exact .integer (by simpa [truth] using h)
    | text s => exact .text (by simpa [truth] using h)
    | _ => cases h
  · intro h
    cases h with
    | bool => rfl
    | integer hn => simpa [truth] using hn
    | text hs => simpa [truth] using hs

section Dialects

variable {v : Value} (hnull : v ≠ .null) (default : Dialect)

include hnull

theorem dialectOf_some (hempty : v ≠ .text "") :
    dialectOf default (some v) =
      (Dialect.ofName? (String.ofList (lowerAscii (trim v.shown.toList)))).elim
        (.error (.unknownDialect v.shown)) .ok := by
  unfold dialectOf
  split
  · next h => cases h
  · next h => exact absurd (Option.some.inj h) hnull
  · next h => exact absurd (Option.some.inj h) hempty
  · next h =>
    cases h
    cases Dialect.ofName? (String.ofList (lowerAscii (trim v.shown.toList))) <;> rfl

theorem dialectOf_of_namesDialect (hempty : v ≠ .text "") {d : Dialect} (h : NamesDialect v d) :
    dialectOf default (some v) = .ok d := by
  rw [dialectOf_some hnull default hempty, Dialect.ofName?_eq_some_iff.2 h, Option.elim_some]

theorem dialectOf_of_namesNoDialect (h : NamesNoDialect v) :
    dialectOf default (some v) = .error (.unknownDialect v.shown) := by
  obtain ⟨hempty, hnone⟩ := h
  have hunknown : Dialect.ofName? (String.ofList (lowerAscii (trim v.shown.toList))) = none := by
    apply Option.eq_none_iff_forall_not_mem.2
    intro d hd
    exact hnone d (Dialect.ofName?_eq_some_iff.1 hd)
  rw [dialectOf_some hnull default hempty, hunknown, Option.elim_none]

end Dialects

theorem numberedOf_some {v : Value} (h : v ≠ .null) : numberedOf (some v) = truth v := by
  cases v with
  | null => exact absurd rfl h
  | _ => rfl

/-! ## Laying options over a section -/

theorem get?_layOption_of_ne (defaults merged : Table Value) (v : Value) {name other : String}
    (h : other ≠ name) : (layOption defaults merged name v).get? other = merged.get? other := by
  unfold layOption
  split
  · rfl
  · split
    · split
      · rfl
      · rw [Table.get?_insert, if_neg h]
    · rw [Table.get?_insert, if_neg h]
  · rw [Table.get?_insert, if_neg h]

/-- An option that is neither null nor a table takes the place of what the section says. -/
theorem get?_layOption_getD {α : Type} {value : α → Value}
    (hvalue : ∀ a defaults merged name,
      layOption defaults merged name (value a) = merged.insert name (value a))
    (defaults merged : Table Value) (name : String) (o : Option α) :
    (layOption defaults merged name ((o.map value).getD .null)).get? name =
      (o.map value).or (merged.get? name) := by
  cases o with
  | none => rfl
  | some a =>
    rw [Option.map_some, Option.getD_some, hvalue, Table.get?_insert, if_pos rfl, Option.some_or]

variable (options : SnippetOptions) (defaults : Table Value)

/-- The three options of a request are laid over the section one after another. -/
theorem merge_values :
    merge options.values defaults =
      layOption defaults
        (layOption defaults
          (layOption defaults defaults "dialect" ((options.dialect.map Value.text).getD .null))
          "numbered_placeholders" ((options.numberedPlaceholders.map Value.bool).getD .null))
        literalsName (.table (options.specialLiterals.map fun e ↦ (e.1, .text e.2))) := rfl

theorem get?_merge_dialect :
    (merge options.values defaults).get? "dialect" = dialectSetting? options defaults := by
  rw [merge_values, get?_layOption_of_ne _ _ _ (by decide),
    get?_layOption_of_ne _ _ _ (by decide), get?_layOption_getD (fun _ _ _ _ ↦ rfl),
    dialectSetting?]

theorem get?_merge_numbered :
    (merge options.values defaults).get? "numbered_placeholders" =
      (options.numberedPlaceholders.map Value.bool).or (defaults.get? "numbered_placeholders") := by
  rw [merge_values, get?_layOption_of_ne _ _ _ (by decide),
    get?_layOption_getD (fun _ _ _ _ ↦ rfl), get?_layOption_of_ne _ _ _ (by decide)]

/-- Texts of the section that literals of a request are laid over. -/
def keptLiterals : Table Value :=
  ((defaults.get? literalsName).map textValuesIn).getD []

/-- Options add literals to those of the section; without any they leave the section's alone. -/
theorem get?_merge_literals :
    (merge options.values defaults).get? literalsName =
      if options.specialLiterals = [] then defaults.get? literalsName
      else some (.table ((keptLiterals defaults).update
        (options.specialLiterals.map fun e ↦ (e.1, .text e.2)))) := by
  rw [merge_values, layOption, if_pos rfl]
  by_cases hnone : options.specialLiterals = []
  · rw [if_pos (by simp [hnone]), if_pos hnone, get?_layOption_of_ne _ _ _ (by decide),
      get?_layOption_of_ne _ _ _ (by decide)]
  · rw [if_neg (by simpa using hnone), if_neg hnone, Table.get?_insert, if_pos rfl, keptLiterals]

/-! ## Literals -/

theorem textsIn_cons (name : String) (x : Value) (rest : Table Value) :
    textsIn (.table ((name, x) :: rest)) =
      (x.text?.map (name, ·)).toList ++ textsIn (.table rest) := by
  cases hx : x.text? with
  | none => simp [textsIn, Value.entries, hx]
  | some s => simp [textsIn, Value.entries, hx]

/-- A text is found under its name in a table that holds each of its names once. -/
theorem get?_textsIn {t : Table Value} (h : t.names.Nodup) (name : String) :
    (textsIn (.table t)).get? name = (t.get? name).bind Value.text? := by
  induction t with
  | nil => rfl
  | cons e rest ih =>
    obtain ⟨n, x⟩ := e
    obtain ⟨hnot, hrest⟩ := List.nodup_cons.1 h
    have hlater := ih hrest
    rw [textsIn_cons]
    by_cases hname : name = n
    · subst hname
      cases hx : x.text? with
      | none =>
        -- The entry is no text, and no later one has its name.
        have hnone : Table.get? rest name = none := by
          apply List.lookup_eq_none_iff.2
          intro e he
          have hmem : e.1 ∈ Table.names rest := List.mem_map_of_mem he
          apply bne_iff_ne.2
          rintro rfl
          exact hnot hmem
        rw [Option.map_none, Option.toList_none, List.nil_append, hlater, hnone]
        simp [Table.get?, hx]
      | some s => simp [Table.get?, hx]
    · have hskip : (name == n) = false := beq_false_of_ne hname
      cases hx : x.text? with
      | none => simpa [Table.get?, List.lookup_cons, hskip] using hlater
      | some s => simpa [Table.get?, List.lookup_cons, hskip] using hlater

theorem names_textsIn_sublist (t : Table Value) : (textsIn (.table t)).names.Sublist t.names := by
  induction t with
  | nil => exact List.Sublist.slnil
  | cons e rest ih =>
    obtain ⟨n, x⟩ := e
    rw [textsIn_cons]
    cases x.text? with
    | none => exact ih.cons n
    | some s => exact ih.cons_cons n

theorem ofEntries_textsIn {t : Table Value} (h : t.names.Nodup) :
    Table.ofEntries (textsIn (.table t)) = textsIn (.table t) :=
  Table.ofEntries_eq_self ((names_textsIn_sublist t).nodup h)

/-- The literals that settings add to those that are built in. -/
def addedLiterals (settings : Table Value) : Table String :=
  ((settings.get? literalsName).map textsIn).getD []

section Literals

variable {defaults : Table Value} (hdefaults : (Value.table defaults).IsSetting)

include hdefaults

theorem get?_addedLiterals (name : String) :
    (Table.ofEntries (addedLiterals defaults)).get? name = sectionLiteral? defaults name := by
  unfold addedLiterals sectionLiteral?
  cases hv : defaults.get? literalsName with
  | none => rfl
  | some v =>
    have hnames := (hdefaults.of_get? hv).nodup_entries
    calc (Table.ofEntries (textsIn v)).get? name
        = (textsIn (.table v.entries)).get? name := by rw [← ofEntries_textsIn hnames]; rfl
      _ = (v.get? name).bind Value.text? := get?_textsIn hnames name

theorem get?_keptLiterals (name : String) :
    (keptLiterals defaults).get? name = (sectionLiteral? defaults name).map Value.text := by
  unfold keptLiterals sectionLiteral?
  cases hv : defaults.get? literalsName with
  | none => rfl
  | some v =>
    have hnames := (hdefaults.of_get? hv).nodup_entries
    calc (textValuesIn v).get? name
        = ((textsIn (.table v.entries)).get? name).map Value.text :=
          lookup_map_snd Value.text (textsIn v) name
      _ = ((v.get? name).bind Value.text?).map Value.text := by rw [get?_textsIn hnames]; rfl

theorem nodup_names_keptLiterals : (keptLiterals defaults).names.Nodup := by
  unfold keptLiterals
  cases hv : defaults.get? literalsName with
  | none => exact List.nodup_nil
  | some v =>
    have hnames : (textValuesIn v).names = (textsIn (.table v.entries)).names := by
      simp [textValuesIn, textsIn, Table.names, Function.comp_def, Value.entries]
    rw [Option.map_some, Option.getD_some, hnames]
    exact (names_textsIn_sublist v.entries).nodup (hdefaults.of_get? hv).nodup_entries

/-- Literals of a request come first, one by one. -/
theorem get?_addedLiterals_merge (options : SnippetOptions) (name : String) :
    (Table.ofEntries (addedLiterals (merge options.values defaults))).get? name =
      (requestedLiteral? options name).or (sectionLiteral? defaults name) := by
  by_cases hnone : options.specialLiterals = []
  · have hsame : addedLiterals (merge options.values defaults) = addedLiterals defaults := by
      rw [addedLiterals, get?_merge_literals, if_pos hnone, addedLiterals]
    have hrequested : requestedLiteral? options name = none := by
      rw [requestedLiteral?, hnone]
      rfl
    rw [hsame, hrequested, Option.none_or, get?_addedLiterals hdefaults]
  · let own : Table Value := options.specialLiterals.map fun e ↦ (e.1, .text e.2)
    have hown : (Table.ofEntries own).get? name =
        (requestedLiteral? options name).map Value.text := by
      rw [Table.get?_ofEntries, ← List.map_reverse, lookup_map_snd, requestedLiteral?,
        Table.get?_ofEntries]
    have hnames : ((keptLiterals defaults).update own).names.Nodup :=
      Table.nodup_names_update (nodup_names_keptLiterals hdefaults) own
    have hadded : addedLiterals (merge options.values defaults) =
        textsIn (.table ((keptLiterals defaults).update own)) := by
      rw [addedLiterals, get?_merge_literals, if_neg hnone, Option.map_some, Option.getD_some]
    calc (Table.ofEntries (addedLiterals (merge options.values defaults))).get? name
        = (((keptLiterals defaults).update own).get? name).bind Value.text? := by
          rw [hadded, ofEntries_textsIn hnames, get?_textsIn hnames]
      _ = (((requestedLiteral? options name).map Value.text).or
            ((sectionLiteral? defaults name).map Value.text)).bind Value.text? := by
          rw [Table.get?_update, hown, get?_keptLiterals hdefaults]
      _ = (requestedLiteral? options name).or (sectionLiteral? defaults name) := by
          cases requestedLiteral? options name with
          | none => cases sectionLiteral? defaults name <;> rfl
          | some s => rfl

end Literals

/-! ## The settings of a request -/

/-- Settings and options together, each setting from its first layer. -/
theorem snippetConfig_merge (default : Dialect) :
    snippetConfig (.table (merge options.values defaults)) default =
      (dialectOf default (dialectSetting? options defaults)).map fun dialect ↦
        { dialect
          numberedPlaceholders := numberedOf ((options.numberedPlaceholders.map Value.bool).or
            (defaults.get? "numbered_placeholders"))
          specialLiterals :=
            builtinLiterals.update (addedLiterals (merge options.values defaults)) } := by
  rw [← get?_merge_dialect, ← get?_merge_numbered]
  unfold snippetConfig
  change (dialectOf default ((merge options.values defaults).get? "dialect") >>= _) = _
  cases dialectOf default ((merge options.values defaults).get? "dialect") with
  | error f => rfl
  | ok dialect => rfl

section Precedence

variable {options} {defaults} (hdefaults : (Value.table defaults).IsSetting)

include hdefaults

theorem ne_null_of_dialectSetting? {v : Value} (hv : dialectSetting? options defaults = some v) :
    v ≠ .null := by
  rcases Option.or_eq_some_iff.1 hv with hoption | ⟨-, hsection⟩
  · obtain ⟨s, -, rfl⟩ := Option.map_eq_some_iff.1 hoption
    exact Value.noConfusion
  · exact (hdefaults.of_get? hsection).ne_null

theorem snippetConfig_of_namesNoDialect {v : Value} (default : Dialect)
    (hv : dialectSetting? options defaults = some v) (hnone : NamesNoDialect v) :
    snippetConfig (.table (merge options.values defaults)) default =
      .error (.unknownDialect v.shown) := by
  have hnull := ne_null_of_dialectSetting? hdefaults hv
  rw [snippetConfig_merge, hv, dialectOf_of_namesNoDialect hnull default hnone]
  rfl

/-- A dialect that is known, or the default one. -/
theorem exists_dialectOf (default : Dialect)
    (hknown : ∀ v, dialectSetting? options defaults = some v → ¬ NamesNoDialect v) :
    ∃ dialect, dialectOf default (dialectSetting? options defaults) = .ok dialect ∧
      (dialectSetting? options defaults = none ∨
        dialectSetting? options defaults = some (.text "") → dialect = default) ∧
      ∀ v, dialectSetting? options defaults = some v → v ≠ .text "" → NamesDialect v dialect := by
  cases hsetting : dialectSetting? options defaults with
  | none => exact ⟨default, rfl, by simp⟩
  | some v =>
    by_cases hempty : v = .text ""
    · subst hempty
      exact ⟨default, rfl, by simp⟩
    · obtain ⟨d, hd⟩ : ∃ d, NamesDialect v d := by
        by_contra hnone
        exact hknown v hsetting ⟨hempty, not_exists.1 hnone⟩
      have hnull := ne_null_of_dialectSetting? hdefaults hsetting
      refine ⟨d, dialectOf_of_namesDialect hnull default hempty hd, ?_, ?_⟩
      · rintro (habsent | hsome)
        · cases habsent
        · exact absurd (Option.some.inj hsome) hempty
      · rintro w hw -
        exact Option.some.inj hw ▸ hd

theorem exists_snippetConfig_of_known (default : Dialect)
    (hknown : ∀ v, dialectSetting? options defaults = some v → ¬ NamesNoDialect v) :
    ∃ config, snippetConfig (.table (merge options.values defaults)) default = .ok config ∧
      FollowsPrecedence options defaults default config := by
  obtain ⟨dialect, hdialect, hdefault, hnamed⟩ := exists_dialectOf hdefaults default hknown
  rw [snippetConfig_merge, hdialect]
  refine ⟨_, rfl, ?_⟩
  constructor
  case literal =>
    intro name
    rw [Table.get?_update, get?_addedLiterals_merge hdefaults, Option.or_assoc]
  case dialect_default => exact hdefault
  case dialect_named => exact hnamed
  case numbered_requested =>
    intro b hb
    rw [hb]
    rfl
  case numbered_section =>
    intro v hnone hv
    have hnull := (hdefaults.of_get? hv).ne_null
    rw [hnone, hv, Option.map_none, Option.none_or, numberedOf_some hnull, truth_eq_true_iff]
  case numbered_default =>
    intro hnone habsent
    rw [hnone, habsent]
    rfl

end Precedence

/-- Over any section that is read from a settings file, the options of a request and the default
dialect give settings in which each is that of the first layer that has it, unless the dialect that
is asked for is not known. -/
theorem snippetConfig_follows_precedence {files : FileStore} {p : Path} {defaults : Table Value}
    (hfile : loadSection files p = .ok defaults) (options : SnippetOptions) (default : Dialect) :
    (∀ v, dialectSetting? options defaults = some v → NamesNoDialect v →
      snippetConfig (.table (merge options.values defaults)) default =
        .error (.unknownDialect v.shown)) ∧
    ((∀ v, dialectSetting? options defaults = some v → ¬ NamesNoDialect v) →
      ∃ config, snippetConfig (.table (merge options.values defaults)) default = .ok config ∧
        FollowsPrecedence options defaults default config) := by
  have hdefaults := isSetting_of_loadSection hfile
  constructor
  · intro v hv hnone
    exact snippetConfig_of_namesNoDialect hdefaults default hv hnone
  · intro hknown
    exact exists_snippetConfig_of_known hdefaults default hknown

/-- The text of a settings file in which one of two literals is a number. -/
def mixedText : List Char := "[snippet]\nspecial_literals=\x7ba=1,b='x'\x7d".toList

/-- What its section holds. -/
def mixedSection : Table Value :=
  [(literalsName, .table [("a", .integer 1), ("b", .text "x")])]

/-- Files that all have this text. -/
def mixedFiles : FileStore := ⟨fun _ ↦ .ok (mixedText.map fun c ↦ UInt8.ofNat c.toNat)⟩

/-- Whether a reading gives a table with that section and nothing else. -/
def holdsMixedSection : Except Toml.Refusal (Table Value) → Bool
  | .ok [(file, .table [(key, .table [(a, .integer n), (b, .text x)])])] =>
    decide ((file, key, a, n, b, x) = ("snippet", literalsName, "a", 1, "b", "x"))
  | _ => false

theorem loadSection_mixedFiles : loadSection mixedFiles (.ofText fileName) = .ok mixedSection := by
  have hpath : (Path.ofText fileName).text.toList.contains '\x00' = false := by decide
  have hdecode : decodeUtf8 (mixedText.map fun c ↦ UInt8.ofNat c.toNat) = .ok mixedText := rfl
  have hlines : plainNewlines mixedText = mixedText := rfl
  have htext : mixedFiles.readText (.ofText fileName) = .ok (.ok (String.ofList mixedText)) := by
    rw [FileStore.readText, hpath, if_neg Bool.false_ne_true]
    simp only [mixedFiles, hdecode, hlines]
  have hread : Toml.read mixedText = .ok [("snippet", .table mixedSection)] := by
    -- The kernel runs the reader once, for a truth value; what it has read follows from that.
    have hholds : holdsMixedSection (Toml.read mixedText) = true := by decide +kernel
    generalize Toml.read mixedText = result at hholds ⊢
    unfold holdsMixedSection at hholds
    split at hholds
    · cases of_decide_eq_true hholds
      rfl
    · cases hholds
  have hload : load mixedFiles (.ofText fileName) = .ok [("snippet", .table mixedSection)] := by
    rw [load, htext]
    simp only [bind, Except.bind, String.toList_ofList, hread, pure, Except.pure]
  rw [loadSection, hload]
  rfl

/-- The number is no literal, and the text gives way to that of the request. -/
theorem snippetConfig_mixedSection :
    loadSection mixedFiles (.ofText fileName) = .ok mixedSection ∧
    (∃ config, snippetConfig (.table (merge (SnippetOptions.values
        { dialect := some " Python", specialLiterals := [("b", "y")] }) mixedSection)) .typescript =
      .ok config ∧ FollowsPrecedence
        { dialect := some " Python", specialLiterals := [("b", "y")] } mixedSection .typescript
        config) ∧
    snippetConfig (.table (merge (SnippetOptions.values { dialect := some "cobol" }) mixedSection))
      .typescript = .error (.unknownDialect "cobol") := by
  have hfile := loadSection_mixedFiles
  refine ⟨hfile, (snippetConfig_follows_precedence hfile _ _).2 ?_,
    (snippetConfig_follows_precedence hfile _ _).1 (.text "cobol") rfl ?_⟩
  · rintro v hv ⟨-, hnone⟩
    cases hv
    exact hnone .python ⟨nofun, by decide⟩
  · refine ⟨by simp, ?_⟩
    rintro d ⟨hsupported, hname⟩
    cases d with
    | typescript => exact absurd hname (by decide)
    | python => exact absurd hname (by decide)
    | unsupported name => exact hsupported name rfl

end Settings

end CallCompletion
