import CallCompletion.Command.Run
import CallCompletion.Proofs.CommandFaults
import CallCompletion.Proofs.JsonReadings
import CallCompletion.Proofs.SettingsPrecedence

/-!
# The command line and the server

Both ways to ask for a snippet lead to the same settings and the same engine. The command line loads
its settings first and then reads what it is to complete, the server checks its request first, and
they put what goes wrong in different words. They part company where the command line meets a text
that it cannot handle: an integer of too many digits in a snapshot or in a complaint, or half of a
surrogate pair in the snippet that it is to print.
-/

namespace CallCompletion

open CallCompletion.Data
open CallCompletion.Files
open CallCompletion.Request
open CallCompletion.Source
open CallCompletion.Text

/-! ## What is printed -/

namespace Command

/-- A command ends well, with a snippet on its standard output. -/
def Prints (result : Except Fault Outcome) (snippet : String) : Prop :=
  ∃ outcome, result = .ok outcome ∧ outcome.exitCode = 0 ∧ outcome.output = snippet ++ "\n"

variable {result : Except Fault Outcome} {snippet : String}

theorem prints_iff : Prints result snippet ↔ result = .ok (.printed snippet) := by
  constructor
  · rintro ⟨outcome, rfl, hcode, houtput⟩
    cases outcome with
    | printed text =>
      have htext : text ++ "\n" = snippet ++ "\n" := houtput
      rw [String.append_left_inj] at htext
      rw [htext]
    | serving => simp [Outcome.output] at houtput
    | failed => cases hcode
    | rejected => cases hcode
    | misused => cases hcode
  · rintro rfl
    exact ⟨_, rfl, rfl, rfl⟩

theorem prints_of_toOption
    (h : result.toOption.map (fun o ↦ (o.exitCode, o.output)) = some (0, snippet ++ "\n")) :
    Prints result snippet := by
  obtain ⟨outcome, houtcome, hends⟩ := Fault.exists_ok_of_map_toOption h
  obtain ⟨hcode, houtput⟩ := Prod.mk.inj hends
  exact ⟨outcome, houtcome, hcode, houtput⟩

/-- What is printed is the same text with either stand-in: there is no half in it. -/
theorem printSnippet_eq_ok_iff {snippetAs : StandIn → Except Fault (Except Outcome String)}
    (hfails : ∀ standIn outcome, snippetAs standIn = .ok (.error outcome) →
      outcome.exitCode ≠ 0) {outcome : Outcome} (hcode : outcome.exitCode = 0) :
    printSnippet snippetAs = .ok outcome ↔
      ∃ snippet, outcome = .printed snippet ∧
        ∀ standIn, snippetAs standIn = .ok (.ok snippet) := by
  constructor
  · intro h
    obtain ⟨shared, hshared, h⟩ := Fault.bind_eq_ok_iff.1 h
    cases shared with
    | error complaint =>
      cases h
      exact absurd hcode (hfails _ _ hshared)
    | ok shared =>
      obtain ⟨own, hown, h⟩ := Fault.bind_eq_ok_iff.1 h
      cases own with
      | error complaint =>
        cases h
        exact absurd hcode (hfails _ _ hown)
      | ok own =>
        dsimp only at h
        split at h
        · rename_i hsame
          subst hsame
          cases h
          refine ⟨shared, rfl, ?_⟩
          rintro (_ | _)
          · exact hshared
          · exact hown
        · cases h
  · rintro ⟨snippet, rfl, h⟩
    unfold printSnippet
    rw [h .shared, h .own]
    simp [bind, Except.bind, pure, Except.pure]

/-- A snippet with a half in it is not printed, and the fault tells where its first halves are. -/
theorem printSnippet_of_halves {snippetAs : StandIn → Except Fault (Except Outcome String)}
    {codes : List Nat} (hcodes : ∀ n ∈ codes, n < 0x110000) (hhalf : codes.any isHalf = true)
    (h : ∀ standIn, snippetAs standIn = .ok (.ok (String.ofList (standIn.chars codes)))) :
    printSnippet snippetAs = .error (.notUtf8 (.encoding (firstHalves codes))) := by
  have hne : String.ofList (StandIn.shared.chars codes) ≠
      String.ofList (StandIn.own.chars codes) := by
    intro hsame
    rw [isHalf_of_chars_eq hcodes (String.ofList_injective hsame)] at hhalf
    cases hhalf
  rw [printSnippet, h .shared, h .own]
  simp only [bind, Except.bind, if_neg hne, String.toList_ofList, codesBehind_chars hcodes]

end Command

/-! ## Checks -/

namespace Request

variable {α β : Type}

theorem Checked.seq_eq_valid_iff {f : Checked (α → β)} {a : Checked α} {b : β} :
    f <*> a = .valid b ↔ ∃ g x, f = .valid g ∧ a = .valid x ∧ g x = b := by
  cases f <;> cases a <;> simp [Seq.seq, Checked.both]

theorem Checked.map_eq_valid_iff {f : α → β} {a : Checked α} {b : β} :
    f <$> a = .valid b ↔ ∃ x, a = .valid x ∧ f x = b := by
  cases a <;> simp [Functor.map, Checked.map]

theorem Checked.under_eq_valid_iff {step : Step} {a : Checked α} {x : α} :
    a.under step = .valid x ↔ a = .valid x := by
  cases a <;> simp [Checked.under]

theorem get?_of_required {record : Table Value} {name s : String}
    (h : required record name (fun v _ ↦ text v) = .valid s) :
    record.get? name = some (.text s) := by
  unfold required at h
  split at h
  · rename_i v hv
    rw [Checked.under_eq_valid_iff] at h
    cases v <;> cases h
    exact hv
  · cases h

end Request

/-- A valid snapshot has a name. -/
theorem Snapshot.get?_name_of_readSymbol {s : Value} {symbol : SymbolSnapshot}
    (h : readSymbol s = .valid symbol) : s.get? "name" = some (.text symbol.name) := by
  cases s <;> try cases h
  case table record =>
    rw [readSymbol] at h
    -- The name is checked first, so that the other fields are taken off before it.
    obtain ⟨_, _, hdocumentation, -, rfl⟩ := Checked.seq_eq_valid_iff.1 h
    obtain ⟨_, _, hdisplay, -, rfl⟩ := Checked.seq_eq_valid_iff.1 hdocumentation
    obtain ⟨_, _, hmodifiers, -, rfl⟩ := Checked.seq_eq_valid_iff.1 hdisplay
    obtain ⟨_, _, hcontainer, -, rfl⟩ := Checked.seq_eq_valid_iff.1 hmodifiers
    obtain ⟨_, _, hkind, -, rfl⟩ := Checked.seq_eq_valid_iff.1 hcontainer
    obtain ⟨_, _, hfirst, -, rfl⟩ := Checked.seq_eq_valid_iff.1 hkind
    obtain ⟨name, hname, rfl⟩ := Checked.map_eq_valid_iff.1 hfirst
    exact get?_of_required hname

/-! ## Settings -/

/-- The options of the command line are those of a request that says nothing but the dialect. -/
theorem Settings.merge_dialect (dialect : Option String) (defaults : Table Value) :
    merge [("dialect", (dialect.map Value.text).getD .null)] defaults =
      merge (SnippetOptions.values { dialect }) defaults := by
  simp [merge, SnippetOptions.values, layOption, literalsName]

theorem Settings.unknownDialect_of_snippetConfig {settings : Value} {default : Dialect} {f : Fault}
    (h : snippetConfig settings default = .error f) : ∃ given, f = .unknownDialect given := by
  rcases Fault.bind_eq_error_iff.1 h with hdialect | ⟨dialect, -, hconfig⟩
  · exact exists_unknownDialect hdialect
  · cases hconfig

namespace Server

open CallCompletion.Command

/-- The directory whose settings file a workspace reads. -/
def Workspace.settingsRoot (w : Workspace) : Path := w.rootPath.getD ⟨.here, []⟩

variable {w : Workspace} {dialect : Option String} {default : Dialect}

section Settings

variable {go : SnippetConfig → Except Fault Outcome}

/-- The settings of the command line are those of a workspace with its root directory. -/
theorem withSettings_eq (go : SnippetConfig → Except Fault Outcome) :
    withSettings w.files w.settingsRoot none dialect default go =
      (Settings.loadSection w.files (Settings.path w.rootPath none) >>= fun defaults ↦
        match Settings.snippetConfig (.table (Settings.merge (SnippetOptions.values { dialect })
            defaults)) default with
        | .ok config => go config
        | .error (.unknownDialect given) =>
          if (Settings.dialectSetting? { dialect } defaults).all Value.isShowable then
            .ok (.failed ((Fault.unknownDialect given).message ++ ": " ++ given))
          else .error (.notAnInteger .unwritable)
        | .error f => .error f) := by
  unfold withSettings
  simp only [Settings.merge_dialect, Settings.get?_merge_dialect]
  rfl

theorem withSettings_eq_ok_iff {outcome : Outcome} (hcode : outcome.exitCode = 0) :
    withSettings w.files w.settingsRoot none dialect default go = .ok outcome ↔
      ∃ config, w.snippetConfig { dialect } default = .ok config ∧ go config = .ok outcome := by
  rw [withSettings_eq, Fault.bind_eq_ok_iff]
  unfold Workspace.snippetConfig
  simp only [Fault.bind_eq_ok_iff]
  constructor
  · rintro ⟨defaults, hdefaults, h⟩
    split at h
    · rename_i config hconfig
      exact ⟨config, ⟨defaults, hdefaults, hconfig⟩, h⟩
    · split at h
      · cases h
        cases hcode
      · cases h
    · cases h
  · rintro ⟨config, ⟨defaults, hdefaults, hconfig⟩, h⟩
    refine ⟨defaults, hdefaults, ?_⟩
    rw [hconfig]
    exact h

theorem withSettings_of_snippetConfig {config : SnippetConfig}
    (h : w.snippetConfig { dialect } default = .ok config) :
    withSettings w.files w.settingsRoot none dialect default go = go config := by
  obtain ⟨defaults, hdefaults, hconfig⟩ := Fault.bind_eq_ok_iff.1 h
  rw [withSettings_eq, hdefaults]
  simp only [bind, Except.bind, hconfig]

/-- The dialect that is asked for cannot be shown: there is an integer of too many digits in it. -/
def Workspace.HasLongDialect (w : Workspace) (dialect : Option String) : Prop :=
  ∃ defaults v, Settings.loadSection w.files (Settings.path w.rootPath none) = .ok defaults ∧
    Settings.dialectSetting? { dialect } defaults = some v ∧ v.isShowable = false

/-- Invalid settings are complained about, unless the complaint cannot be written. -/
theorem withSettings_of_violation {f : Fault} (h : w.snippetConfig { dialect } default = .error f)
    (hfacts : f.facts?.isSome = true) :
    (∃ complaint, withSettings w.files w.settingsRoot none dialect default go =
        .ok (.failed complaint)) ∨
      w.HasLongDialect dialect ∧ withSettings w.files w.settingsRoot none dialect default go =
        .error (.notAnInteger .unwritable) := by
  rw [withSettings_eq]
  rcases Fault.bind_eq_error_iff.1 h with hload | ⟨defaults, hdefaults, hconfig⟩
  · rw [((Settings.loadSection_eq_error_iff _ _ f).1 hload).facts?_eq_none] at hfacts
    cases hfacts
  · obtain ⟨given, rfl⟩ := Settings.unknownDialect_of_snippetConfig hconfig
    simp only [hdefaults, bind, Except.bind, hconfig]
    split
    · exact .inl ⟨_, rfl⟩
    · rename_i hlong
      obtain ⟨v, hv, hshown⟩ : ∃ v, Settings.dialectSetting? { dialect } defaults = some v ∧
          v.isShowable = false := by
        cases hsetting : Settings.dialectSetting? { dialect } defaults with
        | none => simp [hsetting] at hlong
        | some v => exact ⟨v, rfl, by simpa [hsetting] using hlong⟩
      exact .inr ⟨⟨defaults, v, hdefaults, hv, hshown⟩, rfl⟩

end Settings

/-! ## Snippets of symbols -/

/-- The text of a snapshot: what is on the standard input, or in a file. -/
def snapshotText (files : FileStore) (stdin : String) (snapshot : Path) :
    Except Fault (Except ReadRefusal String) :=
  if isStandardInput snapshot then .ok (.ok (String.ofList (plainNewlines stdin.toList)))
  else files.readText snapshot

theorem runBuild_of_snapshotText {files : FileStore} {stdin : String} {snapshot : Path}
    {text : String} (h : snapshotText files stdin snapshot = .ok (.ok text))
    (label : Option String) (config : SnippetConfig) :
    runBuild files stdin snapshot label config = buildFrom text label config := by
  unfold snapshotText at h
  unfold runBuild
  split at h
  · rename_i hinput
    cases h
    rw [if_pos hinput]
  · rename_i hinput
    rw [if_neg hinput, h]
    rfl

/-- The label that goes with a snapshot: the given one, or the name in the snapshot if none is given
or it is empty. -/
def snapshotLabel (label : Option String) (s : Value) : Value :=
  match label with
  | none | some "" => (s.get? "name").getD .null
  | some label => .text label

/-- The payload that asks for the snippet of a snapshot. -/
def buildPayload (label dialect : Option String) (s : Value) : Table Value :=
  [("label", snapshotLabel label s), ("symbol", s),
   ("dialect", (dialect.map Value.text).getD .null)]

theorem readSnippetRequest_buildPayload (label dialect : Option String) (s : Value) :
    readSnippetRequest (buildPayload label dialect s) =
      Checked.valid (SnippetRequest.mk { dialect }) <*>
        (text (snapshotLabel label s)).under (.field "label") <*>
          (Snapshot.readSymbol s).under (.field "symbol") := by
  cases dialect <;> rfl

theorem snapshotLabel_of_name {s : Value} {name : String}
    (h : s.get? "name" = some (.text name)) (label : Option String) :
    snapshotLabel label s = .text (chosenLabel label name) := by
  cases label with
  | none => simp [snapshotLabel, chosenLabel, h]
  | some given =>
    by_cases hgiven : given = ""
    · simp [snapshotLabel, chosenLabel, hgiven, h]
    · simp [snapshotLabel, chosenLabel]

/-- A snapshot is read in the same way alone and inside a request. -/
theorem readSnippetRequest_of_readSymbol {s : Value} {symbol : Snapshot.SymbolSnapshot}
    (h : Snapshot.readSymbol s = .valid symbol) (label dialect : Option String) :
    readSnippetRequest (buildPayload label dialect s) =
      .valid ⟨{ dialect }, chosenLabel label symbol.name, symbol⟩ := by
  have hname := Snapshot.get?_name_of_readSymbol h
  rw [readSnippetRequest_buildPayload, h, snapshotLabel_of_name hname]
  rfl

theorem exists_invalid_of_readSymbol {s : Value} {issues : List Issue}
    (h : Snapshot.readSymbol s = .invalid issues) (label dialect : Option String) :
    ∃ all, readSnippetRequest (buildPayload label dialect s) = .invalid all := by
  cases hrequest : readSnippetRequest (buildPayload label dialect s) with
  | invalid all => exact ⟨all, rfl⟩
  | valid request =>
    rw [readSnippetRequest_buildPayload, h] at hrequest
    obtain ⟨_, _, -, hsymbol, -⟩ := Checked.seq_eq_valid_iff.1 hrequest
    cases hsymbol

section Build

variable {text snippet : String} {label dialect : Option String} {config : SnippetConfig}

/-- What keeps a snapshot from having a snippet is complained about. -/
theorem exitCode_of_snapshotSnippet {standIn : StandIn} {outcome : Outcome}
    (h : snapshotSnippet text label config standIn = .ok (.error outcome)) :
    outcome.exitCode ≠ 0 := by
  unfold snapshotSnippet at h
  split at h
  · cases h
  · cases h
    exact Nat.succ_ne_zero 1
  · split at h
    · cases h
      exact Nat.succ_ne_zero 1
    · obtain ⟨snippet, -, h⟩ := Fault.bind_eq_ok_iff.1 h
      cases h

/-- An integer of too many digits ends the command by a fault. -/
theorem buildFrom_of_tooManyDigits {count left : Nat}
    (h : Json.read text.toList = .error ⟨.tooManyDigits count, left⟩) :
    buildFrom text label config = .error (.notAnInteger (.tooLong count)) := by
  have hsnippet : snapshotSnippet text label config .shared =
      .error (.notAnInteger (.tooLong count)) := by
    unfold snapshotSnippet
    rw [← Json.read, h]
  rw [buildFrom, printSnippet, hsnippet]
  rfl

/-- A snapshot has a snippet exactly when it reads, describes a symbol and renders. -/
theorem snapshotSnippet_eq_ok_iff {standIn : StandIn} :
    snapshotSnippet text label config standIn = .ok (.ok snippet) ↔
      ∃ v symbol, Json.readWith (.limited standIn) text.toList = .ok v ∧
        Snapshot.readSymbol v = .valid symbol ∧
          buildSnippet (chosenLabel label symbol.name)
            (symbol.callSignatures.map Snapshot.SignatureOf.signature) config = .ok snippet := by
  unfold snapshotSnippet
  constructor
  · intro h
    split at h
    · cases h
    · cases h
    · rename_i v hv
      split at h
      · cases h
      · rename_i symbol hsymbol
        obtain ⟨own, hown, h⟩ := Fault.bind_eq_ok_iff.1 h
        cases h
        exact ⟨v, symbol, hv, hsymbol, hown⟩
  · rintro ⟨v, symbol, hv, hsymbol, hsnippet⟩
    simp only [hv, hsymbol, hsnippet]
    rfl

/-- The command answers with the snippet of a valid snapshot. -/
theorem buildSnippetFor_buildPayload_eq_ok_iff {s : Value} :
    buildSnippetFor w (.table (buildPayload label dialect s)) = .ok { snippet, errors := [] } ↔
      ∃ config, w.snippetConfig { dialect } .typescript = .ok config ∧
        ∃ symbol, Snapshot.readSymbol s = .valid symbol ∧
          buildSnippet (chosenLabel label symbol.name)
            (symbol.callSignatures.map Snapshot.SignatureOf.signature) config = .ok snippet := by
  rw [buildSnippetFor_eq]
  cases hsymbol : Snapshot.readSymbol s with
  | invalid issues =>
    obtain ⟨all, hall⟩ := exists_invalid_of_readSymbol hsymbol label dialect
    simp [hall]
  | valid symbol =>
    rw [readSnippetRequest_of_readSymbol hsymbol]
    simp [orAnswer_eq_ok_iff, Fault.bind_eq_ok_iff, pure, Except.pure]

theorem errors_ne_nil_of_invalid {s : Value} {issues : List Issue}
    (h : Snapshot.readSymbol s = .invalid issues) {answer : SnippetAnswer}
    (hanswer : buildSnippetFor w (.table (buildPayload label dialect s)) = .ok answer) :
    answer.errors ≠ [] := by
  obtain ⟨all, hall⟩ := exists_invalid_of_readSymbol h label dialect
  rw [buildSnippetFor_eq, hall] at hanswer
  cases hanswer
  exact List.cons_ne_nil _ _

section BuildCommand

variable {stdin : String} {snapshot : Path}

/-- The command ends well exactly when there are settings, and one snippet whatever stands in for
halves. -/
theorem run_build_eq_ok_iff [CharacterNames]
    (htext : snapshotText w.files stdin snapshot = .ok (.ok text)) {outcome : Outcome}
    (hcode : outcome.exitCode = 0) :
    run w.files stdin (.build snapshot label dialect w.settingsRoot none) = .ok outcome ↔
      ∃ config, w.snippetConfig { dialect } .typescript = .ok config ∧
        ∃ snippet, outcome = .printed snippet ∧
          ∀ standIn, snapshotSnippet text label config standIn = .ok (.ok snippet) := by
  rw [run, withSettings_eq_ok_iff hcode]
  simp only [runBuild_of_snapshotText htext, buildFrom,
    printSnippet_eq_ok_iff (fun _ _ ↦ exitCode_of_snapshotSnippet) hcode]

variable {s : StandIn → Value}
  (hs : ∀ standIn, Json.readWith (.unlimited standIn) text.toList = .ok (s standIn))

include hs

/-- A value that a text holds has a snippet if no integer of the text has too many digits. -/
theorem snapshotSnippet_eq_ok_iff_of_readings {standIn : StandIn} :
    snapshotSnippet text label config standIn = .ok (.ok snippet) ↔
      (∃ v, Json.read text.toList = .ok v) ∧ ∃ symbol,
        Snapshot.readSymbol (s standIn) = .valid symbol ∧
          buildSnippet (chosenLabel label symbol.name)
            (symbol.callSignatures.map Snapshot.SignatureOf.signature) config = .ok snippet := by
  simp [snapshotSnippet_eq_ok_iff, Json.readWith_limited_eq_ok_iff hs, and_assoc]

end BuildCommand

end Build

/-- A snapshot of a function without parameters. -/
def noParameters : String :=
  "\x7b\"name\":\"f\",\"call_signatures\":[\x7b\x7d]\x7d"

/-- A snapshot with an integer of 4301 digits that has nothing to do with its snippet. -/
def longInteger : List Char :=
  "\x7b\"x\":".toList ++ List.replicate 4301 '9' ++ ",\"name\":\"f\"\x7d".toList

/-- The payload that asks for the snippet of an entry of a source file. -/
def entryPayload (path entry : String) (label parent : Option String) (line : Option Int)
    (character : Int) (dialect : Option String) : Table Value :=
  [("path", .text path), ("entry", .text entry), ("label", (label.map Value.text).getD .null),
   ("parent", (parent.map Value.text).getD .null), ("line", (line.map Value.integer).getD .null),
   ("character", .integer character), ("dialect", (dialect.map Value.text).getD .null)]

/-- The request for the snippet of an entry that a command line stands for. -/
def commandRequest (path entry : String) (label parent : Option String) (line : Option Int)
    (character : Int) (dialect : Option String) : CompletionRequest :=
  { options := { dialect }, path, entry, label, line, character, parent }

theorem readCompletionRequest_entryPayload (path entry : String) (label parent : Option String)
    (line : Option Int) (character : Int) (dialect : Option String) :
    readCompletionRequest (entryPayload path entry label parent line character dialect) =
      .valid (commandRequest path entry label parent line character dialect) := by
  cases label <;> cases parent <;> cases line <;> cases dialect <;> rfl

/-- The server sees a file as it is: no open document has its path, or the first one that has it has
the lines of the file. -/
def Workspace.SeesFile (w : Workspace) (p : Path) : Prop :=
  (∀ d ∈ w.documents, Workspace.IsElsewhere p d) ∨
    ∃ before uri text after source, w.documents = before ++ (uri, text) :: after ∧
      (∀ d ∈ before, Workspace.IsElsewhere p d) ∧ pathOfUri uri = .ok p ∧
      w.files.readText p = .ok (.ok source) ∧
      sourceLines text.toList = sourceLines source.toList

/-- A source text is read line by line, so that its ends of lines do not matter. -/
theorem ofSourceAs_of_sourceLines [CharacterNames] {text source : String}
    (h : sourceLines text.toList = sourceLines source.toList) (standIn : StandIn) :
    SourceModule.ofSourceAs standIn text = SourceModule.ofSourceAs standIn source := by
  have hread : readStatements text = readStatements source := by
    rw [readStatements, readStatements, parseLeniently, parseLeniently, h]
  cases standIn with
  | shared => exact congrArg (fun body ↦ SourceModule.ofStatements (body.getD [])) hread
  | own =>
    exact congrArg (fun body ↦ SourceModule.ofStatements (Stmt.eachWithOwnHalves (body.getD [])))
      hread

theorem not_mem_of_readText {files : FileStore} {p : Path} {reading : Except ReadRefusal String}
    (h : files.readText p = .ok reading) : '\x00' ∉ p.text.toList := by
  intro hnul
  simp [FileStore.readText, hnul] at h

/-- The source text is that of the file, or the file has the same lines. -/
theorem Workspace.SeesFile.sourceAt_cases {p : Path} (h : w.SeesFile p) :
    w.sourceAt p = w.files.readText p ∨
      ∃ text source, w.sourceAt p = .ok (.ok text) ∧ w.files.readText p = .ok (.ok source) ∧
        sourceLines text.toList = sourceLines source.toList := by
  rcases h with hnone | ⟨before, uri, text, after, source, hdocuments, hbefore, huri, hfile, hlines⟩
  · left
    rw [Workspace.sourceAt, Workspace.documentAt?_eq_none_iff.2 hnone]
    rfl
  · right
    have hdocument : Workspace.documentAt? p w.documents = .ok (some text) := by
      rw [hdocuments, Workspace.documentAt?_append before _ hbefore, Workspace.documentAt?, huri]
      exact if_pos rfl
    exact ⟨text, source, sourceAt_of_documentAt? hdocument, hfile, hlines⟩

section Entries

variable [CharacterNames] (request : CompletionRequest) (config : SnippetConfig)

/-- The completion that a request asks for in a source text. -/
def completionIn (source : String) (standIn : StandIn) : Except Fault (Option CompletionSnippet) :=
  resolveCompletion (SourceModule.ofSourceAs standIn source).engine request.entry request.label
    (placeOf request) request.parent config

/-- Where the server sees the file as it is, it answers from the file. -/
theorem Workspace.SeesFile.answerWith_eq {w : Workspace}
    (h : w.SeesFile (.ofText request.path)) (standIn : StandIn) :
    answerWith standIn w request config =
      (w.files.readText (.ofText request.path) >>= fun reading ↦
        match reading with
        | .error refusal => .ok { errors := [unreadable (.ofText request.path) refusal] }
        | .ok source =>
          (completionIn request config source standIn).map fun completion ↦ { completion }) := by
  rcases h.sourceAt_cases with hsource | ⟨text, source, htext, hsource, hlines⟩
  · cases hread : w.files.readText (.ofText request.path) with
    | error f =>
      rw [answerWith, hsource, hread]
      rfl
    | ok reading =>
      cases reading with
      | error refusal =>
        rw [answerWith, hsource, hread]
        rfl
      | ok source =>
        exact answerWith_of_source standIn request (hsource.trans hread)
          (not_mem_of_readText hread) config
  · rw [answerWith_of_source standIn request htext (not_mem_of_readText hsource), hsource,
      ofSourceAs_of_sourceLines hlines]
    rfl

/-- The server answers with a snippet where it is the completion in the source text. -/
theorem Workspace.SeesFile.answerWith_eq_ok_iff {w : Workspace}
    (h : w.SeesFile (.ofText request.path)) {standIn : StandIn} {c : CompletionSnippet} :
    answerWith standIn w request config = .ok { completion := some c, errors := [] } ↔
      ∃ source, w.files.readText (.ofText request.path) = .ok (.ok source) ∧
        completionIn request config source standIn = .ok (some c) := by
  rw [h.answerWith_eq, Fault.bind_eq_ok_iff]
  constructor
  · rintro ⟨reading, hread, hanswer⟩
    cases reading with
    | error refusal => cases hanswer
    | ok source =>
      obtain ⟨completion, hcompletion, hsome⟩ := Fault.map_eq_ok_iff.1 hanswer
      cases hsome
      exact ⟨source, hread, hcompletion⟩
  · rintro ⟨source, hread, hcompletion⟩
    exact ⟨.ok source, hread, Fault.map_eq_ok_iff.2 ⟨some c, hcompletion, rfl⟩⟩

theorem entrySnippet_eq (source : String) (standIn : StandIn) :
    entrySnippet source request.entry request.label request.parent (placeOf request) config
        standIn =
      (completionIn request config source standIn).map fun completion ↦
        match completion with
        | none => .error (.failed ("symbol not found: " ++ request.entry))
        | some c => .ok c.snippet := by
  unfold entrySnippet completionIn
  dsimp only
  cases resolveCompletion (SourceModule.ofSourceAs standIn source).engine request.entry
      request.label (placeOf request) request.parent config with
  | error f => rfl
  | ok completion => cases completion <;> rfl

theorem exitCode_of_entrySnippet {source : String} {standIn : StandIn} {outcome : Outcome}
    (h : entrySnippet source request.entry request.label request.parent (placeOf request) config
      standIn = .ok (.error outcome)) : outcome.exitCode ≠ 0 := by
  rw [entrySnippet_eq] at h
  obtain ⟨completion, -, h⟩ := Fault.map_eq_ok_iff.1 h
  cases completion <;> cases h
  exact Nat.succ_ne_zero 1

/-- The command line prints a snippet where it is the completion in the text of the file, with
either stand-in for halves. -/
theorem runSnippet_eq_printed_iff {files : FileStore} {snippet : String} :
    runSnippet files (.ofText request.path) request.entry request.label request.parent
        (placeOf request) config = .ok (.printed snippet) ↔
      ∃ source, files.readText (.ofText request.path) = .ok (.ok source) ∧
        ∀ standIn, ∃ detail,
          completionIn request config source standIn = .ok (some ⟨detail, snippet⟩) := by
  have hentry {source : String} :
      printSnippet (entrySnippet source request.entry request.label request.parent
        (placeOf request) config) = .ok (.printed snippet) ↔
      ∀ standIn, ∃ detail,
        completionIn request config source standIn = .ok (some ⟨detail, snippet⟩) := by
    rw [printSnippet_eq_ok_iff (fun _ _ ↦ exitCode_of_entrySnippet request config) rfl]
    simp only [Outcome.printed.injEq, exists_eq_left', entrySnippet_eq, Fault.map_eq_ok_iff]
    refine forall_congr' fun standIn ↦ ?_
    constructor
    · rintro ⟨completion, hcompletion, h⟩
      cases completion <;> cases h
      exact ⟨_, hcompletion⟩
    · rintro ⟨detail, hcompletion⟩
      exact ⟨_, hcompletion, rfl⟩
  unfold runSnippet
  rw [Fault.bind_eq_ok_iff]
  constructor
  · rintro ⟨reading, hread, h⟩
    cases reading with
    | error refusal => cases h
    | ok source => exact ⟨source, hread, hentry.1 h⟩
  · rintro ⟨source, hread, h⟩
    exact ⟨.ok source, hread, hentry.2 h⟩

/-- The command line prints a snippet where the server answers with it, with either stand-in. -/
theorem Workspace.SeesFile.runSnippet_eq_printed_iff {w : Workspace}
    (h : w.SeesFile (.ofText request.path)) {snippet : String} :
    runSnippet w.files (.ofText request.path) request.entry request.label request.parent
        (placeOf request) config = .ok (.printed snippet) ↔
      ∀ standIn, ∃ detail, answerWith standIn w request config =
        .ok { completion := some ⟨detail, snippet⟩, errors := [] } := by
  rw [Server.runSnippet_eq_printed_iff, StandIn.exists_forall_iff fun _ _ hread hread' ↦
    Except.ok.inj (Except.ok.inj (hread.symm.trans hread'))]
  refine forall_congr' fun standIn ↦ ?_
  simp only [h.answerWith_eq_ok_iff request config]
  rw [exists_comm]
  simp only [exists_and_left]

/-- Where the server has no snippet, the command line complains. -/
theorem Workspace.SeesFile.exists_failed {w : Workspace} (h : w.SeesFile (.ofText request.path))
    {answer : CompletionAnswer} (hanswer : answerWith .shared w request config = .ok answer)
    (hnone : answer.completion = none) :
    ∃ complaint, runSnippet w.files (.ofText request.path) request.entry request.label
      request.parent (placeOf request) config = .ok (.failed complaint) := by
  rw [h.answerWith_eq] at hanswer
  obtain ⟨reading, hread, hanswer⟩ := Fault.bind_eq_ok_iff.1 hanswer
  unfold runSnippet
  rw [hread]
  cases reading with
  | error refusal => exact ⟨_, rfl⟩
  | ok source =>
    obtain ⟨completion, hcompletion, rfl⟩ := Fault.map_eq_ok_iff.1 hanswer
    obtain rfl : completion = none := hnone
    have hentry := entrySnippet_eq request config source .shared
    rw [hcompletion] at hentry
    refine ⟨"symbol not found: " ++ request.entry, ?_⟩
    simp only [bind, Except.bind, printSnippet, hentry, Except.map]
    rfl

end Entries

section SnippetCommand

variable [CharacterNames] {w : Workspace} {path entry : String} {label parent : Option String}
  {line : Option Int} {character : Int} {dialect : Option String} {standIn : StandIn}

theorem completionSnippetAs_entryPayload :
    completionSnippetAs standIn w
        (.table (entryPayload path entry label parent line character dialect)) =
      orAnswer (w.snippetConfig { dialect } .python) (fun e ↦ { errors := [e] })
        (answerWith standIn w
          (commandRequest path entry label parent line character dialect)) := by
  rw [completionSnippetAs_eq, readCompletionRequest_entryPayload]
  rfl

theorem completionSnippetAs_eq_ok_iff {c : CompletionSnippet} :
    completionSnippetAs standIn w
        (.table (entryPayload path entry label parent line character dialect)) =
        .ok { completion := some c, errors := [] } ↔
      ∃ config, w.snippetConfig { dialect } .python = .ok config ∧
        answerWith standIn w (commandRequest path entry label parent line character dialect)
          config = .ok { completion := some c, errors := [] } := by
  rw [completionSnippetAs_entryPayload, orAnswer_eq_ok_iff]
  simp

end SnippetCommand

/-- Where the command of the server answers with a snippet that has a half in it, the command line
fails. -/
theorem run_snippet_of_halves [CharacterNames] {w : Workspace} {path : String}
    (hfile : w.SeesFile (.ofText path)) (stdin entry : String) (label parent : Option String)
    (line : Option Int) (character : Int) (dialect : Option String) {codes : List Nat}
    (hcodes : ∀ n ∈ codes, n < 0x110000) (hhalf : codes.any isHalf = true)
    (h : ∀ standIn, ∃ detail, completionSnippetAs standIn w
        (.table (entryPayload path entry label parent line character dialect)) =
      .ok { completion := some ⟨detail, String.ofList (standIn.chars codes)⟩, errors := [] }) :
    run w.files stdin
        (.snippet (.ofText path) entry label parent line character dialect w.settingsRoot none) =
      .error (.notUtf8 (.encoding (firstHalves codes))) := by
  let request := commandRequest path entry label parent line character dialect
  have hrequest : w.SeesFile (.ofText request.path) := hfile
  obtain ⟨config, hconfig, hanswer⟩ : ∃ config, w.snippetConfig { dialect } .python = .ok config ∧
      ∀ standIn, ∃ detail, answerWith standIn w request config =
        .ok { completion := some ⟨detail, String.ofList (standIn.chars codes)⟩, errors := [] } := by
    refine (StandIn.exists_forall_iff fun _ _ h h' ↦ Except.ok.inj (h.symm.trans h')).2 ?_
    intro standIn
    obtain ⟨detail, hdetail⟩ := h standIn
    obtain ⟨config, hconfig, hanswer⟩ := completionSnippetAs_eq_ok_iff.1 hdetail
    exact ⟨config, hconfig, detail, hanswer⟩
  obtain ⟨source, hread, hcompletion⟩ :
      ∃ source, w.files.readText (.ofText request.path) = .ok (.ok source) ∧
        ∀ standIn, ∃ detail, completionIn request config source standIn =
          .ok (some ⟨detail, String.ofList (standIn.chars codes)⟩) := by
    refine (StandIn.exists_forall_iff fun _ _ h h' ↦
      Except.ok.inj (Except.ok.inj (h.symm.trans h'))).2 ?_
    intro standIn
    obtain ⟨detail, hdetail⟩ := hanswer standIn
    obtain ⟨source, hread, hcompletion⟩ := (hrequest.answerWith_eq_ok_iff request config).1 hdetail
    exact ⟨source, hread, detail, hcompletion⟩
  have hsnippet (standIn : StandIn) : entrySnippet source request.entry request.label
      request.parent (placeOf request) config standIn =
        .ok (.ok (String.ofList (standIn.chars codes))) := by
    obtain ⟨detail, hdetail⟩ := hcompletion standIn
    rw [entrySnippet_eq, hdetail]
    rfl
  calc run w.files stdin
          (.snippet (.ofText path) entry label parent line character dialect w.settingsRoot none)
      = withSettings w.files w.settingsRoot none dialect .python
          (runSnippet w.files (.ofText request.path) request.entry request.label request.parent
            (placeOf request)) := rfl
    _ = runSnippet w.files (.ofText request.path) request.entry request.label request.parent
          (placeOf request) config := withSettings_of_snippetConfig hconfig
    _ = printSnippet (entrySnippet source request.entry request.label request.parent
          (placeOf request) config) := by
        rw [runSnippet, hread]
        rfl
    _ = .error (.notUtf8 (.encoding (firstHalves codes))) :=
        printSnippet_of_halves hcodes hhalf hsnippet

/-- A file with a function of one argument that is open, after another document. -/
def openFile : Workspace :=
  machine [(["a.py"], [0x64, 0x65, 0x66, 0x20, 0x66, 0x28, 0x78, 0x29, 0x3a, 0x30, 0x0d, 0x0a])]
    [("notes.md", ""), ("a.py", "def f(x):0\r\n")]

/-- A file with an example that is half of a surrogate pair. -/
def halfExample : Workspace :=
  machine [(["a.py"], "def f(x):\n \"\"\":param x: eg: \\ud800\"\"\"\n".toList.map
    fun c ↦ UInt8.ofNat c.toNat)] []

end Server

end CallCompletion
