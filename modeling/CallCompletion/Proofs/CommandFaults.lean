import CallCompletion.Proofs.Classification
import CallCompletion.Proofs.ItemFilling

/-!
# What keeps a command from answering

A command whose payload is a record is answered, with errors if the request or the settings are
invalid or a file cannot be read, unless one of a few things goes wrong that are not answered for.
They are listed here: each of them lets the command fail, and nothing else does.

Texts are made of characters: paths, documents and payloads hold no half of a surrogate pair, which
only an escape in a source text can write. The room that nested texts take is not counted.
-/

namespace CallCompletion

/-! ## Files and settings -/

namespace Files

open CallCompletion.Text

/-- What keeps a file from being read as text, apart from its not being there. -/
inductive FileStore.TextFault (files : FileStore) (p : Path) : Fault → Prop
  | nulInPath : '\x00' ∈ p.text.toList → FileStore.TextFault files p (@Fault.nulInPath .opening)
  | notUtf8 {bytes : List UInt8} {refusal : Utf8Refusal} :
    '\x00' ∉ p.text.toList → files.bytes p = .ok bytes → decodeUtf8 bytes = .error refusal →
      FileStore.TextFault files p (.notUtf8 (.decoding refusal))

theorem FileStore.readText_eq_error_iff (files : FileStore) (p : Path) (f : Fault) :
    files.readText p = .error f ↔ files.TextFault p f := by
  unfold FileStore.readText
  constructor
  · intro h
    split at h
    · rename_i hnul
      cases h
      exact .nulInPath (by simpa using hnul)
    · rename_i hnul
      split at h
      · cases h
      · rename_i bytes hbytes
        split at h
        · cases h
        · rename_i refusal hrefusal
          cases h
          exact .notUtf8 (by simpa using hnul) hbytes hrefusal
  · intro h
    cases h with
    | nulInPath hnul => simp [hnul]
    | notUtf8 hnul hbytes hrefusal => simp [hnul, hbytes, hrefusal]

theorem FileStore.TextFault.facts?_eq_none {files : FileStore} {p : Path} {f : Fault}
    (h : files.TextFault p f) : f.facts? = none := by
  cases h <;> rfl

theorem facts?_checkBracketed {address : List Char} {f : Fault}
    (h : checkBracketed address = .error f) : f.facts? = none := by
  unfold checkBracketed at h
  split at h
  · split at h <;> cases h
    rfl
  · split at h
    · cases h
      rfl
    · split at h <;> cases h
      rfl

theorem facts?_checkHost {host : List Char} {f : Fault} (h : checkHost host = .error f) :
    f.facts? = none := by
  simp only [checkHost] at h
  by_cases hopen : (host.contains '[' != host.contains ']') = true
  · rw [if_pos hopen] at h
    cases h
    rfl
  · rw [if_neg hopen] at h
    have hdivider : ∀ {g : Fault}, (if host.any (dividersInDisguise.contains ·.toNat) then
        Except.error (Fault.ambiguousHost (String.ofList host)) else pure ()) = .error g →
          g.facts? = none := by
      intro g hg
      split at hg <;> cases hg
      rfl
    by_cases hbracket : host.contains '[' = true
    · rw [if_pos hbracket] at h
      rcases Fault.bind_eq_error_iff.1 h with h | ⟨-, -, h⟩
      · exact facts?_checkBracketed h
      · exact hdivider h
    · rw [if_neg hbracket] at h
      exact hdivider h

theorem facts?_pathOfUri {uri : String} {f : Fault} (h : pathOfUri uri = .error f) :
    f.facts? = none := by
  obtain ⟨host, s, huri⟩ := exists_pathOfUri_eq uri
  exact facts?_checkHost (Fault.map_eq_error_iff.1 (huri.symm.trans h))

end Files

namespace Settings

open CallCompletion.Data
open CallCompletion.Files

/-- What keeps a settings file from being loaded. -/
inductive LoadFault (files : FileStore) (p : Path) : Fault → Prop
  /-- The file cannot be read as text. -/
  | unreadable {f : Fault} : files.TextFault p f → LoadFault files p f
  /-- There is an integer of too many digits in it, and all is well-formed up to there. -/
  | tooManyDigits {text : String} {count : Nat} :
    files.readText p = .ok (.ok text) →
      Toml.read text.toList = .error (.tooManyDigits count) →
        LoadFault files p (.notAnInteger (.tooLong count))

theorem LoadFault.facts?_eq_none {files : FileStore} {p : Path} {f : Fault}
    (h : LoadFault files p f) : f.facts? = none := by
  cases h with
  | unreadable h => exact h.facts?_eq_none
  | tooManyDigits => rfl

theorem loadSection_eq_error_iff (files : FileStore) (p : Path) (f : Fault) :
    loadSection files p = .error f ↔ LoadFault files p f := by
  rw [loadSection, Fault.map_eq_error_iff, load, Fault.bind_eq_error_iff,
    files.readText_eq_error_iff]
  constructor
  · rintro (hunreadable | ⟨reading, hreading, h⟩)
    · exact .unreadable hunreadable
    · cases reading with
      | error refusal => cases h
      | ok text =>
        dsimp only at h
        split at h
        · cases h
        · cases h
        · rename_i count hcount
          cases h
          exact .tooManyDigits hreading hcount
  · intro h
    cases h with
    | unreadable hunreadable => exact .inl hunreadable
    | @tooManyDigits text count hreading hcount =>
      refine .inr ⟨.ok text, hreading, ?_⟩
      simp only [hcount]

/-- A dialect that a setting names is supported, and one that has no rules is a violation. -/
theorem isSupported_dialectOf {default d : Dialect} (hdefault : default.IsSupported)
    {setting : Option Value} (h : dialectOf default setting = .ok d) : d.IsSupported := by
  unfold dialectOf at h
  split at h
  · cases h
    exact hdefault
  · cases h
    exact hdefault
  · cases h
    exact hdefault
  · split at h
    · rename_i found hfound
      cases h
      have hmem := List.mem_of_find?_eq_some hfound
      simp only [List.mem_cons, List.not_mem_nil, or_false] at hmem
      rcases hmem with rfl | rfl <;> exact fun name ↦ Dialect.noConfusion
    · cases h

/-- A dialect can only fail by being unknown. -/
theorem exists_unknownDialect {default : Dialect} {setting : Option Value} {f : Fault}
    (h : dialectOf default setting = .error f) : ∃ given, f = .unknownDialect given := by
  unfold dialectOf at h
  split at h
  · cases h
  · cases h
  · cases h
  · split at h
    · cases h
    · cases h
      exact ⟨_, rfl⟩

theorem facts?_dialectOf {default : Dialect} {setting : Option Value} {f : Fault}
    (h : dialectOf default setting = .error f) : f.facts? ≠ none := by
  obtain ⟨given, rfl⟩ := exists_unknownDialect h
  simp [Fault.facts?]

end Settings

namespace Server

open CallCompletion.Data
open CallCompletion.Files
open CallCompletion.Request
open CallCompletion.Source

namespace Workspace

variable {w : Workspace} {p : Path} {options : SnippetOptions} {default : Dialect} {f : Fault}

/-- The settings of a workspace fail without a violation only where their file cannot be loaded. -/
theorem snippetConfig_eq_error_iff :
    w.snippetConfig options default = .error f ∧ f.facts? = none ↔
      Settings.LoadFault w.files (Settings.path w.rootPath none) f := by
  rw [snippetConfig, Fault.bind_eq_error_iff, Settings.loadSection_eq_error_iff]
  constructor
  · rintro ⟨hsettings | ⟨defaults, -, hsettings⟩, hfacts⟩
    · exact hsettings
    · rcases Fault.bind_eq_error_iff.1 hsettings with hdialect | ⟨dialect, -, hconfig⟩
      · exact absurd hfacts (Settings.facts?_dialectOf hdialect)
      · cases hconfig
  · intro h
    exact ⟨.inl h, h.facts?_eq_none⟩

theorem isSupported_of_snippetConfig {config : SnippetConfig} (hdefault : default.IsSupported)
    (h : w.snippetConfig options default = .ok config) : config.dialect.IsSupported := by
  obtain ⟨defaults, -, h⟩ := Fault.bind_eq_ok_iff.1 h
  obtain ⟨dialect, hdialect, h⟩ := Fault.bind_eq_ok_iff.1 h
  cases h
  exact Settings.isSupported_dialectOf hdefault hdialect

theorem documentAt?_eq_none_iff {documents : Table String} :
    documentAt? p documents = .ok none ↔ ∀ d ∈ documents, IsElsewhere p d := by
  constructor
  · intro h
    rcases documentAt?_cases p documents with hall | ⟨_, _, _, _, _, ⟨_, hend⟩ | ⟨_, _, hend⟩⟩
    · exact hall
    · rw [h] at hend
      cases hend
    · rw [h] at hend
      cases hend
  · intro h
    rw [← List.append_nil documents, documentAt?_append documents [] h]
    rfl

/-- The search for a document fails at the first one whose URI has no path, if none before it lies
at the path sought. -/
theorem documentAt?_eq_error_iff {documents : Table String} :
    documentAt? p documents = .error f ↔
      ∃ before d after, documents = before ++ d :: after ∧ (∀ b ∈ before, IsElsewhere p b) ∧
        pathOfUri d.1 = .error f := by
  constructor
  · intro h
    rcases documentAt?_cases p documents with
      hall | ⟨before, d, after, hsplit, hbefore, ⟨_, hend⟩ | ⟨g, hpath, hend⟩⟩
    · rw [documentAt?_eq_none_iff.2 hall] at h
      cases h
    · rw [h] at hend
      cases hend
    · rw [h] at hend
      cases hend
      exact ⟨before, d, after, hsplit, hbefore, hpath⟩
  · rintro ⟨before, d, after, rfl, hbefore, hpath⟩
    rw [documentAt?_append before _ hbefore, documentAt?, hpath]
    rfl

/-- Looking for a source text fails at a document that has no path, or at a file that cannot be read
as text. -/
theorem sourceAt_eq_error_iff :
    w.sourceAt p = .error f ↔
      (∃ before d after, w.documents = before ++ d :: after ∧ (∀ b ∈ before, IsElsewhere p b) ∧
        pathOfUri d.1 = .error f) ∨
      (∀ d ∈ w.documents, IsElsewhere p d) ∧ w.files.TextFault p f := by
  rw [← documentAt?_eq_error_iff, ← documentAt?_eq_none_iff, ← FileStore.readText_eq_error_iff,
    sourceAt, Fault.bind_eq_error_iff]
  refine or_congr Iff.rfl ?_
  constructor
  · rintro ⟨found, hfound, h⟩
    cases found with
    | none => exact ⟨hfound, h⟩
    | some text => cases h
  · rintro ⟨hnone, h⟩
    exact ⟨none, hnone, h⟩

/-- There is a source text at a path, and the path can be its name. -/
structure HasSource (w : Workspace) (p : Path) (source : String) : Prop where
  found : w.sourceAt p = .ok (.ok source)
  named : '\x00' ∉ p.text.toList

end Workspace

/-! ## The commands -/

/-- What lets the command for the snippet of a symbol fail. -/
inductive BuildFailure (w : Workspace) (request : SnippetRequest) : Fault → Prop
  /-- The settings file cannot be loaded. -/
  | settings {f : Fault} : Settings.LoadFault w.files (Settings.path w.rootPath none) f →
    BuildFailure w request f
  /-- A parameter has an endless list of examples. -/
  | examples {config : SnippetConfig} :
    w.snippetConfig request.options .typescript = .ok config →
      HasEndlessExamples (request.symbol.callSignatures.map Snapshot.SignatureOf.signature) →
        BuildFailure w request .endlessExamples

/-- What lets the command for the snippet of an entry fail. -/
inductive CompletionFailure [CharacterNames] (w : Workspace) (request : CompletionRequest) :
    Fault → Prop
  /-- The settings file cannot be loaded. -/
  | settings {f : Fault} : Settings.LoadFault w.files (Settings.path w.rootPath none) f →
    CompletionFailure w request f
  /-- A document that is looked at on the way to the one with the path has no path. -/
  | document {config : SnippetConfig} {before after : Table String} {d : String × String}
      {f : Fault} :
    w.snippetConfig request.options .python = .ok config →
      w.documents = before ++ d :: after →
        (∀ b ∈ before, Workspace.IsElsewhere (Path.ofText request.path) b) →
          pathOfUri d.1 = .error f → CompletionFailure w request f
  /-- There is no document with the path, and the file cannot be read as text. -/
  | file {config : SnippetConfig} {f : Fault} :
    w.snippetConfig request.options .python = .ok config →
      (∀ d ∈ w.documents, Workspace.IsElsewhere (Path.ofText request.path) d) →
        w.files.TextFault (Path.ofText request.path) f → CompletionFailure w request f
  /-- There is a document with the path, which cannot be the name of a source text. -/
  | name {config : SnippetConfig} {source : String} :
    w.snippetConfig request.options .python = .ok config →
      w.sourceAt (Path.ofText request.path) = .ok (.ok source) →
        '\x00' ∈ (Path.ofText request.path).text.toList →
          CompletionFailure w request (@Fault.nulInPath .naming)
  /-- An annotation of the symbol that the entry resolves to has no class. -/
  | typeHint {config : SnippetConfig} {source : String} {symbol : Symbol} {f : Fault} :
    w.snippetConfig request.options .python = .ok config →
      w.HasSource (Path.ofText request.path) source →
        (SourceModule.ofSource source).resolve request.entry (placeOf request) request.parent =
            some symbol →
          classFault? (SourceModule.ofSource source).classes
              ((SourceModule.ofSource source).hints symbol) = some f →
            CompletionFailure w request f
  /-- A parameter of the symbol has an endless list of examples. -/
  | examples {config : SnippetConfig} {source : String} {symbol : Symbol}
      {signatures : List Signature} :
    w.snippetConfig request.options .python = .ok config →
      w.HasSource (Path.ofText request.path) source →
        (SourceModule.ofSource source).resolve request.entry (placeOf request) request.parent =
            some symbol →
          (SourceModule.ofSource source).signatures symbol = .ok signatures →
            HasEndlessExamples signatures → CompletionFailure w request .endlessExamples

section Commands

variable {w : Workspace} {record : Table Value} {f : Fault}

theorem buildSnippetFor_eq (w : Workspace) (record : Table Value) :
    buildSnippetFor w (.table record) =
      match readSnippetRequest record with
      | .invalid issues => .ok { errors := [report "SnippetRequest" issues] }
      | .valid request =>
        orAnswer (w.snippetConfig request.options .typescript) (fun e ↦ { errors := [e] })
          fun config ↦ do
            let snippet ← buildSnippet request.label
              (request.symbol.callSignatures.map Snapshot.SignatureOf.signature) config
            return { snippet } := by
  unfold buildSnippetFor
  rfl

theorem buildSnippetFor_eq_error_iff :
    buildSnippetFor w (.table record) = .error f ↔
      ∃ request, readSnippetRequest record = .valid request ∧ BuildFailure w request f := by
  rw [buildSnippetFor_eq]
  cases readSnippetRequest record with
  | invalid issues => simp
  | valid request =>
    have hclassified : ∀ s ∈ request.symbol.callSignatures.map Snapshot.SignatureOf.signature,
        s.IsClassified := by
      intro s hs
      obtain ⟨snapshot, -, rfl⟩ := List.mem_map.1 hs
      exact Snapshot.isClassified_signature snapshot
    have hbuild {config : SnippetConfig}
        (hconfig : w.snippetConfig request.options .typescript = .ok config) :=
      buildSnippet_eq_error_iff
        (Workspace.isSupported_of_snippetConfig (fun name ↦ Dialect.noConfusion) hconfig)
        hclassified request.label f
    simp only [Checked.valid.injEq, exists_eq_left', orAnswer_eq_error_iff,
      Workspace.snippetConfig_eq_error_iff]
    constructor
    · rintro (hsettings | ⟨config, hconfig, hsnippet⟩)
      · exact .settings hsettings
      · rcases Fault.bind_eq_error_iff.1 hsnippet with hsnippet | ⟨snippet, -, hsnippet⟩
        · obtain ⟨rfl, hendless⟩ := (hbuild hconfig).1 hsnippet
          exact .examples hconfig hendless
        · cases hsnippet
    · intro h
      cases h with
      | settings hsettings => exact .inl hsettings
      | examples hconfig hendless =>
        refine .inr ⟨_, hconfig, Fault.bind_eq_error_iff.2 (.inl ?_)⟩
        exact (hbuild hconfig).2 ⟨rfl, hendless⟩

/-- The completion of an entry fails at an annotation of its symbol, or for want of an end of
examples. -/
theorem resolveCompletion_eq_error_iff [CharacterNames] {m : SourceModule} {entry : String}
    {label : Option String} {position : Option Position} {parent : Option String}
    {config : SnippetConfig}
    (hdialect : config.dialect.IsSupported) :
    resolveCompletion m.engine entry label position parent config = .error f ↔
      ∃ symbol, m.resolve entry position parent = some symbol ∧
        (classFault? m.classes (m.hints symbol) = some f ∨
          ∃ signatures, m.signatures symbol = .ok signatures ∧ f = .endlessExamples ∧
            HasEndlessExamples signatures) := by
  have hresolve : m.engine.resolve = m.resolve := rfl
  rw [resolveCompletion, hresolve]
  cases m.resolve entry position parent with
  | none => simp
  | some symbol =>
    simp only [Option.some.injEq, exists_eq_left', ← of?_signatures, Fault.of?_eq_some_iff,
      Fault.bind_eq_error_iff]
    refine or_congr Iff.rfl (exists_congr fun signatures ↦ and_congr_right fun hsignatures ↦ ?_)
    rw [← buildSnippet_eq_error_iff hdialect (isClassified_signatures hsignatures)
      (chosenLabel label entry) f]
    simp [pure, Except.pure]

/-- An answer fails with its source, with the name of its path, or with the completion itself. -/
theorem answerWith_eq_error_iff [CharacterNames] {request : CompletionRequest}
    {config : SnippetConfig} :
    answerWith .shared w request config = .error f ↔
      w.sourceAt (Path.ofText request.path) = .error f ∨
        ∃ source, w.sourceAt (Path.ofText request.path) = .ok (.ok source) ∧
          ('\x00' ∈ (Path.ofText request.path).text.toList ∧ f = @Fault.nulInPath .naming ∨
            '\x00' ∉ (Path.ofText request.path).text.toList ∧
              resolveCompletion (SourceModule.ofSource source).engine request.entry request.label
                (placeOf request) request.parent config = .error f) := by
  rw [answerWith, Fault.bind_eq_error_iff]
  refine or_congr Iff.rfl ⟨?_, ?_⟩
  · rintro ⟨found, hfound, h⟩
    cases found with
    | error refusal => cases h
    | ok source =>
      refine ⟨source, hfound, ?_⟩
      rcases Fault.bind_eq_error_iff.1 h with hname | ⟨u, hname, h⟩
      · exact .inl (checkSourceName_eq_error_iff.1 hname)
      · rcases Fault.bind_eq_error_iff.1 h with h | ⟨completion, -, h⟩
        · exact .inr ⟨checkSourceName_eq_ok_iff.1 hname, h⟩
        · cases h
  · rintro ⟨source, hsource, hname | ⟨hname, h⟩⟩
    · exact ⟨.ok source, hsource,
        Fault.bind_eq_error_iff.2 (.inl (checkSourceName_eq_error_iff.2 hname))⟩
    · refine ⟨.ok source, hsource, Fault.bind_eq_error_iff.2 (.inr ⟨(), ?_, ?_⟩)⟩
      · exact checkSourceName_eq_ok_iff.2 hname
      · exact Fault.bind_eq_error_iff.2 (.inl h)

theorem completionSnippetFor_eq_error_iff [CharacterNames] :
    completionSnippetFor w (.table record) = .error f ↔
      ∃ request, readCompletionRequest record = .valid request ∧
        CompletionFailure w request f := by
  rw [completionSnippetFor, completionSnippetAs_eq]
  cases readCompletionRequest record with
  | invalid issues => simp
  | valid request =>
    have hsupported {config : SnippetConfig}
        (hconfig : w.snippetConfig request.options .python = .ok config) :=
      Workspace.isSupported_of_snippetConfig (fun name ↦ Dialect.noConfusion) hconfig
    simp only [Checked.valid.injEq, exists_eq_left', orAnswer_eq_error_iff,
      Workspace.snippetConfig_eq_error_iff]
    constructor
    · rintro (hsettings | ⟨config, hconfig, h⟩)
      · exact .settings hsettings
      · rcases answerWith_eq_error_iff.1 h with
          hsource | ⟨source, hsource, ⟨hname, rfl⟩ | ⟨hname, h⟩⟩
        · rcases Workspace.sourceAt_eq_error_iff.1 hsource with
            ⟨before, d, after, hsplit, hbefore, hpath⟩ | ⟨hall, hfile⟩
          · exact .document hconfig hsplit hbefore hpath
          · exact .file hconfig hall hfile
        · exact .name hconfig hsource hname
        · obtain ⟨symbol, hsymbol, hhints | ⟨signatures, hsignatures, rfl, hendless⟩⟩ :=
            (resolveCompletion_eq_error_iff (hsupported hconfig)).1 h
          · exact .typeHint hconfig ⟨hsource, hname⟩ hsymbol hhints
          · exact .examples hconfig ⟨hsource, hname⟩ hsymbol hsignatures hendless
    · intro h
      cases h with
      | settings hsettings => exact .inl hsettings
      | document hconfig hsplit hbefore hpath =>
        refine .inr ⟨_, hconfig, answerWith_eq_error_iff.2 (.inl ?_)⟩
        exact Workspace.sourceAt_eq_error_iff.2 (.inl ⟨_, _, _, hsplit, hbefore, hpath⟩)
      | file hconfig hall hfile =>
        refine .inr ⟨_, hconfig, answerWith_eq_error_iff.2 (.inl ?_)⟩
        exact Workspace.sourceAt_eq_error_iff.2 (.inr ⟨hall, hfile⟩)
      | name hconfig hsource hname =>
        exact .inr ⟨_, hconfig, answerWith_eq_error_iff.2 (.inr ⟨_, hsource, .inl ⟨hname, rfl⟩⟩)⟩
      | typeHint hconfig hsource hsymbol hhints =>
        refine .inr ⟨_, hconfig,
          answerWith_eq_error_iff.2 (.inr ⟨_, hsource.found, .inr ⟨hsource.named, ?_⟩⟩)⟩
        exact (resolveCompletion_eq_error_iff (hsupported hconfig)).2
          ⟨_, hsymbol, .inl hhints⟩
      | examples hconfig hsource hsymbol hsignatures hendless =>
        refine .inr ⟨_, hconfig,
          answerWith_eq_error_iff.2 (.inr ⟨_, hsource.found, .inr ⟨hsource.named, ?_⟩⟩)⟩
        exact (resolveCompletion_eq_error_iff (hsupported hconfig)).2
          ⟨_, hsymbol, .inr ⟨_, hsignatures, rfl, hendless⟩⟩

/-- An answer has no errors or no snippet. -/
theorem errors_eq_nil_or_snippet_eq_empty {answer : SnippetAnswer}
    (h : buildSnippetFor w (.table record) = .ok answer) :
    answer.errors = [] ∨ answer.snippet = "" := by
  rw [buildSnippetFor_eq] at h
  split at h
  · cases h
    exact .inr rfl
  · rcases orAnswer_eq_ok_iff.1 h with ⟨config, -, hanswer⟩ | ⟨f, -, -, rfl⟩
    · obtain ⟨snippet, -, hanswer⟩ := Fault.bind_eq_ok_iff.1 hanswer
      cases hanswer
      exact .inl rfl
    · exact .inr rfl

/-- What escapes a command with a record as its payload is no violation. -/
theorem BuildFailure.facts?_eq_none {request : SnippetRequest} (h : BuildFailure w request f) :
    f.facts? = none := by
  cases h with
  | settings h => exact h.facts?_eq_none
  | examples => rfl

theorem CompletionFailure.facts?_eq_none [CharacterNames] {request : CompletionRequest}
    (h : CompletionFailure w request f) : f.facts? = none := by
  cases h with
  | settings h => exact h.facts?_eq_none
  | document _ _ _ h => exact facts?_pathOfUri h
  | file _ _ h => exact h.facts?_eq_none
  | name => rfl
  | examples => rfl
  | typeHint _ _ _ h =>
    obtain ⟨e, -, he⟩ := List.exists_of_findSome?_eq_some h
    obtain ⟨inner, -, hinner⟩ := exists_hasNoClass_of_classify (Fault.of?_eq_some_iff.1 he)
    cases hinner <;> rfl

end Commands

/-- The given files and documents. -/
def machine (files : Directory) (documents : Table String) : Workspace :=
  { root := none, files := files.store, documents }

/-- The payload that asks for the entry `f` of a file. -/
def askForF : Table Value := [("path", .text "a.py"), ("entry", .text "f")]

end Server

end CallCompletion
