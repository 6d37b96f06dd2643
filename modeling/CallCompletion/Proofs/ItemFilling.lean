import CallCompletion.Files.Memory
import CallCompletion.Server.Answers

/-!
# Filling in items

An item that was offered at a place of a document is filled in from the document of its URI. The
command for the snippet of an entry looks for the document by its path, among all open ones. If one
document alone has the path, both come to the same text and the same settings, and what the command
answers is what is filled in. One thing keeps the command from answering where the item is filled
in: a document before the one that is looked for whose URI has no path.
-/

namespace CallCompletion

/-! ## The spelling of paths -/

namespace Text

/-- Taking a text apart at a character is the splitting of lists. -/
theorem splitAtChar_eq_splitOn (sep : Char) (cs : List Char) :
    splitAtChar sep cs = cs.splitOn sep := by
  induction cs with
  | nil => rfl
  | cons c rest ih =>
    have hsplit : (c :: rest).splitOn sep =
        if c == sep then [] :: rest.splitOn sep else (rest.splitOn sep).modifyHead (c :: ·) :=
      List.splitOnP_cons_eq_if_modifyHead c rest
    rw [hsplit, splitAtChar, ih]
    by_cases hc : c = sep
    · simp [hc]
    · obtain ⟨piece, pieces, hrest⟩ := List.exists_cons_of_ne_nil (List.splitOn_ne_nil sep rest)
      simp [hc, hrest]

/-- No piece holds the character that a text is taken apart at. -/
theorem not_mem_of_mem_splitAtChar {sep : Char} {cs piece : List Char}
    (h : piece ∈ splitAtChar sep cs) : sep ∉ piece := by
  fun_induction splitAtChar sep cs generalizing piece with
  | case1 =>
    rw [List.mem_singleton.1 h]
    exact List.not_mem_nil
  | case2 rest ih =>
    rcases List.mem_cons.1 h with rfl | h
    · exact List.not_mem_nil
    · exact ih h
  | case3 c rest hc hrest ih =>
    rw [List.mem_singleton.1 h]
    simpa using Ne.symm hc
  | case4 c rest hc head pieces hrest ih =>
    rw [hrest] at ih
    rcases List.mem_cons.1 h with rfl | h
    · simpa [Ne.symm hc] using ih List.mem_cons_self
    · exact ih (List.mem_cons_of_mem head h)

end Text

namespace Files

open CallCompletion.Text

namespace Path

/-- A path whose names can stand between slashes, and are not dropped there. -/
def IsPlain (p : Path) : Prop := ∀ n ∈ p.names, n ≠ "" ∧ n ≠ "." ∧ '/' ∉ n.toList

theorem isPlain_ofText (s : String) : (ofText s).IsPlain := by
  intro n hn
  obtain ⟨hmem, hkept⟩ := List.mem_filter.1 hn
  obtain ⟨piece, hpiece, rfl⟩ := List.mem_map.1 hmem
  have hslash := not_mem_of_mem_splitAtChar hpiece
  simpa [and_assoc, String.toList_ofList, hslash] using hkept

/-- The names that a text spells between slashes. -/
def namesIn (cs : List Char) : List String :=
  ((splitAtChar '/' cs).map String.ofList).filter fun n ↦ n != "" && n != "."

theorem names_ofText (s : String) : (ofText s).names = namesIn s.toList := rfl

theorem namesIn_slash (cs : List Char) : namesIn ('/' :: cs) = namesIn cs := by
  simp [namesIn, splitAtChar]

theorem namesIn_rootText (root : Root) (cs : List Char) :
    namesIn (root.text.toList ++ cs) = namesIn cs := by
  cases root with
  | here => rfl
  | slash => exact namesIn_slash cs
  | doubleSlash => exact (namesIn_slash _).trans (namesIn_slash cs)

theorem rootOf_rootText (root : Root) {cs : List Char} (h : cs.head? ≠ some '/') :
    rootOf (root.text.toList ++ cs) = root := by
  cases cs with
  | nil => cases root <;> rfl
  | cons c rest =>
    have hc : c ≠ '/' := by simpa using h
    cases root <;> simp [Root.text, rootOf, hc]

variable {p : Path}

theorem namesIn_intercalate (h : p.IsPlain) :
    namesIn ("/".intercalate p.names).toList = p.names := by
  have hkept : ∀ n ∈ p.names, (n != "" && n != ".") = true := by
    intro n hn
    simp [(h n hn).1, (h n hn).2.1]
  by_cases hnames : p.names = []
  · rw [hnames]
    rfl
  · have hsplit : splitAtChar '/' ("/".intercalate p.names).toList =
        p.names.map String.toList := by
      rw [splitAtChar_eq_splitOn, String.toList_intercalate]
      apply List.splitOn_intercalate
      · intro l hl
        obtain ⟨n, hn, rfl⟩ := List.mem_map.1 hl
        exact (h n hn).2.2
      · simpa using hnames
    rw [namesIn, hsplit, List.map_map, List.filter_eq_self.2]
    · simp [Function.comp_def]
    · intro n hn
      apply hkept
      simpa using hn

theorem head?_intercalate (h : p.IsPlain) : ("/".intercalate p.names).toList.head? ≠ some '/' := by
  cases hnames : p.names with
  | nil => simp
  | cons n rest =>
    obtain ⟨hempty, -, hslash⟩ := h n (by simp [hnames])
    obtain ⟨c, cs, hn⟩ := List.exists_cons_of_ne_nil (mt String.toList_eq_nil_iff.1 hempty)
    have hc : c ≠ '/' := by
      rintro rfl
      simp [hn] at hslash
    cases rest <;> simp [String.toList_intercalate, hn, hc]

/-- A plain path is the one that its text spells. -/
theorem ofText_text (h : p.IsPlain) : ofText p.text = p := by
  -- The current directory is the one path that is not spelled by its root and its names.
  by_cases hdot : p.root = .here ∧ p.names = []
  · obtain ⟨root, names⟩ := p
    obtain ⟨rfl, rfl⟩ := hdot
    decide +kernel
  · have htext : p.text = p.root.text ++ "/".intercalate p.names := by
      unfold text
      split
      · exact absurd ⟨by assumption, by assumption⟩ hdot
      · rfl
    have hroot : (ofText p.text).root = p.root := by
      rw [htext, ofText, String.toList_append]
      exact rootOf_rootText p.root (head?_intercalate h)
    have hnames : (ofText p.text).names = p.names := by
      calc (ofText p.text).names
          = namesIn (p.root.text.toList ++ ("/".intercalate p.names).toList) := by
            rw [names_ofText, htext, String.toList_append]
        _ = namesIn ("/".intercalate p.names).toList := namesIn_rootText p.root _
        _ = p.names := namesIn_intercalate h
    exact congr (congrArg Path.mk hroot) hnames

end Path

/-- A URI has the path of some text, unless its host is wrong. -/
theorem exists_pathOfUri_eq (uri : String) :
    ∃ host s, pathOfUri uri = (checkHost host).map fun _ ↦ Path.ofText s := by
  unfold pathOfUri
  generalize splitScheme (tidyUri uri.toList) = parts
  obtain ⟨scheme, rest⟩ := parts
  by_cases hfile : scheme = "file".toList
  · refine ⟨(splitHost rest).1, String.ofList (unescape (uriPath (splitHost rest).2)), ?_⟩
    simp only [hfile, if_true]
    cases checkHost (splitHost rest).1 <;> rfl
  · refine ⟨(splitHost rest).1, uri, ?_⟩
    simp only [hfile, if_false]
    cases checkHost (splitHost rest).1 <;> rfl

/-- No name in the path of a URI is dropped when the path is spelled and read again. -/
theorem isPlain_of_pathOfUri {uri : String} {p : Path} (h : pathOfUri uri = .ok p) :
    p.IsPlain := by
  obtain ⟨host, s, huri⟩ := exists_pathOfUri_eq uri
  obtain ⟨-, -, rfl⟩ := Fault.map_eq_ok_iff.1 (huri.symm.trans h)
  exact Path.isPlain_ofText s

end Files

namespace Server

open CallCompletion.Data
open CallCompletion.Files
open CallCompletion.Request
open CallCompletion.Source
open CallCompletion.Text

/-! ## Documents by their paths -/

namespace Workspace

/-- A document with another path than the given one. -/
def IsElsewhere (p : Path) (d : String × String) : Prop := ∃ q, q ≠ p ∧ pathOfUri d.1 = .ok q

variable {p : Path} {documents : Table String}

/-- Documents that are elsewhere are passed over. -/
theorem documentAt?_append (before rest : Table String) (h : ∀ d ∈ before, IsElsewhere p d) :
    documentAt? p (before ++ rest) = documentAt? p rest := by
  induction before with
  | nil => rfl
  | cons d before ih =>
    obtain ⟨q, hne, hpath⟩ := h d List.mem_cons_self
    rw [List.cons_append, documentAt?, hpath]
    exact (if_neg hne).trans (ih fun b hb ↦ h b (List.mem_cons_of_mem d hb))

/-- The search for a document passes over all of them, or ends at the first one that is not
elsewhere: it has the path, or has none. -/
theorem documentAt?_cases (p : Path) (documents : Table String) :
    (∀ d ∈ documents, IsElsewhere p d) ∨
      ∃ before d after, documents = before ++ d :: after ∧ (∀ b ∈ before, IsElsewhere p b) ∧
        (pathOfUri d.1 = .ok p ∧ documentAt? p documents = .ok (some d.2) ∨
          ∃ f, pathOfUri d.1 = .error f ∧ documentAt? p documents = .error f) := by
  induction documents with
  | nil => exact .inl fun d hd ↦ absurd hd List.not_mem_nil
  | cons d rest ih =>
    cases hpath : pathOfUri d.1 with
    | error f =>
      refine .inr ⟨[], d, rest, rfl, by simp, .inr ⟨f, hpath, ?_⟩⟩
      rw [documentAt?, hpath]
      rfl
    | ok q =>
      by_cases hq : q = p
      · refine .inr ⟨[], d, rest, rfl, by simp, .inl ⟨hq ▸ hpath, ?_⟩⟩
        rw [documentAt?, hpath]
        exact if_pos hq
      · have hd : IsElsewhere p d := ⟨q, hq, hpath⟩
        have hpass : documentAt? p (d :: rest) = documentAt? p rest :=
          documentAt?_append [d] rest (by simpa using hd)
        rw [hpass]
        rcases ih with hall | ⟨before, e, after, rfl, hbefore, hend⟩
        · exact .inl (List.forall_mem_cons.2 ⟨hd, hall⟩)
        · exact .inr ⟨d :: before, e, after, rfl, List.forall_mem_cons.2 ⟨hd, hbefore⟩, hend⟩

end Workspace

/-! ## One document with a path -/

/-- The documents before the one of a URI. -/
def Workspace.earlier (w : Workspace) (uri : String) : Table String :=
  w.documents.takeWhile (·.1 != uri)

section OneDocument

open Workspace

variable {w : Workspace} {uri text : String} {p : Path} (hpath : pathOfUri uri = .ok p)
  (hdocument : (uri, text) ∈ w.documents)
  (honly : ∀ d ∈ w.documents, pathOfUri d.1 = .ok p → d = (uri, text))

include hpath in
theorem earlier_of_append {before rest : Table String} (h : w.documents = before ++ rest)
    (hbefore : ∀ d ∈ before, IsElsewhere p d) :
    w.earlier uri = before ++ rest.takeWhile (·.1 != uri) := by
  rw [Workspace.earlier, h, List.takeWhile_append_of_pos]
  intro d hd
  obtain ⟨q, hne, hq⟩ := hbefore d hd
  rw [bne_iff_ne]
  intro heq
  rw [heq, hpath] at hq
  exact hne (Except.ok.inj hq).symm

include hpath hdocument honly

theorem documentText_eq : w.documentText uri = text := by
  obtain ⟨other, hother⟩ : ∃ other, w.documents.get? uri = some other := by
    rw [← Option.isSome_iff_exists, Table.get?, List.lookup_isSome_iff]
    exact ⟨_, hdocument, beq_self_eq_true uri⟩
  have heq := honly (uri, other) (Table.mem_of_get? hother) hpath
  rw [Workspace.documentText, hother]
  exact congrArg Prod.snd heq

/-- The search for the one document with a path finds it, unless a document before it has no
path. -/
theorem documentAt?_of_only :
    (∀ d ∈ w.earlier uri, ∃ q, pathOfUri d.1 = .ok q) ∧
        documentAt? p w.documents = .ok (some text) ∨
      ∃ d ∈ w.earlier uri, ∃ f, pathOfUri d.1 = .error f ∧
        documentAt? p w.documents = .error f := by
  rcases documentAt?_cases p w.documents with hall | ⟨before, d, after, hsplit, hbefore, hend⟩
  · obtain ⟨q, hne, hq⟩ := hall _ hdocument
    exact absurd (Except.ok.inj (hpath.symm.trans hq)).symm hne
  · have hearlier := earlier_of_append hpath hsplit hbefore
    rcases hend with ⟨hd, hfound⟩ | ⟨f, hd, hfault⟩
    · obtain rfl := honly d (by simp [hsplit]) hd
      refine .inl ⟨fun b hb ↦ ?_, hfound⟩
      rw [hearlier, List.takeWhile_cons_of_neg (by simp), List.append_nil] at hb
      obtain ⟨q, -, hq⟩ := hbefore b hb
      exact ⟨q, hq⟩
    · have hne : d.1 ≠ uri := by
        intro heq
        rw [heq, hpath] at hd
        cases hd
      refine .inr ⟨d, ?_, f, hd, hfault⟩
      simp [hearlier, hne]

end OneDocument

/-! ## The command after its request is read -/

/-- The place that a request names. -/
def placeOf (request : CompletionRequest) : Option Position :=
  request.line.map fun line ↦ ⟨line, request.character⟩

/-- The answer to a request for the snippet of an entry, under given settings. -/
def answerWith [CharacterNames] (standIn : StandIn) (w : Workspace) (request : CompletionRequest)
    (config : SnippetConfig) : Except Fault CompletionAnswer := do
  match ← w.sourceAt (Path.ofText request.path) with
  | .error refusal => return { errors := [unreadable (Path.ofText request.path) refusal] }
  | .ok source =>
    checkSourceName (Path.ofText request.path)
    let completion ← resolveCompletion (SourceModule.ofSourceAs standIn source).engine request.entry
      request.label (placeOf request) request.parent config
    return { completion }

theorem completionSnippetAs_eq [CharacterNames] (standIn : StandIn) (w : Workspace)
    (record : Table Value) :
    completionSnippetAs standIn w (.table record) =
      match readCompletionRequest record with
      | .invalid issues => .ok { errors := [report "CompletionSnippetRequest" issues] }
      | .valid request =>
        orAnswer (w.snippetConfig request.options .python) (fun e ↦ { errors := [e] })
          (answerWith standIn w request) := by
  unfold completionSnippetAs
  rfl

theorem answerWith_of_source [CharacterNames] (standIn : StandIn) {w : Workspace}
    (request : CompletionRequest) {source : String}
    (h : w.sourceAt (Path.ofText request.path) = .ok (.ok source))
    (hname : '\x00' ∉ (Path.ofText request.path).text.toList) (config : SnippetConfig) :
    answerWith standIn w request config =
      (resolveCompletion (SourceModule.ofSourceAs standIn source).engine request.entry request.label
        (placeOf request) request.parent config).map fun completion ↦ { completion } := by
  have hcheck : checkSourceName (Path.ofText request.path) = .ok () :=
    checkSourceName_eq_ok_iff.2 hname
  rw [answerWith, h]
  simp only [bind, Except.bind, hcheck]
  rfl

theorem map_orAnswer {α β : Type} (settings : Except Fault SnippetConfig) (answer : String → α)
    (go : SnippetConfig → Except Fault α) (g : α → β) :
    (orAnswer settings answer go).map g =
      orAnswer settings (fun e ↦ g (answer e)) fun config ↦ (go config).map g := by
  unfold orAnswer
  split
  · rfl
  · split <;> rfl

theorem orAnswer_congr {α : Type} {settings : Except Fault SnippetConfig} {answer : String → α}
    {go go' : SnippetConfig → Except Fault α}
    (h : ∀ config, settings = .ok config → go config = go' config) :
    orAnswer settings answer go = orAnswer settings answer go' := by
  cases settings with
  | error f => rfl
  | ok config => exact h config rfl

section Settings

variable {α : Type} {settings : Except Fault SnippetConfig} {answer : String → α}
  {go : SnippetConfig → Except Fault α}

/-- Settings are used, or answered for if they violate what is promised of them. -/
theorem orAnswer_eq_ok_iff {a : α} :
    orAnswer settings answer go = .ok a ↔
      (∃ config, settings = .ok config ∧ go config = .ok a) ∨
        ∃ f, settings = .error f ∧ f.facts?.isSome ∧ answer f.message = a := by
  cases settings with
  | ok config => simp [orAnswer]
  | error f => cases hfacts : f.facts?.isSome <;> simp [orAnswer, hfacts]

/-- Other faults of the settings are not answered. -/
theorem orAnswer_eq_error_iff {f : Fault} :
    orAnswer settings answer go = .error f ↔
      settings = .error f ∧ f.facts? = none ∨
        ∃ config, settings = .ok config ∧ go config = .error f := by
  cases settings with
  | ok config => simp [orAnswer]
  | error g =>
    by_cases hfacts : g.facts? = none
    · simpa [orAnswer, hfacts] using fun h ↦ h ▸ hfacts
    · have hsome : g.facts?.isSome = true := Option.isSome_iff_ne_none.2 hfacts
      simpa [orAnswer, hsome] using fun h ↦ h ▸ hfacts

end Settings

/-! ## Items and payloads -/

/-- The payload with which the command for the snippet of an entry asks for an item: what the item
carries, with the path of its document in place of the URI, and its label as the entry. -/
def CompletionItem.payload (item : CompletionItem) (p : Path) : Table Value :=
  ("path", .text p.text) :: ("entry", .text item.label) ::
    item.data.entries.filter (·.1 != "uri")

/-- An item after an answer of the command. -/
def CompletionItem.after (item : CompletionItem) (answer : CompletionAnswer) : CompletionItem :=
  (answer.completion.map item.filled).getD item

/-- An item as it is offered: it has a label, a kind and what it is filled in by. -/
def offeredItem (label : String) (kind : Option Nat) (uri : String) (line character : Int)
    (parent : Option String) : CompletionItem :=
  { label, kind, data := itemData uri line character parent }

/-- Every item offered is made from a label and a kind by the same place and parent. -/
theorem exists_offeredItem [CharacterNames] {w : Workspace} {uri : String}
    {line character : Int} {items : List CompletionItem} {item : CompletionItem}
    (hitems : completions w uri line character = .ok items) (hitem : item ∈ items) :
    ∃ label kind, item = offeredItem label kind uri line character
      (parentAt (splitLinesKeeping (w.documentText uri).toList) line character) := by
  obtain ⟨p, -, hitems⟩ := Fault.bind_eq_ok_iff.1 hitems
  obtain ⟨-, -, hitems⟩ := Fault.bind_eq_ok_iff.1 hitems
  cases hitems
  obtain ⟨s, -, rfl⟩ := List.mem_map.1 hitem
  exact ⟨s.name, itemKind s.kind, rfl⟩

/-- Items are offered in documents only whose paths can name them. -/
theorem not_mem_text_of_completions [CharacterNames] {w : Workspace} {uri : String}
    {line character : Int} {items : List CompletionItem} {p : Path} (hpath : pathOfUri uri = .ok p)
    (hitems : completions w uri line character = .ok items) : '\x00' ∉ p.text.toList := by
  obtain ⟨q, hq, hitems⟩ := Fault.bind_eq_ok_iff.1 hitems
  obtain ⟨u, hname, -⟩ := Fault.bind_eq_ok_iff.1 hitems
  obtain rfl : p = q := Except.ok.inj (hpath.symm.trans hq)
  exact checkSourceName_eq_ok_iff.1 hname

section Offered

variable (label : String) (kind : Option Nat) (uri : String) (line character : Int)
  (parent : Option String)

/-- The request for the snippet of an entry at a place, with no options. -/
def entryRequest (p : Path) : CompletionRequest :=
  { options := {}, path := p.text, entry := label, label := none, line := some line, character,
    parent }

theorem readCompletionRequest_payload (p : Path) :
    readCompletionRequest ((offeredItem label kind uri line character parent).payload p) =
      .valid (entryRequest label line character parent p) := by
  cases parent <;> rfl

theorem itemPlace_offeredItem :
    itemPlace (offeredItem label kind uri line character parent).data =
      .ok (⟨line, character⟩, parent) := by
  cases parent <;> rfl

theorem resolveItem_offeredItem [CharacterNames] (w : Workspace) {p : Path} (huri : uri ≠ "")
    (hpath : pathOfUri uri = .ok p) (hname : '\x00' ∉ p.text.toList) :
    let item := offeredItem label kind uri line character parent
    resolveItem w item =
      orAnswer (w.snippetConfig {} .python) (fun _ ↦ item) fun config ↦
        (resolveCompletion (SourceModule.ofSource (w.documentText uri)).engine label (some label)
          (some ⟨line, character⟩) parent config).map fun c ↦ (c.map item.filled).getD item := by
  intro item
  have hdata : (item.data.get? "uri").filter Value.isTruthy = some (.text uri) := by
    have htrue : Value.isTruthy (.text uri) = true := by simpa [Value.isTruthy] using huri
    exact Option.filter_some_pos htrue
  have hplace := itemPlace_offeredItem label kind uri line character parent
  rw [resolveItem, hdata]
  have hcheck : checkSourceName p = .ok () := checkSourceName_eq_ok_iff.2 hname
  have huriText : (Value.text uri).toText = .ok uri := rfl
  simp only [bind, Except.bind, huriText, hpath, hcheck, item, hplace]
  change orAnswer (w.snippetConfig {} .python) (fun _ ↦ item) _ = _
  apply orAnswer_congr
  intro config hconfig
  change (resolveCompletion (SourceModule.ofSource (w.documentText uri)).engine label (some label)
    (some ⟨line, character⟩) parent config >>= _) = _
  cases resolveCompletion (SourceModule.ofSource (w.documentText uri)).engine label (some label)
      (some ⟨line, character⟩) parent config with
  | error f => rfl
  | ok c => cases c <;> rfl

end Offered

/-- An entry is completed under its own name whether it is given as the label or not. -/
theorem resolveCompletion_label {σ : Type} (e : Engine σ) (entry : String)
    (position : Option Position) (parent : Option String) (config : SnippetConfig) :
    resolveCompletion e entry (some entry) position parent config =
      resolveCompletion e entry none position parent config := by
  have hlabel : chosenLabel (some entry) entry = chosenLabel none entry := by
    unfold chosenLabel
    split <;> simp_all
  rw [resolveCompletion, resolveCompletion, hlabel]

/-! ## The agreement -/

/-- An open document is the source at its path. -/
theorem sourceAt_of_documentAt? {w : Workspace} {p : Path} {text : String}
    (h : Workspace.documentAt? p w.documents = .ok (some text)) :
    w.sourceAt p = .ok (.ok text) := by
  rw [Workspace.sourceAt, h]
  rfl

/-- An answer has no errors or no completion. -/
theorem errors_eq_nil_or_completion_eq_none [CharacterNames] {w : Workspace}
    {record : Table Value} {answer : CompletionAnswer}
    (h : completionSnippetFor w (.table record) = .ok answer) :
    answer.errors = [] ∨ answer.completion = none := by
  rw [completionSnippetFor, completionSnippetAs_eq] at h
  split at h
  · cases h
    exact .inr rfl
  · rcases orAnswer_eq_ok_iff.1 h with ⟨config, -, hanswer⟩ | ⟨f, -, -, rfl⟩
    · obtain ⟨source, -, hanswer⟩ := Fault.bind_eq_ok_iff.1 hanswer
      cases source with
      | error refusal =>
        cases hanswer
        exact .inr rfl
      | ok source =>
        obtain ⟨-, -, hanswer⟩ := Fault.bind_eq_ok_iff.1 hanswer
        obtain ⟨completion, -, hanswer⟩ := Fault.bind_eq_ok_iff.1 hanswer
        cases hanswer
        exact .inl rfl
    · exact .inr rfl

/-- Filling in an item leaves its label, its kind and its data as they are. -/
theorem resolveItem_keeps [CharacterNames] {w : Workspace} {item filled : CompletionItem}
    (h : resolveItem w item = .ok filled) :
    filled.label = item.label ∧ filled.kind = item.kind ∧ filled.data = item.data := by
  unfold resolveItem at h
  split at h
  · cases h
    exact ⟨rfl, rfl, rfl⟩
  · obtain ⟨uri, -, h⟩ := Fault.bind_eq_ok_iff.1 h
    obtain ⟨p, -, h⟩ := Fault.bind_eq_ok_iff.1 h
    obtain ⟨-, -, h⟩ := Fault.bind_eq_ok_iff.1 h
    obtain ⟨place, -, h⟩ := Fault.bind_eq_ok_iff.1 h
    rcases orAnswer_eq_ok_iff.1 h with ⟨config, -, h⟩ | ⟨f, -, -, rfl⟩
    · obtain ⟨completion, -, h⟩ := Fault.bind_eq_ok_iff.1 h
      cases completion with
      | none =>
        cases h
        exact ⟨rfl, rfl, rfl⟩
      | some c =>
        cases h
        exact ⟨rfl, rfl, rfl⟩
    · exact ⟨rfl, rfl, rfl⟩

/-- An answer that an item is filled in with can be read off the item. -/
theorem CompletionItem.after_iff {item : CompletionItem} (hitem : item.insertText = none)
    (answer : CompletionAnswer) (snippet display documentation : String) :
    ((item.after answer).insertText = some snippet ∧ (item.after answer).detail = some display ∧
        (item.after answer).documentation =
          if documentation = "" then none else some documentation) ↔
      ∃ detail, detail.display = display ∧ detail.documentation = documentation ∧
        answer.completion = some ⟨detail, snippet⟩ := by
  cases hcompletion : answer.completion with
  | none => simp [CompletionItem.after, hcompletion, hitem]
  | some c =>
    obtain ⟨detail, text⟩ := c
    simp only [CompletionItem.after, hcompletion, Option.map_some, Option.getD_some,
      CompletionItem.filled, Option.some.injEq, CompletionSnippet.mk.injEq]
    constructor
    · rintro ⟨rfl, rfl, hdocumentation⟩
      refine ⟨detail, rfl, ?_, rfl, rfl⟩
      by_cases hempty : detail.documentation = ""
      · by_cases hempty' : documentation = "" <;> simp_all
      · by_cases hempty' : documentation = "" <;> simp_all
    · rintro ⟨other, rfl, rfl, rfl, rfl⟩
      simp

section Agreement

variable [CharacterNames] {w : Workspace} {uri text : String} {p : Path} {line character : Int}
  {items : List CompletionItem} {item : CompletionItem} (hpath : pathOfUri uri = .ok p)
  (hitems : completions w uri line character = .ok items)
  (hitem : item ∈ items)

include hpath hitems hitem

/-- An item is filled in with the answer of the command, if it finds the document whenever it gets
to look for it. -/
theorem resolveItem_eq_map (huri : uri ≠ "") (htext : w.documentText uri = text)
    (hfound : ∀ config, w.snippetConfig {} .python = .ok config →
      Workspace.documentAt? p w.documents = .ok (some text)) :
    resolveItem w item = (completionSnippetFor w (.table (item.payload p))).map item.after := by
  obtain ⟨label, kind, rfl⟩ := exists_offeredItem hitems hitem
  generalize parentAt (splitLinesKeeping (w.documentText uri).toList) line character = parent
  have hname := not_mem_text_of_completions hpath hitems
  rw [resolveItem_offeredItem label kind uri line character parent w huri hpath hname,
    completionSnippetFor, completionSnippetAs_eq, readCompletionRequest_payload]
  simp only [map_orAnswer]
  apply orAnswer_congr
  intro config hconfig
  have hp : Path.ofText p.text = p := Path.ofText_text (isPlain_of_pathOfUri hpath)
  have hsource : w.sourceAt (Path.ofText p.text) = .ok (.ok text) := by
    rw [hp]
    exact sourceAt_of_documentAt? (hfound config hconfig)
  rw [answerWith_of_source .shared (entryRequest label line character parent p) hsource
    (by rwa [entryRequest, hp]), htext, resolveCompletion_label]
  simp only [entryRequest, placeOf, Option.map_some, SourceModule.ofSourceAs]
  cases resolveCompletion (SourceModule.ofSource text).engine label none
      (some ⟨line, character⟩) parent config <;> rfl

/-- The command fails where its search for the document does. -/
theorem completionSnippetFor_payload_eq_error {config : SnippetConfig} {f : Fault}
    (hconfig : w.snippetConfig {} .python = .ok config)
    (hfault : Workspace.documentAt? p w.documents = .error f) :
    completionSnippetFor w (.table (item.payload p)) = .error f := by
  obtain ⟨label, kind, rfl⟩ := exists_offeredItem hitems hitem
  generalize parentAt (splitLinesKeeping (w.documentText uri).toList) line character = parent
  have hsource : w.sourceAt (Path.ofText p.text) = .error f := by
    rw [Path.ofText_text (isPlain_of_pathOfUri hpath), Workspace.sourceAt, hfault]
    rfl
  have hanswer : answerWith .shared w (entryRequest label line character parent p) config =
      .error f := by
    rw [answerWith, entryRequest, hsource]
    rfl
  rw [completionSnippetFor, completionSnippetAs_eq, readCompletionRequest_payload]
  exact orAnswer_eq_error_iff.2 (.inr ⟨config, hconfig, hanswer⟩)

omit hpath in
/-- Nothing is filled in before the editor asks. -/
theorem insertText_of_mem_completions : item.insertText = none := by
  obtain ⟨label, kind, rfl⟩ := exists_offeredItem hitems hitem
  rfl

end Agreement

section Filled

variable [CharacterNames] {w : Workspace} {p : Path} {item : CompletionItem}
  (heq : resolveItem w item = (completionSnippetFor w (.table (item.payload p))).map item.after)

include heq

/-- What is filled in is what the command answers. -/
theorem exists_filled_iff (hempty : item.insertText = none)
    (snippet display documentation : String) :
    (∃ filled, resolveItem w item = .ok filled ∧ filled.insertText = some snippet ∧
      filled.detail = some display ∧
      filled.documentation = if documentation = "" then none else some documentation) ↔
    ∃ detail, detail.display = display ∧ detail.documentation = documentation ∧
      completionSnippetFor w (.table (item.payload p)) =
        .ok { completion := some ⟨detail, snippet⟩, errors := [] } := by
  constructor
  · rintro ⟨filled, hfilled, hshown⟩
    obtain ⟨answer, hanswer, rfl⟩ := Fault.map_eq_ok_iff.1 (heq.symm.trans hfilled)
    obtain ⟨detail, hdisplay, hdocumentation, hcompletion⟩ :=
      (CompletionItem.after_iff hempty answer _ _ _).1 hshown
    have herrors : answer.errors = [] := by
      apply (errors_eq_nil_or_completion_eq_none hanswer).resolve_right
      rw [hcompletion]
      exact Option.some_ne_none _
    refine ⟨detail, hdisplay, hdocumentation, ?_⟩
    rw [hanswer, ← hcompletion, ← herrors]
  · rintro ⟨detail, hdisplay, hdocumentation, hanswer⟩
    have hfilled : resolveItem w item =
        .ok (item.after { completion := some ⟨detail, snippet⟩, errors := [] }) := by
      rw [heq, hanswer]
      rfl
    refine ⟨_, hfilled, ?_⟩
    exact (CompletionItem.after_iff hempty _ _ _ _).2 ⟨detail, hdisplay, hdocumentation, rfl⟩

/-- An answer with errors or without a completion leaves the item as it is. -/
theorem resolveItem_eq_self {answer : CompletionAnswer}
    (hanswer : completionSnippetFor w (.table (item.payload p)) = .ok answer)
    (hnothing : answer.errors ≠ [] ∨ answer.completion = none) : resolveItem w item = .ok item := by
  have hcompletion : answer.completion = none :=
    hnothing.elim (errors_eq_nil_or_completion_eq_none hanswer).resolve_left id
  rw [heq, hanswer, Except.map, CompletionItem.after, hcompletion]
  rfl

end Filled

/-- An item that was offered in the one document with its path is filled in with a snippet and a
description exactly if the command for its label at its place answers with them, and stays as it is
if the command answers with an error or with nothing. This is so unless the settings can be had and
a document before the item's own has no path. Then the command fails. -/
theorem resolveItem_agrees_with_command [CharacterNames] {w : Workspace} {uri text : String}
    {p : Path} {line character : Int} {items : List CompletionItem} {item : CompletionItem}
    (huri : uri ≠ "") (hpath : pathOfUri uri = .ok p) (hdocument : (uri, text) ∈ w.documents)
    (honly : ∀ d ∈ w.documents, pathOfUri d.1 = .ok p → d = (uri, text))
    (hitems : completions w uri line character = .ok items) (hitem : item ∈ items) :
    (∀ filled, resolveItem w item = .ok filled →
      filled.label = item.label ∧ filled.kind = item.kind ∧ filled.data = item.data) ∧
    (((∃ config, w.snippetConfig {} .python = .ok config) →
        ∀ d ∈ w.earlier uri, ∃ q, pathOfUri d.1 = .ok q) →
      (∀ snippet display documentation,
        (∃ filled, resolveItem w item = .ok filled ∧ filled.insertText = some snippet ∧
          filled.detail = some display ∧
          filled.documentation = if documentation = "" then none else some documentation) ↔
        ∃ detail, detail.display = display ∧ detail.documentation = documentation ∧
          completionSnippetFor w (.table (item.payload p)) =
            .ok { completion := some ⟨detail, snippet⟩, errors := [] }) ∧
      (∀ answer, completionSnippetFor w (.table (item.payload p)) = .ok answer →
        answer.errors ≠ [] ∨ answer.completion = none → resolveItem w item = .ok item) ∧
      ∀ f, completionSnippetFor w (.table (item.payload p)) = .error f ↔
        resolveItem w item = .error f) ∧
    ((∃ config, w.snippetConfig {} .python = .ok config) →
      (∃ d ∈ w.earlier uri, ∃ f, pathOfUri d.1 = .error f) →
      ∃ d ∈ w.earlier uri, ∃ f, pathOfUri d.1 = .error f ∧
        completionSnippetFor w (.table (item.payload p)) = .error f) := by
  have hsearch := documentAt?_of_only hpath hdocument honly
  refine ⟨fun filled ↦ resolveItem_keeps, ?_, ?_⟩
  · intro hpaths
    have hfound : ∀ config, w.snippetConfig {} .python = .ok config →
        Workspace.documentAt? p w.documents = .ok (some text) := by
      intro config hconfig
      rcases hsearch with ⟨-, hfound⟩ | ⟨d, hd, f, hf, -⟩
      · exact hfound
      · obtain ⟨q, hq⟩ := hpaths ⟨config, hconfig⟩ d hd
        rw [hf] at hq
        cases hq
    have heq := resolveItem_eq_map hpath hitems hitem huri
      (documentText_eq hpath hdocument honly) hfound
    have hempty := insertText_of_mem_completions hitems hitem
    refine ⟨exists_filled_iff heq hempty, fun answer ↦ resolveItem_eq_self heq, fun f ↦ ?_⟩
    rw [heq, Fault.map_eq_error_iff]
  · rintro ⟨config, hconfig⟩ ⟨d, hd, f, hf⟩
    rcases hsearch with ⟨hpaths, -⟩ | ⟨e, he, g, hg, hfault⟩
    · obtain ⟨q, hq⟩ := hpaths d hd
      rw [hf] at hq
      cases hq
    · exact ⟨e, he, g, hg,
        completionSnippetFor_payload_eq_error hpath hitems hitem hconfig hfault⟩

/-- A single item is known by its label, its kind and the parent it is a member of. -/
theorem completions_eq_singleton [CharacterNames] {w : Workspace} {uri label : String}
    {line character : Int} {kind : Option Nat} {parent : Option String}
    (hlabels : (completions w uri line character).toOption.map
      (List.map fun item ↦ (item.label, item.kind)) = some [(label, kind)])
    (hparent : parentAt (splitLinesKeeping (w.documentText uri).toList) line character = parent) :
    completions w uri line character = .ok [offeredItem label kind uri line character parent] := by
  obtain ⟨items, hitems, hnames⟩ := Fault.exists_ok_of_map_toOption hlabels
  obtain ⟨item, rfl, hname⟩ := List.map_eq_singleton_iff.1 hnames
  obtain ⟨_, _, rfl⟩ := exists_offeredItem hitems (List.mem_singleton_self item)
  cases hname
  rw [hitems, hparent]
  rfl

/-- The document of a function that takes one argument, after a given document, in a workspace
without files. -/
def oneArgument (first : String × String) : Workspace where
  root := none
  files := Directory.store []
  documents := [first, ("file:///a.py", "def f(x): pass\n")]

/-- The item of the function. -/
def argumentItem : CompletionItem := offeredItem "f" (some 3) "file:///a.py" 1 0 none

theorem resolveItem_agrees_on_oneArgument :
    completions (oneArgument ("notes.md", "")) "file:///a.py" 1 0 = .ok [argumentItem] ∧
      ∃ detail, detail.display = "f(x)" ∧ detail.documentation = "" ∧
        completionSnippetFor (oneArgument ("notes.md", ""))
            (.table (argumentItem.payload ⟨.slash, ["a.py"]⟩)) =
          .ok { completion := some ⟨detail, "f($\x7b1:x\x7d)"⟩, errors := [] } := by
  have hitems : completions (oneArgument ("notes.md", "")) "file:///a.py" 1 0 =
      .ok [argumentItem] :=
    completions_eq_singleton (by decide +kernel) (by decide +kernel)
  have hfills : (resolveItem (oneArgument ("notes.md", "")) argumentItem).toOption.map
      (fun item ↦ (item.insertText, item.detail, item.documentation)) =
        some (some "f($\x7b1:x\x7d)", some "f(x)", none) := by
    decide +kernel
  obtain ⟨filled, hfilled, hshown⟩ := Fault.exists_ok_of_map_toOption hfills
  have hnotes : pathOfUri "notes.md" = .ok ⟨.here, ["notes.md"]⟩ := rfl
  have hpath : pathOfUri "file:///a.py" = .ok ⟨.slash, ["a.py"]⟩ := rfl
  have hagrees := resolveItem_agrees_with_command (by decide) hpath
    (List.mem_cons_of_mem _ (List.mem_singleton_self _)) (by simp [oneArgument, hnotes])
    hitems (List.mem_singleton_self _)
  have hearlier := hagrees.2.1 (by simp [Workspace.earlier, oneArgument, hnotes])
  refine ⟨hitems, (hearlier.1 _ _ _).1 ⟨filled, hfilled, ?_⟩⟩
  simpa using hshown

/-- A document before the item's own that has no path: the item is filled in, and the command
fails. -/
theorem completionSnippetFor_fails_where_filled :
    let w := oneArgument ("notes://[draft/todo.md", "")
    completions w "file:///a.py" 1 0 = .ok [argumentItem] ∧
      (∀ d ∈ w.documents, pathOfUri d.1 = .ok ⟨.slash, ["a.py"]⟩ ↔ d.1 = "file:///a.py") ∧
      (∃ filled, resolveItem w argumentItem = .ok filled ∧
        filled.insertText = some "f($\x7b1:x\x7d)" ∧ filled.detail = some "f(x)") ∧
      completionSnippetFor w (.table (argumentItem.payload ⟨.slash, ["a.py"]⟩)) =
        .error .invalidHost := by
  intro w
  have hitems : completions w "file:///a.py" 1 0 = .ok [argumentItem] :=
    completions_eq_singleton (by decide +kernel) (by decide +kernel)
  have hfills : (resolveItem w argumentItem).toOption.map
      (fun item ↦ (item.insertText, item.detail)) =
        some (some "f($\x7b1:x\x7d)", some "f(x)") := by
    decide +kernel
  have hsettings : (w.snippetConfig {} .python).toOption.map (·.dialect) = some .python := by
    decide +kernel
  obtain ⟨filled, hfilled, hshown⟩ := Fault.exists_ok_of_map_toOption hfills
  obtain ⟨config, hconfig, -⟩ := Fault.exists_ok_of_map_toOption hsettings
  have hnotes : pathOfUri "notes://[draft/todo.md" = .error .invalidHost := rfl
  have hpath : pathOfUri "file:///a.py" = .ok ⟨.slash, ["a.py"]⟩ := rfl
  refine ⟨hitems, ?_, ⟨filled, hfilled, by simpa using hshown⟩, ?_⟩
  · simp [w, oneArgument, hnotes, hpath]
  · exact completionSnippetFor_payload_eq_error hpath hitems (List.mem_singleton_self _) hconfig rfl

end Server

end CallCompletion
