import CallCompletion.Proofs.TabStops

/-!
# The plain text of a call snippet

A call snippet is put together from a label, arguments and what stands between them. As long as
none of the texts it is made from holds a dollar sign or a backslash of its own, it is read part by
part: it inserts the label and one plain argument for each required parameter, and its placeholders
are those of the parameters without an example and without a literal.
-/

namespace CallCompletion.Template

open CallCompletion.Text

/-! ## Parts of a template -/

/-- A part of a template that inserts a text and holds the given stops with placeholders, whatever
follows it. The text is free of backslashes, so that nothing in it is an escape. -/
structure Reads (cs text : List Char) (stops : List (String × String)) : Prop where
  alone : ∀ rest, pieces (cs ++ rest) = pieces cs ++ pieces rest
  inserts : expandStops cs = text
  named : (pieces cs).filterMap Piece.named? = stops
  unescaped : '\\' ∉ text

theorem Reads.append {cs cs' text text' : List Char} {stops stops' : List (String × String)}
    (h : Reads cs text stops) (h' : Reads cs' text' stops') :
    Reads (cs ++ cs') (text ++ text') (stops ++ stops') where
  alone rest := by
    rw [List.append_assoc, h.alone, h'.alone, h.alone, List.append_assoc]
  inserts := by
    rw [expandStops_eq_flatMap, h.alone, List.flatMap_append, ← expandStops_eq_flatMap,
      ← expandStops_eq_flatMap, h.inserts, h'.inserts]
  named := by rw [h.alone, List.filterMap_append, h.named, h'.named]
  unescaped hmem := (List.mem_append.1 hmem).elim h.unescaped h'.unescaped

/-- A text without dollar signs and backslashes is read as it stands. -/
theorem Reads.plain {cs : List Char} (hdollar : '$' ∉ cs) (hbackslash : '\\' ∉ cs) :
    Reads cs cs [] := by
  have hpieces : pieces cs = cs.map .plain := by
    have h := pieces_append_of_not_mem hdollar []
    simpa [pieces] using h
  have hnamed : ∀ c ∈ cs, (Piece.plain c).named? = none := fun _ _ ↦ rfl
  refine ⟨fun rest ↦ ?_, ?_, ?_, hbackslash⟩
  · rw [pieces_append_of_not_mem hdollar, hpieces]
  · exact expandStops_of_stopFree (StopFree.of_not_mem hdollar)
  · rw [hpieces, List.filterMap_map]
    exact List.filterMap_eq_nil_iff.2 hnamed

/-- A placeholder inserts its name, in which dollar signs have no meaning. -/
theorem Reads.placeholder {n : Int} (hn : 0 ≤ n) {name : List Char} (hbrace : '}' ∉ name)
    (hbackslash : '\\' ∉ name) :
    Reads (opening n ++ name ++ ['}']) name [(toString n, String.ofList name)] := by
  have hsettled : Settled name :=
    ⟨hbrace, fun rest hrest ↦ absurd (hrest.subset List.mem_cons_self) hbackslash⟩
  have hpieces (rest : List Char) : pieces (opening n ++ name ++ ['}'] ++ rest) =
      .stop ⟨(toString n).toList, some name⟩ :: pieces rest := by
    rw [List.append_assoc, List.append_assoc, List.singleton_append]
    exact pieces_opening_of_some hn (placeholderText?_of_settled hsettled rest)
  have hwhole : pieces (opening n ++ name ++ ['}']) =
      [.stop ⟨(toString n).toList, some name⟩] := by
    have h := hpieces []
    rw [List.append_nil] at h
    rw [h, pieces]
  refine ⟨fun rest ↦ ?_, ?_, ?_, hbackslash⟩
  · rw [hpieces, hwhole]
    rfl
  · rw [expandStops_eq_flatMap, hwhole]
    exact List.append_nil name
  · rw [hwhole]
    simp [Piece.named?]

/-- The final stop of a template inserts nothing. The end of the line keeps it apart from digits
that may follow. -/
theorem Reads.finalStop : Reads ['$', '0', '\n'] ['\n'] [] := by
  have hdigit : isDecimalDigit '0' = true := by decide
  have hline : isDecimalDigit '\n' = false := by decide
  have hstop (rest : List Char) : tabStop? ('0' :: '\n' :: rest) = some ([], '\n' :: rest) := by
    simp [tabStop?, hdigit, hline]
  have hpieces (rest : List Char) : pieces ('$' :: '0' :: '\n' :: rest) =
      .stop ⟨['0'], none⟩ :: .plain '\n' :: pieces rest := by
    rw [pieces_of_stop (hstop rest), pieces_cons_of_ne (by decide)]
    simp [stopRead, hdigit, hline]
  have hwhole : pieces ['$', '0', '\n'] = [.stop ⟨['0'], none⟩, .plain '\n'] := by
    rw [hpieces, pieces]
  refine ⟨fun rest ↦ ?_, ?_, ?_, by decide⟩
  · rw [hwhole]
    exact hpieces rest
  · rw [expandStops_eq_flatMap, hwhole]
    rfl
  · rw [hwhole]
    rfl

/-- A template that is read as a whole inserts its text. -/
theorem Reads.plainText_eq {cs text : List Char} {stops : List (String × String)}
    (h : Reads cs text stops) : plainText cs = text := by
  rw [plainText, h.inserts, unescape_of_escapeFree (EscapeFree.of_not_mem h.unescaped)]

end CallCompletion.Template

namespace CallCompletion.Text

theorem mem_of_mem_trimRight {c : Char} {cs : List Char} (h : c ∈ trimRight cs) : c ∈ cs := by
  induction cs with
  | nil => exact h
  | cons d cs ih =>
    rw [trimRight] at h
    split at h
    · split at h
      · cases h
      · exact List.mem_cons.2 (Or.inl (List.mem_singleton.1 h))
    · rcases List.mem_cons.1 h with rfl | hmem
      · exact List.mem_cons_self
      · exact List.mem_cons_of_mem d (ih hmem)

theorem mem_of_mem_intercalate {c : Char} {separator : List Char} {parts : List (List Char)}
    (h : c ∈ separator.intercalate parts) : c ∈ separator ∨ ∃ part ∈ parts, c ∈ part := by
  induction parts with
  | nil => simp [List.intercalate] at h
  | cons first rest ih =>
    cases rest with
    | nil =>
      rw [List.intercalate_singleton] at h
      exact Or.inr ⟨first, List.mem_cons_self, h⟩
    | cons second rest =>
      rw [List.intercalate_cons_cons, List.append_assoc, List.mem_append, List.mem_append] at h
      rcases h with hfirst | hseparator | hrest
      · exact Or.inr ⟨first, List.mem_cons_self, hfirst⟩
      · exact Or.inl hseparator
      · rcases ih hrest with hseparator | ⟨part, hpart, hc⟩
        · exact Or.inl hseparator
        · exact Or.inr ⟨part, List.mem_cons_of_mem first hpart, hc⟩

theorem intercalate_cons_eq_flatMap (separator first : List Char) (rest : List (List Char)) :
    separator.intercalate (first :: rest) = first ++ rest.flatMap (separator ++ ·) := by
  induction rest generalizing first with
  | nil => simp
  | cons second rest ih => rw [List.intercalate_cons_cons, ih, List.flatMap_cons, List.append_assoc,
      List.append_assoc]

theorem mem_of_mem_trim {c : Char} {cs : List Char} (h : c ∈ trim cs) : c ∈ cs :=
  (List.dropWhile_suffix isBlank).subset (mem_of_mem_trimRight h)

end CallCompletion.Text

namespace CallCompletion.Literal

open CallCompletion.Text

/-! ## The characters of literals -/

theorem mem_of_mem_cutAtCommas {previous : Option Char} {depth : Int} {cs piece : List Char}
    {c : Char} (hpiece : piece ∈ cutAtCommas previous depth cs) (hc : c ∈ piece) : c ∈ cs := by
  induction cs generalizing previous depth piece with
  | nil =>
    rw [cutAtCommas, List.mem_singleton] at hpiece
    rw [hpiece] at hc
    exact hc
  | cons d cs ih =>
    rw [cutAtCommas] at hpiece
    split at hpiece
    · rcases List.mem_cons.1 hpiece with rfl | hpiece
      · cases hc
      · exact List.mem_cons_of_mem d (ih hpiece hc)
    · split at hpiece
      · rw [List.mem_singleton.1 hpiece, List.mem_singleton] at hc
        exact List.mem_cons.2 (Or.inl hc)
      · next first more hcut =>
        rcases List.mem_cons.1 hpiece with rfl | hpiece
        · rcases List.mem_cons.1 hc with rfl | hc
          · exact List.mem_cons_self
          · exact List.mem_cons_of_mem d (ih (hcut ▸ List.mem_cons_self) hc)
        · exact List.mem_cons_of_mem d (ih (hcut ▸ List.mem_cons_of_mem first hpiece) hc)

theorem mem_of_mem_withoutParentheses {c : Char} {cs : List Char}
    (h : c ∈ withoutParentheses cs) : c ∈ cs := by
  unfold withoutParentheses at h
  split at h
  · split at h
    · exact List.mem_cons_of_mem _ ((List.dropLast_prefix _).subset h)
    · exact h
  · exact h

theorem mem_of_mem_parameterName {c : Char} {part : List Char} (h : c ∈ parameterName part) :
    c ∈ part ∨ c = '*' := by
  have hname {c : Char} (hc : c ∈ ((trim ((part.takeWhile (· != ':')).takeWhile
      (· != '='))).reverse.dropWhile (· == '?')).reverse) : c ∈ part := by
    have hreverse := (List.dropWhile_suffix _).subset (List.mem_reverse.1 hc)
    have htrim := mem_of_mem_trim (List.mem_reverse.1 hreverse)
    exact (List.takeWhile_prefix _).subset ((List.takeWhile_prefix _).subset htrim)
  simp only [parameterName] at h
  split at h
  · next rest hrest =>
    rcases List.mem_cons.1 h with rfl | hmem
    · exact Or.inr rfl
    · left
      apply hname
      rw [hrest]
      exact List.mem_cons_of_mem _ (List.mem_cons_of_mem _ (List.mem_cons_of_mem _ hmem))
  · exact Or.inl (hname h)

/-- The parameters of a lambda are spelled with the characters of the printed parameter list. -/
theorem mem_of_mem_lambdaParameters {c : Char} {parameters : String}
    (h : c ∈ (lambdaParameters parameters).toList) :
    c ∈ parameters.toList ∨ c ∈ [',', ' ', '*'] := by
  rw [lambdaParameters, String.toList_intercalate] at h
  rcases mem_of_mem_intercalate h with hseparator | ⟨part, hpart, hc⟩
  · right
    have hchars : (", " : String).toList = [',', ' '] := by decide
    rw [hchars] at hseparator
    exact List.mem_append_left ['*'] hseparator
  · simp only [List.map_map, List.mem_map, Function.comp_apply, String.toList_ofList] at hpart
    obtain ⟨name, hname, rfl⟩ := hpart
    obtain ⟨piece, hpiece, rfl⟩ := List.mem_map.1 (List.mem_filter.1 hname).1
    rcases mem_of_mem_parameterName hc with hmem | rfl
    · left
      obtain ⟨cut, hcut, rfl⟩ := List.mem_map.1 (List.mem_filter.1 hpiece).1
      have hinner := mem_of_mem_cutAtCommas hcut (mem_of_mem_trim hmem)
      exact mem_of_mem_trim (mem_of_mem_withoutParentheses hinner)
    · right
      simp

end CallCompletion.Literal

namespace CallCompletion

open Template

/-! ## What an argument is made from -/

/-- The literal of a parameter: its example, or else the default of its type, if there is one. -/
def Parameter.literal? (p : Parameter) (config : SnippetConfig) : Except Fault (Option String) :=
  match Example.first? p.documentation with
  | none => .error .endlessExamples
  | some (some e) => .ok (some e)
  | some none => typedDefault p config

/-- The number of the tab stop at a position. -/
def SnippetConfig.stopNumber (config : SnippetConfig) (position : Int) : Int :=
  if config.numberedPlaceholders then position else 1

/-- An argument is the literal of its parameter, or else a placeholder. -/
theorem synthesize_eq (p : Parameter) (config : SnippetConfig) (position : Int) :
    synthesize p config position = (p.literal? config).map fun literal ↦
      literal.getD (placeholder p.name (config.stopNumber position)) := by
  unfold synthesize Parameter.literal? SnippetConfig.stopNumber
  cases Example.first? p.documentation with
  | none => rfl
  | some found =>
    cases found with
    | some e => rfl
    | none =>
      cases typedDefault p config with
      | error f => rfl
      | ok literal => cases literal <;> rfl

/-- A parameter for which an argument can be given: the reading of its examples ends, and if there
is none, its type is one of the known ones, and functions are spelled in the dialect. -/
structure Parameter.HasArgument (p : Parameter) (config : SnippetConfig) : Prop where
  examplesEnd : Example.first? p.documentation ≠ none
  typeKnown : Example.first? p.documentation = some none → ∀ name, p.type ≠ .unclassified name
  dialectKnown : Example.first? p.documentation = some none →
    ∀ parameters returns name, p.type = .function parameters returns →
      config.dialect ≠ .unsupported name

/-- A type has a default unless it was not classified, or is a function in an unknown dialect. -/
theorem exists_typedDefault_iff (p : Parameter) (config : SnippetConfig) :
    (∃ literal, typedDefault p config = .ok literal) ↔
      (∀ name, p.type ≠ .unclassified name) ∧
        ∀ parameters returns name, p.type = .function parameters returns →
          config.dialect ≠ .unsupported name := by
  unfold typedDefault
  cases p.type with
  | unclassified name => simp
  | function parameters returns =>
    cases hdialect : config.dialect <;> simp [Literal.function, Except.map]
  | primitive kind =>
    cases kind with
    | string => cases config.specialLiterals.get? p.name <;> simp
    | number | boolean | void => simp
  | enum | sequence | other => simp

/-- A parameter has an argument exactly when there is a literal for it. -/
theorem hasArgument_iff (p : Parameter) (config : SnippetConfig) :
    p.HasArgument config ↔ ∃ literal, p.literal? config = .ok literal := by
  unfold Parameter.literal?
  constructor
  · intro h
    cases hfirst : Example.first? p.documentation with
    | none => exact absurd hfirst h.examplesEnd
    | some found =>
      cases found with
      | some e => exact ⟨some e, rfl⟩
      | none =>
        exact (exists_typedDefault_iff p config).2 ⟨h.typeKnown hfirst, h.dialectKnown hfirst⟩
  · rintro ⟨literal, hliteral⟩
    cases hfirst : Example.first? p.documentation with
    | none =>
      rw [hfirst] at hliteral
      cases hliteral
    | some found =>
      cases found with
      | some e => exact ⟨by simp [hfirst], by simp [hfirst], by simp [hfirst]⟩
      | none =>
        rw [hfirst] at hliteral
        obtain ⟨htype, hdialect⟩ := (exists_typedDefault_iff p config).1 ⟨literal, hliteral⟩
        exact ⟨by simp [hfirst], fun _ ↦ htype, fun _ ↦ hdialect⟩

/-- A text without dollar signs and backslashes. -/
def Unmarked (s : String) : Prop := '$' ∉ s.toList ∧ '\\' ∉ s.toList

instance (s : String) : Decidable (Unmarked s) := inferInstanceAs (Decidable (_ ∧ _))

/-- The texts that the argument of a parameter is made from have no meaning in a template: those of
literals hold no dollar sign and no backslash, and the name of a placeholder holds no closing brace
and no backslash. -/
structure Parameter.PlainSources (p : Parameter) (config : SnippetConfig) : Prop where
  exampleText : ∀ e, Example.first? p.documentation = some (some e) → Unmarked e
  enumTexts : Example.first? p.documentation = some none → ∀ name member,
    p.type = .enum name (some member) → member ≠ "" → Unmarked name ∧ Unmarked member
  parameterList : Example.first? p.documentation = some none → ∀ parameters returns,
    p.type = .function parameters returns → Unmarked parameters
  specialLiteral : Example.first? p.documentation = some none → p.type = .primitive .string →
    ∀ text, config.specialLiterals.get? p.name = some text → Unmarked text
  placeholderName : p.literal? config = .ok none → '}' ∉ p.name.toList ∧ '\\' ∉ p.name.toList

/-- A text without its final stops `$0`. -/
def withoutFinalStops : List Char → List Char
  | [] => []
  | '$' :: '0' :: rest => withoutFinalStops rest
  | c :: rest => c :: withoutFinalStops rest

/-- The plain argument for a parameter: its literal without final stops, or else its name. -/
def Parameter.plainArgument (p : Parameter) (config : SnippetConfig) : String :=
  match p.literal? config with
  | .ok (some literal) => String.ofList (withoutFinalStops literal.toList)
  | _ => p.name

/-- The stop of a parameter at a position, if its argument is a placeholder. -/
def Parameter.stop? (p : Parameter) (config : SnippetConfig) (position : Int) :
    Option (String × String) :=
  match p.literal? config with
  | .ok none => some (toString (config.stopNumber position), p.name)
  | _ => none

/-! ## Reading an argument -/

theorem withoutFinalStops_append {cs : List Char} (h : '$' ∉ cs) (rest : List Char) :
    withoutFinalStops (cs ++ rest) = cs ++ withoutFinalStops rest := by
  induction cs with
  | nil => rfl
  | cons c cs ih =>
    have hc : c ≠ '$' := fun heq ↦ h (heq ▸ List.mem_cons_self)
    rw [List.cons_append, withoutFinalStops, ih fun hmem ↦ h (List.mem_cons_of_mem c hmem)]
    · rfl
    · exact fun _ heq ↦ absurd heq hc

theorem withoutFinalStops_of_not_mem {cs : List Char} (h : '$' ∉ cs) :
    withoutFinalStops cs = cs := by
  have happend := withoutFinalStops_append h []
  rwa [List.append_nil, withoutFinalStops, List.append_nil] at happend

/-- A literal without dollar signs and backslashes. -/
theorem Unmarked.reads {s : String} (h : Unmarked s) :
    Reads s.toList (withoutFinalStops s.toList) [] := by
  rw [withoutFinalStops_of_not_mem h.1]
  exact Reads.plain h.1 h.2

theorem Unmarked.append {s t : String} (hs : Unmarked s) (ht : Unmarked t) : Unmarked (s ++ t) := by
  simp only [Unmarked, String.toList_append, List.mem_append, not_or]
  exact ⟨⟨hs.1, ht.1⟩, hs.2, ht.2⟩

/-- A literal with one final stop before the end of a line. -/
theorem reads_finalStop {before after : String} (hbefore : Unmarked before)
    (hafter : Unmarked after) :
    Reads (before ++ "$0\n" ++ after).toList
      (withoutFinalStops (before ++ "$0\n" ++ after).toList) [] := by
  have htext : withoutFinalStops (before ++ "$0\n" ++ after).toList =
      before.toList ++ ['\n'] ++ after.toList := by
    have hshape : (before ++ "$0\n" ++ after).toList =
        before.toList ++ '$' :: '0' :: ('\n' :: after.toList) := by simp
    have hline : '$' ∉ '\n' :: after.toList := by simpa using hafter.1
    rw [hshape, withoutFinalStops_append hbefore.1, withoutFinalStops,
      withoutFinalStops_of_not_mem hline]
    simp
  rw [htext, String.toList_append, String.toList_append]
  exact ((Reads.plain hbefore.1 hbefore.2).append Reads.finalStop).append
    (Reads.plain hafter.1 hafter.2)

theorem unmarked_returnValue {dialect : Dialect} {returns : ReturnKind} {value : String}
    (h : Literal.returnValue dialect returns = some value) : Unmarked value := by
  cases returns with
  | number | string =>
    cases h
    decide
  | boolean =>
    cases h
    split <;> decide
  | other => cases h

theorem unmarked_primitive {dialect : Dialect} {kind : PrimitiveKind} {value : String}
    (h : Literal.primitive dialect kind = some value) : Unmarked value := by
  cases kind with
  | number | string =>
    cases h
    decide
  | boolean =>
    cases h
    split <;> decide
  | void => cases h

theorem unmarked_lambdaParameters {parameters : String} (h : Unmarked parameters) :
    Unmarked (Literal.lambdaParameters parameters) := by
  constructor
  · intro hmem
    rcases Literal.mem_of_mem_lambdaParameters hmem with hdollar | hother
    · exact h.1 hdollar
    · simp at hother
  · intro hmem
    rcases Literal.mem_of_mem_lambdaParameters hmem with hbackslash | hother
    · exact h.2 hbackslash
    · simp at hother

/-- A function literal holds at most one final stop, before the end of a line. -/
theorem reads_function {dialect : Dialect} {parameters : String} {returns : ReturnKind}
    {literal : String} (hparameters : Unmarked parameters)
    (h : Literal.function dialect parameters returns = .ok literal) :
    Reads literal.toList (withoutFinalStops literal.toList) [] := by
  cases dialect with
  | unsupported name => cases h
  | python =>
    have hnames := unmarked_lambdaParameters hparameters
    have hhead : Unmarked (if (Literal.lambdaParameters parameters).isEmpty then "lambda:"
        else "lambda " ++ Literal.lambdaParameters parameters ++ ":") := by
      split
      · decide
      · exact (Unmarked.append (by decide) hnames).append (by decide +kernel)
    have hvalue : Unmarked ((Literal.returnValue .python returns).getD "None") := by
      cases hreturns : Literal.returnValue .python returns with
      | none => decide
      | some value => exact unmarked_returnValue hreturns
    simp only [Literal.function, Except.ok.injEq] at h
    rw [← h]
    exact ((hhead.append (by decide)).append hvalue).reads
  | typescript =>
    have hbefore : Unmarked ("function " ++ parameters ++ " \x7b\n\t") :=
      (Unmarked.append (by decide) hparameters).append (by decide +kernel)
    have hafter : Unmarked "\x7d" := by decide
    cases hreturns : Literal.returnValue .typescript returns with
    | none =>
      have hshape : literal = "function " ++ parameters ++ " \x7b\n\t" ++ "$0\n" ++ "\x7d" := by
        simp only [Literal.function, hreturns, Option.map_none, Option.getD_none] at h
        cases h
        apply String.toList_inj.1
        simp
      rw [hshape]
      exact reads_finalStop hbefore hafter
    | some value =>
      have hbody : Unmarked ("return " ++ value ++ ";") :=
        (Unmarked.append (by decide) (unmarked_returnValue hreturns)).append
          (by decide)
      have hshape : literal = "function " ++ parameters ++ " \x7b\n\t" ++
          ("return " ++ value ++ ";") ++ "$0\n" ++ "\x7d" := by
        simp only [Literal.function, hreturns, Option.map_some, Option.getD_some] at h
        cases h
        apply String.toList_inj.1
        simp
      rw [hshape]
      exact reads_finalStop (hbefore.append hbody) hafter

/-- The default of a type is a member of an enumeration, a function, an empty sequence, a special
literal or the default of a primitive type. -/
theorem typedDefault_cases {p : Parameter} {config : SnippetConfig} {literal : String}
    (h : typedDefault p config = .ok (some literal)) :
    (∃ name member, p.type = .enum name (some member) ∧ member ≠ "" ∧
      literal = Literal.enumMember name member) ∨
    (∃ parameters returns, p.type = .function parameters returns ∧
      Literal.function config.dialect parameters returns = .ok literal) ∨
    (∃ isTuple, p.type = .sequence isTuple ∧
      literal = Literal.emptySequence config.dialect isTuple) ∨
    (∃ text, p.type = .primitive .string ∧ config.specialLiterals.get? p.name = some text ∧
      literal = Literal.block config.dialect text) ∨
    ∃ kind, p.type = .primitive kind ∧ Literal.primitive config.dialect kind = some literal := by
  unfold typedDefault at h
  split at h
  · next name member htype =>
    left
    cases member with
    | none => cases h
    | some member =>
      by_cases hempty : member = ""
      · simp [hempty] at h
      · simp only [Option.bind_some, String.isEmpty_iff, hempty, if_false] at h
        cases h
        exact ⟨name, member, htype, hempty, rfl⟩
  · next parameters returns htype =>
    right; left
    cases hfunction : Literal.function config.dialect parameters returns with
    | error f =>
      rw [hfunction] at h
      cases h
    | ok value =>
      rw [hfunction] at h
      cases h
      exact ⟨parameters, returns, htype, hfunction⟩
  · next isTuple htype =>
    right; right; left
    cases h
    exact ⟨isTuple, htype, rfl⟩
  · next htype =>
    right; right; right
    split at h
    · next text htext =>
      cases h
      exact Or.inl ⟨text, htype, htext, rfl⟩
    · exact Or.inr ⟨.string, htype, Except.ok.inj h⟩
  · next kind _ htype =>
    right; right; right; right
    exact ⟨kind, htype, Except.ok.inj h⟩
  · cases h
  · cases h

theorem unmarked_block {text : String} (h : Unmarked text) (dialect : Dialect) :
    Unmarked (Literal.block dialect text) := by
  unfold Literal.block
  split
  · exact (Unmarked.append (by decide) h).append (by decide +kernel)
  · exact (Unmarked.append (by decide) h).append (by decide +kernel)

theorem unmarked_emptySequence (dialect : Dialect) (isTuple : Bool) :
    Unmarked (Literal.emptySequence dialect isTuple) := by
  unfold Literal.emptySequence
  split <;> decide

/-- The literal of a parameter with plain sources is read by itself, wherever it stands. -/
theorem Parameter.PlainSources.reads_literal {p : Parameter} {config : SnippetConfig}
    (h : p.PlainSources config) {literal : String}
    (hliteral : p.literal? config = .ok (some literal)) :
    Reads literal.toList (withoutFinalStops literal.toList) [] := by
  unfold Parameter.literal? at hliteral
  cases hfirst : Example.first? p.documentation with
  | none =>
    rw [hfirst] at hliteral
    cases hliteral
  | some found =>
    rw [hfirst] at hliteral
    cases found with
    | some e =>
      cases hliteral
      exact (h.exampleText _ hfirst).reads
    | none =>
      rcases typedDefault_cases hliteral with ⟨name, member, htype, hne, rfl⟩ |
        ⟨parameters, returns, htype, hfunction⟩ | ⟨isTuple, _, rfl⟩ | ⟨text, htype, htext, rfl⟩ |
        ⟨kind, _, hkind⟩
      · obtain ⟨hname, hmember⟩ := h.enumTexts hfirst name member htype hne
        exact ((hname.append (by decide)).append hmember).reads
      · exact reads_function (h.parameterList hfirst parameters returns htype) hfunction
      · exact (unmarked_emptySequence config.dialect isTuple).reads
      · exact (unmarked_block (h.specialLiteral hfirst htype text htext) config.dialect).reads
      · exact (unmarked_primitive hkind).reads

/-- An argument made from plain sources inserts the plain argument and holds the stop of its
parameter, if it has one. -/
theorem Parameter.PlainSources.reads_argument {p : Parameter} {config : SnippetConfig}
    (h : p.PlainSources config) {position : Int} (hposition : 0 ≤ position) {argument : String}
    (hargument : synthesize p config position = .ok argument) :
    Reads argument.toList (p.plainArgument config).toList (p.stop? config position).toList := by
  rw [synthesize_eq] at hargument
  unfold Parameter.plainArgument Parameter.stop?
  cases hliteral : p.literal? config with
  | error f =>
    rw [hliteral] at hargument
    cases hargument
  | ok literal =>
    rw [hliteral] at hargument
    cases literal with
    | some literal =>
      cases hargument
      simpa using h.reads_literal hliteral
    | none =>
      have hnumber : 0 ≤ config.stopNumber position := by
        unfold SnippetConfig.stopNumber
        split <;> omega
      obtain ⟨hbrace, hbackslash⟩ := h.placeholderName hliteral
      cases hargument
      have hreads := Reads.placeholder hnumber hbrace hbackslash
      rw [String.ofList_toList] at hreads
      simpa [toList_placeholder] using hreads

/-! ## Reading a call -/

theorem renderFrom_cons_eq_ok {config : SnippetConfig} {start : Nat} {p : Parameter}
    {rest : List Parameter} {arguments : List String}
    (h : renderFrom config start (p :: rest) = .ok arguments) :
    ∃ argument more, synthesize p config start = .ok argument ∧
      renderFrom config (start + 1 : Nat) rest = .ok more ∧ arguments = argument :: more := by
  rw [renderFrom, Fault.bind_eq_ok_iff] at h
  obtain ⟨argument, hargument, h⟩ := h
  obtain ⟨more, hmore, h⟩ := Fault.bind_eq_ok_iff.1 h
  cases h
  exact ⟨argument, more, hargument, hmore, rfl⟩

/-- The arguments of parameters with plain sources are read one by one. -/
theorem reads_arguments {config : SnippetConfig} {parameters : List Parameter}
    (h : ∀ p ∈ parameters, p.PlainSources config) (start : Nat) {arguments : List String}
    (harguments : renderFrom config start parameters = .ok arguments) :
    Reads (", ".intercalate arguments).toList
      (", ".intercalate (parameters.map (·.plainArgument config))).toList
      ((parameters.zipIdx start).filterMap fun (p, i) ↦ p.stop? config i) := by
  induction parameters generalizing start arguments with
  | nil =>
    cases harguments
    exact Reads.plain (by simp) (by simp)
  | cons p rest ih =>
    obtain ⟨argument, more, hargument, hmore, rfl⟩ := renderFrom_cons_eq_ok harguments
    have hfirst := (h p List.mem_cons_self).reads_argument (by omega) hargument
    have hrest := ih (fun q hq ↦ h q (List.mem_cons_of_mem p hq)) (start + 1) hmore
    have hstops : ((p :: rest).zipIdx start).filterMap (fun (p, i) ↦ p.stop? config i) =
        (p.stop? config start).toList ++
          (rest.zipIdx (start + 1)).filterMap fun (p, i) ↦ p.stop? config i := by
      simp only [List.zipIdx_cons, List.filterMap_cons]
      cases p.stop? config start <;> rfl
    rw [hstops]
    cases rest with
    | nil =>
      cases hmore
      simpa [String.toList_intercalate] using hfirst
    | cons q rest =>
      obtain ⟨second, others, -, -, rfl⟩ := renderFrom_cons_eq_ok hmore
      have hcomma : Reads (", " : String).toList (", " : String).toList [] :=
        Reads.plain (by decide) (by decide +kernel)
      have hreads := (hfirst.append hcomma).append hrest
      simp only [String.toList_intercalate, List.map_cons, List.intercalate_cons_cons] at hreads ⊢
      simpa using hreads

/-- Arguments can be given for parameters if one can be given for each. -/
theorem exists_renderFrom_iff (config : SnippetConfig) (start : Int) (parameters : List Parameter) :
    (∃ arguments, renderFrom config start parameters = .ok arguments) ↔
      ∀ p ∈ parameters, p.HasArgument config := by
  induction parameters generalizing start with
  | nil => simp [renderFrom]
  | cons p rest ih =>
    have hfirst : (∃ argument, synthesize p config start = .ok argument) ↔
        p.HasArgument config := by
      rw [hasArgument_iff, synthesize_eq]
      cases p.literal? config <;> simp [Except.map]
    rw [List.forall_mem_cons, ← hfirst, ← ih (start + 1)]
    constructor
    · rintro ⟨arguments, h⟩
      obtain ⟨argument, hargument, h⟩ := Fault.bind_eq_ok_iff.1 h
      obtain ⟨more, hmore, -⟩ := Fault.bind_eq_ok_iff.1 h
      exact ⟨⟨argument, hargument⟩, more, hmore⟩
    · rintro ⟨⟨argument, hargument⟩, more, hmore⟩
      exact ⟨argument :: more, Fault.bind_eq_ok_iff.2
        ⟨argument, hargument, Fault.bind_eq_ok_iff.2 ⟨more, hmore, rfl⟩⟩⟩

/-- The required parameters are as many as are asked for, but no more than there are. -/
theorem requiredParameters_eq_take (s : Signature) :
    s.requiredParameters =
      s.parameters.take (max 0 (min s.minArguments s.parameters.length)).toNat := by
  rw [Signature.requiredParameters, List.take_eq_take_iff]
  omega

/-- A snippet made from plain texts inserts its label and, in parentheses, one plain argument for
each required parameter; its placeholders are those of the parameters without a literal, numbered by
position. It can be made exactly if each of these parameters has an argument. -/
theorem strip_buildSnippet_eq (label : String) (s : Signature) (others : List Signature)
    (config : SnippetConfig) (hlabel : Unmarked label)
    (hplain : ∀ p ∈ s.requiredParameters, p.PlainSources config) :
    s.requiredParameters =
      s.parameters.take (max 0 (min s.minArguments s.parameters.length)).toNat ∧
    ((∃ snippet, buildSnippet label (s :: others) config = .ok snippet) ↔
      ∀ p ∈ s.requiredParameters, p.HasArgument config) ∧
    ∀ snippet, buildSnippet label (s :: others) config = .ok snippet →
      strip snippet = label ++ "(" ++
        ", ".intercalate (s.requiredParameters.map (·.plainArgument config)) ++ ")" ∧
      namedStops snippet =
        (s.requiredParameters.zipIdx 1).filterMap fun (p, i) ↦ p.stop? config i := by
  have hbuild : buildSnippet label (s :: others) config =
      (renderFrom config 1 s.requiredParameters).map fun arguments ↦
        label ++ "(" ++ ", ".intercalate arguments ++ ")" := rfl
  rw [hbuild]
  refine ⟨requiredParameters_eq_take s, ?_, fun snippet hsnippet ↦ ?_⟩
  · rw [← exists_renderFrom_iff config 1]
    cases renderFrom config 1 s.requiredParameters <;> simp [Except.map]
  · obtain ⟨arguments, harguments, rfl⟩ := Fault.map_eq_ok_iff.1 hsnippet
    have hopen : Reads ("(" : String).toList ("(" : String).toList [] :=
      Reads.plain (by decide +kernel) (by decide +kernel)
    have hclose : Reads (")" : String).toList (")" : String).toList [] :=
      Reads.plain (by decide +kernel) (by decide +kernel)
    have hlist := reads_arguments hplain 1 harguments
    have hreads := (((Reads.plain hlabel.1 hlabel.2).append hopen).append hlist).append hclose
    simp only [← String.toList_append, List.nil_append, List.append_nil] at hreads
    exact ⟨(strip_eq_iff _ _).2 hreads.plainText_eq, hreads.named⟩

/-- A signature with an example, a function, a name that looks like a tab stop, and a parameter that
need not be given. -/
def mixedSignature : Signature where
  parameters := [{ name := "n", documentation := "eg: 5, 6" },
    { name := "done", type := .function "(a: number)" .number }, { name := "to$1" },
    { name := "rest" }]
  minArguments := 3

theorem strip_buildSnippet_mixedSignature : ∃ snippet,
    buildSnippet "move" [mixedSignature] {} = .ok snippet ∧
      strip snippet = "move(5, function (a: number) \x7b\n\treturn 0;\n\x7d, to$1)" ∧
      namedStops snippet = [("3", "to$1")] := by
  have hnone : Example.first? "" = some none := by decide +kernel
  have hexample : Example.first? "eg: 5, 6" = some (some "5") := by decide +kernel
  have hplain : ∀ p ∈ mixedSignature.requiredParameters, p.PlainSources {} := by
    intro p hp
    have hcases : p ∈ mixedSignature.parameters.take 3 := hp
    simp only [mixedSignature, List.take, List.mem_cons, List.not_mem_nil, or_false] at hcases
    rcases hcases with rfl | rfl | rfl
    · constructor <;> simp [Parameter.literal?, hexample]
      decide +kernel
    · constructor <;> simp [Parameter.literal?, hnone, typedDefault]
      decide +kernel
    · constructor <;> simp [Parameter.literal?, hnone, typedDefault]
  obtain ⟨-, -, hsnippet⟩ :=
    strip_buildSnippet_eq "move" mixedSignature [] {} (by decide +kernel) hplain
  have hsome : (buildSnippet "move" [mixedSignature] {}).toOption.map (fun _ ↦ ()) = some () := by
    decide +kernel
  obtain ⟨snippet, hbuild, -⟩ := Fault.exists_ok_of_map_toOption hsome
  obtain ⟨hstrip, hstops⟩ := hsnippet snippet hbuild
  refine ⟨snippet, hbuild, hstrip.trans ?_, hstops.trans ?_⟩
  · decide +kernel
  · decide +kernel

end CallCompletion
