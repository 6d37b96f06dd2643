import CallCompletion.Proofs.BracketPairs
import Mathlib.Data.List.Forall2
import Mathlib.Data.List.Infix

/-!
# The first bracket that is never closed

A text is a row of pieces: ordinary characters, brackets, comments up to the end of their line, and
strings that are complete. The scan for open brackets goes over the lines of such a text and finds
the line of the first bracket that is never closed, whatever stands in the comments and strings.

Each piece leaves the scan outside of strings, and does to the stack of open brackets what its
bracket does, or nothing if it has none. So the stack at the end follows from the brackets and
their lines alone.
-/

namespace CallCompletion.Source

open CallCompletion.Text

/-! ## Pieces of a text -/

/-- A character that begins neither a comment nor a string and is no bracket. -/
def isOrdinary (c : Char) : Bool :=
  !(c == '#' || c == '"' || c == '\'' || BracketScan.isOpening c || BracketScan.isClosing c)

/-- The mark of a quote is one of the two that open strings. -/
def OpenQuote.IsQuote (quote : OpenQuote) : Prop := quote.mark = '"' ∨ quote.mark = '\''

/-- What can stand between the quotes of a string: pairs of a backslash and a character, and other
characters at which the closing quote does not begin. The closing quote behind the string counts,
so that the string does not end before it. -/
inductive InQuotes (quote : OpenQuote) : List Char → Prop where
  | nil : InQuotes quote []
  | pair {c : Char} {rest : List Char} : InQuotes quote rest → InQuotes quote ('\\' :: c :: rest)
  | other {c : Char} {rest : List Char} : c ≠ '\\' →
      ¬ quote.chars <+: c :: rest ++ quote.chars → InQuotes quote rest → InQuotes quote (c :: rest)

/-- A string with its quotes. Only between triple quotes it can go over several lines. -/
structure Quotation where
  quote : OpenQuote
  content : List Char
  is_quote : quote.IsQuote
  in_quotes : InQuotes quote content
  on_one_line : quote.triple = false → '\n' ∉ content

/-- The characters of a string. -/
def Quotation.spelling (s : Quotation) : List Char := s.quote.chars ++ s.content ++ s.quote.chars

/-- A piece of a text. The line feeds between lines are ordinary characters. -/
inductive Piece where
  | ordinary (c : Char) (h : isOrdinary c = true)
  | bracket (mark : Char) (h : (BracketScan.isOpening mark || BracketScan.isClosing mark) = true)
  | comment (text : List Char) (h : '\n' ∉ text)
  | quotation (s : Quotation)

namespace Piece

/-- The characters of a piece. -/
def spelling : Piece → List Char
  | ordinary c _ => [c]
  | bracket mark _ => [mark]
  | comment text _ => '#' :: text
  | quotation s => s.spelling

/-- The number of lines that end in a piece. -/
def lineFeeds (piece : Piece) : Nat := piece.spelling.count '\n'

/-- The bracket of a piece that stands on a line, if it is one. -/
def bracketsOn (line : Nat) : Piece → List PlacedBracket
  | bracket mark _ => [⟨line, mark⟩]
  | _ => []

/-- A piece ends before what follows it: a comment goes on to the end of its line, and an empty
string in single quotes is not the beginning of triple quotes. -/
def EndsBefore (after : List Char) : Piece → Prop
  | comment _ _ => ∀ c ∈ after.head?, c = '\n'
  | quotation s => s.quote.triple = false → s.content = [] → after.head? ≠ some s.quote.mark
  | _ => True

/-- The same piece, or two comments, or two strings with equally many lines. -/
inductive AgreesOutside : Piece → Piece → Prop where
  | refl (piece : Piece) : AgreesOutside piece piece
  | comment {text text' : List Char} {h : '\n' ∉ text} {h' : '\n' ∉ text'} :
      AgreesOutside (.comment text h) (.comment text' h')
  | quotation {s s' : Quotation} : s.content.count '\n' = s'.content.count '\n' →
      AgreesOutside (.quotation s) (.quotation s')

end Piece

/-- The text that pieces make up. -/
def spell (pieces : List Piece) : List Char := pieces.flatMap Piece.spelling

/-- Each piece ends where the next one begins. -/
def Delimited : List Piece → Prop
  | [] => True
  | piece :: rest => piece.EndsBefore (spell rest) ∧ Delimited rest

/-- The brackets outside of comments and strings, each with its line. -/
def bracketsFrom (line : Nat) : List Piece → List PlacedBracket
  | [] => []
  | piece :: rest => piece.bracketsOn line ++ bracketsFrom (line + piece.lineFeeds) rest

/-- A text in pieces. -/
structure PieceText where
  pieces : List Piece
  delimited : Delimited pieces

/-- The brackets of a text outside of its comments and strings. -/
def PieceText.brackets (text : PieceText) : List PlacedBracket := bracketsFrom 0 text.pieces

/-- The lines of a text: they hold no line feed, and put together they are the text. -/
structure PieceText.LaidOver (text : PieceText) (lines : List Line) : Prop where
  joined : joinLines lines = spell text.pieces
  unbroken : ∀ line ∈ lines, '\n' ∉ line

theorem OpenQuote.mem_chars_iff {quote : OpenQuote} {c : Char} :
    c ∈ quote.chars ↔ c = quote.mark := by
  unfold OpenQuote.chars
  split <;> simp

theorem OpenQuote.chars_of_not_triple {quote : OpenQuote} (h : quote.triple = false) :
    quote.chars = [quote.mark] := by
  simp [OpenQuote.chars, h]

theorem OpenQuote.IsQuote.mark_ne {quote : OpenQuote} (h : quote.IsQuote) {c : Char}
    (hc : c ∉ ['"', '\'']) : quote.mark ≠ c := by
  rintro rfl
  rcases h with h | h <;> simp [h] at hc

theorem OpenQuote.IsQuote.newline_not_mem_chars {quote : OpenQuote} (h : quote.IsQuote) :
    '\n' ∉ quote.chars := by
  rw [OpenQuote.mem_chars_iff]
  exact (h.mark_ne (by decide)).symm

theorem Quotation.count_spelling (s : Quotation) :
    s.spelling.count '\n' = s.content.count '\n' := by
  have hquote : s.quote.chars.count '\n' = 0 :=
    List.count_eq_zero.2 s.is_quote.newline_not_mem_chars
  rw [spelling, List.count_append, List.count_append, hquote, Nat.zero_add, Nat.add_zero]

/-- What stands in quotes and comments does not touch the brackets. -/
theorem bracketsFrom_eq_of_agreesOutside {pieces pieces' : List Piece}
    (h : List.Forall₂ Piece.AgreesOutside pieces pieces') (line : Nat) :
    bracketsFrom line pieces = bracketsFrom line pieces' := by
  induction h generalizing line with
  | nil => rfl
  | @cons piece piece' rest rest' hpiece _ ih =>
    have hbrackets : piece.bracketsOn line = piece'.bracketsOn line := by
      cases hpiece <;> rfl
    have hfeeds : piece.lineFeeds = piece'.lineFeeds := by
      cases hpiece with
      | refl => rfl
      | @comment text text' h h' =>
        simp [Piece.lineFeeds, Piece.spelling, List.count_eq_zero.2 h, List.count_eq_zero.2 h']
      | quotation hcount =>
        simpa only [Piece.lineFeeds, Piece.spelling, Quotation.count_spelling] using hcount
    rw [bracketsFrom, bracketsFrom, hbrackets, hfeeds, ih]

/-! ## The scan over a text -/

namespace BracketScan

/-- Scans the lines of a text, the first of which has the number `idx` and may have been scanned up
to where the text starts. -/
def scanText (idx : Nat) (scan : BracketScan) (text : List Char) : BracketScan :=
  scanLines idx scan (splitAtChar '\n' text)

/-- What is left of the line on which a text starts. -/
def firstLine (text : List Char) : Line := text.takeWhile (· != '\n')

/-- A word of the first line is scanned as it is on any line that starts like this one. -/
theorem scanText_append {idx : Nat} {scan scan' : BracketScan} {text : List Char}
    (word : List Char) (hword : '\n' ∉ word)
    (h : scanRest idx scan 0 (word ++ firstLine text) = scanRest idx scan' 0 (firstLine text)) :
    scanText idx scan (word ++ text) = scanText idx scan' text := by
  have htext : splitAtChar '\n' text = firstLine text :: (splitAtChar '\n' text).tail :=
    splitAtChar_append_of_not_mem List.not_mem_nil text
  calc scanText idx scan (word ++ text)
      = scanLines (idx + 1) (scanRest idx scan 0 (word ++ firstLine text)).endLine
          (splitAtChar '\n' text).tail := by
        rw [scanText, splitAtChar_append_of_not_mem hword, scanLines, scanLine, firstLine]
    _ = scanLines (idx + 1) (scanLine idx scan' (firstLine text))
          (splitAtChar '\n' text).tail := by
        rw [h, scanLine]
    _ = scanText idx scan' text := by
        rw [scanText, htext, scanLines, List.tail_cons]

theorem scanText_newline (idx : Nat) (scan : BracketScan) (text : List Char) :
    scanText idx scan ('\n' :: text) = scanText (idx + 1) scan.endLine text := by
  rw [scanText, splitAtChar, if_pos rfl, scanLines, scanLine, scanRest, scanText]

/-- A line feed ends the line, unless it stands in a string that cannot go on. -/
theorem scanText_newline_of_goesOn {idx : Nat} {openers : List Nat} {quote : Option OpenQuote}
    (h : ∀ q ∈ quote, q.triple = true) (text : List Char) :
    scanText idx ⟨openers, quote⟩ ('\n' :: text) = scanText (idx + 1) ⟨openers, quote⟩ text := by
  have hkept : quote.filter OpenQuote.triple = quote := by
    cases quote with
    | none => rfl
    | some q => simp [h q rfl]
  rw [scanText_newline, endLine, hkept]

/-! ### Inside a string -/

section Quoted

variable {quote : OpenQuote} {idx : Nat} {openers : List Nat} {text : List Char}

/-- A backslash takes the next character along, also if that is the end of the line. -/
theorem scanText_pair {c : Char} (hc : c = '\n' → quote.triple = true) :
    scanText idx ⟨openers, some quote⟩ ('\\' :: c :: text) =
      scanText (idx + [c].count '\n') ⟨openers, some quote⟩ text := by
  by_cases hnewline : c = '\n'
  · subst hnewline
    calc scanText idx ⟨openers, some quote⟩ ('\\' :: '\n' :: text)
        = scanText idx ⟨openers, some quote⟩ ('\n' :: text) := by
          apply scanText_append ['\\'] (by decide)
          simp [firstLine, scanRest]
      _ = scanText (idx + 1) ⟨openers, some quote⟩ text := by
          apply scanText_newline_of_goesOn
          simpa using hc rfl
  · have hcount : [c].count '\n' = 0 := by simp [hnewline]
    rw [hcount]
    apply scanText_append ['\\', c] (by simp [Ne.symm hnewline])
    simp [scanRest]

/-- Where the closing quote does not begin, the string goes on. -/
theorem scanText_other {c : Char} (hc : c = '\n' → quote.triple = true) (hbackslash : c ≠ '\\')
    (hquote : ¬ quote.chars <+: c :: text) :
    scanText idx ⟨openers, some quote⟩ (c :: text) =
      scanText (idx + [c].count '\n') ⟨openers, some quote⟩ text := by
  by_cases hnewline : c = '\n'
  · subst hnewline
    apply scanText_newline_of_goesOn
    simpa using hc rfl
  · have hcount : [c].count '\n' = 0 := by simp [hnewline]
    have hline : ¬ quote.chars <+: c :: firstLine text := by
      intro hstarts
      exact hquote (hstarts.trans ((List.prefix_cons_inj c).2 (List.takeWhile_prefix _)))
    rw [hcount]
    apply scanText_append [c] (by simp [Ne.symm hnewline])
    simp [scanRest, hbackslash, hline]

/-- The closing quote ends the string. -/
theorem scanText_closing (hquote : quote.IsQuote) :
    scanText idx ⟨openers, some quote⟩ (quote.chars ++ text) =
      scanText idx ⟨openers, none⟩ text := by
  apply scanText_append _ hquote.newline_not_mem_chars
  have hne : quote.chars ≠ [] := List.ne_nil_of_mem (OpenQuote.mem_chars_iff.2 rfl)
  obtain ⟨first, rest, hchars⟩ := List.exists_cons_of_ne_nil hne
  have hfirst : first ≠ '\\' := by
    have hmark : first = quote.mark := OpenQuote.mem_chars_iff.1 (hchars ▸ List.mem_cons_self)
    rw [hmark]
    exact hquote.mark_ne (by decide)
  rw [hchars, List.cons_append, scanRest]
  simp [hfirst, hchars, scanRest_skip]

/-- What stands between the quotes is passed over, with the closing quote. -/
theorem scanText_content {content : List Char} (hquote : quote.IsQuote)
    (hcontent : InQuotes quote content) (hlines : '\n' ∈ content → quote.triple = true) :
    scanText idx ⟨openers, some quote⟩ (content ++ (quote.chars ++ text)) =
      scanText (idx + content.count '\n') ⟨openers, none⟩ text := by
  have hcount (word rest : List Char) (idx : Nat) :
      idx + word.count '\n' + rest.count '\n' = idx + (word ++ rest).count '\n' := by
    rw [List.count_append, Nat.add_assoc]
  induction hcontent generalizing idx with
  | nil => exact scanText_closing hquote
  | @pair c rest _ ih =>
    calc scanText idx ⟨openers, some quote⟩ ('\\' :: c :: (rest ++ (quote.chars ++ text)))
        = scanText (idx + [c].count '\n') ⟨openers, some quote⟩
            (rest ++ (quote.chars ++ text)) := scanText_pair fun h ↦ hlines (by simp [h])
      _ = scanText (idx + ('\\' :: c :: rest).count '\n') ⟨openers, none⟩ text := by
          rw [ih fun h ↦ hlines (by simp [h]), hcount]
          rfl
  | @other c rest hbackslash hgoes _ ih =>
    have hnot : ¬ quote.chars <+: c :: (rest ++ (quote.chars ++ text)) := by
      intro hstarts
      apply hgoes
      apply List.prefix_of_prefix_length_le hstarts ⟨text, by simp⟩
      simp only [List.length_append]
      exact Nat.le_add_left _ _
    calc scanText idx ⟨openers, some quote⟩ (c :: (rest ++ (quote.chars ++ text)))
        = scanText (idx + [c].count '\n') ⟨openers, some quote⟩
            (rest ++ (quote.chars ++ text)) :=
          scanText_other (fun h ↦ hlines (by simp [h])) hbackslash hnot
      _ = scanText (idx + (c :: rest).count '\n') ⟨openers, none⟩ text := by
          rw [ih fun h ↦ hlines (by simp [h]), hcount]
          rfl

end Quoted

/-! ### Pieces -/

/-- A quote opens the string that it belongs to. -/
theorem scanText_opening {quote : OpenQuote} (hquote : quote.IsQuote) {idx : Nat}
    {openers : List Nat} {text : List Char}
    (h : quote.triple = false → ¬ [quote.mark, quote.mark] <+: text) :
    scanText idx ⟨openers, none⟩ (quote.chars ++ text) =
      scanText idx ⟨openers, some quote⟩ text := by
  apply scanText_append _ hquote.newline_not_mem_chars
  have hcomment : quote.mark ≠ '#' := hquote.mark_ne (by decide)
  have hopens (rest : Line) :
      quoteAt quote.mark rest = some ⟨quote.mark, [quote.mark, quote.mark].isPrefixOf rest⟩ := by
    rcases hquote with h | h <;> simp [quoteAt, h]
  obtain ⟨mark, triple⟩ := quote
  cases triple with
  | true => simp [OpenQuote.chars, scanRest, hcomment, hopens]
  | false =>
    have hline : ¬ [mark, mark] <+: firstLine text := by
      intro hstarts
      exact h rfl (hstarts.trans (List.takeWhile_prefix _))
    have hnot : [mark, mark].isPrefixOf (firstLine text) = false := by
      simpa [Bool.eq_false_iff] using hline
    simp [OpenQuote.chars, scanRest, hcomment, hopens, hnot]

/-- The content of a string in single quotes does not start with its quote. -/
theorem ne_mark_of_inQuotes {quote : OpenQuote} (hquote : quote.IsQuote)
    (htriple : quote.triple = false) {c : Char} {rest : List Char}
    (h : InQuotes quote (c :: rest)) : c ≠ quote.mark := by
  cases h with
  | pair => exact (hquote.mark_ne (by decide)).symm
  | other _ hgoes _ =>
    rintro rfl
    apply hgoes
    simp [OpenQuote.chars_of_not_triple htriple]

/-- A complete string leaves the stack as it was. -/
theorem scanText_quotation (s : Quotation) {after : List Char}
    (hends : (Piece.quotation s).EndsBefore after) (idx : Nat) (openers : List Nat) :
    scanText idx ⟨openers, none⟩ (s.spelling ++ after) =
      scanText (idx + s.content.count '\n') ⟨openers, none⟩ after := by
  have hopens : s.quote.triple = false →
      ¬ [s.quote.mark, s.quote.mark] <+: s.content ++ (s.quote.chars ++ after) := by
    intro htriple
    cases hcontent : s.content with
    | nil =>
      rintro ⟨more, hmore⟩
      rw [OpenQuote.chars_of_not_triple htriple] at hmore
      have hafter : s.quote.mark :: more = after := (List.cons.inj hmore).2
      exact hends htriple hcontent (hafter ▸ rfl)
    | cons c rest =>
      have hfirst := ne_mark_of_inQuotes s.is_quote htriple (hcontent ▸ s.in_quotes)
      simp [Ne.symm hfirst]
  calc scanText idx ⟨openers, none⟩ (s.spelling ++ after)
      = scanText idx ⟨openers, none⟩
          (s.quote.chars ++ (s.content ++ (s.quote.chars ++ after))) := by
        simp only [Quotation.spelling, List.append_assoc]
    _ = scanText idx ⟨openers, some s.quote⟩ (s.content ++ (s.quote.chars ++ after)) :=
        scanText_opening s.is_quote hopens
    _ = scanText (idx + s.content.count '\n') ⟨openers, none⟩ after := by
        apply scanText_content s.is_quote s.in_quotes
        intro hmem
        by_contra htriple
        exact s.on_one_line (Bool.eq_false_iff.2 htriple) hmem

theorem scanText_ordinary {c : Char} (h : isOrdinary c = true) (idx : Nat) (openers : List Nat)
    (after : List Char) :
    scanText idx ⟨openers, none⟩ (c :: after) =
      scanText (idx + [c].count '\n') ⟨openers, none⟩ after := by
  by_cases hnewline : c = '\n'
  · subst hnewline
    exact scanText_newline_of_goesOn (by simp) after
  · have hcount : [c].count '\n' = 0 := by simp [hnewline]
    simp only [isOrdinary, Bool.not_eq_true', Bool.or_eq_false_iff, beq_eq_false_iff_ne] at h
    rw [hcount]
    apply scanText_append [c] (by simp [Ne.symm hnewline])
    simp [scanRest, quoteAt, h]

theorem ne_of_isBracket {c : Char} (h : (isOpening c || isClosing c) = true) :
    c ≠ '#' ∧ c ≠ '"' ∧ c ≠ '\'' ∧ c ≠ '\n' := by
  refine ⟨?_, ?_, ?_, ?_⟩ <;> rintro rfl <;> exact absurd h (by decide)

/-- A bracket outside quotes opens or closes. -/
theorem scanText_bracket {mark : Char} (h : (isOpening mark || isClosing mark) = true) (idx : Nat)
    (openers : List Nat) (after : List Char) :
    scanText idx ⟨openers, none⟩ (mark :: after) =
      scanText idx ⟨PlacedBracket.push openers ⟨idx, mark⟩, none⟩ after := by
  obtain ⟨hcomment, hdouble, hsingle, hnewline⟩ := ne_of_isBracket h
  apply scanText_append [mark] (by simp [Ne.symm hnewline])
  cases hopening : isOpening mark with
  | true =>
    simp [scanRest, quoteAt, hcomment, hdouble, hsingle, hopening, PlacedBracket.push,
      PlacedBracket.kind, Bracket.push]
  | false =>
    have hclosing : isClosing mark = true := by simpa [hopening] using h
    simp [scanRest, quoteAt, hcomment, hdouble, hsingle, hopening, hclosing, PlacedBracket.push,
      PlacedBracket.kind, Bracket.push]

/-- A comment is passed over up to the end of its line. -/
theorem scanText_comment {text after : List Char} (htext : '\n' ∉ text)
    (hends : ∀ c ∈ after.head?, c = '\n') (idx : Nat) (openers : List Nat) :
    scanText idx ⟨openers, none⟩ ('#' :: text ++ after) = scanText idx ⟨openers, none⟩ after := by
  have hline : firstLine after = [] := by
    cases after with
    | nil => rfl
    | cons c rest => simp [firstLine, hends c rfl]
  apply scanText_append ('#' :: text) (by simp [htext])
  simp [hline, scanRest]

/-- A piece leaves on the stack what its bracket does to it. -/
theorem scanText_piece {piece : Piece} {after : List Char} (hends : piece.EndsBefore after)
    (idx : Nat) (openers : List Nat) :
    scanText idx ⟨openers, none⟩ (piece.spelling ++ after) =
      scanText (idx + piece.lineFeeds)
        ⟨(piece.bracketsOn idx).foldl PlacedBracket.push openers, none⟩ after := by
  cases piece with
  | ordinary c h => exact scanText_ordinary h idx openers after
  | bracket mark h =>
    have hfeeds : (Piece.bracket mark h).lineFeeds = 0 := by
      simp [Piece.lineFeeds, Piece.spelling, (ne_of_isBracket h).2.2.2]
    rw [hfeeds]
    exact scanText_bracket h idx openers after
  | comment text h =>
    have hfeeds : (Piece.comment text h).lineFeeds = 0 := by
      simp [Piece.lineFeeds, Piece.spelling, List.count_eq_zero.2 h]
    rw [hfeeds]
    exact scanText_comment h hends idx openers
  | quotation s =>
    rw [Piece.lineFeeds, Piece.spelling, Quotation.count_spelling]
    exact scanText_quotation s hends idx openers

/-- The scan of a text leaves on the stack what its brackets do to it. -/
theorem scanText_spell {pieces : List Piece} (h : Delimited pieces) (idx : Nat)
    (openers : List Nat) :
    scanText idx ⟨openers, none⟩ (spell pieces) =
      ⟨(bracketsFrom idx pieces).foldl PlacedBracket.push openers, none⟩ := by
  induction pieces generalizing idx openers with
  | nil => rfl
  | cons piece rest ih =>
    obtain ⟨hends, hrest⟩ := h
    calc scanText idx ⟨openers, none⟩ (spell (piece :: rest))
        = scanText (idx + piece.lineFeeds)
            ⟨(piece.bracketsOn idx).foldl PlacedBracket.push openers, none⟩ (spell rest) :=
          scanText_piece hends idx openers
      _ = ⟨(bracketsFrom idx (piece :: rest)).foldl PlacedBracket.push openers, none⟩ := by
          rw [ih hrest, bracketsFrom, List.foldl_append]

/-- Lines are scanned as the text that they are put together to. -/
theorem scanLines_eq_scanText {lines : List Line} (h : ∀ line ∈ lines, '\n' ∉ line) (idx : Nat)
    (openers : List Nat) :
    scanLines idx ⟨openers, none⟩ lines = scanText idx ⟨openers, none⟩ (joinLines lines) := by
  by_cases hempty : lines = []
  · subst hempty
    rfl
  · rw [scanText, splitAtChar_joinLines h hempty]

end BracketScan

/-! ## The line that is found -/

/-- The scan finds the line of the first bracket that is left. -/
theorem openBracketLine_eq_leftOpen {text : PieceText} {lines : List Line} {stop : Int}
    (hlines : text.LaidOver lines) (hstop : lines.length ≤ stop + 1) :
    openBracketLine lines stop = (leftOpen text.brackets).head?.map PlacedBracket.line := by
  have hall : lines.take (stop + 1).toNat = lines := List.take_of_length_le (by omega)
  have hscan : BracketScan.scanLines 0 .start lines =
      ⟨text.brackets.foldl PlacedBracket.push [], none⟩ := by
    rw [BracketScan.start, BracketScan.scanLines_eq_scanText hlines.unbroken, hlines.joined,
      BracketScan.scanText_spell text.delimited, PieceText.brackets]
  rw [openBracketLine, hall, hscan, foldl_push_eq, List.drop_nil, List.append_nil,
    List.getLast?_reverse, List.head?_map]

/-- Over lines that hold a text in pieces, whose closing brackets all match earlier opening ones,
the scan finds the line of the first bracket that is never closed, and nothing if there is none.
Any pairs of brackets may be taken to fit. What comments and strings contain makes no
difference. -/
theorem openBracketLine_of_laidOver (fits : Char → Char → Prop) {text : PieceText}
    {lines : List Line} {stop : Int} (hlines : text.LaidOver lines)
    (hstop : lines.length ≤ stop + 1) (hmatch : ClosingsMatch fits text.brackets) :
    (∀ line, openBracketLine lines stop = some line ↔
      ∃ bracket, IsFirst (Unclosed fits) text.brackets bracket ∧ bracket.line = line) ∧
    (openBracketLine lines stop = none ↔
      ∀ before bracket after, text.brackets = before ++ bracket :: after →
        ¬ Unclosed fits bracket after) ∧
    ∀ (other : PieceText) (lines' : List Line) (stop' : Int),
      List.Forall₂ Piece.AgreesOutside text.pieces other.pieces → other.LaidOver lines' →
      lines'.length ≤ stop' + 1 → openBracketLine lines' stop' = openBracketLine lines stop := by
  have hfound := openBracketLine_eq_leftOpen hlines hstop
  refine ⟨fun line ↦ ?_, ?_, fun other lines' stop' hagrees hlines' hstop' ↦ ?_⟩
  · rw [hfound, Option.map_eq_some_iff]
    simp only [hmatch.head?_leftOpen_eq_some_iff]
  · rw [hfound, Option.map_eq_none_iff, hmatch.head?_leftOpen_eq_none_iff]
  · have hbrackets : other.brackets = text.brackets :=
      (bracketsFrom_eq_of_agreesOutside hagrees 0).symm
    rw [openBracketLine_eq_leftOpen hlines' hstop', hbrackets, hfound]

/-- Brackets of one kind. -/
def SameKind (opening closing : Char) : Prop :=
  (opening, closing) ∈ [('(', ')'), ('[', ']'), ('{', '}')]

/-- A call with a quote escaped in a string, an empty string and a comment; then a subscript that is
left open before a string over two lines. -/
def quotedBrackets : PieceText where
  pieces :=
    [.ordinary 'f' rfl, .bracket '(' rfl,
      .quotation ⟨⟨'"', false⟩, ['[', '\\', '"'], .inl rfl,
        .other (by decide) (by decide) (.pair .nil), by decide⟩,
      .ordinary ',' rfl, .quotation ⟨⟨'\'', false⟩, [], .inr rfl, .nil, by decide⟩,
      .bracket ')' rfl, .comment ['(', '['] (by decide), .ordinary '\n' rfl,
      .ordinary 'g' rfl, .bracket '[' rfl, .bracket '{' rfl,
      .quotation ⟨⟨'\'', true⟩, ['(', '\\', '\n', '\'', '"'], .inr rfl,
        .other (by decide) (by decide) (.pair (.other (by decide) (by decide)
          (.other (by decide) (by decide) .nil))), by decide⟩,
      .bracket '}' rfl]
  delimited := by simp [Delimited, Piece.EndsBefore, spell, Piece.spelling]

/-- The lines of that text. -/
def quotedBracketsLines : List Line :=
  ["f(\"[\\\"\",'')#([".toList, "g[\x7b'''(\\".toList, "'\"'''\x7d".toList]

theorem closingsMatch_quotedBrackets : ClosingsMatch SameKind quotedBrackets.brackets := by
  intro before closing after hsplit hclosing
  have hbrackets : quotedBrackets.brackets =
      [⟨0, '('⟩, ⟨0, ')'⟩, ⟨1, '['⟩, ⟨1, '\x7b'⟩, ⟨2, '\x7d'⟩] := by decide
  rw [hbrackets] at hsplit
  -- The place of the bracket is the number of those before it.
  rcases before with _ | ⟨first, _ | ⟨second, _ | ⟨third, _ | ⟨fourth, _ | ⟨fifth, before⟩⟩⟩⟩⟩ <;>
    simp only [List.nil_append, List.cons_append, List.cons.injEq, List.nil_eq,
      List.append_eq_nil_iff, reduceCtorEq, and_false] at hsplit
  case nil =>
    obtain ⟨rfl, -⟩ := hsplit
    exact absurd hclosing (by decide)
  case cons.nil =>
    obtain ⟨rfl, rfl, -⟩ := hsplit
    exact ⟨[], _, [], rfl, rfl, by simp [SameKind], .nil⟩
  case cons.cons.nil =>
    obtain ⟨-, -, rfl, -⟩ := hsplit
    exact absurd hclosing (by decide)
  case cons.cons.cons.nil =>
    obtain ⟨-, -, -, rfl, -⟩ := hsplit
    exact absurd hclosing (by decide)
  case cons.cons.cons.cons.nil =>
    obtain ⟨-, -, -, rfl, rfl, -⟩ := hsplit
    exact ⟨[first, second, third], _, [], rfl, rfl, by simp [SameKind], .nil⟩

/-- Line 1 leaves a bracket open; those in strings and in the comment do not count. -/
theorem openBracketLine_quotedBrackets :
    quotedBrackets.LaidOver quotedBracketsLines ∧ (quotedBracketsLines.length : Int) ≤ 2 + 1 ∧
      ClosingsMatch SameKind quotedBrackets.brackets ∧
      ∃ bracket, IsFirst (Unclosed SameKind) quotedBrackets.brackets bracket ∧
        bracket.line = 1 := by
  have hlines : quotedBrackets.LaidOver quotedBracketsLines := ⟨by decide, by decide⟩
  have hstop : (quotedBracketsLines.length : Int) ≤ 2 + 1 := by decide
  have hmatch := closingsMatch_quotedBrackets
  have hfound := (openBracketLine_of_laidOver SameKind hlines hstop hmatch).1 1
  exact ⟨hlines, hstop, hmatch, hfound.1 (by decide)⟩

end CallCompletion.Source
