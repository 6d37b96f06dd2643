import CallCompletion.Text.Blank
import CallCompletion.Text.Word

/-!
# Examples in documentation

The documentation of a parameter may name values for it: the marker `eg`, with a point and a colon
if wanted, followed by values on the rest of the line, separated by blanks and commas. A value in
quotes is a text; every other value is taken as it stands.
-/

namespace CallCompletion.Example

open CallCompletion.Text

/-- A text as a literal in double quotes: quotes and backslashes take a backslash. -/
def stringLiteral (cs : List Char) : List Char :=
  '"' :: cs.flatMap (fun c ↦ if c == '\\' || c == '"' then ['\\', c] else [c]) ++ ['"']

/-- What follows a marker at the front of a text. The colon belongs to the marker, a blank does
not. -/
def afterMarker? : List Char → Option (List Char)
  | e :: g :: rest =>
    if (e == 'e' || e == 'E') && (g == 'g' || g == 'G') then
      match rest with
      | ':' :: after => some after
      | '.' :: ':' :: after => some after
      | '.' :: c :: after => if isBlank c then some (c :: after) else none
      | c :: after => if isBlank c then some (c :: after) else none
      | [] => none
    else none
  | _ => none

/-- What follows the leftmost marker; `inWord` tells whether a word character stands before the
text. -/
def afterFirstMarker? (inWord : Bool) : List Char → Option (List Char)
  | [] => none
  | c :: rest =>
    match (if inWord then none else afterMarker? (c :: rest)) with
    | some after => some after
    | none => afterFirstMarker? (isWordChar c) rest

/-- The line that lists the values: from the first character after the marker that is not blank, to
the end of its line. -/
def valueLine? (documentation : List Char) : Option (List Char) :=
  (afterFirstMarker? false documentation).map fun after ↦ (trimLeft after).takeWhile (· != '\n')

def isSeparator (c : Char) : Bool :=
  c == ' ' || c == '\t' || c == '\r' || c == '\x0c' || c == '\x0b' || c == ','

def isQuote (c : Char) : Bool := c == '"' || c == '\''

/-- A character that a bare value can hold. -/
def isBare (c : Char) : Bool := !isBlank c && c != ','

/-- The value at the front of a text, and what follows it. A quote that is not closed is part of a
bare value. -/
def readValue (c : Char) (rest : List Char) : List Char × List Char :=
  if isQuote c && rest.contains c then
    (stringLiteral (rest.takeWhile (· != c)), (rest.dropWhile (· != c)).drop 1)
  else ((c :: rest).takeWhile isBare, (c :: rest).dropWhile isBare)

/-- A value that starts with a character other than a blank takes that character. -/
theorem length_readValue_lt (c : Char) (rest : List Char) (h : isBare c = true) :
    (readValue c rest).2.length < (c :: rest).length := by
  unfold readValue
  split
  · simp only [List.length_drop, List.length_cons]
    have := (List.dropWhile_suffix (p := (· != c)) (l := rest)).length_le
    omega
  · simp only [List.dropWhile_cons, h, if_true, List.length_cons]
    have := (List.dropWhile_suffix (p := isBare) (l := rest)).length_le
    omega

/-- The values of a line. There is no answer if a value would have to start at a blank that is no
separator, because nothing is read there and the reading would not move on. -/
def values? (line : List Char) : Option (List (List Char)) :=
  match line with
  | [] => some []
  | c :: rest =>
    if isSeparator c then values? rest
    else if _h : isBare c = true then
      (values? (readValue c rest).2).map ((readValue c rest).1 :: ·)
    else none
termination_by line.length
decreasing_by
  · simp
  · exact length_readValue_lt c rest _h

def tokens? (documentation : String) : Option (List String) :=
  match valueLine? documentation.toList with
  | none => some []
  | some line => (values? line).map (·.map String.ofList)

def first? (documentation : String) : Option (Option String) :=
  (tokens? documentation).map List.head?

end CallCompletion.Example
