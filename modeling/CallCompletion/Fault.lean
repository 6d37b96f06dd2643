import CallCompletion.Numeral.Limit
import CallCompletion.Text.Codec

/-!
# Faults

What can keep a request from being answered. A violation is input outside what its caller promised,
reported with the facts at hand; the others come from single features of the source text, of file
names, numbers and encodings.
-/

namespace CallCompletion

/-- What a path is used for: to open a file, or as the name of a source text. -/
inductive PathUse where
  | opening | naming
  deriving DecidableEq, Repr

/-- Why a request has no answer. -/
inductive Fault where
  /-- A dialect without spelling rules, as it was given. -/
  | unknownDialect (given : String)
  /-- A parameter type outside the closed list of descriptors. -/
  | unclassified (parameter descriptor : String)
  /-- A command without its payload. -/
  | missingPayload (command : String)
  /-- A command whose payload is no object. -/
  | wrongPayload (command given : String)
  /-- A reason and facts given by the caller. -/
  | marked (reason : String) (facts : List (String × String))
  /-- A request that does not have the demanded shape. -/
  | invalidRequest (report : String)
  /-- A subscript of a type without any argument where one is needed. -/
  | missingTypeArgument
  /-- An annotation whose classification would call itself without end. -/
  | endlessClassification
  /-- An example list whose reading would never move on. -/
  | endlessExamples
  /-- A quoted annotation that holds a NUL character. -/
  | nulInTypeHint
  /-- A host of a URI with an unmatched bracket. -/
  | invalidHost
  /-- A bracketed host of a URI that is no address. -/
  | notAnAddress (quoted : String)
  /-- A bracketed host of a URI that is an address of the old kind. -/
  | bracketedOldAddress
  /-- A bracketed host of a URI that is not written as an address of a future kind. -/
  | invalidFutureAddress
  /-- A path that holds a NUL character. -/
  | nulInPath {use : PathUse}
  /-- A host of a URI that would change its parts when its characters are made plain. -/
  | ambiguousHost (host : String)
  /-- A text that is no integer, or an integer that has no text. -/
  | notAnInteger (why : Numeral.IntegerFault)
  /-- A number without an integer part: not a number, or else infinite. -/
  | noIntegerPart (isNan : Bool)
  /-- A value of a kind that has no integer. -/
  | notANumber (kind : String)
  /-- Bytes that are no UTF-8, or a text that has no bytes. -/
  | notUtf8 (why : Text.Utf8Fault)
  deriving DecidableEq, Repr

namespace Fault

def message : Fault → String
  | .unknownDialect _ => "unknown snippet dialect"
  | .unclassified .. => "unclassified type descriptor"
  | .missingPayload _ => "missing command payload"
  | .wrongPayload .. => "invalid command payload type"
  | .marked reason _ => if reason.isEmpty then "never() marker reached" else reason
  | .invalidRequest report => report
  | .missingTypeArgument => "list index out of range"
  | .endlessClassification => ""
  | .endlessExamples => ""
  | .nulInTypeHint => "source code string cannot contain null bytes"
  | .invalidHost => "Invalid IPv6 URL"
  | .notAnAddress quoted => quoted ++ " does not appear to be an IPv4 or IPv6 address"
  | .bracketedOldAddress => "An IPv4 address cannot be in brackets"
  | .invalidFutureAddress => "IPvFuture address is invalid"
  | @nulInPath .opening => "embedded null byte"
  | @nulInPath .naming => "embedded null character"
  | .ambiguousHost host =>
    "netloc '" ++ host ++ "' contains invalid characters under NFKC normalization"
  | .notAnInteger why => why.message
  | .noIntegerPart isNan =>
    "cannot convert float " ++ (if isNan then "NaN" else "infinity") ++ " to integer"
  | .notANumber kind =>
    "int() argument must be a string, a bytes-like object or a real number, not '" ++ kind ++ "'"
  | .notUtf8 why => why.message

/-- The facts that are reported with a violation; other faults have none. -/
def facts? : Fault → Option (List (String × String))
  | .unknownDialect given => some [("dialect", given)]
  | .unclassified parameter descriptor =>
    some [("parameter", parameter), ("descriptor_type", descriptor)]
  | .missingPayload command => some [("command", command)]
  | .wrongPayload command given => some [("command", command), ("payload_type", given)]
  | .marked _ facts => some facts
  | _ => none

/-! ## Steps that can fail -/

section Steps

variable {α β : Type} {x : Except Fault α} {f : Fault}

theorem bind_eq_ok_iff {ε : Type} {x : Except ε α} {next : α → Except ε β} {b : β} :
    (x >>= next) = .ok b ↔ ∃ a, x = .ok a ∧ next a = .ok b := by
  cases x with
  | error g => simp [bind, Except.bind]
  | ok a => simp [bind, Except.bind]

/-- A fault of two steps is one of the first, or one of the second after the first has passed. -/
theorem bind_eq_error_iff {next : α → Except Fault β} :
    (x >>= next) = .error f ↔ x = .error f ∨ ∃ a, x = .ok a ∧ next a = .error f := by
  cases x with
  | error g => simp [bind, Except.bind]
  | ok a => simp [bind, Except.bind]

theorem map_eq_ok_iff {ε : Type} {x : Except ε α} {next : α → β} {b : β} :
    x.map next = .ok b ↔ ∃ a, x = .ok a ∧ next a = b := by
  cases x with
  | error g => simp [Except.map]
  | ok a => simp [Except.map]

theorem exists_ok_of_map_toOption {ε : Type} {read : Except ε α} {next : α → β} {b : β}
    (h : read.toOption.map next = some b) : ∃ a, read = .ok a ∧ next a = b := by
  cases read with
  | error e => cases h
  | ok a => exact ⟨a, rfl, Option.some.inj h⟩

theorem map_eq_error_iff {next : α → β} : x.map next = .error f ↔ x = .error f := by
  cases x with
  | error g => simp [Except.map]
  | ok a => simp [Except.map]

end Steps

end Fault

end CallCompletion
