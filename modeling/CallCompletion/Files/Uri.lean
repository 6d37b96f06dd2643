import CallCompletion.Data.Value
import CallCompletion.Fault
import CallCompletion.Files.Address
import CallCompletion.Files.Path
import CallCompletion.Text.Utf8

/-!
# URIs of files

A URI with the scheme of files stands for the path in it, in which a percent sign and two
hexadecimal digits are one byte. Any other text stands for itself. The host of a URI is checked
and dropped.
-/

namespace CallCompletion.Files

open CallCompletion.Text

def isSchemeChar (c : Char) : Bool := c.isAlphanum || c == '+' || c == '-' || c == '.'

/-- A text without leading controls and blanks, and without tabs and ends of lines. -/
def tidyUri (cs : List Char) : List Char :=
  (cs.dropWhile (·.toNat ≤ 0x20)).filter fun c ↦ c != '\t' && c != '\r' && c != '\n'

def splitScheme (cs : List Char) : List Char × List Char :=
  let scheme := cs.takeWhile (· != ':')
  match cs.dropWhile (· != ':') with
  | _ :: rest =>
    if scheme.head?.any Char.isAlpha && scheme.all isSchemeChar then (lowerAscii scheme, rest)
    else ([], cs)
  | [] => ([], cs)

def splitHost : List Char → List Char × List Char
  | '/' :: '/' :: rest =>
    let ends (c : Char) : Bool := c == '/' || c == '?' || c == '#'
    (rest.takeWhile (!ends ·), rest.dropWhile (!ends ·))
  | cs => ([], cs)

/-- The part of a host between its first bracket and the next closing one. -/
def bracketed (host : List Char) : List Char :=
  ((host.dropWhile (· != '[')).drop 1).takeWhile (· != ']')

/-- What is in the brackets of a host has to be an address. -/
def checkBracketed (address : List Char) : Except Fault Unit :=
  if address.head? = some 'v' then
    if isFutureAddress address then .ok () else .error .invalidFutureAddress
  else if isOldAddress address then .error .bracketedOldAddress
  else if isNewAddress address then .ok ()
  else .error (.notAnAddress (Data.quotedText (String.ofList address)))

/-- Characters whose plain form holds one that divides the parts of a URI. -/
def dividersInDisguise : List Nat :=
  [0x2047, 0x2048, 0x2049, 0x2100, 0x2101, 0x2105, 0x2106, 0x2A74, 0xFE13, 0xFE16, 0xFE55, 0xFE56,
   0xFE5F, 0xFE6B, 0xFF03, 0xFF0F, 0xFF1A, 0xFF1F, 0xFF20]

/-- A host has matching brackets around an address, and no divider in disguise. -/
def checkHost (host : List Char) : Except Fault Unit := do
  if host.contains '[' != host.contains ']' then .error .invalidHost
  if host.contains '[' then checkBracketed (bracketed host)
  if host.any (dividersInDisguise.contains ·.toNat) then
    .error (.ambiguousHost (String.ofList host))

/-- The path of a URI: what comes before a query and a fragment. -/
def uriPath (cs : List Char) : List Char := cs.takeWhile fun c ↦ c != '#' && c != '?'

/-- The bytes of ASCII characters, with each escape as the byte it stands for. -/
def escapedBytes : List Char → List UInt8
  | [] => []
  | '%' :: a :: b :: rest =>
    match hexValue? a, hexValue? b with
    | some a, some b => UInt8.ofNat (16 * a + b) :: escapedBytes rest
    | _, _ => '%'.toUInt8 :: escapedBytes (a :: b :: rest)
  | c :: rest => c.toUInt8 :: escapedBytes rest

/-- A text with its escapes resolved: each run of ASCII characters by itself. -/
def unescape (cs : List Char) : List Char :=
  (cs.splitBy fun a b ↦ (a.toNat < 128) == (b.toNat < 128)).flatMap fun run ↦
    if run.all (·.toNat < 128) then decodeUtf8Lossy (escapedBytes run) else run

def pathOfUri (uri : String) : Except Fault Path := do
  let (scheme, rest) := splitScheme (tidyUri uri.toList)
  let (host, rest) := splitHost rest
  checkHost host
  if scheme = "file".toList then return .ofText (String.ofList (unescape (uriPath rest)))
  else return .ofText uri

end CallCompletion.Files
