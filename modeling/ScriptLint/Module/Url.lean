/-
The parts of a URL that decide which file it names: its scheme and its path. Host names are
checked, since a URL with a malformed one is refused, and otherwise ignored.
-/
import ScriptLint.Failure
import ScriptLint.Module.Address
import ScriptLint.Text.Utf8

namespace ScriptLint

/-- The scheme of a URL, empty if it has none, and its path. -/
structure Url where
  scheme : String
  path : List Char
  deriving DecidableEq, Repr

namespace Url

/-! ## Cleaning -/

/-- Control characters and blanks before a URL do not count, nor do tabs and line ends inside. -/
def clean (cs : List Char) : List Char :=
  (cs.dropWhile fun c => c.toNat ≤ 0x20).filter fun c => c ≠ '\t' && c ≠ '\r' && c ≠ '\n'

/-! ## Scheme -/

def isAsciiLetter (c : Char) : Bool :=
  let n := c.toNat
  (0x41 ≤ n && n ≤ 0x5A) || (0x61 ≤ n && n ≤ 0x7A)

def isSchemeChar (c : Char) : Bool :=
  isAsciiLetter c || Json.isDigit c || c = '+' || c = '-' || c = '.'

/-- An ASCII letter in lower case. -/
def lowerAscii (c : Char) : Char :=
  if 0x41 ≤ c.toNat ∧ c.toNat ≤ 0x5A then Char.ofNat (c.toNat + 0x20) else c

/-- The scheme, in lower case, and what follows its colon. -/
def splitScheme (cs : List Char) : List Char × List Char :=
  let scheme := cs.takeWhile (· ≠ ':')
  match cs.dropWhile (· ≠ ':') with
  | _ :: rest =>
    if scheme.head?.any isAsciiLetter && scheme.all isSchemeChar then
      (scheme.map lowerAscii, rest)
    else ([], cs)
  | [] => ([], cs)

/-! ## Host -/

/-- Characters whose compatibility forms hold a delimiter of URLs. -/
def hiddenDelimiters : List Nat :=
  [0x2047, 0x2048, 0x2049, 0x2100, 0x2101, 0x2105, 0x2106, 0x2A74, 0xFE13, 0xFE16, 0xFE55, 0xFE56,
   0xFE5F, 0xFE6B, 0xFF03, 0xFF0F, 0xFF1A, 0xFF1F, 0xFF20]

/-- Checks an address that stands in brackets. -/
def checkAddress (cs : List Char) : Except HostFault Unit :=
  if cs.head? = some 'v' then
    if Address.isFuture cs then .ok () else .error .futureAddress
  else if Address.isV4 cs then .error .bracketedV4
  else if Address.isV6 cs then .ok ()
  else .error (.noAddress (String.ofList cs))

/-- What follows the last at sign of a host part; all of it if there is none. -/
def afterUser (netloc : List Char) : List Char :=
  (netloc.reverse.takeWhile (· ≠ '@')).reverse

/-- Checks a host part that has brackets. Between the user and the port nothing may stand outside of
the brackets; where they belong to the user, the host itself must be an address. -/
def checkBrackets (netloc : List Char) : Except HostFault Unit :=
  let host := afterUser netloc
  match host.dropWhile (· ≠ '[') with
  | [] => checkAddress (host.takeWhile (· ≠ ':'))
  | _ :: inner =>
    let port := (inner.dropWhile (· ≠ ']')).drop 1
    if host.head? ≠ some '[' || !(port.isEmpty || port.head? == some ':') then .error .unbalanced
    else checkAddress (inner.takeWhile (· ≠ ']'))

/-- Checks the part of a URL that names a host. -/
def checkHost (netloc : List Char) : Except HostFault Unit :=
  if netloc.contains '[' ≠ netloc.contains ']' then .error .unbalanced
  else
    match if netloc.contains '[' then checkBrackets netloc else .ok () with
    | .error fault => .error fault
    | .ok () =>
      if netloc.any fun c => hiddenDelimiters.contains c.toNat then
        .error (.hiddenDelimiter (String.ofList netloc))
      else .ok ()

/-- The part of a URL between `//` and the next delimiter, and the rest. -/
def splitHost (cs : List Char) : List Char × List Char :=
  match cs with
  | '/' :: '/' :: rest =>
    let inHost := fun c => c ≠ '/' && c ≠ '?' && c ≠ '#'
    (rest.takeWhile inHost, rest.dropWhile inHost)
  | _ => ([], cs)

/-- Takes a URL apart. -/
def parse (text : String) : Except HostFault Url := do
  let (scheme, rest) := splitScheme (clean text.toList)
  let (netloc, rest) := splitHost rest
  checkHost netloc
  return { scheme := String.ofList scheme
           path := rest.takeWhile fun c => c ≠ '#' && c ≠ '?' }

/-! ## Percent escapes -/

/-- The bytes of an ASCII text whose percent escapes are decoded; a percent sign without two digits
stands for itself. -/
def unescapeBytes : List Char → Bytes
  | [] => []
  | c :: rest =>
    if c = '%' then
      match rest with
      | a :: b :: rest' =>
        match Text.hexValue? a, Text.hexValue? b with
        | some x, some y => UInt8.ofNat (16 * x + y) :: unescapeBytes rest'
        | _, _ => 0x25 :: unescapeBytes (a :: b :: rest')
      | rest' => 0x25 :: unescapeBytes rest'
    else UInt8.ofNat c.toNat :: unescapeBytes rest

def isAscii (c : Char) : Bool := decide (c.toNat < 0x80)

/-- Decodes the percent escapes of a text. Each run of ASCII characters is decoded by itself, bytes
that are no text replaced; `run` holds the run so far, last character first. -/
def unescapeFrom (run : List Char) : List Char → List Char
  | [] => (Utf8.decodeLossy (unescapeBytes run.reverse)).toList
  | c :: rest =>
    if isAscii c then unescapeFrom (c :: run) rest
    else (Utf8.decodeLossy (unescapeBytes run.reverse)).toList ++ c :: unescapeFrom [] rest

/-- Decodes the percent escapes of a text. -/
def unescape (cs : List Char) : List Char := unescapeFrom [] cs

end Url

end ScriptLint
