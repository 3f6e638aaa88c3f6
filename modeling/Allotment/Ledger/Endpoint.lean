import Allotment.Domain.Name
import Allotment.Text.Decimal

/-!
# Endpoints

An endpoint is a web address with the scheme `http` or `https` and a host. Its parts are found as browsers find them:
control characters and spaces around it and line ends inside it are dropped, any slashes may follow the scheme, and
what stands before the last at-sign is no part of the host.
-/

namespace Allotment.Endpoint

/-- A character after which the host of an address and its service cannot go on. -/
def endsAuthority (c : Char) : Bool :=
  c = '/' || c = '\\' || c = '?' || c = '#'

/-- An address without control characters and spaces around it and line ends and tabs inside it. -/
def clean (cs : List Char) : List Char :=
  let dropOuter (cs : List Char) := cs.dropWhile fun c => c.toNat ≤ 0x20
  (dropOuter (dropOuter cs).reverse).reverse.filter fun c => c != '\t' && c != '\n' && c != '\r'

/-- Whether the scheme is the one with encryption, and what follows the scheme, in any case, and its colon. -/
def splitScheme? (cs : List Char) : Option (Bool × List Char) :=
  match cs.span (· != ':') with
  | (scheme, ':' :: rest) =>
    let scheme := scheme.map Char.toLower
    if scheme = ['h', 't', 't', 'p'] then some (false, rest)
    else if scheme = ['h', 't', 't', 'p', 's'] then some (true, rest)
    else none
  | _ => none

/-- What stands between the slashes after the scheme and the path, and the path. -/
def splitAuthority (cs : List Char) : List Char × List Char :=
  (cs.dropWhile fun c => c = '/' || c = '\\').span (!endsAuthority ·)

/-- What follows the last at-sign. -/
def afterUser (cs : List Char) : List Char :=
  (cs.reverse.takeWhile (· != '@')).reverse

/-- The host and, if a colon follows it, the number of the service; a colon between brackets belongs to the host. -/
def splitService (inside : Bool) : List Char → List Char × Option (List Char)
  | [] => ([], none)
  | c :: rest =>
    if c = ':' && !inside then ([], some rest)
    else
      let (host, service) := splitService (if c = '[' then true else if c = ']' then false else inside) rest
      (c :: host, service)

/-- Whether the number of a service is made of digits and small enough; it may be empty. -/
def isService (cs : List Char) : Bool :=
  cs.all Char.isDigit && Text.digitsValue cs < 65536

/-! ## Numeric hosts -/

/-- The value of digits in a base of at most sixteen. -/
def readRadix? (radix : Nat) (cs : List Char) : Option Nat :=
  cs.foldlM (fun n c => (Hex.value? c).bind fun d => if d < radix then some (radix * n + d) else none) 0

/-- The value of a part of a numeric host: decimal, octal after a zero, hexadecimal after `0x`. -/
def readPart? : List Char → Option Nat
  | [] => none
  | '0' :: 'x' :: rest => readRadix? 16 rest
  | '0' :: 'X' :: rest => readRadix? 16 rest
  | '0' :: c :: rest => readRadix? 8 (c :: rest)
  | cs => readRadix? 10 cs

/-- The labels of a host, without an empty last one. -/
def labels (host : List Char) : List (List Char) :=
  let all := Domain.labels host
  if all.getLast? == some [] then all.dropLast else all

/-- Whether the last part of a host is a number, so that all of it must be one. -/
def endsInNumber (host : List Char) : Bool :=
  match (labels host).getLast? with
  | none => false
  | some last => (!last.isEmpty && last.all Char.isDigit) || (readPart? last).isSome

/-- Whether a host is an address of four bytes, the last part standing for all bytes not given. -/
def isFourBytes (host : List Char) : Bool :=
  match (labels host).mapM readPart? with
  | none => false
  | some parts =>
    0 < parts.length && parts.length ≤ 4 && parts.dropLast.all (· < 256) &&
      parts.getLast?.any (· < Nat.pow 256 (5 - parts.length))

/-- Whether a part of an address between colons is made of one to four hexadecimal digits. -/
def isGroup (cs : List Char) : Bool :=
  0 < cs.length && cs.length ≤ 4 && cs.all Hex.isDigit

/-- How many groups a run between colons takes, the last of which may be four decimal bytes; none if one is bad. -/
def countGroups? (decimalEnd : Bool) (cs : List Char) : Option Nat :=
  if cs.isEmpty then some 0
  else
    let (first, others) := Text.splitChars ':' cs
    let groups := first :: others
    let isDecimal (group : List Char) : Bool :=
      let (a, rest) := Text.splitChars '.' group
      let bytes := a :: rest
      bytes.length = 4 && bytes.all fun byte =>
        !byte.isEmpty && byte.all Char.isDigit && (byte.length = 1 || byte.head? != some '0') &&
          Text.digitsValue byte < 256
    if groups.all isGroup then some groups.length
    else if decimalEnd && groups.dropLast.all isGroup && (groups.getLast?.any isDecimal) then some (groups.length + 1)
    else none

/-- The texts before and after the first two colons in a row. -/
def splitGap? : List Char → Option (List Char × List Char)
  | ':' :: ':' :: rest => some ([], rest)
  | c :: rest => (splitGap? rest).map fun (before, after) => (c :: before, after)
  | [] => none

/-- Whether a text is an address of eight groups, of which some may be left out at two colons. -/
def isEightGroups (cs : List Char) : Bool :=
  match splitGap? cs with
  | none => countGroups? true cs == some 8
  | some (before, after) =>
    match countGroups? false before, countGroups? true after with
    | some a, some b => a + b < 8
    | _, _ => false

/-! ## Hosts -/

/-- The bytes of a text with `%` and two digits standing for a byte. -/
def percentDecode : List Char → Bytes
  | '%' :: a :: b :: rest =>
    match Hex.decode? [a, b] with
    | some bytes => bytes ++ percentDecode rest
    | none => '%'.toNat.toUInt8 :: percentDecode (a :: b :: rest)
  | c :: rest => (String.singleton c).toUTF8.data.toList ++ percentDecode rest
  | [] => []

/-- A host in ASCII, if a text is one: an address in brackets, a numeric address or a name. -/
def hostForm? : List Char → Option (List Char)
  | '[' :: rest => if rest.getLast? == some ']' && isEightGroups rest.dropLast then some ('[' :: rest) else none
  | cs => do
    let name ← String.fromUTF8? (percentDecode cs).toByteArray
    let form ← Domain.ascii? name.toList
    if !form.isEmpty && (!endsInNumber form || isFourBytes form) then some form else none

/-- Whether a text is a host. -/
def isHost (cs : List Char) : Bool :=
  (hostForm? cs).isSome

/-! ## Endpoints -/

/-- The parts of a web address. -/
structure Parts where
  secure : Bool
  host : List Char
  service : Option (List Char)
  path : List Char

/-- The parts of a text that may be a web address. -/
def parts? (text : String) : Option Parts := do
  let (secure, rest) ← splitScheme? (clean text.toList)
  let (authority, path) := splitAuthority rest
  let (host, service) := splitService false (afterUser authority)
  return { secure, host, service, path }

/-- Whether a text is an endpoint. -/
def isValid (text : String) : Bool :=
  (parts? text).any fun parts => isHost parts.host && parts.service.all isService

end Allotment.Endpoint
