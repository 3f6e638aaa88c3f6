import Allotment.Bytes.Hex
import Allotment.Hash.Keccak
import Allotment.Json.Record
import Allotment.Text.Blank

/-!
# Addresses

An address is twenty bytes. It is read from forty hexadecimal digits of either case, with or without a mark in front
and white space around, so that equality of addresses does not see how they were spelled; it is written with the case
of each letter telling a bit of a checksum.
-/

namespace Allotment

/-- An address of the ledger. -/
structure Address where
  bytes : Vector UInt8 20
  deriving DecidableEq

namespace Address

/-- Addresses are ordered as their bytes are, first byte first. -/
instance : Ord Address where
  compare a b := compare a.bytes.toList b.bytes.toList

/-- The address that forty digits denote. -/
def ofDigits? (cs : List Char) : Option Address :=
  if cs.length = 40 then (Hex.decode? cs).bind fun bytes => (Bytes.exactly? 20 bytes).map Address.mk else none

/-- The address that a text denotes. -/
def parse? (raw : String) : Option Address :=
  ofDigits? (Hex.dropMark (Text.trimChars raw.toList))

/-- The forty lower-case digits of an address. -/
def digits (a : Address) : List Char :=
  Hex.encode a.bytes.toList

/-- The digits of an address in lower case, after `0x`. -/
def lowerText (a : Address) : String :=
  Hex.text a.bytes.toList

/-- A digit as the checksum wants it: a letter is a capital when the digit of the hash at its place is eight or
more. -/
def checksumDigit (digit hashDigit : Char) : Char :=
  if (Hex.value? hashDigit).any (8 ≤ ·) then digit.toUpper else digit

/-- The digits of an address with the case of each letter set by the hash of the lower-case digits. -/
def checksumDigits (a : Address) : List Char :=
  let hash := Keccak.hash (a.digits.map fun c => UInt8.ofNat c.toNat)
  List.zipWith checksumDigit a.digits (Hex.encode hash.toList)

/-- The text of an address. -/
def text (a : Address) : String :=
  String.ofList ('0' :: 'x' :: a.checksumDigits)

/-- What is said of a text that is no address. -/
def invalidMessage (raw : String) : String :=
  "invalid account address: " ++ Text.quoted raw

/-- A text that is no address, just as it was given. -/
structure Invalid where
  raw : String
  deriving DecidableEq

/-- The wording of the error. -/
def Invalid.message (e : Invalid) : String := invalidMessage e.raw

/-- The address that a text denotes, or else the text that denotes none. -/
def parse (raw : String) : Except Invalid Address :=
  match parse? raw with
  | some a => .ok a
  | none => .error ⟨raw⟩

/-- Takes an address out of a document. -/
def decoder : Json.Decoder Address := fun depth document => do
  let raw ← Json.Decoder.string depth document
  match parse raw with
  | .ok a => return a
  | .error e => throw (.unsuitable e.message)

/-- An address as a JSON string. -/
def toJson (a : Address) : Json := .string a.text

end Address

end Allotment
