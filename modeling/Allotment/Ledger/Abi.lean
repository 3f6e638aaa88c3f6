import Allotment.Address

/-!
# Arguments of contract functions in bytes

Every argument has a word of 32 bytes in the head. An address stands in its word; a string has there the place where
its length and its bytes, filled up to whole words, follow after the head.
-/

namespace Allotment.Abi

/-- An argument. -/
inductive Value where
  | address (a : Address)
  | string (text : String)
  deriving DecidableEq

/-- A number in a word. -/
def word (n : Nat) : Bytes := Bytes.ofNat 32 n

/-- Bytes filled up with zeros to whole words. -/
def padded (bytes : Bytes) : Bytes :=
  bytes ++ List.replicate ((32 - bytes.length % 32) % 32) 0x00

/-- What follows the head for an argument. -/
def Value.tail : Value → Bytes
  | .address _ => []
  | .string text =>
    let bytes := text.toUTF8.data.toList
    word bytes.length ++ padded bytes

/-- The word of an argument in the head, `place` being where its tail starts. -/
def Value.head (place : Nat) : Value → Bytes
  | .address a => List.replicate 12 0x00 ++ a.bytes.toList
  | .string _ => word place

/-- The heads of arguments, the tail of the first one starting at `place`. -/
def heads (place : Nat) : List Value → Bytes
  | [] => []
  | value :: values => value.head place ++ heads (place + value.tail.length) values

/-- The bytes of arguments. -/
def encode (values : List Value) : Bytes :=
  heads (32 * values.length) values ++ values.flatMap Value.tail

/-- The bytes that stand for a function: the first four of the hash of its signature. -/
def selector (signature : String) : Bytes :=
  (Keccak.hash signature.toUTF8.data.toList).toList.take 4

end Allotment.Abi
