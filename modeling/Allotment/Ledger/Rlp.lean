import Allotment.Bytes.Basic

/-!
# Nested byte strings in bytes

An item is a byte string or a list of items. A byte below 128 stands for itself; anything else starts with a byte that
tells its kind and its length, or how many bytes its length takes.
-/

namespace Allotment.Rlp

/-- A byte string or a list of items. -/
inductive Item where
  | bytes (bytes : Bytes)
  | list (items : List Item)

/-- What stands in front of a byte string or a list of the given length; `base` tells the two apart. -/
def header (base length : Nat) : Bytes :=
  if length < 56 then [UInt8.ofNat (base + length)]
  else
    let size := Bytes.minimal length
    UInt8.ofNat (base + 55 + size.length) :: size

/-- A byte string as an item. -/
def encodeBytes : Bytes → Bytes
  | [byte] => if byte < 0x80 then [byte] else header 0x80 1 ++ [byte]
  | bytes => header 0x80 bytes.length ++ bytes

mutual

/-- The bytes of an item. -/
def encode : Item → Bytes
  | .bytes bytes => encodeBytes bytes
  | .list items =>
    let payload := encodeAll items
    header 0xc0 payload.length ++ payload

/-- The bytes of items one after the other. -/
def encodeAll : List Item → Bytes
  | [] => []
  | item :: items => encode item ++ encodeAll items

end

/-- A number as an item: its bytes without leading zeros. -/
def Item.nat (n : Nat) : Item := .bytes (Bytes.minimal n)

end Allotment.Rlp
