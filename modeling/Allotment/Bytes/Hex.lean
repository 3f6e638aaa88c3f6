import Allotment.Bytes.Basic

/-!
# Hexadecimal text

Two digits a byte. Writing uses lower-case digits; reading takes digits of either case and nothing else
(`decode?_encode`).
-/

namespace Allotment.Hex

/-- The value of a digit of either case. -/
def value? (c : Char) : Option Nat :=
  if '0' ≤ c ∧ c ≤ '9' then some (c.toNat - '0'.toNat)
  else if 'a' ≤ c ∧ c ≤ 'f' then some (c.toNat - 'a'.toNat + 10)
  else if 'A' ≤ c ∧ c ≤ 'F' then some (c.toNat - 'A'.toNat + 10)
  else none

/-- Whether a character is a hexadecimal digit of either case. -/
def isDigit (c : Char) : Bool := (value? c).isSome

/-- The digits of a byte. -/
def byteChars (byte : UInt8) : List Char :=
  [Nat.digitChar (byte.toNat / 16), Nat.digitChar (byte.toNat % 16)]

/-- The digits of a byte string. -/
def encode (bytes : Bytes) : List Char :=
  bytes.flatMap byteChars

/-- The byte string that digits denote, if there are only digits and an even number of them. -/
def decode? : List Char → Option Bytes
  | [] => some []
  | a :: b :: rest => do
    let high ← value? a
    let low ← value? b
    return UInt8.ofNat (16 * high + low) :: (← decode? rest)
  | [_] => none

theorem value?_digitChar : ∀ n < 16, value? (Nat.digitChar n) = some n := by decide

@[simp] theorem encode_nil : encode [] = [] := rfl
@[simp] theorem encode_cons (byte : UInt8) (bytes : Bytes) :
    encode (byte :: bytes) = byteChars byte ++ encode bytes := rfl

/-- Reading digits gives back the bytes that were written. -/
@[simp] theorem decode?_encode (bytes : Bytes) : decode? (encode bytes) = some bytes := by
  induction bytes with
  | nil => rfl
  | cons byte bytes ih =>
    have hb := byte.toNat_lt
    have high : value? (Nat.digitChar (byte.toNat / 16)) = some (byte.toNat / 16) := value?_digitChar _ (by omega)
    have low : value? (Nat.digitChar (byte.toNat % 16)) = some (byte.toNat % 16) := value?_digitChar _ (by omega)
    have whole : UInt8.ofNat (16 * (byte.toNat / 16) + byte.toNat % 16) = byte := by
      rw [Nat.div_add_mod]; exact UInt8.ofNat_toNat
    simp only [encode_cons, byteChars, List.cons_append, List.nil_append, decode?, high, low, ih, Option.bind_eq_bind,
      Option.bind_some, whole]
    rfl

/-- The digits of a byte string after `0x`. -/
def text (bytes : Bytes) : String :=
  String.ofList ('0' :: 'x' :: encode bytes)

/-- A text without one `0x` or `0X` at its start. -/
def dropMark : List Char → List Char
  | '0' :: 'x' :: rest => rest
  | '0' :: 'X' :: rest => rest
  | cs => cs

end Allotment.Hex
