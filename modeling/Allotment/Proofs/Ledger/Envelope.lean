import Allotment.Ledger.Transaction
import Allotment.Proofs.Ledger.Rlp
import Mathlib.Logic.Equiv.Defs

/-!
# Transactions as they are read from bytes

An `Envelope` is all that a signed transaction of type two can say: it may also make a contract, send value and list
what it will touch. `decode?` reads it strictly, every field at its width and in its one spelling, so that an envelope
and its bytes determine each other (`decode?_eq_some_iff`).
-/

namespace Allotment

open Rlp (Item)

/-! ## Fields -/

/-- How something stands in an item. Reading undoes writing and takes nothing else. -/
structure ItemFormat (α : Type) where
  write : α → Item
  read? : Item → Option α
  read?_eq_some_iff : ∀ {item a}, read? item = some a ↔ write a = item

namespace ItemFormat

variable {α β : Type}

theorem read?_write (format : ItemFormat α) (a : α) : format.read? (format.write a) = some a :=
  format.read?_eq_some_iff.mpr rfl

/-- The same items for another way to look at what is in them. -/
def via (format : ItemFormat α) (e : β ≃ α) : ItemFormat β where
  write b := format.write (e b)
  read? item := (format.read? item).map e.symm
  read?_eq_some_iff {item b} := by
    rw [Option.map_eq_some_iff]
    constructor
    · rintro ⟨a, read, rfl⟩
      rw [e.apply_symm_apply]
      exact format.read?_eq_some_iff.mp read
    · intro written
      exact ⟨e b, format.read?_eq_some_iff.mpr written, e.symm_apply_apply b⟩

/-- A byte string. -/
def bytes : ItemFormat Bytes where
  write := .bytes
  read?
    | .bytes string => some string
    | .list _ => none
  read?_eq_some_iff {item a} := by cases item <;> simp [eq_comm]

/-- A number below a bound, without leading zero bytes. -/
def below (bound : Nat) : ItemFormat (Fin bound) where
  write n := .nat n.val
  read?
    | .bytes string => (Bytes.number? string).bind fun n => if fits : n < bound then some ⟨n, fits⟩ else none
    | .list _ => none
  read?_eq_some_iff {item a} := by
    cases item with
    | list items => exact iff_of_false nofun nofun
    | bytes string =>
      simp only [Option.bind_eq_some_iff, Bytes.number?_eq_some_iff, Item.nat, Item.bytes.injEq]
      constructor
      · rintro ⟨n, rfl, read⟩
        split at read
        case isTrue => cases read; rfl
        case isFalse => cases read
      · rintro rfl
        exact ⟨a, rfl, dif_pos a.isLt⟩

/-- A number of 64 bits. -/
def uint64 : ItemFormat UInt64 :=
  (below UInt64.size).via ⟨UInt64.toFin, UInt64.ofFin, fun _ => rfl, fun _ => rfl⟩

/-- A truth value: one for true, nothing for false. -/
def flag : ItemFormat Bool where
  write b := .nat (if b then 1 else 0)
  read?
    | .bytes [] => some false
    | .bytes [0x01] => some true
    | _ => none
  read?_eq_some_iff {item b} := by
    constructor
    · intro read
      split at read
      case h_1 => cases read; rfl
      case h_2 => cases read; rfl
      case h_3 => cases read
    · rintro rfl
      cases b <;> rfl

/-- A byte string of the given length. -/
def exactly (width : Nat) : ItemFormat (Vector UInt8 width) where
  write v := .bytes v.toList
  read?
    | .bytes string => Bytes.exactly? width string
    | .list _ => none
  read?_eq_some_iff {item v} := by
    cases item with
    | list items => exact iff_of_false nofun nofun
    | bytes string =>
      simp only [Item.bytes.injEq, Bytes.exactly?]
      constructor
      · intro read
        split at read
        case isTrue => cases read; rfl
        case isFalse => cases read
      · rintro rfl
        rw [dif_pos v.length_toList]
        rfl

/-- An address. -/
def address : ItemFormat Address :=
  (exactly 20).via ⟨Address.bytes, Address.mk, fun _ => rfl, fun _ => rfl⟩

/-- Who a transaction is for; a contract is made where nobody is named. -/
def recipient : ItemFormat (Option Address) where
  write
    | none => .bytes []
    | some a => address.write a
  read?
    | .bytes [] => some none
    | item => (address.read? item).map some
  read?_eq_some_iff {item a} := by
    constructor
    · intro read
      split at read
      case h_1 => cases read; rfl
      case h_2 =>
        obtain ⟨a, named, rfl⟩ := Option.map_eq_some_iff.mp read
        exact address.read?_eq_some_iff.mp named
    · rintro rfl
      cases a with
      | none => rfl
      | some a =>
        have named : address.write a ≠ .bytes [] := fun empty => by
          have none : a.bytes.toList = [] := Item.bytes.inj empty
          have length := a.bytes.length_toList
          rw [none] at length
          cases length
        split
        case h_1 empty => exact absurd empty named
        case h_2 => rw [address.read?_write]; rfl

/-- Items one after the other. -/
def list (format : ItemFormat α) : ItemFormat (List α) where
  write as := .list (as.map format.write)
  read?
    | .bytes _ => none
    | .list items => items.mapM format.read?
  read?_eq_some_iff {item as} := by
    cases item with
    | bytes string => exact iff_of_false nofun nofun
    | list items =>
      rw [Item.list.injEq]
      induction items generalizing as with
      | nil => simp [List.map_eq_nil_iff, eq_comm]
      | cons item items ih =>
        simp only [List.mapM_cons, Option.bind_eq_bind, Option.bind_eq_some_iff, Option.pure_def, Option.some.injEq,
          format.read?_eq_some_iff, ih, List.map_eq_cons_iff]
        constructor
        · rintro ⟨a, written, as, others, rfl⟩
          exact ⟨a, as, rfl, written, others⟩
        · rintro ⟨a, as, rfl, written, others⟩
          exact ⟨a, written, as, others, rfl⟩

end ItemFormat

/-- An account that a transaction will touch, with the places in its storage. -/
structure Access where
  account : Address
  places : List Digest

open ItemFormat in
/-- An access as an item. -/
def Access.format : ItemFormat Access where
  write a := .list [address.write a.account, (list (exactly 32)).write a.places]
  read?
    | .list [account, places] => do return ⟨← address.read? account, ← (list (exactly 32)).read? places⟩
    | _ => none
  read?_eq_some_iff {item a} := by
    constructor
    · intro read
      split at read
      case h_1 =>
        simp only [Option.bind_eq_bind, Option.bind_eq_some_iff, Option.pure_def, Option.some.injEq,
          read?_eq_some_iff] at read
        obtain ⟨account, rfl, places, rfl, rfl⟩ := read
        rfl
      case h_2 => cases read
    · rintro rfl
      simp [read?_write]

/-! ## Envelopes -/

/-- How many numbers there are of 256 bits. -/
abbrev Word.size : Nat := 0x10000000000000000000000000000000000000000000000000000000000000000

/-- A number of 256 bits. -/
abbrev Word := Fin Word.size

/-- A signed transaction of type two. -/
structure Envelope where
  chainId : UInt64
  nonce : UInt64
  maxPriorityFee : Wei
  maxFee : Wei
  gasLimit : UInt64
  recipient : Option Address
  value : Word
  input : Bytes
  accessList : List Access
  odd : Bool
  r : Word
  s : Word

namespace Envelope

open ItemFormat

/-- The nine fields that are signed. -/
def unsigned (e : Envelope) : List Item := [
  uint64.write e.chainId, uint64.write e.nonce, (below Wei.size).write e.maxPriorityFee,
  (below Wei.size).write e.maxFee, uint64.write e.gasLimit, ItemFormat.recipient.write e.recipient,
  (below Word.size).write e.value, bytes.write e.input, (list Access.format).write e.accessList]

/-- The hash that is signed. -/
def signingHash (e : Envelope) : Digest :=
  Keccak.hash (0x02 :: Rlp.encode (.list e.unsigned))

/-- The signature. -/
def signature (e : Envelope) : Secp256k1.Signature := ⟨e.odd, e.r.val, e.s.val⟩

/-- All the fields. -/
def items (e : Envelope) : List Item :=
  e.unsigned ++ [flag.write e.odd, (below Word.size).write e.r, (below Word.size).write e.s]

/-- The bytes of an envelope. -/
def encode (e : Envelope) : Bytes :=
  0x02 :: Rlp.encode (.list e.items)

/-- The envelope with the given fields. -/
def ofItems? : List Item → Option Envelope
  | [chainId, nonce, maxPriorityFee, maxFee, gasLimit, recipient, value, input, accessList, odd, r, s] => do return {
    chainId := ← uint64.read? chainId
    nonce := ← uint64.read? nonce
    maxPriorityFee := ← (below Wei.size).read? maxPriorityFee
    maxFee := ← (below Wei.size).read? maxFee
    gasLimit := ← uint64.read? gasLimit
    recipient := ← ItemFormat.recipient.read? recipient
    value := ← (below Word.size).read? value
    input := ← bytes.read? input
    accessList := ← (list Access.format).read? accessList
    odd := ← flag.read? odd
    r := ← (below Word.size).read? r
    s := ← (below Word.size).read? s }
  | _ => none

/-- The envelope that some bytes are: the type byte, and one list that goes to the end. -/
def decode? : Bytes → Option Envelope
  | [] => none
  | type :: body =>
    if type = 0x02 then
      match Rlp.decodeAll? body with
      | some [.list items] => ofItems? items
      | _ => none
    else none

theorem ofItems?_eq_some_iff {is : List Item} {e : Envelope} : ofItems? is = some e ↔ e.items = is := by
  constructor
  · intro read
    rw [ofItems?.eq_def] at read
    split at read
    case h_1 =>
      simp only [Option.bind_eq_bind, Option.bind_eq_some_iff, Option.pure_def, Option.some.injEq,
        read?_eq_some_iff] at read
      obtain
        ⟨_, rfl, _, rfl, _, rfl, _, rfl, _, rfl, _, rfl, _, rfl, _, rfl, _, rfl, _, rfl, _, rfl, _, rfl, rfl⟩ := read
      rfl
    case h_2 => cases read
  · rintro rfl
    simp [items, unsigned, ofItems?, read?_write]

/-- **An envelope and its bytes determine each other.** -/
theorem decode?_eq_some_iff {bytes : Bytes} {e : Envelope} (fits : bytes.length < UInt64.size) :
    decode? bytes = some e ↔ e.encode = bytes := by
  constructor
  · intro read
    rw [decode?.eq_def] at read
    split at read
    case h_1 => cases read
    case h_2 type body =>
      split at read
      case isFalse => cases read
      case isTrue two =>
        subst two
        split at read
        case h_2 => cases read
        case h_1 is whole =>
          rw [List.length_cons] at fits
          rw [Rlp.decodeAll?_eq_some_iff (by omega)] at whole
          rw [encode, ofItems?_eq_some_iff.mp read, ← whole]
          simp [Rlp.encodeAll]
  · rintro rfl
    rw [encode, List.length_cons] at fits
    have whole : Rlp.decodeAll? (Rlp.encode (.list e.items)) = some [.list e.items] :=
      (Rlp.decodeAll?_eq_some_iff (by omega)).mpr (by simp [Rlp.encodeAll])
    simp only [encode, decode?, whole, if_true]
    exact ofItems?_eq_some_iff.mpr rfl

end Envelope

end Allotment
