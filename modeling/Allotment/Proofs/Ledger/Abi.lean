import Allotment.Ledger.Abi
import Allotment.Proofs.Address.Spelling
import Allotment.Proofs.Text.Utf8
import Allotment.Proofs.Ledger.Rlp

/-!
# Reading the arguments of contract functions

`decode?` reads arguments strictly: the tails must follow the head one after the other and without gaps, every place in
the head must be that of its tail, all that is filled up must be zeros, and nothing may be left over. Such reading
undoes writing and takes nothing else (`decode?_eq_some_iff`); what is written must have places and lengths that fit
into a word (`Fits`).

Whatever its length is, a string is told by its tail (`tail_string_inj`): a word that is too small for a length still
tells how many bytes are filled up.
-/

namespace Allotment.Abi

open Rlp (cut? cut?_eq_some_iff)

/-! ## The reader -/

/-- What an argument is. -/
inductive Kind where
  | address
  | string
  deriving DecidableEq

/-- What an argument is. -/
def Value.kind : Value → Kind
  | .address _ => .address
  | .string _ => .string

/-- How many bytes fill up others to whole words. -/
def filling (length : Nat) : Nat :=
  (32 - length % 32) % 32

/-- What follows the given number of zeros. -/
def cutZeros? (count : Nat) (bytes : Bytes) : Option Bytes := do
  let (zeros, rest) ← cut? count bytes
  if zeros.all (· == 0x00) then some rest else none

/-- The address in a word. -/
def readAddress? (word : Bytes) : Option Address := do
  let bytes ← cutZeros? 12 word
  (Bytes.exactly? 20 bytes).map Address.mk

/-- The text at the front of some bytes, after its length, and what follows where it is filled up. -/
def readString? (bytes : Bytes) : Option (String × Bytes) := do
  let (spelled, bytes) ← cut? 32 bytes
  let (contents, bytes) ← cut? (Bytes.toNat spelled) bytes
  let rest ← cutZeros? (filling contents.length) bytes
  (String.fromUTF8? ⟨contents.toArray⟩).map fun text => (text, rest)

/-- The argument with a word in the head, and what follows its tail, which must start at `place`. -/
def readValue? (place : Nat) (kind : Kind) (word tails : Bytes) : Option (Value × Bytes) :=
  match kind with
  | .address => (readAddress? word).map fun a => (.address a, tails)
  | .string =>
    if Bytes.toNat word = place then (readString? tails).map fun (text, rest) => (.string text, rest) else none

/-- The arguments with a head and with tails, the first of which must start at `place`. -/
def readValues? (place : Nat) : List Kind → Bytes → Bytes → Option (List Value)
  | [], heads, tails => if heads.isEmpty && tails.isEmpty then some [] else none
  | kind :: kinds, heads, tails => do
    let (word, heads) ← cut? 32 heads
    let (value, rest) ← readValue? place kind word tails
    let values ← readValues? (place + (tails.length - rest.length)) kinds heads rest
    return value :: values

/-- The arguments that bytes are. -/
def decode? (kinds : List Kind) (bytes : Bytes) : Option (List Value) := do
  let (heads, tails) ← cut? (32 * kinds.length) bytes
  readValues? (32 * kinds.length) kinds heads tails

/-- What is filled up has whole words. -/
theorem add_filling (length : Nat) : length + filling length = 32 * ((length + 31) / 32) := by
  rw [filling]
  omega

/-! ## Words -/

variable {bytes rest spelled front tails : Bytes} {n m place : Nat} {a : Address} {text text' : String} {value : Value}
  {values : List Value} {kind : Kind} {kinds : List Kind}

@[simp] theorem length_word (n : Nat) : (word n).length = 32 :=
  Bytes.length_ofNat 32 n

@[simp] theorem length_head (place : Nat) (value : Value) : (value.head place).length = 32 := by
  cases value with
  | address a => simp [Value.head]
  | string text => exact length_word place

/-- An address has no tail. -/
@[simp] theorem tail_address (a : Address) : (Value.address a).tail = [] := rfl

theorem toNat_word (fits : n < 2 ^ 256) : Bytes.toNat (word n) = n :=
  Bytes.toNat_ofNat (show n < 256 ^ 32 by omega)

theorem toNat_lt_of_length (sized : spelled.length = 32) : Bytes.toNat spelled < 2 ^ 256 := by
  have bound := Bytes.toNat_lt spelled
  rw [sized] at bound
  omega

/-- A word of 32 bytes is that of the number which it denotes. -/
theorem word_toNat (sized : spelled.length = 32) : word (Bytes.toNat spelled) = spelled := by
  rw [word, ← sized, Bytes.ofNat_toNat]

/-- Even a word that is too small for a number tells its lowest byte. -/
theorem mod_of_word_eq (same : word n = word m) : n % 256 = m % 256 := by
  rw [word, word, Bytes.ofNat, Bytes.ofNat] at same
  obtain ⟨-, last⟩ := List.append_inj' same rfl
  have low := congrArg UInt8.toNat (List.singleton_inj.mp last)
  simpa using low

theorem cutZeros?_eq_some_iff {count : Nat} :
    cutZeros? count bytes = some rest ↔ bytes = List.replicate count 0x00 ++ rest := by
  simp only [cutZeros?, Option.bind_eq_bind, Option.bind_eq_some_iff, Prod.exists, cut?_eq_some_iff]
  constructor
  · rintro ⟨zeros, rest, ⟨sized, rfl⟩, zero⟩
    split at zero
    case isTrue all =>
      obtain rfl := Option.some.inj zero
      have zeros_eq : zeros = List.replicate count 0x00 := by
        rw [List.eq_replicate_iff]
        exact ⟨sized, by simpa using all⟩
      rw [zeros_eq]
    case isFalse => cases zero
  · rintro rfl
    exact ⟨_, _, ⟨List.length_replicate, rfl⟩, if_pos (by simp)⟩

/-! ## Addresses and texts -/

theorem readAddress?_eq_some_iff (place : Nat) :
    readAddress? spelled = some a ↔ spelled = (Value.address a).head place := by
  simp only [readAddress?, Option.bind_eq_bind, Option.bind_eq_some_iff, cutZeros?_eq_some_iff, Option.map_eq_some_iff,
    Bytes.exactly?_eq_some_iff]
  constructor
  · rintro ⟨bytes, rfl, v, rfl, rfl⟩
    rfl
  · rintro rfl
    exact ⟨_, rfl, _, rfl, rfl⟩

/-- The bytes of a text. -/
def contents (text : String) : Bytes :=
  text.toUTF8.data.toList

theorem length_contents (text : String) : (contents text).length = text.utf8ByteSize := rfl

theorem head_address_inj {a' : Address} {place' : Nat} :
    (Value.address a).head place = (Value.address a').head place' ↔ a = a' := by
  constructor
  · intro same
    have read : readAddress? ((Value.address a).head place) = some a := (readAddress?_eq_some_iff place).mpr rfl
    rw [same, (readAddress?_eq_some_iff place').mpr rfl] at read
    exact (Option.some.inj read).symm
  · rintro rfl
    rfl

theorem fromUTF8?_eq_some_iff : String.fromUTF8? ⟨bytes.toArray⟩ = some text ↔ bytes = contents text := by
  rw [Text.fromUTF8?_eq_some_iff]
  constructor
  · intro same
    rw [contents, ← same]
  · rintro rfl
    rfl

/-- The tail of a text is its length in a word, its bytes, and zeros that fill them up. -/
theorem tail_string (text : String) :
    (Value.string text).tail = word (contents text).length ++
      (contents text ++ List.replicate (filling (contents text).length) 0x00) := rfl

theorem length_tail_string (text : String) :
    (Value.string text).tail.length = 32 + 32 * ((text.utf8ByteSize + 31) / 32) := by
  rw [tail_string, List.length_append, length_word, List.length_append, List.length_replicate, add_filling,
    length_contents]

/-- A text is read back from its tail if its length fits into a word. -/
theorem readString?_eq_some_iff :
    readString? bytes = some (text, rest) ↔
      bytes = (Value.string text).tail ++ rest ∧ text.utf8ByteSize < 2 ^ 256 := by
  simp only [readString?, Option.bind_eq_bind, Option.bind_eq_some_iff, Prod.exists, cut?_eq_some_iff,
    cutZeros?_eq_some_iff, Option.map_eq_some_iff, fromUTF8?_eq_some_iff]
  constructor
  · rintro ⟨spelled, others, ⟨sized, rfl⟩, bytes, others', ⟨counted, rfl⟩, rest', rfl, text', same, pair⟩
    obtain ⟨rfl, rfl⟩ := Prod.mk.inj pair
    rw [same] at counted ⊢
    refine ⟨?_, ?_⟩
    · rw [tail_string, counted, word_toNat sized]
      simp only [List.append_assoc]
    · rw [← length_contents, counted]
      exact toNat_lt_of_length sized
  · intro ⟨joined, fits⟩
    rw [joined, tail_string]
    refine ⟨word (contents text).length, _, ⟨length_word _, ?_⟩, contents text, _, ⟨(toNat_word fits).symm, rfl⟩, rest, rfl,
      text, rfl, rfl⟩
    simp only [List.append_assoc]

/-- Whatever its length is, a text is told by its tail. -/
theorem tail_string_inj : (Value.string text).tail = (Value.string text').tail ↔ text = text' := by
  constructor
  · intro same
    rw [tail_string, tail_string] at same
    obtain ⟨sameWord, samePadded⟩ := List.append_inj same (by rw [length_word, length_word])
    have low := mod_of_word_eq sameWord
    -- the lengths agree in how much is filled up, and so in what is left of the same number of bytes
    have whole := congrArg List.length samePadded
    simp only [List.length_append, List.length_replicate, filling] at whole
    have sameLength : (contents text).length = (contents text').length := by omega
    have sameContents := (List.append_inj samePadded sameLength).1
    rw [← String.toByteArray_inj]
    exact ByteArray.ext (Array.toList_inj.mp sameContents)
  · rintro rfl
    rfl

/-! ## Arguments -/

/-- The numbers that are written for an argument fit into words. -/
def Value.Fits (place : Nat) : Value → Prop
  | .address _ => True
  | .string text => place < 2 ^ 256 ∧ text.utf8ByteSize < 2 ^ 256

/-- The numbers that are written for arguments fit into words, the tail of the first one starting at `place`. -/
def Fits (place : Nat) : List Value → Prop
  | [] => True
  | value :: values => value.Fits place ∧ Fits (place + value.tail.length) values

theorem readValue?_eq_some_iff (sized : spelled.length = 32) :
    readValue? place kind spelled tails = some (value, rest) ↔
      value.kind = kind ∧ spelled = value.head place ∧ tails = value.tail ++ rest ∧ value.Fits place := by
  cases kind with
  | address =>
    constructor
    · intro read
      obtain ⟨a, given, pair⟩ := Option.map_eq_some_iff.mp read
      obtain ⟨rfl, rfl⟩ := Prod.mk.inj pair
      exact ⟨rfl, (readAddress?_eq_some_iff place).mp given, rfl, trivial⟩
    · intro ⟨kinded, written, joined, _⟩
      cases value with
      | address a =>
        rw [readValue?, (readAddress?_eq_some_iff place).mpr written, joined]
        rfl
      | string text => cases kinded
  | string =>
    constructor
    · intro read
      rw [readValue?] at read
      split at read
      case isTrue placed =>
        obtain ⟨⟨text, left⟩, given, pair⟩ := Option.map_eq_some_iff.mp read
        obtain ⟨rfl, rfl⟩ := Prod.mk.inj pair
        obtain ⟨joined, fits⟩ := readString?_eq_some_iff.mp given
        refine ⟨rfl, ?_, joined, ?_, fits⟩
        · rw [Value.head, ← placed, word_toNat sized]
        · rw [← placed]
          exact toNat_lt_of_length sized
      case isFalse => cases read
    · intro ⟨kinded, written, joined, fits⟩
      cases value with
      | address a => cases kinded
      | string text =>
        have placed : Bytes.toNat spelled = place := by
          rw [written]
          exact toNat_word fits.1
        rw [readValue?, if_pos placed, readString?_eq_some_iff.mpr ⟨joined, fits.2⟩]
        rfl

/-- Arguments are read from their heads and their tails, and from nothing else. -/
theorem readValues?_eq_some_iff :
    readValues? place kinds front tails = some values ↔
      values.map Value.kind = kinds ∧ front = heads place values ∧ tails = values.flatMap Value.tail ∧
        Fits place values := by
  induction kinds generalizing place front tails values with
  | nil =>
    rw [readValues?, List.map_eq_nil_iff]
    constructor
    · intro read
      split at read
      case isTrue done =>
        rw [Bool.and_eq_true, List.isEmpty_iff, List.isEmpty_iff] at done
        obtain rfl := Option.some.inj read
        exact ⟨rfl, done.1, done.2, trivial⟩
      case isFalse => cases read
    · rintro ⟨rfl, rfl, rfl, -⟩
      rfl
  | cons kind kinds ih =>
    simp only [readValues?, Option.bind_eq_bind, Option.bind_eq_some_iff, Prod.exists, cut?_eq_some_iff]
    constructor
    · rintro ⟨spelled, front', ⟨sized, rfl⟩, value, rest, first, values', others, same⟩
      obtain rfl := Option.some.inj same
      obtain ⟨kinded, written, joined, fits⟩ := (readValue?_eq_some_iff sized).mp first
      have moved : tails.length - rest.length = value.tail.length := by
        rw [joined, List.length_append]
        omega
      rw [moved] at others
      obtain ⟨kinds_eq, front_eq, tails_eq, fits'⟩ := ih.mp others
      refine ⟨?_, ?_, ?_, fits, fits'⟩
      · rw [List.map_cons, kinded, kinds_eq]
      · rw [written, front_eq, heads]
      · rw [joined, tails_eq, List.flatMap_cons]
    · rintro ⟨kinds_eq, front_eq, tails_eq, fits⟩
      cases values with
      | nil => cases kinds_eq
      | cons value values =>
        obtain ⟨kinded, kinds_eq⟩ := List.cons_eq_cons.mp kinds_eq
        have joined : tails = value.tail ++ values.flatMap Value.tail := tails_eq
        have moved : tails.length - (values.flatMap Value.tail).length = value.tail.length := by
          rw [joined, List.length_append]
          omega
        refine ⟨value.head place, heads (place + value.tail.length) values, ⟨length_head place value, front_eq⟩, value,
          values.flatMap Value.tail, ?_, values, ?_, rfl⟩
        · exact (readValue?_eq_some_iff (length_head place value)).mpr ⟨kinded, rfl, joined, fits.1⟩
        · rw [moved]
          exact ih.mpr ⟨kinds_eq, rfl, rfl, fits.2⟩

theorem length_heads (place : Nat) (values : List Value) : (heads place values).length = 32 * values.length := by
  induction values generalizing place with
  | nil => rfl
  | cons value values ih =>
    rw [heads, List.length_append, length_head, ih, List.length_cons]
    omega

theorem length_encode (values : List Value) :
    (encode values).length = 32 * values.length + (values.flatMap Value.tail).length := by
  rw [encode, List.length_append, length_heads]

/-- Arguments of the same number have the same bytes just if their heads and their tails are the same. -/
theorem encode_inj {values' : List Value} (sameLength : values.length = values'.length) :
    encode values = encode values' ↔
      heads (32 * values.length) values = heads (32 * values.length) values' ∧
        values.flatMap Value.tail = values'.flatMap Value.tail := by
  rw [encode, encode, ← sameLength]
  constructor
  · intro same
    exact List.append_inj same (by rw [length_heads, length_heads, sameLength])
  · rintro ⟨sameHeads, sameTails⟩
    rw [sameHeads, sameTails]

theorem heads_cons_inj {value' : Value} {values' : List Value} {place' : Nat} :
    heads place (value :: values) = heads place' (value' :: values') ↔
      value.head place = value'.head place' ∧
        heads (place + value.tail.length) values = heads (place' + value'.tail.length) values' := by
  rw [heads, heads]
  constructor
  · intro same
    exact List.append_inj same (by rw [length_head, length_head])
  · rintro ⟨first, others⟩
    rw [first, others]

/-- **Strict reading undoes writing and takes nothing else.** -/
theorem decode?_eq_some_iff :
    decode? kinds bytes = some values ↔
      values.map Value.kind = kinds ∧ bytes = encode values ∧ Fits (32 * values.length) values := by
  simp only [decode?, Option.bind_eq_bind, Option.bind_eq_some_iff, Prod.exists, cut?_eq_some_iff,
    readValues?_eq_some_iff]
  constructor
  · rintro ⟨front, tails, ⟨-, rfl⟩, rfl, rfl, rfl, fits⟩
    rw [List.length_map] at fits ⊢
    exact ⟨rfl, rfl, fits⟩
  · rintro ⟨rfl, rfl, fits⟩
    rw [List.length_map]
    exact ⟨_, _, ⟨length_heads _ values, rfl⟩, rfl, rfl, rfl, fits⟩

/-! ## Selectors -/

theorem selector_eq (signature : String) :
    selector signature = (Keccak.hash (contents signature)).toList.take 4 := rfl

@[simp] theorem length_selector (signature : String) : (selector signature).length = 4 := by
  have short (digest : Digest) : (digest.toList.take 4).length = 4 := by simp
  exact short _

end Allotment.Abi
