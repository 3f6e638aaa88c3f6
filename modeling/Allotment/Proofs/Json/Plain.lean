import Allotment.Proofs.Json.Nesting
import Allotment.Proofs.Json.Parts

/-!
# Values that are plain numbers

A value is a plain number if its text is nothing but the decimal digits of a number of 64 bits (`Json.IsPlain`): there
is no sign, no point and no exponent, and a text in quotes is none. Of all values just the plain ones are taken for
points (`toUInt64?_eq_some_iff`).

A value that is read is plain just if it was written so (`Decoder.value_isPlain_iff`): as a numeral of digits alone, or
as a text that says such a numeral. The members of an object whose names differ are read one by one, in order
(`Decoder.object_eq_ok`).
-/

namespace Allotment.Json

/-! ## Texts of values -/

/-- A value is written in the decimal digits of a number and nothing else. -/
def IsPlain (value : Json) (n : UInt64) : Prop :=
  value.compact = String.ofList (Nat.toDigits 10 n.toNat)

theorem isDigit_of_mem_toDigits {n : Nat} {c : Char} (mem : c ∈ Nat.toDigits 10 n) : c.isDigit = true :=
  Nat.isDigit_of_mem_toDigits (by decide) (by decide) mem

theorem Binary64.mem_positional (digits : List Char) (power : Int) : '.' ∈ positional digits power := by
  rw [positional]
  split
  case isTrue => simp
  case isFalse => simp

theorem Binary64.mem_scientific (digits : List Char) (power : Int) : 'e' ∈ scientific digits power := by
  simp [scientific]

/-- There is a point or an exponent in the text of a floating-point number. -/
theorem Binary64.exists_mem_chars (x : Binary64) : ∃ c ∈ x.chars, c.isDigit = false := by
  rw [chars]
  by_cases zero : x.isZero = true
  · exact ⟨'.', by simp [zero], by decide⟩
  · obtain ⟨digits, power⟩ := Decimal.normal x.shortest
    rw [if_neg zero]
    by_cases near : -5 ≤ power ∧ power < 16
    · exact ⟨'.', by simp [near, mem_positional], by decide⟩
    · exact ⟨'e', by simp [near, mem_scientific], by decide⟩

/-- There is a sign in the text of a negative number. -/
theorem Number.exists_mem_chars {n : Number} (other : ∀ natural : Nat, n ≠ .integer natural) :
    ∃ c ∈ n.chars, c.isDigit = false := by
  cases n with
  | real x => exact x.exists_mem_chars
  | integer value =>
    have negative : value < 0 := by
      by_contra nonnegative
      exact other value.toNat (by rw [Int.toNat_of_nonneg (Int.not_lt.mp nonnegative)])
    exact ⟨'-', by simp [chars, negative], by decide⟩

/-- Only the text of a natural number has nothing but digits. -/
theorem exists_mem_compact {value : Json} (other : ∀ natural : Nat, value ≠ .number (.integer natural)) :
    ∃ c ∈ value.compact.toList, c.isDigit = false := by
  rw [compact, render, String.toList_ofList]
  cases value with
  | null => exact ⟨'n', by simp [charsAt], by decide⟩
  | bool b =>
    cases b with
    | true => exact ⟨'t', by simp [charsAt], by decide⟩
    | false => exact ⟨'f', by simp [charsAt], by decide⟩
  | number n =>
    rw [charsAt]
    exact Number.exists_mem_chars fun natural same => other natural (by rw [same])
  | string text => exact ⟨'"', by simp [charsAt, stringChars], by decide⟩
  | array items =>
    cases items with
    | nil | cons => exact ⟨'[', by simp [charsAt], by decide⟩
  | object members =>
    cases members with
    | nil | cons => exact ⟨'\x7b', by simp [charsAt], by decide⟩

theorem compact_natural (n : Nat) : (Json.number (.integer n)).compact = String.ofList (Nat.toDigits 10 n) := by
  simp [compact, render, charsAt, Number.chars]

/-- A value is plain just if it is a natural number of 64 bits. -/
theorem isPlain_iff {value : Json} {n : UInt64} : value.IsPlain n ↔ value = .number (.integer n.toNat) := by
  constructor
  · intro plain
    by_cases natural : ∃ m : Nat, value = .number (.integer m)
    case pos =>
      obtain ⟨m, rfl⟩ := natural
      rw [IsPlain, compact_natural, String.ofList_inj] at plain
      have same := congrArg Text.digitsValue plain
      rw [digitsValue_toDigits, digitsValue_toDigits] at same
      rw [same]
    case neg =>
      obtain ⟨c, mem, other⟩ := exists_mem_compact (not_exists.mp natural)
      rw [plain, String.toList_ofList] at mem
      rw [isDigit_of_mem_toDigits mem] at other
      cases other
  · rintro rfl
    exact compact_natural n.toNat

/-- **Just plain values are taken for points.** -/
theorem toUInt64?_eq_some_iff {value : Json} {n : UInt64} : value.toUInt64? = some n ↔ value.IsPlain n := by
  rw [isPlain_iff]
  constructor
  · intro taken
    cases value with
    | number m => rw [Number.eq_of_toUInt64? taken]
    | null | bool | string | array | object => cases taken
  · rintro rfl
    exact toUInt64?_natural n

/-! ## Plain values in a text -/

/-- A document says a plain number: it is a numeral of digits alone, or it holds a text that says one. -/
inductive Document.SaysPlain (n : UInt64) : Document → Prop
  | numeral {numeral : Numeral} : numeral.negative = false → numeral.fraction = [] → numeral.exponent = none →
    numeral.whole = n.toNat → SaysPlain n (.number numeral)
  | text {name document : Document} {text : String} : Decoder.memberName name = .ok Decoder.embeddedName →
    Decoder.embeddedText document = .ok text → SaysPlain n (read text).document → SaysPlain n (.object [(name, document)])

/-- A numeral denotes a natural number just if it is written in digits alone. -/
theorem Numeral.decode_eq_natural_iff {numeral : Numeral} {number : Number} (denoted : numeral.decode = .ok number)
    {n : UInt64} :
    number = .integer n.toNat ↔
      numeral.negative = false ∧ numeral.fraction = [] ∧ numeral.exponent = none ∧ numeral.whole = n.toNat := by
  have small := n.toNat_lt_size
  unfold Numeral.decode at denoted
  split at denoted
  case h_2 => cases denoted
  case h_1 found =>
    cases denoted
    unfold toNumber? at found
    split at found
    case isTrue natural =>
      cases found
      simp only [isPlain, Bool.and_eq_true, List.isEmpty_iff, Option.isNone_iff_eq_none, Bool.not_eq_true'] at natural
      rw [Number.integer.injEq, Int.ofNat_inj]
      simp [natural]
    case isFalse larger =>
      have notWritten : ¬(numeral.negative = false ∧ numeral.fraction = [] ∧ numeral.exponent = none ∧
          numeral.whole = n.toNat) := by
        rintro ⟨positive, noPoint, noExponent, whole⟩
        exact larger (by simp [isPlain, positive, noPoint, noExponent, whole, small])
      rw [iff_false_right notWritten]
      split at found
      case isTrue negative =>
        simp only [Bool.and_eq_true, decide_eq_true_eq] at negative
        cases found
        intro same
        have := Number.integer.inj same
        omega
      case isFalse =>
        obtain ⟨x, -, rfl⟩ := Option.map_eq_some_iff.mp found
        intro same
        cases same

namespace Decoder

variable {n : UInt64} {value : Json}

/-- What is read of a document is plain just if the document says so, as long as this holds of the texts in it. -/
theorem valueWith_isPlain_iff {embedded : String → Except Fault Json}
    (closed : ∀ {text value}, embedded text = .ok value → (value.IsPlain n ↔ (Json.read text).document.SaysPlain n))
    {depth : Depth} {d : Document} (read : valueWith embedded depth d = .ok value) :
    value.IsPlain n ↔ d.SaysPlain n := by
  match d with
  | .fault => cases read
  | .null | .bool _ =>
    cases read
    exact iff_of_false (by simp [isPlain_iff]) nofun
  | .number numeral =>
    rw [valueWith] at read
    obtain ⟨number, denoted, rfl⟩ := map_eq_ok_iff.mp read
    rw [isPlain_iff, Json.number.injEq, Numeral.decode_eq_natural_iff denoted]
    constructor
    · rintro ⟨positive, noPoint, noExponent, whole⟩
      exact .numeral positive noPoint noExponent whole
    · rintro ⟨positive, noPoint, noExponent, whole⟩
      exact ⟨positive, noPoint, noExponent, whole⟩
  | .string pieces =>
    rw [valueWith] at read
    obtain ⟨text, -, rfl⟩ := map_eq_ok_iff.mp read
    exact iff_of_false (by simp [isPlain_iff]) nofun
  | .array items =>
    rw [valueWith] at read
    split at read
    case isTrue => cases read
    case isFalse =>
      obtain ⟨values, -, rfl⟩ := map_eq_ok_iff.mp read
      exact iff_of_false (by simp [isPlain_iff]) nofun
  | .object [] =>
    rw [valueWith] at read
    split at read
    case isTrue => cases read
    case isFalse =>
      cases read
      exact iff_of_false (by simp [isPlain_iff]) nofun
  | .object ((key, first) :: members) =>
    rw [valueWith] at read
    split at read
    case isTrue => cases read
    case isFalse =>
      rw [objectWith] at read
      obtain ⟨name, named, read⟩ := bind_eq_ok_iff.mp read
      split at read
      case isTrue reserved =>
        subst reserved
        obtain ⟨text, held, read⟩ := bind_eq_ok_iff.mp read
        obtain ⟨said, saying, read⟩ := bind_eq_ok_iff.mp read
        split at read
        case isFalse => cases read
        case isTrue alone =>
          cases read
          obtain rfl := List.isEmpty_iff.mp alone
          rw [closed saying]
          constructor
          · exact .text named held
          · rintro (_ | ⟨-, held', inside⟩)
            rw [held] at held'
            cases held'
            exact inside
      case isFalse other =>
        obtain ⟨_, -, read⟩ := bind_eq_ok_iff.mp read
        obtain ⟨values, -, rfl⟩ := map_eq_ok_iff.mp read
        refine iff_of_false (by simp [isPlain_iff]) ?_
        rintro (_ | ⟨named', -, -⟩)
        rw [named] at named'
        exact other (Except.ok.inj named')

/-- What a text is read as is plain just if the text says so. -/
theorem valueOfText_isPlain_iff {limit : Nat} {text : String} (said : valueOfText limit text = .ok value) :
    value.IsPlain n ↔ (Json.read text).document.SaysPlain n := by
  induction limit generalizing text value with
  | zero => cases said
  | succ limit ih => exact valueWith_isPlain_iff ih (decoder_of_decodeText said)

/-- **A value that is read is plain just if it was written so.** -/
theorem value_isPlain_iff {depth : Depth} {d : Document} (read : Decoder.value depth d = .ok value) :
    value.IsPlain n ↔ d.SaysPlain n :=
  valueWith_isPlain_iff valueOfText_isPlain_iff read

/-! ## Members in order -/

/-- Members whose names differ, also from those already met, are put behind these one by one. -/
theorem membersWith_eq_ok {embedded : String → Except Fault Json} {depth : Depth}
    {documents : List (Document × Document)} {met members : List (String × Json)}
    (distinct : (documents.map fun document => memberName document.1).Nodup)
    (fresh : ∀ document ∈ documents, ∀ member ∈ met, memberName document.1 ≠ .ok member.1)
    (read : membersWith embedded depth met documents = .ok members) :
    ∃ others, members = met ++ others ∧
      List.Forall₂ (fun document member => memberName document.1 = .ok member.1 ∧
        valueWith embedded depth document.2 = .ok member.2) documents others := by
  induction documents generalizing met with
  | nil =>
    cases read
    exact ⟨[], by simp, .nil⟩
  | cons document documents ih =>
    obtain ⟨key, document⟩ := document
    rw [membersWith] at read
    obtain ⟨name, named, read⟩ := bind_eq_ok_iff.mp read
    obtain ⟨value, decoded, read⟩ := bind_eq_ok_iff.mp read
    obtain ⟨new, fresh⟩ := List.forall_mem_cons.mp fresh
    rw [List.map_cons, List.nodup_cons, named] at distinct
    have notMet : name ∉ met.map Prod.fst := by
      intro mem
      obtain ⟨member, old, same⟩ := List.mem_map.mp mem
      exact new member old (by rw [same]; exact named)
    rw [insertMember_of_not_mem notMet] at read
    have fresh' : ∀ document ∈ documents, ∀ member ∈ met ++ [(name, value)], memberName document.1 ≠ .ok member.1 := by
      intro document mem member mem' same
      rcases List.mem_append.mp mem' with old | last
      · exact fresh document mem member old same
      · rw [List.mem_singleton.mp last] at same
        exact distinct.1 (List.mem_map.mpr ⟨document, mem, same⟩)
    obtain ⟨others, rfl, all⟩ := ih distinct.2 fresh' read
    exact ⟨(name, value) :: others, by simp, .cons ⟨named, decoded⟩ all⟩

/-- **The members of an object whose names differ are read one by one**, in the order of the text. -/
theorem object_eq_ok {depth : Depth} {documents : List (Document × Document)} {members : List (String × Json)}
    (distinct : (documents.map fun document => memberName document.1).Nodup)
    (read : Decoder.object depth (.object documents) = .ok members) :
    List.Forall₂ (fun document member => memberName document.1 = .ok member.1 ∧
      Decoder.value (depth - 1) document.2 = .ok member.2) documents members := by
  rw [Decoder.object, enter_eq_ok_iff] at read
  obtain ⟨others, rfl, all⟩ := membersWith_eq_ok distinct (by simp) read.2
  exact all

end Decoder

/-- An object that is made of entries with different names has just these members. -/
theorem collected_of_nodup {α : Type} {value : α → Json} {entries : List (String × α)}
    (distinct : (entries.map Prod.fst).Nodup) :
    collected value entries = entries.map fun entry => (entry.1, value entry.2) := by
  induction entries using List.reverseRecOn with
  | nil => rfl
  | append_singleton entries entry ih =>
    rw [List.map_append, List.nodup_append'] at distinct
    obtain ⟨distinct, -, fresh⟩ := distinct
    have notMet : entry.1 ∉ (collected value entries).map Prod.fst := by
      rw [ih distinct, List.map_map]
      exact fun met => List.disjoint_right.mp fresh (List.mem_singleton_self _) met
    rw [collected] at ih notMet ⊢
    rw [List.foldl_append, List.foldl_cons, List.foldl_nil, insertMember_of_not_mem notMet, ih distinct, List.map_append]
    rfl

end Allotment.Json
