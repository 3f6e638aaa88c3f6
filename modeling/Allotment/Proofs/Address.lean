import Allotment.Address
import Allotment.Proofs.Bytes.Hex

/-!
# Addresses are read as they were written

The checksum changes nothing but the case of digits, which reading does not look at (`Hex.decode?_congr`), and there is
no white space in the text of an address to be trimmed. So the text of an address denotes it (`Address.parse?_text`),
whatever the hash of its digits is.
-/

namespace Allotment

/-! ## The text of an address -/

namespace Address

/-- The checksum leaves the value of a digit. -/
theorem value?_checksumDigit {n : Nat} (small : n < 16) (hashDigit : Char) :
    Hex.value? (checksumDigit (Nat.digitChar n) hashDigit) = Hex.value? (Nat.digitChar n) := by
  have upper : ∀ n < 16, Hex.value? (Nat.digitChar n).toUpper = Hex.value? (Nat.digitChar n) := by decide
  unfold checksumDigit
  split
  case isTrue => exact upper n small
  case isFalse => rfl

theorem map_value?_zipWith {cs hash : List Char} (enough : cs.length ≤ hash.length)
    (digits : ∀ c ∈ cs, ∃ n < 16, c = Nat.digitChar n) :
    (List.zipWith checksumDigit cs hash).map Hex.value? = cs.map Hex.value? := by
  induction cs generalizing hash with
  | nil => rfl
  | cons c cs ih =>
    cases hash with
    | nil => cases enough
    | cons hashDigit hash =>
      obtain ⟨⟨n, small, rfl⟩, others⟩ := List.forall_mem_cons.mp digits
      rw [List.zipWith_cons_cons, List.map_cons, List.map_cons, value?_checksumDigit small,
        ih (Nat.le_of_succ_le_succ enough) others]

theorem length_digits (a : Address) : a.digits.length = 40 := by
  rw [digits, Hex.length_encode, a.bytes.length_toList]

/-- The values of the digits are the same with and without the checksum. -/
theorem map_value?_checksumDigits (a : Address) : a.checksumDigits.map Hex.value? = a.digits.map Hex.value? := by
  refine map_value?_zipWith ?_ fun c mem => Hex.mem_encode mem
  rw [length_digits, Hex.length_encode, Vector.length_toList]
  decide

theorem isDigit_of_mem_checksumDigits {a : Address} {c : Char} (mem : c ∈ a.checksumDigits) :
    Hex.isDigit c = true := by
  have value : Hex.value? c ∈ a.digits.map Hex.value? := by
    rw [← map_value?_checksumDigits]
    exact List.mem_map_of_mem mem
  obtain ⟨d, digit, same⟩ := List.mem_map.mp value
  obtain ⟨n, small, rfl⟩ := Hex.mem_encode digit
  rw [Hex.isDigit, ← same, Hex.value?_digitChar n small]
  rfl

/-- Forty digits of either case that have the values of an address's own digits denote it. -/
theorem ofDigits?_eq_some {a : Address} {cs : List Char} (same : cs.map Hex.value? = a.digits.map Hex.value?) :
    ofDigits? cs = some a := by
  have length : cs.length = 40 := by
    have := congrArg List.length same
    rwa [List.length_map, List.length_map, length_digits] at this
  rw [ofDigits?, if_pos length, Hex.decode?_congr same, digits, Hex.decode?_encode, Option.bind_some,
    Bytes.exactly?_eq_some_iff.mpr rfl]
  rfl

/-- Blank text is no address. -/
theorem parse?_of_isBlankText {raw : String} (blank : Text.isBlankText raw = true) : parse? raw = none := by
  rw [Text.isBlankText, List.all_eq_true] at blank
  rw [parse?, Text.trimChars_eq_nil_iff.mpr blank]
  rfl

/-- There is no white space around the text of an address. -/
theorem trimmed_text (a : Address) : Text.Trimmed a.text.toList := by
  have spelled : a.text.toList = '0' :: 'x' :: a.checksumDigits := String.toList_ofList
  rw [spelled]
  constructor
  · rintro _ ⟨⟩
    decide
  · intro c last
    rcases List.mem_cons.mp (List.mem_of_getLast? last) with rfl | mem
    · decide
    · rcases List.mem_cons.mp mem with rfl | mem
      · decide
      · exact Hex.isBlank_of_isDigit (isDigit_of_mem_checksumDigits mem)

/-- **The text of an address denotes it.** -/
theorem parse?_text (a : Address) : parse? a.text = some a := by
  rw [parse?, Text.trimChars_eq_self a.trimmed_text, text, String.toList_ofList, Hex.dropMark]
  exact ofDigits?_eq_some a.map_value?_checksumDigits

theorem parse_text (a : Address) : parse a.text = .ok a := by
  rw [parse, parse?_text]

end Address

end Allotment
