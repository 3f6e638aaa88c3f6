import Allotment.Proofs.Address
import Allotment.Proofs.Bytes.Hex

/-!
# How an address may be spelled

* `Address.Spells`: forty hexadecimal digits of either case, with a mark in front or none, and white space around;
* `Address.parse?_eq_some_iff`: just these texts denote an address, which is the one whose own digits they are when
  capitals are made small;
* `Address.compare_digits`: addresses are ordered as their digits are;
* `Address.parse_spells`: so all spellings of an address denote it, every other text is handed back as it was given, and
  two spellings are told apart and put in order by their digits alone.
-/

namespace Allotment

/-! ## Spellings -/

namespace Address

/-- A text is spelled in some digits: there are forty of them, of either case, with a mark in front or none, and nothing
but white space around. -/
structure Spells (raw : String) (digits : List Char) : Prop where
  around : ∃ before mark after, raw.toList = before ++ (mark ++ digits) ++ after ∧
    (∀ c ∈ before, Text.isBlank c = true) ∧ mark ∈ [[], ['0', 'x'], ['0', 'X']] ∧ ∀ c ∈ after, Text.isBlank c = true
  forty : digits.length = 40
  digits : ∀ c ∈ digits, c ∈ "0123456789abcdefABCDEF".toList

variable {raw : String} {digits : List Char} {a : Address}

theorem isDigit_of_spells (spelled : Spells raw digits) : ∀ c ∈ digits, Hex.isDigit c = true :=
  fun c mem => Hex.isDigit_iff_mem.mpr (spelled.digits c mem)

/-- What is left of a spelling when white space and mark are taken away. -/
theorem dropMark_of_spells (spelled : Spells raw digits) : Hex.dropMark (Text.trimChars raw.toList) = digits :=
  (Hex.spelledIn_iff_dropMark.mp ⟨spelled.around, spelled.digits⟩).1

/-- Forty digits that are left of a text spell it. -/
theorem spells_of_dropMark (left : Hex.dropMark (Text.trimChars raw.toList) = digits) (forty : digits.length = 40)
    (all : ∀ c ∈ digits, Hex.isDigit c = true) : Spells raw digits :=
  have spelled := Hex.spelledIn_iff_dropMark.mpr ⟨left, all⟩
  { around := spelled.around, forty, digits := spelled.digits }

/-- **Just the spellings of an address denote it.** -/
theorem parse?_eq_some_iff :
    parse? raw = some a ↔ ∃ digits, Spells raw digits ∧ digits.map Char.toLower = a.digits := by
  constructor
  · intro denoted
    rw [parse?, ofDigits?] at denoted
    split at denoted
    case isFalse => cases denoted
    case isTrue forty =>
      obtain ⟨bytes, decoded, made⟩ := Option.bind_eq_some_iff.mp denoted
      obtain ⟨v, exact, rfl⟩ := Option.map_eq_some_iff.mp made
      obtain rfl := Bytes.exactly?_eq_some_iff.mp exact
      exact ⟨_, spells_of_dropMark rfl forty (Hex.digits_of_decode? decoded).2, Hex.map_toLower_of_decode? decoded⟩
  · rintro ⟨digits, spelled, same⟩
    rw [parse?, dropMark_of_spells spelled]
    exact ofDigits?_eq_some (Hex.map_value?_of_map_toLower spelled.digits same)

/-- Forty digits always denote an address. -/
theorem exists_parse?_of_spells (spelled : Spells raw digits) : ∃ a, parse? raw = some a := by
  obtain ⟨bytes, decoded, twenty⟩ := Hex.exists_decode? 20 spelled.forty (isDigit_of_spells spelled)
  rw [parse?, dropMark_of_spells spelled, ofDigits?, if_pos spelled.forty, decoded, Option.bind_some, Bytes.exactly?,
    dif_pos twenty]
  exact ⟨_, rfl⟩

/-- Every other text denotes none. -/
theorem parse?_eq_none_iff : parse? raw = none ↔ ¬∃ digits, Spells raw digits := by
  constructor
  · rintro none ⟨digits, spelled⟩
    obtain ⟨a, denoted⟩ := exists_parse?_of_spells spelled
    rw [none] at denoted
    cases denoted
  · intro other
    cases denoted : parse? raw with
    | none => rfl
    | some a =>
      obtain ⟨digits, spelled, -⟩ := parse?_eq_some_iff.mp denoted
      exact absurd ⟨digits, spelled⟩ other

/-- The digits of a spelling are those of the address that it denotes, but for capitals. -/
theorem map_toLower_of_spells (spelled : Spells raw digits) (denoted : parse? raw = some a) :
    digits.map Char.toLower = a.digits := by
  obtain ⟨digits', spelled', same⟩ := parse?_eq_some_iff.mp denoted
  rwa [← dropMark_of_spells spelled, dropMark_of_spells spelled']

/-- The checksum takes nothing but capitals. -/
theorem map_toLower_checksumDigits (a : Address) : a.checksumDigits.map Char.toLower = a.digits := by
  refine Hex.map_toLower_of_decode? ?_
  rw [Hex.decode?_congr a.map_value?_checksumDigits, digits, Hex.decode?_encode]

/-- The text of an address is one of its spellings. -/
theorem spells_text (a : Address) : Spells a.text a.checksumDigits where
  around := ⟨[], ['0', 'x'], [], by rw [text, String.toList_ofList, List.append_nil]; rfl, nofun, by decide, nofun⟩
  forty := by rw [← List.length_map Char.toLower, map_toLower_checksumDigits, length_digits]
  digits _ mem := Hex.isDigit_iff_mem.mp (isDigit_of_mem_checksumDigits mem)

/-- **Addresses are ordered as their digits are.** -/
theorem compare_digits (a b : Address) : compare a.digits b.digits = compare a b :=
  Hex.compare_encode a.bytes.toList b.bytes.toList

theorem parse_eq_ok_iff : parse raw = .ok a ↔ parse? raw = some a := by
  unfold parse
  cases parse? raw with
  | none => exact ⟨nofun, nofun⟩
  | some b => exact ⟨fun same => congrArg some (Except.ok.inj same), fun same => congrArg _ (Option.some.inj same)⟩

/-- White space around a text makes no difference. -/
theorem parse_trim : parse (Text.trim raw) = .ok a ↔ parse raw = .ok a := by
  rw [parse_eq_ok_iff, parse_eq_ok_iff, parse?, parse?, Text.toList_trim,
    Text.trimChars_eq_self (Text.trimmed_trimChars _)]

theorem parse_eq_error_iff {e : Invalid} : parse raw = .error e ↔ e = ⟨raw⟩ ∧ parse? raw = none := by
  unfold parse
  cases parse? raw with
  | none => exact ⟨fun same => ⟨(Except.error.inj same).symm, rfl⟩, fun same => congrArg _ same.1.symm⟩
  | some b => exact ⟨nofun, fun same => nomatch same.2⟩

/-- **An address has many spellings, and nothing else denotes it.** A text denotes an address just if it is spelled in
the address's own digits but for capitals; every other text is handed back as it was given. So the text of an address
denotes it, and so do its digits with other capitals, with another mark or none, and with white space around. Of two
spellings it is the digits that tell which address comes first. -/
theorem parse_spells :
    (∀ raw a, parse raw = .ok a ↔ ∃ digits, Spells raw digits ∧ digits.map Char.toLower = a.digits) ∧
    (∀ raw e, parse raw = .error e ↔ e = ⟨raw⟩ ∧ ¬∃ digits, Spells raw digits) ∧
    (∀ a : Address, Spells a.text a.checksumDigits ∧ parse a.text = .ok a ∧
      ∀ raw digits, Spells raw digits → digits.map Char.toLower = a.checksumDigits.map Char.toLower →
        parse raw = .ok a) ∧
    ∀ raw raw' digits digits' a a', Spells raw digits → Spells raw' digits' → parse raw = .ok a → parse raw' = .ok a' →
      compare a a' = compare (digits.map Char.toLower) (digits'.map Char.toLower) := by
  refine ⟨fun raw a => parse_eq_ok_iff.trans parse?_eq_some_iff, fun raw e => ?_, fun a => ?_, ?_⟩
  · rw [parse_eq_error_iff, parse?_eq_none_iff]
  · refine ⟨a.spells_text, a.parse_text, fun raw digits spelled same => ?_⟩
    rw [map_toLower_checksumDigits] at same
    exact parse_eq_ok_iff.mpr (parse?_eq_some_iff.mpr ⟨digits, spelled, same⟩)
  · intro raw raw' digits digits' a a' spelled spelled' denoted denoted'
    rw [map_toLower_of_spells spelled (parse_eq_ok_iff.mp denoted),
      map_toLower_of_spells spelled' (parse_eq_ok_iff.mp denoted'), compare_digits]

/-- Two spellings of which one has a mark, a capital and white space of several kinds. -/
theorem parse_spells_padded :
    ∃ a a', parse "\u3000 0X00000000000000000000000000000000000000aB\n" = .ok a ∧
      parse "00000000000000000000000000000000000000b0" = .ok a' ∧ compare a a' = .lt := by
  have padded : Spells "\u3000 0X00000000000000000000000000000000000000aB\n" (List.replicate 38 '0' ++ ['a', 'B']) :=
    spells_of_dropMark (by decide +kernel) rfl (List.all_eq_true.mp (by decide))
  have plain : Spells "00000000000000000000000000000000000000b0" (List.replicate 38 '0' ++ ['b', '0']) :=
    spells_of_dropMark (by decide +kernel) rfl (List.all_eq_true.mp (by decide))
  have first := (parse_spells.1 _ ⟨(Vector.replicate 19 0).push 0xab⟩).mpr ⟨_, padded, by decide⟩
  have second := (parse_spells.1 _ ⟨(Vector.replicate 19 0).push 0xb0⟩).mpr ⟨_, plain, by decide⟩
  refine ⟨_, _, first, second, ?_⟩
  rw [parse_spells.2.2.2 _ _ _ _ _ _ padded plain first second]
  decide

end Address

end Allotment
