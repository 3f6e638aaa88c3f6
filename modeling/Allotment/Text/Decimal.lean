/-!
# Decimal numbers in text

An unsigned number is written in decimal digits; a reader also takes one leading plus sign and leading zeros, and
refuses a number that does not fit (`readNat?_eq_some_iff`, `readUInt64?_eq_some_iff`).
-/

namespace Allotment.Text

/-- The value of a decimal digit. -/
def digitValue (c : Char) : Nat :=
  c.toNat - '0'.toNat

/-- The value of a string of decimal digits. -/
def digitsValue (cs : List Char) : Nat :=
  cs.foldl (fun value c => value * 10 + digitValue c) 0

/-- The number that a non-empty string of decimal digits denotes. -/
def readDigits? (cs : List Char) : Option Nat :=
  if !cs.isEmpty && cs.all Char.isDigit then some (digitsValue cs) else none

/-- The number that digits, after at most one plus sign, denote. -/
def readNat? : List Char → Option Nat
  | '+' :: rest => readDigits? rest
  | cs => readDigits? cs

/-- The 64-bit number that a text denotes. -/
def readUInt64? (s : String) : Option UInt64 :=
  match readNat? s.toList with
  | some n => if h : n < UInt64.size then some (UInt64.ofNatLT n h) else none
  | none => none

theorem readDigits?_eq_some_iff {cs : List Char} {n : Nat} :
    readDigits? cs = some n ↔ cs ≠ [] ∧ (∀ c ∈ cs, c.isDigit = true) ∧ digitsValue cs = n := by
  unfold readDigits?
  split
  case isTrue digits =>
    rw [Bool.and_eq_true, List.all_eq_true] at digits
    have nonempty : cs ≠ [] := by simpa using digits.1
    rw [Option.some_inj, and_iff_right nonempty, and_iff_right digits.2]
  case isFalse other =>
    constructor
    · exact nofun
    · rintro ⟨nonempty, digits, -⟩
      exact absurd (by rw [Bool.and_eq_true, List.all_eq_true]; exact ⟨by simpa using nonempty, digits⟩) other

/-- A number is denoted by digits after a plus sign or none. -/
theorem readNat?_eq_some_iff {cs : List Char} {n : Nat} :
    readNat? cs = some n ↔ ∃ sign digits, cs = sign ++ digits ∧ sign ∈ [[], ['+']] ∧ readDigits? digits = some n := by
  constructor
  · intro denoted
    unfold readNat? at denoted
    split at denoted
    case h_1 rest => exact ⟨['+'], rest, rfl, by decide, denoted⟩
    case h_2 => exact ⟨[], cs, rfl, by decide, denoted⟩
  · rintro ⟨sign, digits, rfl, mem, denoted⟩
    rw [List.mem_cons, List.mem_singleton] at mem
    obtain rfl | rfl := mem
    · unfold readNat?
      split
      case h_1 rest same =>
        have digit := (readDigits?_eq_some_iff.mp denoted).2.1 '+' (by rw [show digits = '+' :: rest from same]; simp)
        cases digit
      case h_2 => exact denoted
    · exact denoted

theorem readUInt64?_eq_some_iff {s : String} {n : UInt64} :
    readUInt64? s = some n ↔ readNat? s.toList = some n.toNat := by
  unfold readUInt64?
  split
  case h_1 value denoted =>
    rw [denoted, Option.some_inj]
    split
    case isTrue small =>
      rw [Option.some_inj, ← UInt64.toNat_inj]
      rfl
    case isFalse large =>
      constructor
      · exact nofun
      · rintro rfl
        exact absurd n.toNat_lt large
  case h_2 none =>
    rw [none]
    exact ⟨nofun, nofun⟩

end Allotment.Text
