import Allotment.Bytes.Basic
import Mathlib.Algebra.Order.Ring.Nat
import Mathlib.Data.List.Induction

/-!
# Numbers in as few bytes as possible

Bytes that do not start with zero and the number they denote determine each other (`number?_eq_some_iff`): such bytes
are what is written for the number, and no other spelling of it is read.
-/

namespace Allotment.Bytes

/-! ## Fixed widths -/

theorem toNat_concat (bytes : Bytes) (byte : UInt8) : toNat (bytes ++ [byte]) = 256 * toNat bytes + byte.toNat := by
  simp [toNat]

theorem toNat_lt (bytes : Bytes) : toNat bytes < 256 ^ bytes.length := by
  induction bytes using List.reverseRecOn with
  | nil => exact Nat.one_pos
  | append_singleton bytes byte ih =>
    have := byte.toNat_lt
    rw [toNat_concat, List.length_append, List.length_singleton, Nat.pow_succ]
    omega

/-- Reading gives back a number that fits into the width. -/
theorem toNat_ofNat {width n : Nat} (fits : n < 256 ^ width) : toNat (ofNat width n) = n := by
  induction width generalizing n with
  | zero =>
    rw [Nat.pow_zero] at fits
    obtain rfl : n = 0 := by omega
    rfl
  | succ width ih =>
    rw [Nat.pow_succ] at fits
    have low : (UInt8.ofNat n).toNat = n % 256 := by simp
    rw [ofNat, toNat_concat, ih (by omega), low]
    omega

/-- Writing at the width of some bytes gives them back. -/
theorem ofNat_toNat (bytes : Bytes) : ofNat bytes.length (toNat bytes) = bytes := by
  induction bytes using List.reverseRecOn with
  | nil => rfl
  | append_singleton bytes byte ih =>
    have := byte.toNat_lt
    have high : (256 * toNat bytes + byte.toNat) / 256 = toNat bytes := by omega
    have low : UInt8.ofNat (256 * toNat bytes + byte.toNat) = byte := by
      rw [← UInt8.toNat_inj]
      simp
    rw [List.length_append, List.length_singleton, toNat_concat, ofNat, high, low, ih]

/-- Bytes that do not start with zero denote a number that needs all of them. -/
theorem pow_le_toNat {first : UInt8} {bytes : Bytes} (leading : first ≠ 0) :
    256 ^ bytes.length ≤ toNat (first :: bytes) := by
  induction bytes using List.reverseRecOn with
  | nil =>
    have : first.toNat ≠ 0 := fun zero => leading (UInt8.toNat_inj.mp zero)
    show 1 ≤ 256 * 0 + first.toNat
    omega
  | append_singleton bytes byte ih =>
    rw [← List.cons_append, toNat_concat, List.length_append, List.length_singleton, Nat.pow_succ]
    omega

/-! ## The least width -/

theorem widthOf_eq {width n : Nat} (least : 256 ^ width ≤ n) (fits : n < 256 ^ (width + 1)) :
    widthOf n = width + 1 := by
  have base (k : Nat) : 256 ^ k = 2 ^ (8 * k) := by rw [Nat.pow_mul]
  have positive : n ≠ 0 := by
    have := Nat.pow_pos (n := width) (show 0 < 256 by decide)
    omega
  have low : 8 * width ≤ n.log2 := (Nat.le_log2 positive).mpr (base width ▸ least)
  have high : n.log2 < 8 * (width + 1) := (Nat.log2_lt positive).mpr (base (width + 1) ▸ fits)
  rw [widthOf, if_neg positive]
  omega

theorem lt_pow_widthOf (n : Nat) : n < 256 ^ widthOf n := by
  by_cases zero : n = 0
  · subst zero
    decide
  · have base : 256 ^ (n.log2 / 8 + 1) = 2 ^ (8 * (n.log2 / 8 + 1)) := by rw [Nat.pow_mul]
    rw [widthOf, if_neg zero, base]
    exact (Nat.log2_lt zero).mp (by omega)

theorem toNat_minimal (n : Nat) : toNat (minimal n) = n :=
  toNat_ofNat (lt_pow_widthOf n)

@[simp] theorem length_minimal (n : Nat) : (minimal n).length = widthOf n :=
  length_ofNat _ n

/-- A larger number takes no fewer bytes. -/
theorem widthOf_mono {m n : Nat} (le : m ≤ n) : widthOf m ≤ widthOf n := by
  by_cases zero : m = 0
  · rw [zero, widthOf, if_pos rfl]
    exact Nat.zero_le _
  · have positive : n ≠ 0 := by omega
    have bits : m.log2 ≤ n.log2 := (Nat.le_log2 positive).mpr (Nat.le_trans (Nat.log2_self_le zero) le)
    rw [widthOf, if_neg zero, widthOf, if_neg positive]
    omega

/-- A number with more bytes than it needs would start with zero; the least width leaves no such byte. -/
theorem head?_minimal (n : Nat) : (minimal n).head? ≠ some 0 := by
  intro zero
  obtain ⟨rest, spelled⟩ : ∃ rest, minimal n = 0 :: rest := by
    cases bytes : minimal n with
    | nil => rw [bytes] at zero; cases zero
    | cons byte rest => rw [bytes] at zero; cases zero; exact ⟨rest, rfl⟩
  have small : n < 256 ^ rest.length := by
    have value : toNat (0 :: rest) = toNat rest := rfl
    rw [← toNat_minimal n, spelled, value]
    exact toNat_lt rest
  have width : rest.length + 1 = widthOf n := by rw [← length_minimal, spelled, List.length_cons]
  by_cases none : n = 0
  · subst none
    exact absurd width (by rw [widthOf, if_pos rfl]; omega)
  · have base : 256 ^ (n.log2 / 8) = 2 ^ (8 * (n.log2 / 8)) := by rw [Nat.pow_mul]
    rw [widthOf, if_neg none] at width
    have large : 2 ^ (8 * (n.log2 / 8)) ≤ n := (Nat.le_log2 none).mp (by omega)
    rw [← base, show n.log2 / 8 = rest.length by omega] at large
    omega

theorem minimal_toNat {bytes : Bytes} (leading : bytes.head? ≠ some 0) : minimal (toNat bytes) = bytes := by
  cases bytes with
  | nil => rfl
  | cons first rest =>
    have first_ne : first ≠ 0 := fun zero => leading (zero ▸ rfl)
    have width : widthOf (toNat (first :: rest)) = (first :: rest).length :=
      widthOf_eq (pow_le_toNat first_ne) (toNat_lt (first :: rest))
    rw [minimal, width, ofNat_toNat]

/-- The number that bytes denote, if they do not start with zero. -/
def number? (bytes : Bytes) : Option Nat :=
  if bytes.head? = some 0 then none else some (toNat bytes)

/-- **Reading takes the least spelling of a number and no other.** -/
theorem number?_eq_some_iff {bytes : Bytes} {n : Nat} : number? bytes = some n ↔ minimal n = bytes := by
  constructor
  · intro read
    by_cases leading : bytes.head? = some 0
    · rw [number?, if_pos leading] at read
      cases read
    · rw [number?, if_neg leading] at read
      cases read
      exact minimal_toNat leading
  · rintro rfl
    rw [number?, if_neg (head?_minimal n), toNat_minimal]

example : number? [0x04, 0x00] = some 1024 ∧ number? [0x00, 0x04] = none := by decide

end Allotment.Bytes
