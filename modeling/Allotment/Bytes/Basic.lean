/-!
# Byte strings

Numbers are put into bytes with the most significant byte first, at a fixed width (`ofNat`) or without leading zero
bytes (`minimal`).
-/

namespace Allotment

/-- A string of bytes. -/
abbrev Bytes := List UInt8

namespace Bytes

/-- The number that bytes denote, most significant byte first. -/
def toNat (bytes : Bytes) : Nat :=
  bytes.foldl (fun n byte => 256 * n + byte.toNat) 0

/-- The number in some bytes is zero just when all of them are. -/
theorem toNat_eq_zero (bytes : Bytes) : toNat bytes = 0 ↔ ∀ byte ∈ bytes, byte = 0 := by
  have general (n : Nat) :
      bytes.foldl (fun n byte => 256 * n + byte.toNat) n = 0 ↔ n = 0 ∧ ∀ byte ∈ bytes, byte = 0 := by
    induction bytes generalizing n with
    | nil => simp
    | cons byte bytes ih =>
      rw [List.foldl_cons, ih, List.forall_mem_cons, ← and_assoc]
      refine and_congr_left fun _ => ?_
      rw [← UInt8.toNat_inj, UInt8.toNat_zero]
      omega
  unfold toNat
  simpa using general 0

/-- The lowest `width` bytes of a number, most significant byte first. -/
def ofNat (width n : Nat) : Bytes :=
  match width with
  | 0 => []
  | width + 1 => ofNat width (n / 256) ++ [UInt8.ofNat n]

@[simp] theorem length_ofNat (width n : Nat) : (ofNat width n).length = width := by
  induction width generalizing n with
  | zero => rfl
  | succ width ih => simp [ofNat, ih]

/-- The number of bytes that a number takes without leading zero bytes. -/
def widthOf (n : Nat) : Nat :=
  if n = 0 then 0 else n.log2 / 8 + 1

/-- A number in as few bytes as possible; zero takes none. -/
def minimal (n : Nat) : Bytes := ofNat (widthOf n) n

/-- All the bytes as a vector, if there are just `width`. -/
def exactly? (width : Nat) (bytes : Bytes) : Option (Vector UInt8 width) :=
  if h : bytes.length = width then some ⟨bytes.toArray, by simpa using h⟩ else none

theorem exactly?_eq_some_iff {width : Nat} {bytes : Bytes} {v : Vector UInt8 width} :
    exactly? width bytes = some v ↔ bytes = v.toList := by
  constructor
  · intro exact
    unfold exactly? at exact
    split at exact
    case isTrue =>
      obtain rfl := Option.some.inj exact
      rfl
    case isFalse => cases exact
  · rintro rfl
    rw [exactly?, dif_pos v.length_toList]
    rfl

end Bytes

/-- The outcome of a hash with 256 bits. -/
abbrev Digest := Vector UInt8 32

end Allotment
