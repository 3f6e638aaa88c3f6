import Allotment.Bytes.Basic

/-!
# The Keccak hash of the ledger

Keccak with 256 bits of output, a rate of 136 bytes and the padding that begins with a byte of one. The state is 25
lanes of 64 bits, lane `(x, y)` at place `x + 5 * y`.
-/

namespace Allotment.Keccak

/-- The 25 lanes of the permutation. -/
abbrev State := Vector UInt64 25

/-- How many bytes of a message enter the state between two permutations. -/
def rate : Nat := 136

/-- The constants of the 24 rounds. -/
def roundConstants : List UInt64 := [
  0x0000000000000001, 0x0000000000008082, 0x800000000000808a, 0x8000000080008000, 0x000000000000808b,
  0x0000000080000001, 0x8000000080008081, 0x8000000000008009, 0x000000000000008a, 0x0000000000000088,
  0x0000000080008009, 0x000000008000000a, 0x000000008000808b, 0x800000000000008b, 0x8000000000008089,
  0x8000000000008003, 0x8000000000008002, 0x8000000000000080, 0x000000000000800a, 0x800000008000000a,
  0x8000000080008081, 0x8000000000008080, 0x0000000080000001, 0x8000000080008008]

/-- How far each lane is rotated. -/
def rotations : Vector UInt64 25 := #v[
  0, 1, 62, 28, 27,
  36, 44, 6, 55, 20,
  3, 10, 43, 25, 39,
  41, 45, 15, 21, 8,
  18, 2, 61, 56, 14]

/-- A lane rotated to the left. -/
def rotate (lane places : UInt64) : UInt64 :=
  if places = 0 then lane else (lane <<< places) ||| (lane >>> (64 - places))

/-- The lane in column `x` and row `y`, both taken modulo five. -/
def lane (s : State) (x y : Nat) : UInt64 :=
  s.get ⟨x % 5 + 5 * (y % 5), by omega⟩

/-- The sum of a column. -/
def column (s : State) (x : Nat) : UInt64 :=
  lane s x 0 ^^^ lane s x 1 ^^^ lane s x 2 ^^^ lane s x 3 ^^^ lane s x 4

/-- Mixes the two neighbouring columns into every lane. -/
def theta (s : State) : State :=
  let sums : Vector UInt64 5 := Vector.ofFn fun x => column s x
  let change (x : Nat) : UInt64 := sums[(x + 4) % 5] ^^^ rotate sums[(x + 1) % 5] 1
  let changes : Vector UInt64 5 := Vector.ofFn fun x => change x
  Vector.ofFn fun i => s[i] ^^^ changes[i.val % 5]

/-- Rotates every lane and moves it to its new place. -/
def rhoPi (s : State) : State :=
  Vector.ofFn fun i =>
    let y := i.val % 5
    let x := (y + 3 * (i.val / 5)) % 5
    rotate (lane s x y) (lane rotations x y)

/-- Combines every lane with the next two in its row. -/
def chi (s : State) : State :=
  Vector.ofFn fun i =>
    let x := i.val % 5
    let y := i.val / 5
    lane s x y ^^^ (~~~(lane s (x + 1) y) &&& lane s (x + 2) y)

/-- One round. -/
def round (s : State) (constant : UInt64) : State :=
  let s := chi (rhoPi (theta s))
  s.set 0 (s[0] ^^^ constant)

/-- The permutation. -/
def permute (s : State) : State :=
  roundConstants.foldl round s

/-- The lane that eight bytes make, least significant byte first. -/
def laneOfBytes (bytes : Bytes) : UInt64 :=
  bytes.foldr (fun byte lane => (lane <<< 8) ||| byte.toUInt64) 0

/-- A message filled up to a multiple of the rate. -/
def pad (message : Bytes) : Bytes :=
  let gap := rate - message.length % rate
  if gap = 1 then message ++ [0x81]
  else message ++ [0x01] ++ List.replicate (gap - 2) 0x00 ++ [0x80]

/-- A list in pieces of `size`, the last one possibly shorter; `fuel` bounds the number of pieces. -/
def pieces (size : Nat) : Nat → Bytes → List Bytes
  | 0, _ => []
  | fuel + 1, bytes =>
    if bytes.isEmpty then [] else bytes.take size :: pieces size fuel (bytes.drop size)

/-- Takes one block of a message into the state. -/
def absorb (s : State) (block : Bytes) : State :=
  let lanes := (pieces 8 25 block).map laneOfBytes
  permute (Vector.ofFn fun i => s[i] ^^^ lanes.getD i 0)

/-- The hash of a message. -/
def hash (message : Bytes) : Digest :=
  let padded := pad message
  let s := (pieces rate padded.length padded).foldl absorb (Vector.replicate 25 0)
  Vector.ofFn fun i => (s[i.val / 8] >>> (8 * (i.val % 8)).toUInt64).toUInt8

end Allotment.Keccak
