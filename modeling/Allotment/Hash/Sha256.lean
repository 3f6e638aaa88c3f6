import Allotment.Bytes.Basic

/-!
# SHA-256 and the keyed hash made from it

The hash works on eight words of 32 bits; a message is filled up to a multiple of 64 bytes with its length in bits at
the end. `hmac` hashes a message under a key.
-/

namespace Allotment.Sha256

/-- The eight words of the state. -/
abbrev State := Vector UInt32 8

/-- The state before the first block. -/
def initial : State := #v[
  0x6a09e667, 0xbb67ae85, 0x3c6ef372, 0xa54ff53a, 0x510e527f, 0x9b05688c, 0x1f83d9ab, 0x5be0cd19]

/-- The constants of the 64 rounds. -/
def roundConstants : List UInt32 := [
  0x428a2f98, 0x71374491, 0xb5c0fbcf, 0xe9b5dba5, 0x3956c25b, 0x59f111f1, 0x923f82a4, 0xab1c5ed5,
  0xd807aa98, 0x12835b01, 0x243185be, 0x550c7dc3, 0x72be5d74, 0x80deb1fe, 0x9bdc06a7, 0xc19bf174,
  0xe49b69c1, 0xefbe4786, 0x0fc19dc6, 0x240ca1cc, 0x2de92c6f, 0x4a7484aa, 0x5cb0a9dc, 0x76f988da,
  0x983e5152, 0xa831c66d, 0xb00327c8, 0xbf597fc7, 0xc6e00bf3, 0xd5a79147, 0x06ca6351, 0x14292967,
  0x27b70a85, 0x2e1b2138, 0x4d2c6dfc, 0x53380d13, 0x650a7354, 0x766a0abb, 0x81c2c92e, 0x92722c85,
  0xa2bfe8a1, 0xa81a664b, 0xc24b8b70, 0xc76c51a3, 0xd192e819, 0xd6990624, 0xf40e3585, 0x106aa070,
  0x19a4c116, 0x1e376c08, 0x2748774c, 0x34b0bcb5, 0x391c0cb3, 0x4ed8aa4a, 0x5b9cca4f, 0x682e6ff3,
  0x748f82ee, 0x78a5636f, 0x84c87814, 0x8cc70208, 0x90befffa, 0xa4506ceb, 0xbef9a3f7, 0xc67178f2]

/-- A word rotated to the right. -/
def rotate (word places : UInt32) : UInt32 :=
  (word >>> places) ||| (word <<< (32 - places))

/-- A message filled up to a multiple of 64 bytes. -/
def pad (message : Bytes) : Bytes :=
  message ++ [0x80] ++ List.replicate ((119 - message.length % 64) % 64) 0x00 ++
    Bytes.ofNat 8 (8 * message.length)

/-- The next word of the schedule from the sixteen before it, latest first. -/
def nextWord (latest : List UInt32) : UInt32 :=
  let w (back : Nat) := latest.getD (back - 1) 0
  let small0 := rotate (w 15) 7 ^^^ rotate (w 15) 18 ^^^ (w 15 >>> 3)
  let small1 := rotate (w 2) 17 ^^^ rotate (w 2) 19 ^^^ (w 2 >>> 10)
  small1 + w 7 + small0 + w 16

/-- `count` further words of the schedule, put in front of those already there. -/
def extendSchedule : Nat → List UInt32 → List UInt32
  | 0, latest => latest
  | count + 1, latest => extendSchedule count (nextWord latest :: latest)

/-- The words of a block, four bytes each, most significant byte first. -/
def wordsOfBlock : Bytes → List UInt32
  | a :: b :: c :: d :: rest =>
    ((a.toUInt32 <<< 24) ||| (b.toUInt32 <<< 16) ||| (c.toUInt32 <<< 8) ||| d.toUInt32) :: wordsOfBlock rest
  | _ => []

/-- The 64 words that a block is stretched to. -/
def schedule (block : Bytes) : List UInt32 :=
  (extendSchedule 48 (wordsOfBlock block).reverse).reverse

/-- One round with a constant and a word of the schedule. -/
def round (s : State) (input : UInt32 × UInt32) : State :=
  let a := s[0]
  let e := s[4]
  let big1 := rotate e 6 ^^^ rotate e 11 ^^^ rotate e 25
  let choice := (e &&& s[5]) ^^^ (~~~e &&& s[6])
  let first := s[7] + big1 + choice + input.1 + input.2
  let big0 := rotate a 2 ^^^ rotate a 13 ^^^ rotate a 22
  let majority := (a &&& s[1]) ^^^ (a &&& s[2]) ^^^ (s[1] &&& s[2])
  #v[first + (big0 + majority), a, s[1], s[2], s[3] + first, e, s[5], s[6]]

/-- Takes one block into the state. -/
def compress (s : State) (block : Bytes) : State :=
  let mixed := (roundConstants.zip (schedule block)).foldl round s
  Vector.zipWith (· + ·) s mixed

/-- Takes all blocks into the state; `fuel` bounds their number. -/
def compressAll : Nat → State → Bytes → State
  | 0, s, _ => s
  | fuel + 1, s, bytes =>
    if bytes.isEmpty then s else compressAll fuel (compress s (bytes.take 64)) (bytes.drop 64)

/-- The hash of a message. -/
def hash (message : Bytes) : Digest :=
  let padded := pad message
  let s := compressAll padded.length initial padded
  Vector.ofFn fun i => (s[i.val / 4] >>> (8 * (3 - i.val % 4)).toUInt32).toUInt8

/-- A key as one block: its hash if it is longer than that, filled up with zero bytes. -/
def keyBlock (key : Bytes) : Bytes :=
  let key := if 64 < key.length then (hash key).toList else key
  key ++ List.replicate (64 - key.length) 0x00

/-- The hash of a message under a key. -/
def hmac (key message : Bytes) : Digest :=
  let block := keyBlock key
  let inner := hash (block.map (· ^^^ 0x36) ++ message)
  hash (block.map (· ^^^ 0x5c) ++ inner.toList)

end Allotment.Sha256
