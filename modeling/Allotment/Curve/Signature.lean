import Allotment.Curve.Secp256k1
import Allotment.Hash.Sha256

/-!
# Signatures that depend on nothing but key and message

The secret number of a signature is drawn from a generator keyed with the private key and the hash that is signed, so
that signing the same hash twice gives the same signature. Of the two signatures of a hash the one with the smaller
second half is taken.
-/

namespace Allotment.Secp256k1

/-- A private key. -/
structure PrivateKey where
  value : Nat
  pos : 0 < value
  lt : value < order

namespace PrivateKey

/-- The key that 32 bytes denote, if it is neither zero nor as large as the order. -/
def ofBytes? (bytes : Vector UInt8 32) : Option PrivateKey :=
  let value := Bytes.toNat bytes.toList
  if h : 0 < value ∧ value < order then some ⟨value, h.1, h.2⟩ else none

/-- The key in 32 bytes. -/
def bytes (key : PrivateKey) : Bytes := Bytes.ofNat 32 key.value

/-- The public key: both coordinates in 32 bytes each. -/
def publicBytes (key : PrivateKey) : Bytes :=
  let (x, y) := baseMultiple key.value
  Bytes.ofNat 32 x ++ Bytes.ofNat 32 y

end PrivateKey

/-- A signature: two numbers below the order, and whether the point behind the first one has an odd height. -/
structure Signature where
  odd : Bool
  r : Nat
  s : Nat
  deriving DecidableEq

/-- The generator of secret numbers: a key and a value of 32 bytes each. -/
structure Generator where
  key : Bytes
  value : Bytes

namespace Generator

/-- The generator after its key and value were refreshed with some data. -/
def refresh (g : Generator) (data : Bytes) : Generator :=
  let key := (Sha256.hmac g.key (g.value ++ data)).toList
  ⟨key, (Sha256.hmac key g.value).toList⟩

/-- The generator for a private key and a hash. -/
def start (key hash : Bytes) : Generator :=
  let blank : Generator := ⟨List.replicate 32 0x00, List.replicate 32 0x01⟩
  (blank.refresh (0x00 :: key ++ hash)).refresh (0x01 :: key ++ hash)

/-- The first number the generator draws that is neither zero nor as large as the order, in at most `draws` draws. -/
def draw? : Nat → Generator → Option Nat
  | 0, _ => none
  | draws + 1, g =>
    let value := (Sha256.hmac g.key g.value).toList
    let k := Bytes.toNat value
    if 0 < k && k < order then some k else draw? draws (refresh ⟨g.key, value⟩ [0x00])

end Generator

/-- The signature of a hash with a secret number; none if one half comes out as zero. -/
def signWith? (key : PrivateKey) (hash k : Nat) : Option Signature :=
  let (x, y) := baseMultiple k
  let r := x % order
  let s := inverse order k * ((hash + r * key.value) % order) % order
  if r = 0 || s = 0 then none
  else if order / 2 < s then some ⟨y % 2 = 0, r, order - s⟩
  else some ⟨y % 2 = 1, r, s⟩

/-- The signature of a hash. -/
def sign? (key : PrivateKey) (hash : Digest) : Option Signature := do
  let z := Bytes.toNat hash.toList % order
  let k ← Generator.draw? 64 (Generator.start key.bytes (Bytes.ofNat 32 z))
  signWith? key z k

end Allotment.Secp256k1
