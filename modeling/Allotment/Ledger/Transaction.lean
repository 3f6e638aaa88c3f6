import Allotment.Address
import Allotment.Curve.Signature
import Allotment.Ledger.Rlp

/-!
# Transactions

A transaction of type two calls a contract with some input, no value and an empty access list, under a limit on gas
and two caps on its price. It is signed over the hash of its unsigned form.
-/

namespace Allotment

/-- How many amounts of wei there are: those of at most 128 bits. -/
abbrev Wei.size : Nat := 0x100000000000000000000000000000000

/-- An amount of wei. -/
abbrev Wei := Fin Wei.size

/-- The limit on gas and the caps on its price. -/
structure Fees where
  gasLimit : UInt64
  maxFee : Wei
  maxPriorityFee : Wei
  deriving DecidableEq

namespace Fees

/-- The fees of a claim unless settings say otherwise: 400000 gas, three gwei, one of them for priority. -/
def standard : Fees where
  gasLimit := 400000
  maxFee := ⟨3000000000, by decide⟩
  maxPriorityFee := ⟨1000000000, by decide⟩

open Json in
/-- Fees as JSON. -/
def format : RecordFormat Fees where
  name := "FeeParams"
  initial := standard
  fields := [
    Field.of "gas_limit" Decoder.uint64 Json.ofUInt64 (·.gasLimit) fun n f => { f with gasLimit := n },
    Field.of "max_fee_per_gas_wei" (Decoder.plainNat Wei.size) (Json.ofNat ·.val) (·.maxFee)
      fun n f => { f with maxFee := n },
    Field.of "max_priority_fee_per_gas_wei" (Decoder.plainNat Wei.size) (Json.ofNat ·.val) (·.maxPriorityFee)
      fun n f => { f with maxPriorityFee := n }]

end Fees

/-- A contract call before it is signed. -/
structure Transaction where
  chainId : UInt64
  nonce : UInt64
  fees : Fees
  contract : Address
  input : Bytes
  deriving DecidableEq

namespace Transaction

/-- The type byte in front of an encoded transaction. -/
def typeByte : UInt8 := 0x02

/-- The nine fields of the unsigned form. -/
def items (tx : Transaction) : List Rlp.Item := [
  .nat tx.chainId.toNat, .nat tx.nonce.toNat, .nat tx.fees.maxPriorityFee.val, .nat tx.fees.maxFee.val,
  .nat tx.fees.gasLimit.toNat, .bytes tx.contract.bytes.toList, .nat 0, .bytes tx.input, .list []]

/-- The hash that is signed. -/
def signingHash (tx : Transaction) : Digest :=
  Keccak.hash (typeByte :: Rlp.encode (.list tx.items))

/-- The bytes of a signed transaction. -/
def encodeSigned (tx : Transaction) (signature : Secp256k1.Signature) : Bytes :=
  typeByte :: Rlp.encode (.list (tx.items ++
    [.nat (if signature.odd then 1 else 0), .nat signature.r, .nat signature.s]))

end Transaction

end Allotment
