import Allotment.Ledger.Basic
import Allotment.Ledger.Transaction

/-!
# The signer of claims

A signer holds a private key and signs contract calls. What is shown of a signer is a function of its address alone.
-/

namespace Allotment

/-- A signed transaction, ready to be submitted. -/
structure SignedTransaction where
  raw : Bytes
  hash : Digest
  nonce : UInt64
  deriving DecidableEq

/-- A signer of transactions. -/
structure Signer where
  key : Secp256k1.PrivateKey

namespace Signer

/-- The signer with the given secret. -/
def ofSecret (secret : Vector UInt8 32) : Except LedgerError Signer :=
  match Secp256k1.PrivateKey.ofBytes? secret with
  | some key => .ok ⟨key⟩
  | none => .error .invalidKey

/-- The account that pays for and sends what is signed: the last twenty bytes of the hash of the public key. -/
def address (signer : Signer) : Address :=
  ⟨(Keccak.hash signer.key.publicBytes).extract 12 32⟩

/-- Puts a signature to a contract call, if there is one. -/
def attach (tx : Transaction) : Option Secp256k1.Signature → Except LedgerError SignedTransaction
  | none => .error .unsigned
  | some signature =>
    let raw := tx.encodeSigned signature
    .ok ⟨raw, Keccak.hash raw, tx.nonce⟩

/-- Signs a contract call. -/
def sign (signer : Signer) (tx : Transaction) : Except LedgerError SignedTransaction :=
  attach tx (Secp256k1.sign? signer.key tx.signingHash)

/-- What is shown of a signer. -/
def shown (signer : Signer) : String :=
  "ClaimSigner \x7b address: " ++ signer.address.lowerText ++ ", .. \x7d"

end Signer

end Allotment
