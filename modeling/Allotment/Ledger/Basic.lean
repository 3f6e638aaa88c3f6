import Allotment.Address

/-!
# The ledger as this library sees it

Four kinds of request, each answered on its own: a read-only call, the chain id, the sequence number of an account and
the submission of a signed transaction. A ledger answers requests in a monad, so that it may be remote, keep state, or
answer as it likes.
-/

namespace Allotment

/-- The remote procedure behind a request. -/
inductive Method where
  | call
  | chainId
  | sequenceNumber
  | submit
  deriving DecidableEq

/-- The name of a remote procedure. -/
def Method.name : Method → String
  | .call => "eth_call"
  | .chainId => "eth_chainId"
  | .sequenceNumber => "eth_getTransactionCount"
  | .submit => "eth_sendRawTransaction"

/-- Why something asked of the ledger fails. -/
inductive LedgerError where
  | invalidEndpoint (reason : String)
  | rpc (method : Method) (reason : String)
  | shortReply (function : String)
  | invalidKey
  | unsigned
  deriving DecidableEq

/-- The wording of an error. -/
def LedgerError.message : LedgerError → String
  | .invalidEndpoint reason => "invalid endpoint " ++ reason
  | .rpc method reason => "rpc " ++ method.name ++ " failed: " ++ reason
  | .shortReply function =>
    "failed to decode " ++ function ++ ": ABI decoding failed: buffer overrun while deserializing"
  | .invalidKey => "signing failed: invalid private key: signature error"
  | .unsigned => "signing failed: signature error"

/-- A request to the ledger. -/
inductive Request where
  | call (contract : Address) (data : Bytes)
  | chainId
  | sequenceNumber (account : Address)
  | submit (raw : Bytes)
  deriving DecidableEq

/-- What a request is answered with when it succeeds. -/
abbrev Request.Result : Request → Type
  | .call .. => Bytes
  | .chainId => UInt64
  | .sequenceNumber _ => UInt64
  | .submit _ => Digest

/-- What a request is answered with. -/
abbrev Request.Answer (request : Request) : Type := Except LedgerError request.Result

/-- A ledger answers requests. -/
abbrev Ledger (m : Type → Type) := (request : Request) → m request.Answer

namespace Ledger

variable {m : Type → Type} [Monad m]

/-- The ledger in a larger monad. -/
def lift {n : Type → Type} (ledger : Ledger m) (up : {α : Type} → m α → n α) : Ledger n :=
  fun request => up (ledger request)

/-- A ledger that also writes down every request, in order, before answering it. -/
def logged (ledger : Ledger m) : Ledger (StateT (List Request) m) := fun request => do
  modify (· ++ [request])
  ledger request

end Ledger

end Allotment
