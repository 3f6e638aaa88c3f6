import Allotment.Ledger.Abi
import Allotment.Ledger.Basic

/-!
# The contracts

The pool that contributors claim from has the functions `claimReward` and `claimable`; the registry of nodes has
`boundNodeCount`. The two queries answer with one number, read from the first word of the reply.
-/

namespace Allotment.Contract

/-- The input that claims for a period in a token. -/
def claimReward (period : String) (token : Address) : Bytes :=
  Abi.selector "claimReward(string,address)" ++ Abi.encode [.string period, .address token]

/-- The input that asks what an account can claim for a period in a token. -/
def claimable (period : String) (token account : Address) : Bytes :=
  Abi.selector "claimable(string,address,address)" ++
    Abi.encode [.string period, .address token, .address account]

/-- The input that asks how many nodes are bound to an account. -/
def boundNodeCount (account : Address) : Bytes :=
  Abi.selector "boundNodeCount(address)" ++ Abi.encode [.address account]

/-- The number in the first word of a reply; the rest of the reply does not matter. -/
def firstWord? (reply : Bytes) : Option Nat :=
  if 32 ≤ reply.length then some (Bytes.toNat (reply.take 32)) else none

/-- The number that a call is answered with; `function` is named when the reply is too short. -/
def query [Monad m] (ledger : Ledger m) (function : String) (contract : Address) (input : Bytes) :
    m (Except LedgerError Nat) := do
  match ← ledger (.call contract input) with
  | .error e => return .error e
  | .ok reply =>
    match firstWord? reply with
    | some n => return .ok n
    | none => return .error (.shortReply function)

/-- What an account can claim for a period in a token. -/
def queryClaimable [Monad m] (ledger : Ledger m) (contract : Address) (period : String) (token account : Address) :
    m (Except LedgerError Nat) :=
  query ledger "claimable" contract (claimable period token account)

/-- How many nodes are bound to an account. -/
def queryBoundNodes [Monad m] (ledger : Ledger m) (contract account : Address) : m (Except LedgerError Nat) :=
  query ledger "boundNodeCount" contract (boundNodeCount account)

end Allotment.Contract
