import Allotment.Claim.Outcome
import Allotment.Ledger.Contract
import Allotment.Ledger.Signer

/-!
# Claiming for a list of accounts

Accounts are taken one after the other through one signer. For each the ledger is asked what it can claim; only if
that is not zero a claim is signed, with a sequence number asked for just then, and submitted. Nothing that happens to
one account stops the run.
-/

namespace Allotment.Claim

/-- Why a run does not start. -/
inductive StartError where
  | chainId (cause : LedgerError)
  deriving DecidableEq

/-- The wording of an error. -/
def StartError.message : StartError → String
  | .chainId cause => "could not determine chain id: " ++ cause.message

/-- What is claimed: the rewards of a period in a token. -/
structure Reward where
  period : String
  token : Address
  deriving DecidableEq

/-- Someone who submits claims: the signer, bound to a contract, fees and a chain. -/
structure Submitter where
  signer : Signer
  contract : Address
  fees : Fees
  chainId : UInt64

variable {m : Type → Type} [Monad m]

namespace Submitter

/-- Binds a signer to the chain with the given id, or else to the one that the ledger names. -/
def connect (ledger : Ledger m) (signer : Signer) (contract : Address) (fees : Fees) (chainId : Option UInt64) :
    m (Except StartError Submitter) := do
  match chainId with
  | some id => return .ok ⟨signer, contract, fees, id⟩
  | none =>
    match ← ledger .chainId with
    | .ok id => return .ok ⟨signer, contract, fees, id⟩
    | .error cause => return .error (.chainId cause)

/-- What an account can claim. -/
def entitlement (s : Submitter) (ledger : Ledger m) (reward : Reward) (account : Address) :
    m (Except LedgerError Nat) :=
  Contract.queryClaimable ledger s.contract reward.period reward.token account

/-- The transaction that claims under a sequence number. -/
def transaction (s : Submitter) (reward : Reward) (nonce : UInt64) : Transaction where
  chainId := s.chainId
  nonce
  fees := s.fees
  contract := s.contract
  input := Contract.claimReward reward.period reward.token

/-- Asks for a sequence number, has a claim signed with `sign` and submits it. -/
def submitWith (s : Submitter) (sign : Transaction → Except LedgerError SignedTransaction) (ledger : Ledger m)
    (reward : Reward) : m (Except LedgerError Digest) := do
  match ← ledger (.sequenceNumber s.signer.address) with
  | .error e => return .error e
  | .ok nonce =>
    match sign (s.transaction reward nonce) with
    | .error e => return .error e
    | .ok signed => ledger (.submit signed.raw)

/-- Asks for a sequence number, signs a claim and submits it. -/
def submit (s : Submitter) (ledger : Ledger m) (reward : Reward) : m (Except LedgerError Digest) :=
  s.submitWith s.signer.sign ledger reward

/-- Claims for an account if there is something to claim. -/
def claim (s : Submitter) (ledger : Ledger m) (reward : Reward) (account : Address) : m Outcome := do
  match ← s.entitlement ledger reward account with
  | .error _ => return .skipped .queryFailed
  | .ok 0 => return .skipped .zeroEntitlement
  | .ok (_ + 1) =>
    match ← s.submit ledger reward with
    | .ok hash => return .submitted hash
    | .error e => return .failed e.message

/-- Claims for the account that a line names. -/
def process (s : Submitter) (ledger : Ledger m) (reward : Reward) (line : String) : m Outcome :=
  match Address.parse? line with
  | none => pure .invalidAddress
  | some account => s.claim ledger reward account

/-- Claims for every line of a list. `announce` is told each line with its outcome as soon as that is known, and
`pause` comes between two lines. -/
def run (s : Submitter) (ledger : Ledger m) (reward : Reward) (announce : String → Outcome → m Unit) (pause : m Unit) :
    List String → m (List Outcome)
  | [] => return []
  | line :: lines => do
    let outcome ← s.process ledger reward line
    announce line outcome
    unless lines.isEmpty do pause
    let outcomes ← run s ledger reward announce pause lines
    return outcome :: outcomes

end Submitter

end Allotment.Claim
