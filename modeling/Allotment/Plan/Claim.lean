import Allotment.Claim.Lines
import Allotment.Ledger.DryRun
import Allotment.Host.Basic
import Allotment.Plan.Ledger

/-!
# Planning and making claims

The accounts are those of the configuration, then those given on the command line, then the lines of a file, then the
wallets of a snapshot; none is left out, not even one that is repeated or no address. A run fails only before the first
account.
-/

namespace Allotment

/-- What is given for a run besides the configuration. -/
structure ClaimInputs where
  accounts : List String
  snapshot : Option Path
  dryRun : Bool

/-- What is needed for claims. -/
structure ClaimPlan where
  ledger : LedgerPlan
  chainId : Option UInt64
  contract : Address
  reward : Claim.Reward
  accounts : List String
  signer : Signer
  throttleMs : UInt64
  fees : Fees
  dryRun : Bool

variable {m : Type → Type} [Monad m]

namespace Config

/-- The lines of the accounts file, if one is named. -/
def accountLines (files : Files m) (file : Option Path) : ExceptT Failure m (List String) := do
  match file with
  | none => return []
  | some path =>
    let text ← attempt (fun cause => .config (.unreadableAccounts path cause)) (files.readText path)
    return Claim.accountLines text

/-- The wallets of a snapshot, if one is named. -/
def snapshotWallets (files : Files m) (file : Option Path) : ExceptT Failure m (List String) := do
  match file with
  | none => return []
  | some path => return (← attempt .artifact (Snapshot.read files path)).wallets.map Address.text

/-- The accounts of all sources in order. -/
def claimAccounts (files : Files m) (c : Config) (inputs : ClaimInputs) : ExceptT Failure m (List String) := do
  let lines ← accountLines files c.claim.accountsFile
  let wallets ← snapshotWallets files inputs.snapshot
  return c.claim.accounts ++ inputs.accounts ++ lines ++ wallets

/-- The period of claims, which must not be blank. -/
def claimPeriod (c : Config) : Except ConfigFault String :=
  let period := Text.trim c.claim.period
  if period.isEmpty then .error .emptyPeriod else .ok period

/-- The plan for claims. -/
def claimPlan (files : Files m) (environment : Environment m) (c : Config) (inputs : ClaimInputs) :
    ExceptT Failure m ClaimPlan := do
  let contract ← attempt .config (pure (requireAddress "claim.contributor_reward_address"
    "CONTRIBUTOR_REWARD_ADDRESS" c.claim.contributorRewardAddress))
  let token ← attempt .config (pure (requireAddress "claim.reward_token" "REWARD_TOKEN_ADDRESS" c.claim.rewardToken))
  let period ← attempt .config (pure c.claimPeriod)
  let secret ← attempt .key (Secret.load files environment c.claim.signingKey)
  let signer ← attempt .ledger (pure (Signer.ofSecret secret.bytes))
  let accounts ← claimAccounts files c inputs
  if accounts.isEmpty then throw (.config .noAccounts)
  let ledger ← attempt .config (pure c.ledgerPlan)
  return {
    ledger, contract, accounts, signer
    chainId := c.ledger.chainId
    reward := ⟨period, token⟩
    throttleMs := c.claim.throttleMs
    fees := c.claim.gas
    dryRun := inputs.dryRun }

end Config

namespace ClaimPlan

/-- Makes the claims of a plan on a ledger. -/
def runOn (plan : ClaimPlan) (ledger : Ledger m) (announce : String → Claim.Outcome → m Unit) (pause : m Unit) :
    ExceptT Failure m (List Claim.Outcome) := do
  let submitter ← attempt .claim (Claim.Submitter.connect ledger plan.signer plan.contract plan.fees plan.chainId)
  ExceptT.lift (submitter.run ledger plan.reward announce pause plan.accounts)

/-- Makes the claims of a plan, for real or dry. -/
def run (host : Host m) (plan : ClaimPlan) (announce : String → Claim.Outcome → m Unit) :
    ExceptT Failure m (List Claim.Outcome) := do
  let ledger ← attempt .ledger (pure (plan.ledger.connect host.transport))
  let pause := host.pause plan.throttleMs
  if plan.dryRun then
    ExceptT.mk ((plan.runOn ledger.dryRun (fun line outcome => announce line outcome) pause).run.run' [])
  else plan.runOn ledger announce pause

end ClaimPlan

end Allotment
