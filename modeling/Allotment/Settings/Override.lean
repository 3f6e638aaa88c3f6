import Allotment.Settings.Config

/-!
# Settings from the environment

Five environment variables take precedence over the settings file. A variable that is not set, or blank, changes
nothing.
-/

namespace Allotment

/-- A variable that takes the place of a setting. -/
inductive Override where
  | rpcUrl
  | nodeRewardsAddress
  | contributorRewardAddress
  | rewardTokenAddress
  | period
  deriving DecidableEq

namespace Override

/-- The name of the variable. -/
def name : Override → String
  | .rpcUrl => "RPC_URL"
  | .nodeRewardsAddress => "NODE_REWARDS_ADDRESS"
  | .contributorRewardAddress => "CONTRIBUTOR_REWARD_ADDRESS"
  | .rewardTokenAddress => "REWARD_TOKEN_ADDRESS"
  | .period => "PERIOD"

/-- All overrides. -/
def all : List Override := [.rpcUrl, .nodeRewardsAddress, .contributorRewardAddress, .rewardTokenAddress, .period]

/-- The configuration with a text in the place of the setting. -/
def apply (o : Override) (value : String) (c : Config) : Config :=
  match o with
  | .rpcUrl => { c with ledger.endpoint := value }
  | .nodeRewardsAddress => { c with snapshot.nodeRewardsAddress := some value }
  | .contributorRewardAddress => { c with claim.contributorRewardAddress := some value }
  | .rewardTokenAddress => { c with claim.rewardToken := some value }
  | .period => { c with claim.period := value }

/-- The text that a variable gives: its value without white space at its ends, if anything is left. -/
def textOf (value : Option String) : Option String :=
  (value.map Text.trim).filter (!·.isEmpty)

/-- The configuration after one override was looked up. -/
def lookUp [Monad m] (environment : Environment m) (c : Config) (o : Override) : m Config := do
  match textOf (← environment o.name) with
  | some value => return o.apply value c
  | none => return c

end Override

/-- The configuration with the overrides that the environment holds. -/
def Config.override [Monad m] (environment : Environment m) (c : Config) : m Config :=
  Override.all.foldlM (Override.lookUp environment) c

end Allotment
