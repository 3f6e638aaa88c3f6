import Allotment.Key.Source
import Allotment.Ledger.Transaction

/-!
# Configuration

What a settings file holds. It is loosely typed, so that a half-filled file can still be read: addresses are texts and
points tables are JSON objects. Everything that is missing has its standard value.
-/

namespace Allotment

open Json

/-- Where the ledger is. -/
structure LedgerSettings where
  endpoint : String
  requestTimeoutSecs : UInt64
  chainId : Option UInt64

/-- What goes into a snapshot and where the snapshot goes. -/
structure SnapshotSettings where
  nodeRewardsAddress : Option String
  devPoints : List (String × Json)
  nodePoints : List (String × Json)
  devPointsFile : Option Path
  nodePointsFile : Option Path
  output : Path
  onchainEnrichment : Bool

/-- What is claimed, for whom, and how. -/
structure ClaimSettings where
  contributorRewardAddress : Option String
  rewardToken : Option String
  period : String
  accounts : List String
  accountsFile : Option Path
  signingKey : KeySource
  throttleMs : UInt64
  gas : Fees

/-- A whole configuration. -/
structure Config where
  ledger : LedgerSettings
  snapshot : SnapshotSettings
  claim : ClaimSettings

/-- Optional text as JSON. -/
def Json.ofText? (text : Option String) : Json := ofOption .string text

/-- An optional path as JSON. -/
def Json.ofPath? (path : Option Path) : Json := ofOption (fun p => .string p.text) path

namespace LedgerSettings

/-- The standard settings. -/
def standard : LedgerSettings := ⟨"https://ethereum-sepolia.publicnode.com", 30, none⟩

/-- The settings as JSON. -/
def format : RecordFormat LedgerSettings where
  name := "LedgerSettings"
  initial := standard
  fields := [
    Field.of "endpoint" Decoder.string .string (·.endpoint) fun v s => { s with endpoint := v },
    Field.of "request_timeout_secs" Decoder.uint64 Json.ofUInt64 (·.requestTimeoutSecs)
      fun v s => { s with requestTimeoutSecs := v },
    Field.of "chain_id" (Decoder.option Decoder.uint64) (Json.ofOption Json.ofUInt64) (·.chainId)
      fun v s => { s with chainId := v }]

end LedgerSettings

namespace SnapshotSettings

/-- The standard settings. -/
def standard : SnapshotSettings := ⟨none, [], [], none, none, ⟨"snapshot.json"⟩, true⟩

/-- The settings as JSON. -/
def format : RecordFormat SnapshotSettings where
  name := "SnapshotSettings"
  initial := standard
  fields := [
    Field.of "node_rewards_address" (Decoder.option Decoder.string) Json.ofText? (·.nodeRewardsAddress)
      fun v s => { s with nodeRewardsAddress := v },
    Field.of "dev_points" Decoder.object .object (·.devPoints) fun v s => { s with devPoints := v },
    Field.of "node_points" Decoder.object .object (·.nodePoints) fun v s => { s with nodePoints := v },
    Field.of "dev_points_file" (Decoder.option Path.decoder) Json.ofPath? (·.devPointsFile)
      fun v s => { s with devPointsFile := v },
    Field.of "node_points_file" (Decoder.option Path.decoder) Json.ofPath? (·.nodePointsFile)
      fun v s => { s with nodePointsFile := v },
    Field.of "output" Path.decoder (fun p => .string p.text) (·.output) fun v s => { s with output := v },
    Field.of "onchain_enrichment" Decoder.bool .bool (·.onchainEnrichment)
      fun v s => { s with onchainEnrichment := v }]

end SnapshotSettings

namespace ClaimSettings

/-- The standard settings. -/
def standard : ClaimSettings := ⟨none, none, "2026-01", [], none, KeySource.standard, 3000, Fees.standard⟩

/-- The settings as JSON. -/
def format : RecordFormat ClaimSettings where
  name := "ClaimSettings"
  initial := standard
  fields := [
    Field.of "contributor_reward_address" (Decoder.option Decoder.string) Json.ofText? (·.contributorRewardAddress)
      fun v s => { s with contributorRewardAddress := v },
    Field.of "reward_token" (Decoder.option Decoder.string) Json.ofText? (·.rewardToken)
      fun v s => { s with rewardToken := v },
    Field.of "period" Decoder.string .string (·.period) fun v s => { s with period := v },
    Field.of "accounts" (Decoder.list Decoder.string) (fun v => .array (v.map .string)) (·.accounts)
      fun v s => { s with accounts := v },
    Field.of "accounts_file" (Decoder.option Path.decoder) Json.ofPath? (·.accountsFile)
      fun v s => { s with accountsFile := v },
    Field.of "signing_key" KeySource.decoder KeySource.toJson (·.signingKey) fun v s => { s with signingKey := v },
    Field.of "throttle_ms" Decoder.uint64 Json.ofUInt64 (·.throttleMs) fun v s => { s with throttleMs := v },
    Field.of "gas" Fees.format.decoder Fees.format.write (·.gas) fun v s => { s with gas := v }]

end ClaimSettings

namespace Config

/-- The standard configuration. -/
def standard : Config := ⟨LedgerSettings.standard, SnapshotSettings.standard, ClaimSettings.standard⟩

/-- A configuration as JSON. -/
def format : RecordFormat Config where
  name := "RewardSyncConfig"
  initial := standard
  fields := [
    Field.of "ledger" LedgerSettings.format.decoder LedgerSettings.format.write (·.ledger)
      fun v s => { s with ledger := v },
    Field.of "snapshot" SnapshotSettings.format.decoder SnapshotSettings.format.write (·.snapshot)
      fun v s => { s with snapshot := v },
    Field.of "claim" ClaimSettings.format.decoder ClaimSettings.format.write (·.claim)
      fun v s => { s with claim := v }]

/-- The text of a configuration, one item a line. -/
def pretty (c : Config) : String := (format.write c).pretty

/-- The configuration that a text holds. -/
def ofText (text : String) : Except Fault Config := decodeText format.decoder text

end Config

end Allotment
