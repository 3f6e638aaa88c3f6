import Allotment.Host.Basic
import Allotment.Plan.Ledger
import Allotment.Snapshot.Enrich

/-!
# Planning and making a snapshot

Points tables come from the configuration itself, followed by the files it names. Making the snapshot fails only if
the file cannot be written: whatever is wrong with the ledger leaves the counts of bound nodes at zero.
-/

namespace Allotment

/-- What is needed for a snapshot. -/
structure SnapshotPlan where
  ledger : LedgerPlan
  nodeRewards : Option Address
  onchainEnrichment : Bool
  dev : Points.Table
  node : Points.Table
  output : Path

variable {m : Type → Type} [Monad m]

namespace Config

/-- A points table with the entries of the file behind it, if one is named. -/
def pointsTable (files : Files m) (name : String) (members : List (String × Json)) (file : Option Path) :
    ExceptT Failure m Points.Table := do
  let table ← attempt .points (pure (Points.Table.ofJson name members))
  match file with
  | none => return table
  | some path => return table.append (← attempt .points (Points.Table.loadCsv files path))

/-- The plan for a snapshot. -/
def snapshotPlan (files : Files m) (c : Config) : ExceptT Failure m SnapshotPlan := do
  let dev ← pointsTable files "snapshot.dev_points" c.snapshot.devPoints c.snapshot.devPointsFile
  let node ← pointsTable files "snapshot.node_points" c.snapshot.nodePoints c.snapshot.nodePointsFile
  let nodeRewards ← attempt .config (pure (readAddress "snapshot.node_rewards_address" c.snapshot.nodeRewardsAddress))
  let ledger ← attempt .config (pure c.ledgerPlan)
  return ⟨ledger, nodeRewards, c.snapshot.onchainEnrichment, dev, node, c.snapshot.output⟩

end Config

namespace SnapshotPlan

/-- Where the counts of bound nodes come from. -/
def registry (plan : SnapshotPlan) (transport : JsonRpc.Transport m) : NodeRegistry m :=
  match plan.onchainEnrichment, plan.nodeRewards with
  | true, some contract =>
    match plan.ledger.connect transport with
    | .ok ledger => ⟨some ledger, some contract⟩
    | .error _ => .offline
  | _, _ => .offline

/-- Makes the snapshot and writes it. -/
def run (host : Host m) (plan : SnapshotPlan) : ExceptT Failure m Summary := do
  let snapshot ← (plan.registry host.transport).snapshot plan.dev plan.node
  attempt .artifact (snapshot.write host.files plan.output)
  return snapshot.summary

end SnapshotPlan

end Allotment
