import Allotment.Points.Table
import Allotment.Snapshot.Basic

/-!
# From points tables to a snapshot

Every account of the developer table comes first, then those that are in the node table only, each once and in the
order of their first entries. Accounts without points in either table are left out.
-/

namespace Allotment

open Points

/-- The distinct accounts of both tables, the developer table first, in the order of their first entries. -/
def Points.candidates (dev node : Table) : List Address :=
  (dev.accounts ++ node.accounts).eraseDups

/-- The record of an account. -/
def Record.of (dev node : Table) (bounds : BoundCounts) (account : Address) : Record :=
  ⟨account, dev.points account, node.points account, bounds.get account⟩

/-- One record for every account in either table. -/
def Points.merge (dev node : Table) (bounds : BoundCounts) : List Record :=
  (candidates dev node).map (Record.of dev node bounds)

/-- The snapshot of two tables. -/
def Snapshot.build (dev node : Table) (bounds : BoundCounts) : Snapshot :=
  Snapshot.ofRecords ((merge dev node bounds).filter Record.hasPoints)

end Allotment
