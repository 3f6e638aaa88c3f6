import Allotment.Proofs.Snapshot.FirstAppearances
import Allotment.Proofs.Snapshot.Validate
import Allotment.Snapshot.Build

/-!
# What a snapshot of two tables is

* `Points.Table.firstPoints`: what an account has in a table, read off the list of its entries;
* `Points.rowsOf`: the rows that two tables and counts of bound nodes stand for, by places and by sums of natural
  numbers;
* `Snapshot.build_rows`: the built snapshot has just these rows, its columns are their projections, no wallet is
  repeated and the check of the snapshot finds nothing.
-/

namespace Allotment

open Points

/-- The points of the first of the entries for an account; none if there is no entry. -/
def Points.Table.firstPoints (table : Table) (account : Address) : UInt64 :=
  match table.entries.filter (·.account = account) with
  | [] => 0
  | entry :: _ => entry.points

/-- The rows of two tables: every account at its first appearance, the developer table first, with the points of its
first entries; rows whose points add up to zero are left out. -/
def Points.rowsOf (dev node : Table) (bounds : BoundCounts) : List Record :=
  let row (account : Address) : Record :=
    ⟨account, dev.firstPoints account, node.firstPoints account, bounds.get account⟩
  ((firstAppearances (dev.accounts ++ node.accounts)).map row).filter fun r =>
    r.devPoints.toNat + r.nodePoints.toNat ≠ 0

/-- Looking an account up finds its first entry. -/
theorem Points.Table.points_eq (table : Table) (account : Address) :
    table.points account = table.firstPoints account := by
  unfold points get? firstPoints
  rw [← List.head?_filter]
  cases table.entries.filter (·.account = account) <;> rfl

/-- A record carries points just if they do not add up to zero; the sum is not taken modulo anything. -/
theorem Record.hasPoints_eq (r : Record) :
    r.hasPoints = decide (r.devPoints.toNat + r.nodePoints.toNat ≠ 0) := by
  have dev : 0 < r.devPoints ↔ 0 < r.devPoints.toNat := by simp [UInt64.lt_iff_toNat_lt]
  have node : 0 < r.nodePoints ↔ 0 < r.nodePoints.toNat := by simp [UInt64.lt_iff_toNat_lt]
  simp only [hasPoints, dev, node, ← Bool.decide_or]
  exact decide_eq_decide.mpr (by omega)

theorem Points.candidates_eq (dev node : Table) :
    candidates dev node = firstAppearances (dev.accounts ++ node.accounts) :=
  eraseDups_eq _

/-- The records that are kept are the rows of the tables. -/
theorem Points.merge_filter_hasPoints (dev node : Table) (bounds : BoundCounts) :
    (merge dev node bounds).filter Record.hasPoints = rowsOf dev node bounds := by
  have row : Record.of dev node bounds = fun account =>
      ⟨account, dev.firstPoints account, node.firstPoints account, bounds.get account⟩ := by
    funext account
    simp only [Record.of, Table.points_eq]
  rw [merge, rowsOf, candidates_eq, row]
  exact List.filter_congr fun r _ => r.hasPoints_eq

/-- The accounts of the rows are among the first appearances, in order. -/
theorem Points.accounts_rowsOf (dev node : Table) (bounds : BoundCounts) :
    ((rowsOf dev node bounds).map (·.account)).Sublist (firstAppearances (dev.accounts ++ node.accounts)) := by
  have h := (List.filter_sublist (p := fun r : Record => r.devPoints.toNat + r.nodePoints.toNat ≠ 0)
    (l := (firstAppearances (dev.accounts ++ node.accounts)).map fun account =>
      (⟨account, dev.firstPoints account, node.firstPoints account, bounds.get account⟩ : Record))).map (·.account)
  simpa [rowsOf, Function.comp_def] using h

/-- The check finds nothing wrong with the snapshot of two tables. -/
theorem Snapshot.validate_build (dev node : Table) (bounds : BoundCounts) :
    (Snapshot.build dev node bounds).validate = .ok () := by
  rw [Snapshot.build, merge_filter_hasPoints, validate_ofRecords]
  exact (accounts_rowsOf dev node bounds).nodup (nodup_firstAppearances _)

/-- **The snapshot of two tables**: its records are the rows of the tables, its columns are their projections place by
place, no wallet is repeated and the check finds nothing wrong. -/
theorem Snapshot.build_rows (dev node : Table) (bounds : BoundCounts) :
    let s := Snapshot.build dev node bounds
    s.raw = rowsOf dev node bounds ∧
      (∀ i : Nat, s.wallets[i]? = s.raw[i]?.map (·.account) ∧ s.devAmounts[i]? = s.raw[i]?.map (·.devPoints) ∧
        s.nodeAmounts[i]? = s.raw[i]?.map (·.nodePoints)) ∧
      s.wallets.Nodup ∧ s.validate = .ok () := by
  have build : Snapshot.build dev node bounds = ofRecords (rowsOf dev node bounds) := by
    rw [Snapshot.build, merge_filter_hasPoints]
  have nodup : ((rowsOf dev node bounds).map (·.account)).Nodup :=
    (accounts_rowsOf dev node bounds).nodup (nodup_firstAppearances _)
  rw [build]
  refine ⟨rfl, fun i => ?_, nodup, (validate_ofRecords _).mpr nodup⟩
  simp [ofRecords]

end Allotment
