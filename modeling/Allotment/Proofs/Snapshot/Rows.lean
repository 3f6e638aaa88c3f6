import Allotment.Proofs.Points.Lookup
import Allotment.Proofs.Snapshot.Build
import Allotment.Proofs.Snapshot.Enrich

/-!
# Which rows a snapshot has

There is one row for each account that has points (`mem_wallets_build`, `nodup_wallets_build`), and it says what the
tables answer for the account (`mem_raw_build`). The order of the tables' entries shows in the order of the rows and
nowhere else: tables that answer alike give the same rows in some order, and tables in each other's place give the same
rows with both kinds of points in each other's place (`build_of_answers`).
-/

namespace Allotment

open Points

/-- The record with developer points and node points in each other's place. -/
def Record.exchanged (r : Record) : Record :=
  { r with devPoints := r.nodePoints, nodePoints := r.devPoints }

theorem Record.exchanged_involutive : Function.Involutive Record.exchanged := fun _ => rfl

theorem Points.carries_iff {dev node : Table} {account : Address} :
    carries dev node account = true ↔ dev.points account ≠ 0 ∨ node.points account ≠ 0 := by
  rw [carries, Bool.or_eq_true, decide_eq_true_iff, decide_eq_true_iff, UInt64.pos_iff_ne_zero,
    UInt64.pos_iff_ne_zero]

/-- Whoever has points is in one of the tables. -/
theorem Points.mem_candidates_of_carries {dev node : Table} {account : Address}
    (carried : carries dev node account = true) : account ∈ candidates dev node := by
  rw [candidates, List.mem_eraseDups, List.mem_append]
  rcases carries_iff.mp carried with points | points
  · exact .inl (Table.mem_accounts_of_points points)
  · exact .inr (Table.mem_accounts_of_points points)

namespace Snapshot

variable {dev node dev' node' : Table} {bounds : BoundCounts}

/-- Just the accounts with points have rows. -/
theorem mem_wallets_build {account : Address} :
    account ∈ (build dev node bounds).wallets ↔ carries dev node account = true := by
  rw [wallets_build, List.mem_filter]
  exact and_iff_right_of_imp mem_candidates_of_carries

theorem nodup_wallets_build (dev node : Table) (bounds : BoundCounts) : (build dev node bounds).wallets.Nodup := by
  rw [wallets_build, candidates_eq]
  exact (nodup_firstAppearances _).filter _

/-- The records are those that the tables and the counts have for accounts with points. -/
theorem mem_raw_build {r : Record} :
    r ∈ (build dev node bounds).raw ↔
      r = Record.of dev node bounds r.account ∧ carries dev node r.account = true := by
  constructor
  · intro mem
    have row : r.account ∈ (build dev node bounds).wallets := List.mem_map_of_mem mem
    exact ⟨eq_of_mem_build mem, mem_wallets_build.mp row⟩
  · rintro ⟨same, carried⟩
    have row : r.account ∈ (build dev node bounds).wallets := mem_wallets_build.mpr carried
    obtain ⟨q, mem, named⟩ := List.mem_map.mp row
    rwa [same, ← named, ← eq_of_mem_build mem]

theorem nodup_raw_build (dev node : Table) (bounds : BoundCounts) : (build dev node bounds).raw.Nodup := by
  have wallets : ((build dev node bounds).raw.map (·.account)).Nodup := nodup_wallets_build dev node bounds
  exact .of_map _ wallets

theorem devAmounts_build (dev node : Table) (bounds : BoundCounts) :
    (build dev node bounds).devAmounts = (build dev node bounds).wallets.map dev.points := by
  simp only [build_eq, ofRecords, List.map_map]
  rfl

theorem nodeAmounts_build (dev node : Table) (bounds : BoundCounts) :
    (build dev node bounds).nodeAmounts = (build dev node bounds).wallets.map node.points := by
  simp only [build_eq, ofRecords, List.map_map]
  rfl

/-! ## Rows in another order -/

theorem total_perm {amounts amounts' : List UInt64} (perm : amounts.Perm amounts') : total amounts = total amounts' :=
  perm.foldr_eq' (fun x _ y _ sum => Nat.add_left_comm y.toNat x.toNat sum) 0

/-- The totals do not see the order of the records. -/
theorem summary_ofRecords_perm {records records' : List Record} (perm : records.Perm records') :
    (ofRecords records).summary = (ofRecords records').summary := by
  have wallets : (records.map (·.account)).length = (records'.map (·.account)).length := (perm.map _).length_eq
  have dev : total (records.map (·.devPoints)) = total (records'.map (·.devPoints)) := total_perm (perm.map _)
  have node : total (records.map (·.nodePoints)) = total (records'.map (·.nodePoints)) := total_perm (perm.map _)
  calc (ofRecords records).summary
      = ⟨(records.map (·.account)).length, total (records.map (·.devPoints)), total (records.map (·.nodePoints))⟩ := rfl
    _ = ⟨(records'.map (·.account)).length, total (records'.map (·.devPoints)),
          total (records'.map (·.nodePoints))⟩ := by rw [wallets, dev, node]
    _ = (ofRecords records').summary := rfl

/-- Tables that answer alike have the same rows. -/
theorem raw_build_perm (devAlike : ∀ account, dev'.get? account = dev.get? account)
    (nodeAlike : ∀ account, node'.get? account = node.get? account) :
    (build dev' node' bounds).raw.Perm (build dev node bounds).raw := by
  have devPoints (account : Address) : dev'.points account = dev.points account := by
    rw [Table.points, devAlike, Table.points]
  have nodePoints (account : Address) : node'.points account = node.points account := by
    rw [Table.points, nodeAlike, Table.points]
  rw [List.perm_ext_iff_of_nodup (nodup_raw_build _ _ _) (nodup_raw_build _ _ _)]
  intro r
  rw [mem_raw_build, mem_raw_build, carries_iff, carries_iff, Record.of, Record.of, devPoints, nodePoints]

/-- Tables in each other's place have the same rows with the points in each other's place. -/
theorem raw_build_exchanged (dev node : Table) (bounds : BoundCounts) :
    (build node dev bounds).raw.Perm ((build dev node bounds).raw.map Record.exchanged) := by
  have nodup := (nodup_raw_build dev node bounds).map Record.exchanged_involutive.injective
  rw [List.perm_ext_iff_of_nodup (nodup_raw_build _ _ _) nodup]
  intro r
  have row : r.exchanged = Record.of dev node bounds r.account ↔ r = Record.of node dev bounds r.account :=
    Record.exchanged_involutive.eq_iff
  rw [List.mem_map_of_involutive Record.exchanged_involutive, mem_raw_build, mem_raw_build]
  show _ ↔ r.exchanged = Record.of dev node bounds r.account ∧ carries dev node r.account = true
  rw [row, carries_iff, carries_iff, or_comm]

/-- **The allocation depends on what the tables answer, and on nothing else.** Tables that answer alike give the same
rows in some order and the same totals, whatever else is in them; they answer alike just if the first entries of their
accounts are the same in some order; and tables in each other's place give the same rows in some order with both kinds
of points in each other's place. -/
theorem build_of_answers (dev node : Table) (bounds : BoundCounts) :
    (∀ dev' node' : Table, (∀ account, dev'.get? account = dev.get? account) →
      (∀ account, node'.get? account = node.get? account) →
      (build dev' node' bounds).raw.Perm (build dev node bounds).raw ∧
        (build dev' node' bounds).summary = (build dev node bounds).summary) ∧
    (∀ table table' : Table, (∀ account, table'.get? account = table.get? account) ↔
      (firsts table'.entries).Perm (firsts table.entries)) ∧
    (build node dev bounds).raw.Perm ((build dev node bounds).raw.map Record.exchanged) := by
  refine ⟨fun dev' node' devAlike nodeAlike => ?_, fun _ _ => Table.get?_eq_iff_perm, raw_build_exchanged dev node bounds⟩
  have perm : (build dev' node' bounds).raw.Perm (build dev node bounds).raw := raw_build_perm devAlike nodeAlike
  exact ⟨perm, summary_ofRecords_perm perm⟩

/-- Two accounts have changed places, one has lost a later entry and the other one has got one. -/
theorem build_of_answers_reordered :
    let a : Address := ⟨Vector.replicate 20 1⟩
    let b : Address := ⟨Vector.replicate 20 2⟩
    let dev : Table := ⟨"dev", [⟨a, 1⟩, ⟨a, 7⟩, ⟨b, 5⟩]⟩
    let dev' : Table := ⟨"dev.csv", [⟨b, 5⟩, ⟨a, 1⟩, ⟨b, 9⟩]⟩
    let node : Table := ⟨"node", [⟨b, 2⟩]⟩
    (∀ account, dev'.get? account = dev.get? account) ∧
      (build dev' node .empty).raw.Perm (build dev node .empty).raw ∧
      (build dev' node .empty).summary = ⟨2, 6, 2⟩ := by
  intro a b dev dev' node
  have alike : ∀ account, dev'.get? account = dev.get? account :=
    ((build_of_answers dev node .empty).2.1 dev dev').mpr (by decide)
  have ⟨perm, summary⟩ := (build_of_answers dev node .empty).1 dev' node alike fun _ => rfl
  exact ⟨alike, perm, summary.trans (by decide)⟩

end Snapshot

end Allotment
