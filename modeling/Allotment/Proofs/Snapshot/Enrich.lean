import Allotment.Proofs.Claim.Session
import Allotment.Snapshot.Enrich

/-!
# Counts of bound nodes change nothing but themselves

Which accounts have a row, and in which order, is settled by the tables alone (`Snapshot.build_eq`). So two snapshots
of the same tables are alike (`Snapshot.Alike`): their columns and totals are the same, and their records differ at
most in the counts of bound nodes, wherever the counts come from (`NodeRegistry.snapshot_alike`).
-/

namespace Allotment

open Points

/-- Whether an account has points in either of two tables. -/
def Points.carries (dev node : Table) (account : Address) : Bool :=
  0 < dev.points account || 0 < node.points account

namespace Snapshot

/-- Two snapshots between which governance sees no difference. -/
structure Alike (s s' : Snapshot) : Prop where
  wallets : s'.wallets = s.wallets
  devAmounts : s'.devAmounts = s.devAmounts
  nodeAmounts : s'.nodeAmounts = s.nodeAmounts
  size : s'.size = s.size
  summary : s'.summary = s.summary
  /-- Row by row the records agree in all but the counts of bound nodes. -/
  raw : s'.raw.map (fun r => { r with boundNodes := 0 }) = s.raw.map fun r => { r with boundNodes := 0 }

/-- The counts take no part in choosing the rows. -/
theorem build_eq (dev node : Table) (bounds : BoundCounts) :
    build dev node bounds =
      ofRecords (((candidates dev node).filter (carries dev node)).map (Record.of dev node bounds)) := by
  rw [build, merge, List.filter_map]
  rfl

/-- A row says what the tables and the counts have for its account. -/
theorem eq_of_mem_build {dev node : Table} {bounds : BoundCounts} {r : Record}
    (mem : r ∈ (build dev node bounds).raw) : r = Record.of dev node bounds r.account := by
  rw [build_eq] at mem
  obtain ⟨account, -, rfl⟩ := List.mem_map.mp mem
  rfl

theorem wallets_build (dev node : Table) (bounds : BoundCounts) :
    (build dev node bounds).wallets = (candidates dev node).filter (carries dev node) := by
  rw [build_eq]
  show List.map _ (List.map _ _) = _
  rw [List.map_map]
  exact List.map_id _

/-- Snapshots of the same tables are alike whatever the counts are. -/
theorem alike_build (dev node : Table) (bounds bounds' : BoundCounts) :
    (build dev node bounds).Alike (build dev node bounds') := by
  have project {β : Type} (f : Record → β) (same : ∀ r count, f { r with boundNodes := count } = f r) :
      (build dev node bounds').raw.map f = (build dev node bounds).raw.map f := by
    rw [build_eq, build_eq]
    show List.map f (List.map _ _) = List.map f (List.map _ _)
    rw [List.map_map, List.map_map]
    exact List.map_congr_left fun account _ => same (Record.of dev node bounds account) (bounds'.get account)
  have wallets := project (·.account) fun _ _ => rfl
  have devAmounts := project (·.devPoints) fun _ _ => rfl
  have nodeAmounts := project (·.nodePoints) fun _ _ => rfl
  refine ⟨wallets, devAmounts, nodeAmounts, congrArg List.length wallets, ?_, project _ fun _ _ => rfl⟩
  show Summary.mk _ _ _ = Summary.mk _ _ _
  exact congr (congr (congrArg Summary.mk (congrArg List.length wallets)) (congrArg total devAmounts))
    (congrArg total nodeAmounts)

end Snapshot

/-! ## Where the counts come from -/

namespace NodeRegistry

theorem snapshot_eq {σ : Type} (registry : NodeRegistry (StateM σ)) (dev node : Table) (state : σ) :
    (registry.snapshot dev node state).1 = Snapshot.build dev node (registry.collect dev node state).1 := rfl

/-- Snapshots of the same tables are alike wherever the counts come from. -/
theorem snapshot_alike {σ σ' : Type} (registry : NodeRegistry (StateM σ)) (registry' : NodeRegistry (StateM σ'))
    (dev node : Table) (state : σ) (state' : σ') :
    (registry.snapshot dev node state).1.Alike (registry'.snapshot dev node state').1 :=
  Snapshot.alike_build dev node _ _

section Corresponding

variable {m n : Type → Type} [Monad m] [Monad n] (c : Claim.Correspondence m n)

section Requests

variable {ledger : Ledger m} {ledger' : Ledger n} (asks : ∀ request, c.rel (ledger request) (ledger' request))
include asks

theorem lookUp_rel (contract : Address) (bounds : BoundCounts) (account : Address) :
    c.rel (lookUp ledger contract bounds account) (lookUp ledger' contract bounds account) := by
  refine c.rel_bind (c.rel_bind (asks _) fun answer => ?_) fun count => ?_
  · cases answer with
    | error e => exact c.rel_pure _
    | ok reply =>
      dsimp only
      cases Contract.firstWord? reply with
      | some n => exact c.rel_pure _
      | none => exact c.rel_pure _
  · cases count with
    | ok n => exact c.rel_pure _
    | error e => exact c.rel_pure _

/-- Counts correspond when the requests behind them do. -/
theorem collect_rel (contract : Option Address) (dev node : Table) :
    c.rel (collect ⟨some ledger, contract⟩ dev node) (collect ⟨some ledger', contract⟩ dev node) := by
  cases contract with
  | none => exact c.rel_pure _
  | some contract =>
    refine c.rel_bind (asks .chainId) fun answer => ?_
    cases answer with
    | error e => exact c.rel_pure _
    | ok id => exact c.rel_foldlM (lookUp_rel c asks contract) .empty _

/-- Snapshots correspond when the requests behind them do. -/
theorem snapshot_rel (contract : Option Address) (dev node : Table) :
    c.rel (snapshot ⟨some ledger, contract⟩ dev node) (snapshot ⟨some ledger', contract⟩ dev node) :=
  c.rel_bind (collect_rel c asks contract dev node) fun _ => c.rel_pure _

end Requests

theorem snapshot_offline_rel (dev node : Table) :
    c.rel ((offline : NodeRegistry m).snapshot dev node) ((offline : NodeRegistry n).snapshot dev node) :=
  c.rel_bind (c.rel_pure _) fun _ => c.rel_pure _

end Corresponding

end NodeRegistry

end Allotment
