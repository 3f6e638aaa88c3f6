import Allotment.Ledger.Contract
import Allotment.Snapshot.Build

/-!
# Bound nodes from the ledger

The ledger is asked once for every account in the tables how many nodes are bound to it. This is a service to the
reader of the records only: whatever goes wrong leaves the count at zero.
-/

namespace Allotment

open Points

/-- Where counts of bound nodes come from: a ledger and the registry on it, either of which may be missing. -/
structure NodeRegistry (m : Type → Type) where
  ledger : Option (Ledger m)
  contract : Option Address

namespace NodeRegistry

variable {m : Type → Type} [Monad m]

/-- No source at all. -/
def offline : NodeRegistry m := ⟨none, none⟩

/-- The largest number of 64 bits that is not larger than the given one. -/
def clamp (n : Nat) : UInt64 :=
  if h : n < UInt64.size then UInt64.ofNatLT n h else UInt64.ofNat (UInt64.size - 1)

/-- The counts with the answer for one more account, if there is one. -/
def lookUp (ledger : Ledger m) (contract : Address) (bounds : BoundCounts) (account : Address) : m BoundCounts := do
  match ← Contract.queryBoundNodes ledger contract account with
  | .ok n => return bounds.insert account (clamp n)
  | .error _ => return bounds

/-- The counts for the accounts of two tables; the chain id is asked first to see whether anybody answers. -/
def collect (registry : NodeRegistry m) (dev node : Table) : m BoundCounts := do
  match registry.ledger, registry.contract with
  | some ledger, some contract =>
    match ← ledger .chainId with
    | .error _ => return .empty
    | .ok _ => (candidates dev node).foldlM (lookUp ledger contract) .empty
  | _, _ => return .empty

/-- The snapshot of two tables with the counts of bound nodes. -/
def snapshot (registry : NodeRegistry m) (dev node : Table) : m Snapshot := do
  return Snapshot.build dev node (← registry.collect dev node)

end NodeRegistry

end Allotment
