import Allotment.Hash.Keccak
import Allotment.Ledger.Basic

/-!
# Dry runs

A dry run asks the ledger everything but keeps submissions to itself. What was submitted counts as pending, so that
the sequence numbers go on as if it had been sent.
-/

namespace Allotment.Ledger

/-- The submissions that were kept back, in order. -/
abbrev Submissions := List Bytes

/-- A ledger that keeps submissions back, over one that answers everything else. -/
def dryRun {m : Type → Type} [Monad m] (inner : Ledger m) : Ledger (StateT Submissions m)
  | .submit raw => do
    modify (· ++ [raw])
    return .ok (Keccak.hash raw)
  | .sequenceNumber account => do
    let answer ← inner (.sequenceNumber account)
    let kept ← get
    return answer.map (· + UInt64.ofNat kept.length)
  | .call contract data => inner (.call contract data)
  | .chainId => inner .chainId

end Allotment.Ledger
