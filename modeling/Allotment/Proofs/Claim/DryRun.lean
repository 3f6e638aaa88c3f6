import Allotment.Ledger.DryRun
import Allotment.Proofs.Claim.Session

/-!
# Dry runs show what live runs would do

A live ledger takes whatever is submitted and counts it into its sequence number. A dry run goes over a ledger that
names the same number all along, and yet a session cannot tell the two apart: what the one keeps back is what the
other has taken (`dryRunCorrespondence`), request by request (`dryRun_rel`) and so in whole sessions
(`session_dryRun`). Where sequence numbers come to their end both go on from zero, so that no bound is needed.
-/

namespace Allotment.Claim

/-- What a ledger answers to read-only calls and to the question for the chain id. -/
structure Reads where
  call : Address → Bytes → Except LedgerError Bytes
  chainId : Except LedgerError UInt64

/-- A ledger that takes everything submitted, over the list of what it has taken. Its sequence number starts at `first`
and goes up by one for each submission. -/
def live (reads : Reads) (first : UInt64) : Ledger (StateM (List Bytes))
  | .call contract data => return reads.call contract data
  | .chainId => return reads.chainId
  | .sequenceNumber _ => return .ok (UInt64.ofNat (first.toNat + (← get).length))
  | .submit raw => do
    modify (· ++ [raw])
    return .ok (Keccak.hash raw)

/-- A ledger that answers reads as told and always names the same sequence number. Its state and what it does with
submissions are its own affair. -/
structure Stands {σ : Type} (inner : Ledger (StateM σ)) (reads : Reads) (first : UInt64) : Prop where
  call : ∀ contract data w, ((inner (.call contract data)).run w).1 = reads.call contract data
  chainId : ∀ w, ((inner .chainId).run w).1 = reads.chainId
  sequenceNumber : ∀ account w, ((inner (.sequenceNumber account)).run w).1 = .ok first

/-- A dry computation gives the result of a live one and keeps back what the live one submits. -/
def dryRunCorrespondence (σ : Type) : Correspondence (StateT Ledger.Submissions (StateM σ)) (StateM (List Bytes)) where
  rel x y := ∀ kept w, ((x.run kept).run w).1 = y.run kept
  rel_pure _ _ _ := rfl
  rel_bind {_ _ x y f g} first second kept w := by
    have run : (y >>= g).run kept = (g ((x.run kept).run w).1.1).run ((x.run kept).run w).1.2 := by
      rw [StateT.run_bind, ← first kept w]
      rfl
    rw [run]
    exact second _ _ _

section DryRun

variable {σ : Type} {inner : Ledger (StateM σ)} {reads : Reads} {first : UInt64} (stands : Stands inner reads first)
include stands

/-- Single requests correspond. The sequence number is where the two differ: one counts what it has kept on top of a
number that stays, the other lets the number itself go up. -/
theorem dryRun_rel (request : Request) :
    (dryRunCorrespondence σ).rel (inner.dryRun request) (live reads first request) := by
  intro kept w
  cases request with
  | call contract data =>
    show (((inner (.call contract data)).run w).1, kept) = (reads.call contract data, kept)
    rw [stands.call]
  | chainId =>
    show (((inner .chainId).run w).1, kept) = (reads.chainId, kept)
    rw [stands.chainId]
  | sequenceNumber account =>
    show ((((inner (.sequenceNumber account)).run w).1.map (· + UInt64.ofNat kept.length), kept) : _ × _) =
      (.ok (UInt64.ofNat (first.toNat + kept.length)), kept)
    rw [stands.sequenceNumber, UInt64.ofNat_add, UInt64.ofNat_toNat]
    rfl
  | submit raw => rfl

/-- **A dry run shows what a live run would do.** Over any ledger that stands still, a session has the result that it
would have over the live one, and keeps back just the transactions that the live one would take. -/
theorem session_dryRun (signer : Signer) (contract : Address) (fees : Fees) (chainId : Option UInt64) (reward : Reward)
    (lines : List String) (w : σ) :
    (((session (.silent inner.dryRun) signer contract fees chainId reward lines).run []).run w).1 =
      (session (.silent (live reads first)) signer contract fees chainId reward lines).run [] :=
  session_rel (dryRunCorrespondence σ) (dryRun_rel stands) (fun _ _ _ _ => rfl) (fun _ _ => rfl) signer contract fees
    chainId reward lines [] w

end DryRun

/-- A ledger that refuses all submissions and counts them, but otherwise stands still. -/
def refusing (reads : Reads) (first : UInt64) : Ledger (StateM Nat)
  | .call contract data => return reads.call contract data
  | .chainId => return reads.chainId
  | .sequenceNumber _ => return .ok first
  | .submit _ => do
    modify (· + 1)
    return .error (.rpc .submit "refused")

theorem refusing_stands (reads : Reads) (first : UInt64) : Stands (refusing reads first) reads first where
  call _ _ _ := rfl
  chainId _ := rfl
  sequenceNumber _ _ := rfl

/-- A dry run for three lines, one of them no address, where each account is granted five units. -/
theorem session_dryRun_refusing :
    (((session (.silent (refusing ⟨fun _ _ => .ok (Bytes.ofNat 32 5), .ok 31337⟩ 12).dryRun)
      ⟨1, by decide, by decide⟩ ⟨Vector.replicate 20 1⟩ .standard none ⟨"2024-01", ⟨Vector.replicate 20 2⟩⟩
      ["0x0000000000000000000000000000000000000003", "nobody", "0x0000000000000000000000000000000000000004"]).run
        []).run 0).1 =
      (session (.silent (live ⟨fun _ _ => .ok (Bytes.ofNat 32 5), .ok 31337⟩ 12))
        ⟨1, by decide, by decide⟩ ⟨Vector.replicate 20 1⟩ .standard none ⟨"2024-01", ⟨Vector.replicate 20 2⟩⟩
        ["0x0000000000000000000000000000000000000003", "nobody", "0x0000000000000000000000000000000000000004"]).run
          [] :=
  session_dryRun (refusing_stands _ 12) _ _ _ none _ _ 0

end Allotment.Claim
