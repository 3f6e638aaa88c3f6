import Allotment.Proofs.Claim.Journal
import Mathlib.Data.List.Chain

/-!
# Sequence numbers

A ledger keeps the next sequence number of a signer. It may decline to name the number, and it takes or refuses each
transaction as it likes, but the number goes up just when a transaction is taken (`Counts`). Every transaction of a
run is then signed under the number of the moment (`Numbered`), so that the numbers of those taken follow each other
without gap, and one that was refused leaves its number to the next (`run_nonces`).
-/

namespace Allotment.Claim

/-! ## Attempts -/

/-- An attempt at a claim: a signed transaction and what the ledger answered to it. -/
structure Attempt where
  signed : SignedTransaction
  answer : Except LedgerError Digest

namespace Attempt

/-- Whether the ledger took the transaction. -/
def taken (a : Attempt) : Bool := a.answer.isOk

/-- What the ledger saw of an attempt. -/
def seen (a : Attempt) : Bytes × Except LedgerError Digest := (a.signed.raw, a.answer)

end Attempt

/-- Attempts that are each made under the number of the moment, which goes up when one is taken. -/
inductive Numbered : Nat → List Attempt → Nat → Prop where
  | nil (p : Nat) : Numbered p [] p
  | taken {p q : Nat} {signed : SignedTransaction} {rest : List Attempt} (hash : Digest) :
      signed.nonce = UInt64.ofNat p → Numbered (p + 1) rest q → Numbered p (⟨signed, .ok hash⟩ :: rest) q
  | refused {p q : Nat} {signed : SignedTransaction} {rest : List Attempt} (cause : LedgerError) :
      signed.nonce = UInt64.ofNat p → Numbered p rest q → Numbered p (⟨signed, .error cause⟩ :: rest) q

namespace Numbered

variable {p q r : Nat} {xs ys : List Attempt}

theorem append (first : Numbered p xs q) (second : Numbered q ys r) : Numbered p (xs ++ ys) r := by
  induction first with
  | nil => exact second
  | taken hash nonce _ ih => exact .taken hash nonce (ih second)
  | refused cause nonce _ ih => exact .refused cause nonce (ih second)

theorem le (numbered : Numbered p xs q) : p ≤ q := by
  induction numbered with
  | nil => exact Nat.le_refl _
  | taken _ _ _ ih => omega
  | refused _ _ _ ih => exact ih

theorem head {a : Attempt} (numbered : Numbered p xs q) (first : a ∈ xs.head?) :
    a.signed.nonce = UInt64.ofNat p := by
  cases numbered with
  | nil => cases first
  | taken _ nonce _ => cases first; exact nonce
  | refused _ nonce _ => cases first; exact nonce

/-- The numbers of the transactions taken follow each other. -/
theorem taken_nonces (numbered : Numbered p xs q) (fits : q < UInt64.size) :
    (xs.filter Attempt.taken).map (·.signed.nonce.toNat) = List.range' p (q - p) := by
  induction numbered with
  | nil p => rw [Nat.sub_self]; rfl
  | @taken p q signed rest hash nonce numbered ih =>
    -- What comes later does not fall below this number, so that it has room in 64 bits as the last one has.
    have := numbered.le
    have number : signed.nonce.toNat = p := by
      rw [nonce]
      exact UInt64.toNat_ofNat_of_lt (by omega)
    have steps : q - p = (q - (p + 1)) + 1 := by omega
    rw [steps, List.range'_succ, ← ih fits]
    exact congrArg (· :: _) number
  | refused _ _ _ ih => exact ih fits

/-- A refused transaction leaves its number to the next. -/
theorem refused_chain (numbered : Numbered p xs q) :
    xs.IsChain fun a b => a.taken = false → b.signed.nonce = a.signed.nonce := by
  induction numbered with
  | nil => exact .nil
  | taken hash nonce _ ih => exact ih.cons fun _ _ => nofun
  | refused cause nonce numbered ih => exact ih.cons fun _ first _ => (numbered.head first).trans nonce.symm

end Numbered

/-! ## Ledgers that count -/

variable {σ : Type} {e : Surroundings (StateM σ)}

/-- The surroundings keep the next sequence number of a sender. If they name it at all they name this one; it goes up
by one with every transaction that is taken; and it stays when one is refused and in all else that happens. -/
structure Counts (e : Surroundings (StateM σ)) (sender : Address) (pending : σ → Nat) : Prop where
  number : ∀ {w w' nonce}, e.Happens w w' (.asked (.sequenceNumber sender) (.ok nonce)) →
    nonce = UInt64.ofNat (pending w)
  taken : ∀ {w w' raw hash}, e.Happens w w' (.asked (.submit raw) (.ok hash)) → pending w' = pending w + 1
  refused : ∀ {w w' raw cause}, e.Happens w w' (.asked (.submit raw) (.error cause)) → pending w' = pending w
  other : ∀ {w w' event}, e.Happens w w' event → event.submission? = none → pending w' = pending w

/-- What was attempted during some events, with the number of the moment before and after. -/
structure Tried (s : Submitter) (reward : Reward) (events : List Event) (outcomes : List Outcome) (p : Nat)
    (attempts : List Attempt) (q : Nat) : Prop where
  seen : submissions events = attempts.map Attempt.seen
  signed : ∀ a ∈ attempts, s.signer.sign {
    chainId := s.chainId, nonce := a.signed.nonce, fees := s.fees, contract := s.contract
    input := Contract.claimReward reward.period reward.token } = .ok a.signed
  numbered : Numbered p attempts q
  counted : q = p + outcomes.countP Outcome.isSubmitted

theorem Tried.append {s : Submitter} {reward : Reward} {xs ys : List Event} {outcomes outcomes' : List Outcome}
    {p q r : Nat} {attempts attempts' : List Attempt} (first : Tried s reward xs outcomes p attempts q)
    (second : Tried s reward ys outcomes' q attempts' r) :
    Tried s reward (xs ++ ys) (outcomes ++ outcomes') p (attempts ++ attempts') r where
  seen := by rw [submissions_append, first.seen, second.seen, List.map_append]
  signed a attempt := by
    rcases List.mem_append.mp attempt with attempt | attempt
    · exact first.signed a attempt
    · exact second.signed a attempt
  numbered := first.numbered.append second.numbered
  counted := by rw [List.countP_append, second.counted, first.counted, Nat.add_assoc]

/-- Nothing is attempted where nothing is handed in. -/
theorem Counts.quiet {s : Submitter} {reward : Reward} {pending : σ → Nat} {sender : Address}
    (counts : Counts e sender pending) {w w' : σ} {events : List Event} {outcomes : List Outcome}
    (plays : e.Plays w events w') (silent : submissions events = [])
    (none : outcomes.countP Outcome.isSubmitted = 0) :
    Tried s reward events outcomes (pending w) [] (pending w') := by
  have stays : pending w' = pending w := by
    induction plays with
    | nil => rfl
    | cons happens _ ih =>
      have ⟨first, rest⟩ : _ ∧ _ := List.filterMap_eq_nil_iff.trans List.forall_mem_cons |>.mp silent
      rw [ih (List.filterMap_eq_nil_iff.mpr rest), counts.other happens first]
  exact { seen := silent, signed := nofun, numbered := stays ▸ .nil _, counted := by rw [stays, none, Nat.add_zero] }

/-- A signed call carries the sequence number that it was to be signed under. -/
theorem attach_nonce {tx : Transaction} {signature : Option Secp256k1.Signature} {signed : SignedTransaction}
    (attached : Signer.attach tx signature = .ok signed) : signed.nonce = tx.nonce := by
  cases signature with
  | none => cases attached
  | some signature => cases attached; rfl

theorem sign_nonce {signer : Signer} {tx : Transaction} {signed : SignedTransaction}
    (signing : signer.sign tx = .ok signed) : signed.nonce = tx.nonce :=
  attach_nonce signing

section Counting

variable {s : Submitter} {reward : Reward} {pending : σ → Nat} (counts : Counts e s.signer.address pending)
include counts

/-- Handing in a transaction that is signed under the pending number. -/
theorem handIn_tried {signed : SignedTransaction} {answer : Except LedgerError Digest} {w w' : σ}
    (signing : s.signer.sign {
      chainId := s.chainId, nonce := signed.nonce, fees := s.fees, contract := s.contract
      input := Contract.claimReward reward.period reward.token } = .ok signed)
    (number : signed.nonce = UInt64.ofNat (pending w))
    (submitted : e.Happens w w' (.asked (.submit signed.raw) answer)) :
    Tried s reward [.asked (.submit signed.raw) answer] [.ofAnswer answer] (pending w) [⟨signed, answer⟩]
      (pending w') where
  seen := rfl
  signed := List.forall_mem_singleton.mpr signing
  numbered := by
    cases answer with
    | ok hash =>
      rw [counts.taken submitted]
      exact .taken hash number (.nil _)
    | error cause =>
      rw [counts.refused submitted]
      exact .refused cause number (.nil _)
  counted := by
    cases answer with
    | ok hash => exact counts.taken submitted
    | error cause => exact counts.refused submitted

/-- One submission makes at most one attempt, under the number of the moment. -/
theorem Submission.tried {events : List Event} {answer : Except LedgerError Digest} {w w' : σ}
    (submission : Submission s s.signer.sign reward events answer) (plays : e.Plays w events w') :
    ∃ attempts, Tried s reward events [.ofAnswer answer] (pending w) attempts (pending w') := by
  cases submission with
  | unnumbered cause => exact ⟨[], counts.quiet plays rfl rfl⟩
  | unsigned signing => exact ⟨[], counts.quiet plays rfl rfl⟩
  | @handedIn nonce signed answer signing =>
    obtain rfl : signed.nonce = nonce := sign_nonce signing
    obtain ⟨w₁, asked, plays⟩ := plays.cons_inv
    obtain ⟨w₂, submitted, plays⟩ := plays.cons_inv
    cases plays
    have still : pending w₁ = pending w := counts.other asked rfl
    have number : signed.nonce = UInt64.ofNat (pending w₁) := by
      rw [still]
      exact counts.number asked
    have first : Tried s reward [_] [] (pending w) [] (pending w₁) := counts.quiet (.cons asked (.nil _)) rfl rfl
    exact ⟨_, first.append (handIn_tried counts signing number submitted)⟩

/-- **What a run attempts.** -/
theorem Transcript.tried {lines : List String} {events : List Event} {outcomes : List Outcome} {w w' : σ}
    (transcript : Transcript s reward lines events outcomes) (plays : e.Plays w events w') :
    ∃ attempts, Tried s reward events outcomes (pending w) attempts (pending w') := by
  have rule : Along e s reward fun w events outcomes w' =>
      ∃ attempts, Tried s reward events outcomes (pending w) attempts (pending w') := {
    append := fun ⟨_, first⟩ ⟨_, second⟩ => ⟨_, first.append second⟩
    nothing := fun w => ⟨[], counts.quiet (.nil w) rfl rfl⟩
    aside := fun quiet happens => ⟨[], counts.quiet (.cons happens (.nil _))
      (List.filterMap_cons_none (Event.submission?_of_isAside quiet)) rfl⟩
    unsubmitted := fun w outcome idle => ⟨[], counts.quiet (.nil w) rfl (countP_unsubmitted idle)⟩
    submission := fun submission plays => submission.tried counts plays }
  exact transcript.along rule plays

variable (s reward) in
/-- **The sequence numbers of a run.** Over surroundings that keep count, and whatever is granted, refused or not
answered at all, the transactions taken during a run carry the numbers from the pending one on, one after the other and
as many as there are submitted outcomes, and a refused one leaves its number to the next that is handed in. -/
theorem run_nonces (lines : List String) (w : σ) (fits : pending w + lines.length < UInt64.size) :
    ∃ (outcomes : List Outcome) (events : List Event) (w' : σ) (attempts : List Attempt),
      ((s.run e.journaled.ledger reward e.journaled.announce e.journaled.pause lines).run []).run w =
        ((outcomes, events), w') ∧
      (s.run e.ledger reward e.announce e.pause lines).run w = (outcomes, w') ∧
      submissions events = attempts.map Attempt.seen ∧
      (∀ a ∈ attempts, s.signer.sign {
        chainId := s.chainId, nonce := a.signed.nonce, fees := s.fees, contract := s.contract
        input := Contract.claimReward reward.period reward.token } = .ok a.signed) ∧
      (attempts.filter Attempt.taken).map (·.signed.nonce.toNat) =
        List.range' (pending w) (outcomes.countP Outcome.isSubmitted) ∧
      attempts.IsChain fun a b => a.taken = false → b.signed.nonce = a.signed.nonce := by
  obtain ⟨outcomes, events, w', goes, transcript⟩ := run_goes e s reward lines w
  obtain ⟨attempts, tried⟩ := transcript.tried counts goes.plays
  have wrote := goes.writes []
  have few : outcomes.countP Outcome.isSubmitted ≤ lines.length := by
    rw [← transcript.announcements_eq.1]
    exact List.countP_le_length
  have count : pending w' - pending w = outcomes.countP Outcome.isSubmitted := by
    have := tried.counted
    omega
  have small : pending w' < UInt64.size := by
    have := tried.counted
    omega
  refine ⟨outcomes, events, w', attempts, wrote, ?_, tried.seen, tried.signed, ?_, tried.numbered.refused_chain⟩
  · rw [← run_journaled e s reward lines [] w, wrote]
  · rw [tried.numbered.taken_nonces small, count]

end Counting

/-- A ledger that grants everyone five units and takes every other transaction, over the pending number and whether the
next transaction is taken; `hash` is what it answers to one it takes. -/
def fickle (hash : Bytes → Digest) : Ledger (StateM (Nat × Bool))
  | .call _ _ => return .ok (Bytes.ofNat 32 5)
  | .chainId => return .ok 31337
  | .sequenceNumber _ => return .ok (UInt64.ofNat (← get).1)
  | .submit raw => fun
    | (pending, true) => (.ok (hash raw), (pending + 1, false))
    | (pending, false) => (.error (.rpc .submit "refused"), (pending, true))

theorem fickle_counts (hash : Bytes → Digest) (sender : Address) :
    Counts (.silent (fickle hash)) sender Prod.fst where
  number happens := by cases happens; rfl
  taken {w w' raw answer} happens := by
    obtain ⟨pending, takes⟩ := w
    cases takes with
    | true => cases happens; rfl
    | false => cases happens
  refused {w w' raw cause} happens := by
    obtain ⟨pending, takes⟩ := w
    cases takes with
    | true => cases happens
    | false => cases happens; rfl
  other {w w' event} happens quiet := by
    cases event with
    | told line outcome => cases happens; rfl
    | paused => cases happens; rfl
    | asked request answer =>
      cases request with
      | call contract data => cases happens; rfl
      | chainId => cases happens; rfl
      | sequenceNumber account => cases happens; rfl
      | submit raw => cases quiet

/-- Three lines for one account, with number seven pending and the first transaction refused. -/
theorem run_nonces_fickle :
    ∃ (outcomes : List Outcome) (attempts : List Attempt),
      (((⟨⟨1, by decide, by decide⟩, ⟨Vector.replicate 20 1⟩, .standard, 31337⟩ : Submitter).run (fickle Keccak.hash)
        ⟨"2024-01", ⟨Vector.replicate 20 2⟩⟩ (fun _ _ => pure ()) (pure ())
        (List.replicate 3 "0x0000000000000000000000000000000000000003")).run (7, false)).1 = outcomes ∧
      (attempts.filter Attempt.taken).map (·.signed.nonce.toNat) =
        List.range' 7 (outcomes.countP Outcome.isSubmitted) ∧
      attempts.IsChain fun a b => a.taken = false → b.signed.nonce = a.signed.nonce := by
  obtain ⟨outcomes, _, _, attempts, _, ran, _, _, numbers, chain⟩ :=
    run_nonces ⟨⟨1, by decide, by decide⟩, ⟨Vector.replicate 20 1⟩, .standard, 31337⟩
      ⟨"2024-01", ⟨Vector.replicate 20 2⟩⟩ (fickle_counts Keccak.hash _)
      (List.replicate 3 "0x0000000000000000000000000000000000000003") (7, false) (by decide)
  exact ⟨outcomes, attempts, congrArg Prod.fst ran, numbers, chain⟩

end Allotment.Claim
