import Allotment.Proofs.Claim.Nonce
import Allotment.Proofs.Ledger.DryRun
import Allotment.Proofs.Ledger.Signing

/-!
# Dry runs while the ledger moves on

A signer may be at work elsewhere while a dry run goes on, so that the ledger below names higher and higher numbers.
The dry run adds to each what it has kept back so far.

* `Raised`: transactions kept back, each numbered with what was named just before it and the count of those before;
* `Raised.pairwise_lt`: as long as the numbers named never fall, those of the transactions kept back rise;
* `Rehearses`: what a dry run keeps back, beside what happens below, holds of each submission
  (`Submission.rehearses`) and so along a whole run;
* `run_dryRun_rising`: no two transactions kept back have the same bytes, since the bytes tell the number.
-/

namespace Allotment.Claim

/-! ## Raised numbers -/

/-- Transactions that are kept back while numbers are named, `count` having been kept back before. A number may be
named in vain; a transaction kept back has the number named just before it, raised by the count. -/
inductive Raised : Nat → List UInt64 → List SignedTransaction → Prop where
  | nil (count : Nat) : Raised count [] []
  | idle {count : Nat} {numbers : List UInt64} {signed : List SignedTransaction} (number : UInt64) :
      Raised count numbers signed → Raised count (number :: numbers) signed
  | kept {count : Nat} {numbers : List UInt64} {signed : List SignedTransaction} {number : UInt64}
      {tx : SignedTransaction} : tx.nonce = number + UInt64.ofNat count → Raised (count + 1) numbers signed →
      Raised count (number :: numbers) (tx :: signed)

namespace Raised

variable {count : Nat} {numbers later : List UInt64} {signed signed' : List SignedTransaction}

theorem idles (count : Nat) (numbers : List UInt64) : Raised count numbers [] := by
  induction numbers with
  | nil => exact .nil count
  | cons number _ ih => exact .idle number ih

theorem append (first : Raised count numbers signed) (second : Raised (count + signed.length) later signed') :
    Raised count (numbers ++ later) (signed ++ signed') := by
  induction first with
  | nil => exact second
  | idle number _ ih => exact .idle number (ih second)
  | @kept count _ signed _ _ nonce _ ih =>
    rw [List.length_cons, Nat.add_comm signed.length, ← Nat.add_assoc] at second
    exact .kept nonce (ih second)

/-- With room in 64 bits a raised number is the sum, and there is room left for the numbers named later. -/
theorem room_of_kept {number : UInt64} {tx : SignedTransaction} (nonce : tx.nonce = number + UInt64.ofNat count)
    (room : ∀ n ∈ number :: numbers, n.toNat + (count + (tx :: signed).length) < UInt64.size) :
    tx.nonce.toNat = number.toNat + count ∧ ∀ n ∈ numbers, n.toNat + (count + 1 + signed.length) < UInt64.size := by
  rw [List.length_cons, Nat.add_comm signed.length, ← Nat.add_assoc] at room
  obtain ⟨fits, room⟩ := List.forall_mem_cons.mp room
  refine ⟨?_, room⟩
  rw [nonce]
  exact Ledger.toNat_add_ofNat (by omega)

/-- Where all numbers named have a common bound, those of the transactions kept back are above it by the count. -/
theorem bounded {least : Nat} (raised : Raised count numbers signed) (high : ∀ n ∈ numbers, least ≤ n.toNat)
    (room : ∀ n ∈ numbers, n.toNat + (count + signed.length) < UInt64.size) :
    ∀ tx ∈ signed, least + count ≤ tx.nonce.toNat := by
  -- The bound stays as the list goes on, while the count goes up with each transaction.
  induction raised with
  | nil => exact nofun
  | idle number _ ih => exact ih (List.forall_mem_cons.mp high).2 (List.forall_mem_cons.mp room).2
  | @kept count numbers signed number tx nonce _ ih =>
    obtain ⟨least_le, high⟩ := List.forall_mem_cons.mp high
    obtain ⟨raised, room⟩ := room_of_kept nonce room
    refine List.forall_mem_cons.mpr ⟨by omega, fun tx' mem => ?_⟩
    have := ih high room tx' mem
    omega

/-- **Numbers that never fall make the numbers of the transactions kept back rise.** -/
theorem pairwise_lt (raised : Raised count numbers signed) (rising : numbers.Pairwise (· ≤ ·))
    (room : ∀ n ∈ numbers, n.toNat + (count + signed.length) < UInt64.size) :
    (signed.map (·.nonce)).Pairwise (· < ·) := by
  induction raised with
  | nil => exact .nil
  | idle number _ ih => exact ih rising.of_cons (List.forall_mem_cons.mp room).2
  | @kept count numbers signed number tx nonce later ih =>
    obtain ⟨least, rising⟩ := List.pairwise_cons.mp rising
    obtain ⟨raised, room⟩ := room_of_kept nonce room
    refine List.pairwise_cons.mpr ⟨List.forall_mem_map.mpr fun tx' mem => ?_, ih rising room⟩
    -- What is kept back later counts this one as well.
    have higher := later.bounded (fun n mem => UInt64.le_iff_toNat_le.mp (least n mem)) room tx' mem
    show tx.nonce < tx'.nonce
    rw [UInt64.lt_iff_toNat_lt]
    omega

end Raised

/-! ## Two layers of state as one -/

/-- How far a dry run has come: what was kept back, the journal of what happened below, and the state below. -/
structure Stage (σ : Type) where
  kept : Ledger.Submissions
  below : List Event
  inner : σ

variable {σ : Type}

/-- A dry computation that keeps a journal below, as one on stages. -/
def staged {α : Type} (act : StateT Ledger.Submissions (Journaled σ) α) : StateM (Stage σ) α := fun stage =>
  let result := ((act.run stage.kept).run stage.below).run stage.inner
  (result.1.1.1, ⟨result.1.1.2, result.1.2, result.2⟩)

theorem run_of_staged {α : Type} {act : StateT Ledger.Submissions (Journaled σ) α} {stage stage' : Stage σ} {a : α}
    (ran : staged act stage = (a, stage')) :
    ((act.run stage.kept).run stage.below).run stage.inner = (((a, stage'.kept), stage'.below), stage'.inner) := by
  obtain ⟨rfl, rfl⟩ := Prod.mk.inj ran
  rfl

/-- Taking both layers as one goes along with sequencing. -/
def stageCorrespondence (σ : Type) :
    Correspondence (StateM (Stage σ)) (StateT Ledger.Submissions (Journaled σ)) :=
  .along staged (fun _ => rfl) (fun _ _ => rfl)

namespace Surroundings

/-- The surroundings of a dry run: submissions are kept back, all else goes on to the surroundings below. -/
def dryRun {m : Type → Type} [Monad m] (e : Surroundings m) : Surroundings (StateT Ledger.Submissions m) where
  ledger := e.ledger.dryRun
  announce line outcome := liftM (e.announce line outcome)
  pause := liftM e.pause

/-- The surroundings of a dry run with a journal below, over stages. -/
def rehearsed (e : Surroundings (StateM σ)) : Surroundings (StateM (Stage σ)) where
  ledger request := staged (e.journaled.dryRun.ledger request)
  announce line outcome := staged (e.journaled.dryRun.announce line outcome)
  pause := staged e.journaled.dryRun.pause

end Surroundings

theorem run_rehearsed (e : Surroundings (StateM σ)) (s : Submitter) (reward : Reward) (lines : List String) :
    s.run e.rehearsed.ledger reward e.rehearsed.announce e.rehearsed.pause lines =
      staged (s.run e.journaled.dryRun.ledger reward e.journaled.dryRun.announce e.journaled.dryRun.pause lines) := by
  have asks : ∀ request,
      (stageCorrespondence σ).rel (e.rehearsed.ledger request) (e.journaled.dryRun.ledger request) := fun _ => rfl
  exact run_rel (stageCorrespondence σ) asks (fun _ _ => rfl) rfl s reward lines

/-! ## A journal below -/

section Lifting

variable {m n : Type → Type} [Monad m] [Monad n] (c : Correspondence m n)

/-- Dry runs over computations that correspond. -/
theorem Correspondence.dryRun_rel {ledger : Ledger m} {ledger' : Ledger n}
    (asks : ∀ request, c.rel (ledger request) (ledger' request)) (request : Request) :
    (c.stateT Ledger.Submissions).rel (ledger.dryRun request) (ledger'.dryRun request) := by
  cases request with
  | call contract data => exact c.lift_stateT (asks _)
  | chainId => exact c.lift_stateT (asks _)
  | sequenceNumber account =>
    refine (c.stateT _).rel_bind (c.lift_stateT (asks _)) fun answer => ?_
    exact (c.stateT _).rel_bind (fun kept => c.rel_pure (kept, kept)) fun kept => (c.stateT _).rel_pure _
  | submit raw =>
    exact (c.stateT _).rel_bind (fun kept => c.rel_pure ((), kept ++ [raw])) fun _ => (c.stateT _).rel_pure _

end Lifting

/-- A journal of what happens below changes nothing in a dry run. -/
theorem run_dryRun_journaled (e : Surroundings (StateM σ)) (s : Submitter) (reward : Reward) (lines : List String) :
    ((journalCorrespondence σ).stateT Ledger.Submissions).rel
      (s.run e.journaled.dryRun.ledger reward e.journaled.dryRun.announce e.journaled.dryRun.pause lines)
      (s.run e.dryRun.ledger reward e.dryRun.announce e.dryRun.pause lines) :=
  run_rel _ ((journalCorrespondence σ).dryRun_rel fun _ => noting_rel _ _)
    (fun _ _ => (journalCorrespondence σ).lift_stateT (noting_rel _ _))
    ((journalCorrespondence σ).lift_stateT (noting_rel _ _)) s reward lines

/-! ## What a dry run keeps back -/

/-- The number that an event names for a sender. -/
def Event.named? (sender : Address) : Event → Option UInt64
  | .asked (.sequenceNumber account) (.ok number) => if account = sender then some number else none
  | _ => none

/-- The numbers that were named for a sender, in order. -/
def named (sender : Address) (events : List Event) : List UInt64 := events.filterMap (Event.named? sender)

theorem named_append (sender : Address) (xs ys : List Event) :
    named sender (xs ++ ys) = named sender xs ++ named sender ys :=
  List.filterMap_append

/-- As this is about any sender, nothing sets out to compute the address of a signer. -/
theorem named_own (sender : Address) (number : UInt64) :
    named sender [.asked (.sequenceNumber sender) (.ok number)] = [number] :=
  List.filterMap_cons_some (if_pos rfl)

section Rehearsing

variable {e : Surroundings (StateM σ)} {stage stage' stage'' : Stage σ}

/-- A read goes on to the surroundings below. -/
theorem rehearsed_read {request : Request} {answer : request.Answer} (read : request.isRead)
    (happens : e.rehearsed.Happens stage stage' (.asked request answer)) :
    ∃ found inner, e.Happens stage.inner inner (.asked request found) ∧
      answer = Ledger.fromBelow stage.kept.length request found ∧
      stage' = ⟨stage.kept, stage.below ++ [.asked request found], inner⟩ := by
  cases request with
  | submit raw => cases read
  | _ =>
    obtain ⟨rfl, rfl⟩ := Prod.mk.inj happens
    exact ⟨_, _, rfl, rfl, rfl⟩

/-- A submission is kept back, and nothing happens below. -/
theorem rehearsed_submit {raw : Bytes} {answer : Except LedgerError Digest}
    (happens : e.rehearsed.Happens stage stage' (.asked (.submit raw) answer)) :
    answer = .ok (Keccak.hash raw) ∧ stage' = { stage with kept := stage.kept ++ [raw] } := by
  obtain ⟨rfl, rfl⟩ := Prod.mk.inj happens
  exact ⟨rfl, rfl⟩

/-- What is kept back between two stages of a dry run, and what happens below meanwhile. -/
structure Rehearses (e : Surroundings (StateM σ)) (s : Submitter) (reward : Reward) (stage : Stage σ)
    (outcomes : List Outcome) (events : List Event) (signed : List SignedTransaction) (stage' : Stage σ) : Prop where
  kept : stage'.kept = stage.kept ++ signed.map (·.raw)
  below : stage'.below = stage.below ++ events
  plays : e.Plays stage.inner events stage'.inner
  signs : ∀ tx ∈ signed, s.signer.sign {
    chainId := s.chainId, nonce := tx.nonce, fees := s.fees, contract := s.contract
    input := Contract.claimReward reward.period reward.token } = .ok tx
  raised : Raised stage.kept.length (named s.signer.address events) signed
  counted : signed.length = outcomes.countP Outcome.isSubmitted

namespace Rehearses

variable {s : Submitter} {reward : Reward} {outcomes outcomes' : List Outcome} {events xs ys : List Event}
  {signed signed' : List SignedTransaction}

theorem append (first : Rehearses e s reward stage outcomes xs signed stage')
    (second : Rehearses e s reward stage' outcomes' ys signed' stage'') :
    Rehearses e s reward stage (outcomes ++ outcomes') (xs ++ ys) (signed ++ signed') stage'' where
  kept := by rw [second.kept, first.kept, List.map_append, List.append_assoc]
  below := by rw [second.below, first.below, List.append_assoc]
  plays := first.plays.append second.plays
  signs := List.forall_mem_append.mpr ⟨first.signs, second.signs⟩
  raised := by
    have later := second.raised
    rw [first.kept, List.length_append, List.length_map] at later
    rw [named_append]
    exact first.raised.append later
  counted := by rw [List.length_append, List.countP_append, first.counted, second.counted]

/-- Nothing is kept back by what goes on below. -/
theorem idle {inner : σ} (plays : e.Plays stage.inner events inner)
    (quiet : outcomes.countP Outcome.isSubmitted = 0) :
    Rehearses e s reward stage outcomes events [] ⟨stage.kept, stage.below ++ events, inner⟩ where
  kept := (List.append_nil _).symm
  below := rfl
  plays := plays
  signs := nofun
  raised := .idles _ _
  counted := quiet.symm

/-- Nothing is kept back where nothing happens. -/
theorem still (stage : Stage σ) (quiet : outcomes.countP Outcome.isSubmitted = 0) :
    Rehearses e s reward stage outcomes [] [] stage := by
  have whole : Rehearses e s reward stage outcomes [] [] ⟨stage.kept, stage.below ++ [], stage.inner⟩ :=
    idle (.nil _) quiet
  rwa [List.append_nil] at whole

/-- Reads, announcements and pauses keep nothing back. -/
theorem aside {event : Event} (aside : event.isAside = true) (happens : e.rehearsed.Happens stage stage' event) :
    ∃ events, Rehearses e s reward stage [] events [] stage' := by
  cases event with
  | told | paused =>
    obtain rfl := (Prod.mk.inj happens).2
    exact ⟨_, idle (.cons rfl (.nil _)) rfl⟩
  | asked request answer =>
    have read : request.isRead := by
      cases request with
      | submit raw => cases aside
      | _ => rfl
    obtain ⟨found, inner, asked, -, rfl⟩ := rehearsed_read read happens
    exact ⟨_, idle (.cons asked (.nil _)) rfl⟩

end Rehearses

variable {s : Submitter} {reward : Reward}

/-- One submission keeps back at most one transaction, under a raised number. -/
theorem Submission.rehearses {events : List Event} {answer : Except LedgerError Digest}
    (submission : Submission s s.signer.sign reward events answer) (plays : e.rehearsed.Plays stage events stage') :
    ∃ below signed, Rehearses e s reward stage [.ofAnswer answer] below signed stage' := by
  cases submission with
  | unnumbered | unsigned =>
    obtain ⟨_, happens, ends⟩ := plays.cons_inv
    cases ends
    obtain ⟨found, inner, asked, -, rfl⟩ := rehearsed_read rfl happens
    exact ⟨_, [], .idle (.cons asked (.nil _)) rfl⟩
  | @handedIn nonce tx answer signing =>
    obtain rfl : tx.nonce = nonce := sign_nonce signing
    obtain ⟨_, happens, plays⟩ := plays.cons_inv
    obtain ⟨_, submitted, ends⟩ := plays.cons_inv
    cases ends
    obtain ⟨found, inner, asked, raised, rfl⟩ := rehearsed_read rfl happens
    obtain ⟨rfl, rfl⟩ := rehearsed_submit submitted
    -- The answer that was signed under is the one from below, raised; it cannot have come from an error.
    cases found with
    | error cause => cases raised
    | ok number =>
      have raised : tx.nonce = number + UInt64.ofNat stage.kept.length := Except.ok.inj raised
      refine ⟨[.asked (.sequenceNumber s.signer.address) (.ok number)], [tx], {
        kept := rfl
        below := rfl
        plays := .cons asked (.nil _)
        signs := List.forall_mem_singleton.mpr signing
        raised := ?_
        counted := rfl }⟩
      rw [named_own]
      exact .kept raised (.nil _)

theorem rehearses_along (e : Surroundings (StateM σ)) (s : Submitter) (reward : Reward) :
    Along e.rehearsed s reward fun stage _ outcomes stage' =>
      ∃ below signed, Rehearses e s reward stage outcomes below signed stage' where
  append := fun ⟨_, _, first⟩ ⟨_, _, second⟩ => ⟨_, _, first.append second⟩
  nothing stage := ⟨[], [], .still stage rfl⟩
  aside aside happens :=
    have ⟨_, rehearses⟩ := Rehearses.aside aside happens
    ⟨_, _, rehearses⟩
  unsubmitted stage _ quiet := ⟨[], [], .still stage (countP_unsubmitted quiet)⟩
  submission submission plays := submission.rehearses plays

/-- Signed transactions with different numbers have different bytes. -/
theorem nodup_raw {signed : List SignedTransaction} {input : Bytes} (signs : ∀ tx ∈ signed, s.signer.sign {
      chainId := s.chainId, nonce := tx.nonce, fees := s.fees, contract := s.contract, input } = .ok tx)
    (rising : (signed.map (·.nonce)).Pairwise (· < ·)) : (signed.map (·.raw)).Nodup := by
  rw [List.pairwise_map] at rising
  refine List.pairwise_map.mpr (rising.imp_of_mem fun {tx tx'} mem mem' less same => ?_)
  have alike : tx.nonce = tx'.nonce := Signer.nonce_of_raw (signs tx mem) (signs tx' mem') same
  rw [alike] at less
  exact UInt64.lt_irrefl _ less

end Rehearsing

/-- **A dry run over a ledger that moves on keeps back different transactions.** Whatever happens below while a dry run
goes on, it keeps back one transaction for each submitted outcome. If the numbers that are named below for the signer
never fall, and each of them has room for the lines, then the transactions kept back have rising numbers and no two of
them have the same bytes. -/
theorem run_dryRun_rising (e : Surroundings (StateM σ)) (s : Submitter) (reward : Reward) (lines : List String)
    (w : σ) :
    ∃ (outcomes : List Outcome) (kept : Ledger.Submissions) (events : List Event) (w' : σ),
      (((s.run e.journaled.dryRun.ledger reward e.journaled.dryRun.announce e.journaled.dryRun.pause
        lines).run []).run []).run w = (((outcomes, kept), events), w') ∧
      ((s.run e.dryRun.ledger reward e.dryRun.announce e.dryRun.pause lines).run []).run w = ((outcomes, kept), w') ∧
      e.Plays w events w' ∧
      kept.length = outcomes.countP Outcome.isSubmitted ∧
      ((named s.signer.address events).IsChain (· ≤ ·) →
        (∀ n ∈ named s.signer.address events, n.toNat + lines.length < UInt64.size) →
        ∃ signed : List SignedTransaction, kept = signed.map (·.raw) ∧
          (∀ tx ∈ signed, s.signer.sign {
            chainId := s.chainId, nonce := tx.nonce, fees := s.fees, contract := s.contract
            input := Contract.claimReward reward.period reward.token } = .ok tx) ∧
          (signed.map (·.nonce)).Pairwise (· < ·) ∧ kept.Nodup) := by
  obtain ⟨outcomes, events, stage, goes, transcript⟩ := run_goes e.rehearsed s reward lines ⟨[], [], w⟩
  obtain ⟨below, signed, rehearses⟩ := transcript.along (rehearses_along e s reward) goes.plays
  have kept : stage.kept = signed.map (·.raw) := rehearses.kept
  -- The transcript is one of a run on stages; taken apart again it is the dry run with its journal below.
  have ran := run_journaled e.rehearsed s reward lines [] ⟨[], [], w⟩
  rw [goes.writes [], run_rehearsed] at ran
  have ran := run_of_staged ran.symm
  rw [show stage.below = below from rehearses.below] at ran
  have few : signed.length ≤ lines.length := by
    rw [rehearses.counted, ← transcript.announcements_eq.1]
    exact List.countP_le_length
  refine ⟨outcomes, stage.kept, below, stage.inner, ran, ?_, rehearses.plays, ?_, fun rising room => ?_⟩
  · rw [← run_dryRun_journaled e s reward lines [] [] w, ran]
  · rw [kept, List.length_map, rehearses.counted]
  · have numbers : (signed.map (·.nonce)).Pairwise (· < ·) :=
      rehearses.raised.pairwise_lt (List.isChain_iff_pairwise.mp rising) fun n mem => by
        have := room n mem
        rw [List.length_nil, Nat.zero_add]
        omega
    exact ⟨signed, kept, rehearses.signs, numbers, kept ▸ nodup_raw rehearses.signs numbers⟩

/-- A ledger that grants everyone five units and refuses all transactions, over the sequence numbers that it has left to
name, with errors among them. -/
def scripted : Ledger (StateM (List (Except LedgerError UInt64)))
  | .call _ _ => return .ok (Bytes.ofNat 32 5)
  | .chainId => return .ok 31337
  | .sequenceNumber _ => fun
    | [] => (.error (.rpc .sequenceNumber "no more"), [])
    | answer :: answers => (answer, answers)
  | .submit _ => return .error (.rpc .submit "refused")

/-- What is named is among what there was to name, in its order. -/
theorem scripted_named (sender : Address) {events : List Event} {w w' : List (Except LedgerError UInt64)}
    (plays : (Surroundings.silent scripted).Plays w events w') :
    (named sender events).Sublist (w.filterMap Except.toOption) := by
  induction plays with
  | nil => exact List.nil_sublist _
  | @cons w w' _ event events happens _ ih =>
    cases event with
    | told | paused =>
      obtain rfl := (Prod.mk.inj happens).2
      exact ih
    | asked request answer =>
      cases request with
      | call | chainId | submit =>
        obtain rfl := (Prod.mk.inj happens).2
        exact ih
      | sequenceNumber account =>
        cases w with
        | nil =>
          obtain ⟨rfl, rfl⟩ := Prod.mk.inj happens
          exact ih
        | cons found later =>
          obtain ⟨rfl, rfl⟩ := Prod.mk.inj happens
          cases found with
          | error cause => exact ih
          | ok number =>
            show (named sender ([.asked (.sequenceNumber account) (.ok number)] ++ events)).Sublist
              (number :: later.filterMap Except.toOption)
            rw [named_append]
            by_cases own : account = sender
            · subst own
              rw [named_own]
              exact ih.cons_cons number
            · have other : named sender [.asked (.sequenceNumber account) (.ok number)] = [] :=
                List.filterMap_cons_none (if_neg own)
              rw [other]
              exact ih.cons number

/-- Five lines for one account. The numbers named are seven twice, then nothing, then nine and again nine. -/
theorem run_dryRun_rising_scripted :
    ∃ (outcomes : List Outcome) (signed : List SignedTransaction) (w : List (Except LedgerError UInt64)),
      (((⟨⟨1, by decide, by decide⟩, ⟨Vector.replicate 20 1⟩, .standard, 31337⟩ : Submitter).run
        (Surroundings.silent scripted).dryRun.ledger ⟨"2024-01", ⟨Vector.replicate 20 2⟩⟩
        (Surroundings.silent scripted).dryRun.announce (Surroundings.silent scripted).dryRun.pause
        (List.replicate 5 "0x0000000000000000000000000000000000000003")).run []).run
          [.ok 7, .ok 7, .error (.rpc .sequenceNumber "busy"), .ok 9, .ok 9] =
        ((outcomes, signed.map (·.raw)), w) ∧
      signed.length = outcomes.countP Outcome.isSubmitted ∧
      (signed.map (·.nonce)).Pairwise (· < ·) ∧ (signed.map (·.raw)).Nodup := by
  obtain ⟨outcomes, kept, events, w, _, ran, plays, counted, rising⟩ :=
    run_dryRun_rising (.silent scripted) ⟨⟨1, by decide, by decide⟩, ⟨Vector.replicate 20 1⟩, .standard, 31337⟩
      ⟨"2024-01", ⟨Vector.replicate 20 2⟩⟩ (List.replicate 5 "0x0000000000000000000000000000000000000003")
      [.ok 7, .ok 7, .error (.rpc .sequenceNumber "busy"), .ok 9, .ok 9]
  have among := scripted_named (Submitter.signer ⟨⟨1, by decide, by decide⟩, ⟨Vector.replicate 20 1⟩, .standard,
    31337⟩).address plays
  have numbers : ([.ok 7, .ok 7, .error (.rpc .sequenceNumber "busy"), .ok 9, .ok 9] :
      List (Except LedgerError UInt64)).filterMap Except.toOption = [7, 7, 9, 9] := rfl
  rw [numbers] at among
  have chain : ([7, 7, 9, 9] : List UInt64).Pairwise (· ≤ ·) := by decide
  have room : ∀ n ∈ ([7, 7, 9, 9] : List UInt64), n.toNat + 5 < UInt64.size := by simp [UInt64.size]
  obtain ⟨signed, rfl, _, numbered, distinct⟩ := rising (chain.sublist among).isChain
    fun n mem => room n (among.subset mem)
  rw [List.length_map] at counted
  exact ⟨outcomes, signed, w, ran, counted, numbered, distinct⟩

end Allotment.Claim
