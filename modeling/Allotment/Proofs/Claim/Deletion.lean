import Allotment.Proofs.Claim.Journal
import Allotment.Proofs.Ledger.DryRun

/-!
# Lines that may as well be deleted

A line that leaves no trace can be taken out of a list without anyone noticing: what the other lines come to, what is
asked for them and where the ledger ends up stay as they are.

* `Traceless`: where a line is to be dropped, dealing with it leaves everything as it was;
* `run_remaining`, `session_remaining`: traceless lines can be dropped, all at once;
* `malformed_traceless`: a line that is no address leaves no trace, whatever the ledger is like;
* `idle_traceless`: where calls are answered by a rule, a line for which nothing is handed in leaves none either;
* `session_without_idle`: so both kinds of lines can be deleted, also from a dry run.
-/

namespace Allotment

/-- Calls are answered by a rule, and nothing else comes of them. -/
def Ledger.FixedCalls {m : Type → Type} [Monad m] (ledger : Ledger m)
    (answer : Address → Bytes → Except LedgerError Bytes) : Prop :=
  ∀ contract data, ledger (.call contract data) = pure (answer contract data)

namespace Claim

/-! ## Lines without a trace -/

/-- The lines that remain when some are dropped, with their outcomes. -/
def remaining (drops : String → Outcome → Bool) (lines : List String) (outcomes : List Outcome) :
    List (String × Outcome) :=
  (lines.zip outcomes).filter fun p => !drops p.1 p.2

theorem remaining_cons_drop {drops : String → Outcome → Bool} {line : String} {outcome : Outcome}
    (dropped : drops line outcome = true) (lines : List String) (outcomes : List Outcome) :
    remaining drops (line :: lines) (outcome :: outcomes) = remaining drops lines outcomes := by
  simp [remaining, dropped]

theorem remaining_cons_keep {drops : String → Outcome → Bool} {line : String} {outcome : Outcome}
    (kept : drops line outcome = false) (lines : List String) (outcomes : List Outcome) :
    remaining drops (line :: lines) (outcome :: outcomes) = (line, outcome) :: remaining drops lines outcomes := by
  simp [remaining, kept]

section Runs

variable {κ σ : Type} {ledger : Ledger (StateT κ (StateM σ))} {drops : String → Outcome → Bool}

/-- A run of lines where no one is told and no time passes. -/
abbrev Submitter.quietly (s : Submitter) (ledger : Ledger (StateT κ (StateM σ))) (reward : Reward)
    (lines : List String) : StateT κ (StateM σ) (List Outcome) :=
  s.run ledger reward (Surroundings.silent ledger).announce (Surroundings.silent ledger).pause lines

/-- A line that is to be dropped for its outcome leaves everything as it was. -/
def Traceless (ledger : Ledger (StateT κ (StateM σ))) (s : Submitter) (reward : Reward)
    (drops : String → Outcome → Bool) : Prop :=
  ∀ {line : String} {outcome : Outcome} {k k' : κ} {w w' : σ},
    ((s.process ledger reward line).run k).run w = ((outcome, k'), w') → drops line outcome = true → k' = k ∧ w' = w

/-- A computation goes on from where its first step has left it. -/
theorem run_bind_of {α β : Type} {x : StateT κ (StateM σ) α} {f : α → StateT κ (StateM σ) β} {a : α} {k k₁ : κ}
    {w w₁ : σ} (first : (x.run k).run w = ((a, k₁), w₁)) :
    ((x >>= f).run k).run w = ((f a).run k₁).run w₁ := by
  rw [StateT.run_bind, StateT.run_bind, first]
  rfl

/-- One more line in front. -/
theorem quietly_cons {s : Submitter} {reward : Reward} {line : String} {lines : List String} {outcome : Outcome}
    {outcomes : List Outcome} {k k₁ k' : κ} {w w₁ w' : σ}
    (first : ((s.process ledger reward line).run k).run w = ((outcome, k₁), w₁))
    (others : ((s.quietly ledger reward lines).run k₁).run w₁ = ((outcomes, k'), w')) :
    ((s.quietly ledger reward (line :: lines)).run k).run w = ((outcome :: outcomes, k'), w') := by
  have unfolded : s.quietly ledger reward (line :: lines) = (do
      let outcome ← s.process ledger reward line
      let outcomes ← s.quietly ledger reward lines
      return outcome :: outcomes) := by
    simp [Submitter.quietly, Submitter.run, Surroundings.silent]
  rw [unfolded, run_bind_of first, run_bind_of others]
  rfl

/-- **Traceless lines can be dropped from a run.** -/
theorem run_remaining {s : Submitter} {reward : Reward} (traceless : Traceless ledger s reward drops)
    (lines : List String) (k : κ) (w : σ) :
    ∃ outcomes k' w', ((s.quietly ledger reward lines).run k).run w = ((outcomes, k'), w') ∧
      outcomes.length = lines.length ∧
      ((s.quietly ledger reward ((remaining drops lines outcomes).map Prod.fst)).run k).run w =
        (((remaining drops lines outcomes).map Prod.snd, k'), w') := by
  induction lines generalizing k w with
  | nil => exact ⟨[], k, w, rfl, rfl, rfl⟩
  | cons line lines ih =>
    obtain ⟨⟨⟨outcome, k₁⟩, w₁⟩, first⟩ : ∃ made, ((s.process ledger reward line).run k).run w = made := ⟨_, rfl⟩
    obtain ⟨outcomes, k', w', others, sameLength, without⟩ := ih k₁ w₁
    refine ⟨outcome :: outcomes, k', w', quietly_cons first others, by simp [sameLength], ?_⟩
    cases dropped : drops line outcome with
    | true =>
      -- The line has left no trace, so that the others start from where it started.
      obtain ⟨rfl, rfl⟩ := traceless first dropped
      rw [remaining_cons_drop dropped]
      exact without
    | false =>
      rw [remaining_cons_keep dropped]
      exact quietly_cons first without

/-- Whoever submits claims was bound as told. -/
theorem eq_of_connect {signer : Signer} {contract : Address} {fees : Fees} {chainId : Option UInt64} {s : Submitter}
    {k k' : κ} {w w' : σ}
    (connected : ((Submitter.connect ledger signer contract fees chainId).run k).run w = ((.ok s, k'), w')) :
    ∃ id, s = ⟨signer, contract, fees, id⟩ := by
  cases chainId with
  | some id =>
    cases connected
    exact ⟨id, rfl⟩
  | none =>
    obtain ⟨⟨⟨answer, k₁⟩, w₁⟩, asked⟩ : ∃ made, ((ledger .chainId).run k).run w = made := ⟨_, rfl⟩
    rw [Submitter.connect, run_bind_of asked] at connected
    cases answer with
    | ok id =>
      cases connected
      exact ⟨id, rfl⟩
    | error cause => cases connected

/-- **Traceless lines can be dropped from a session**; one that does not get under way fails with any lines. -/
theorem session_remaining {signer : Signer} {contract : Address} (fees : Fees) {reward : Reward}
    (traceless : ∀ id, Traceless ledger ⟨signer, contract, fees, id⟩ reward drops) (chainId : Option UInt64)
    (lines : List String) (k : κ) (w : σ) :
    ∃ result k' w',
      ((session (.silent ledger) signer contract fees chainId reward lines).run k).run w = ((result, k'), w') ∧
      match result with
      | .error cause => ∀ others,
        ((session (.silent ledger) signer contract fees chainId reward others).run k).run w = ((.error cause, k'), w')
      | .ok outcomes => outcomes.length = lines.length ∧
        ((session (.silent ledger) signer contract fees chainId reward
          ((remaining drops lines outcomes).map Prod.fst)).run k).run w =
            ((.ok ((remaining drops lines outcomes).map Prod.snd), k'), w') := by
  obtain ⟨⟨⟨bound, k₁⟩, w₁⟩, connected⟩ :
      ∃ made, ((Submitter.connect ledger signer contract fees chainId).run k).run w = made := ⟨_, rfl⟩
  cases bound with
  | error cause =>
    exact ⟨.error cause, k₁, w₁, run_bind_of connected, fun others => run_bind_of connected⟩
  | ok s =>
    obtain ⟨id, rfl⟩ := eq_of_connect connected
    obtain ⟨outcomes, k', w', ran, sameLength, without⟩ := run_remaining (traceless id) lines k₁ w₁
    refine ⟨.ok outcomes, k', w', ?_, sameLength, ?_⟩
    · exact (run_bind_of connected).trans (run_bind_of ran)
    · exact (run_bind_of connected).trans (run_bind_of without)

end Runs

/-! ## Lines that are no address -/

/-- Whether a line names an account. -/
def isAccount (line : String) : Bool := (Address.parse? line).isSome

theorem malformed_traceless {κ σ : Type} (ledger : Ledger (StateT κ (StateM σ))) (s : Submitter) (reward : Reward) :
    Traceless ledger s reward fun line _ => !isAccount line := by
  intro line outcome k k' w w' processed malformed
  have none : Address.parse? line = none := by simpa [isAccount] using malformed
  rw [Submitter.process, none] at processed
  cases processed
  exact ⟨rfl, rfl⟩

/-- What is dropped for the line alone can be dropped before the run. -/
theorem remaining_of_line (keeps : String → Bool) {lines : List String} {outcomes : List Outcome}
    (sameLength : outcomes.length = lines.length) :
    (remaining (fun line _ => !keeps line) lines outcomes).map Prod.fst = lines.filter keeps := by
  induction lines generalizing outcomes with
  | nil => rfl
  | cons line lines ih =>
    cases outcomes with
    | nil => simp at sameLength
    | cons outcome outcomes =>
      have sameTail : outcomes.length = lines.length := by simpa using sameLength
      have ih := ih sameTail
      cases kept : keeps line with
      | true => rw [remaining_cons_keep (by simp [kept]), List.map_cons, ih, List.filter_cons_of_pos kept]
      | false => rw [remaining_cons_drop (by simp [kept]), ih, List.filter_cons_of_neg (by simp [kept])]

/-! ## Lines for which nothing is handed in -/

/-- The outcomes of lines for which nothing is handed in. -/
def Outcome.idle (outcome : Outcome) : Bool :=
  outcome = .invalidAddress || outcome = .skipped .queryFailed || outcome = .skipped .zeroEntitlement

theorem head?_append {text : String} {c : Char} (first : text.toList.head? = some c) (rest : String) :
    (text ++ rest).toList.head? = some c := by
  rw [String.toList_append, List.head?_append, first]
  rfl

/-- No error of the ledger reads like the outcome of a line that is no address. -/
theorem message_ne_invalidAddress (e : LedgerError) : e.message ≠ "invalid-address" := by
  intro same
  have letter : e.message.toList.head? = some 'i' := by
    rw [same]
    decide
  unfold LedgerError.message at same letter
  cases e with
  | rpc method reason =>
    have first := head?_append (head?_append (head?_append (by decide : "rpc ".toList.head? = some 'r') method.name)
      " failed: ") reason
    exact absurd (first.symm.trans letter) (by decide)
  | shortReply function =>
    have first := head?_append (head?_append (by decide : "failed to decode ".toList.head? = some 'f') function)
      ": ABI decoding failed: buffer overrun while deserializing"
    exact absurd (first.symm.trans letter) (by decide)
  | invalidEndpoint reason =>
    -- Both begin with the same letters; the first that is another one is the eighth.
    have first := congrArg (fun text => text.toList.take 8) same
    rw [String.toList_append, List.take_append_of_le_length (by decide)] at first
    exact absurd first (by decide)
  | invalidKey => exact absurd same (by decide)
  | unsigned => exact absurd same (by decide)

theorem idle_ofAnswer (answer : Except LedgerError Digest) : (Outcome.ofAnswer answer).idle = false := by
  cases answer with
  | ok hash => simp [Outcome.ofAnswer, Outcome.idle, Outcome.invalidAddress]
  | error e => simp [Outcome.ofAnswer, Outcome.idle, Outcome.invalidAddress, message_ne_invalidAddress e]

section Idle

variable {κ σ : Type} {ledger : Ledger (StateT κ (StateM σ))} {answer : Address → Bytes → Except LedgerError Bytes}

/-- What a line is entitled to is settled by the rule. -/
theorem entitlement_of_fixed (fixed : ledger.FixedCalls answer) (s : Submitter) (reward : Reward) (account : Address) :
    s.entitlement ledger reward account =
      pure (entitlementOf (answer s.contract (Contract.claimable reward.period reward.token account))) := by
  rw [Submitter.entitlement, Contract.queryClaimable, Contract.query, fixed, pure_bind]
  cases answer s.contract (Contract.claimable reward.period reward.token account) with
  | error e => rfl
  | ok reply =>
    dsimp only [entitlementOf]
    cases Contract.firstWord? reply with
    | none => rfl
    | some amount => rfl

/-- **Where calls are answered by a rule, a line for which nothing is handed in leaves no trace.** -/
theorem idle_traceless (fixed : ledger.FixedCalls answer) (s : Submitter) (reward : Reward) :
    Traceless ledger s reward fun _ outcome => outcome.idle := by
  intro line outcome k k' w w' processed idle
  have idle : outcome.idle = true := idle
  rw [Submitter.process] at processed
  cases parsed : Address.parse? line with
  | none =>
    rw [parsed] at processed
    cases processed
    exact ⟨rfl, rfl⟩
  | some account =>
    rw [parsed] at processed
    dsimp only at processed
    rw [Submitter.claim, entitlement_of_fixed fixed, pure_bind] at processed
    match entitled : entitlementOf (answer s.contract (Contract.claimable reward.period reward.token account)) with
    | .error _ =>
      rw [entitled] at processed
      cases processed
      exact ⟨rfl, rfl⟩
    | .ok 0 =>
      rw [entitled] at processed
      cases processed
      exact ⟨rfl, rfl⟩
    | .ok (_ + 1) =>
      rw [entitled] at processed
      -- Something is handed in or at least tried, and no outcome of that is idle.
      obtain ⟨⟨⟨submitted, k₁⟩, w₁⟩, ran⟩ : ∃ made, ((s.submit ledger reward).run k).run w = made := ⟨_, rfl⟩
      have ends := (run_bind_of ran).symm.trans processed
      have same : Outcome.ofAnswer submitted = outcome := by
        cases submitted with
        | ok hash => cases ends; rfl
        | error e => cases ends; rfl
      rw [← same, idle_ofAnswer] at idle
      cases idle

end Idle

/-! ## What is handed in -/

section HandedIn

variable {σ : Type} {ledger : Ledger (StateM σ)} {answer : Address → Bytes → Except LedgerError Bytes}

/-- The transactions among some requests. -/
def handedIn (log : List Request) : List Bytes := log.filterMap Request.submitted?

/-- A ledger that writes down the transactions that are handed to it, in order, before answering. -/
def handing (ledger : Ledger (StateM σ)) : Ledger (StateT (List Bytes) (StateM σ)) := fun request => do
  modify (· ++ request.submitted?.toList)
  ledger request

/-- Of all that a computation writes down, another one writes down the transactions only. -/
def handedInCorrespondence (σ : Type) :
    Correspondence (StateT (List Request) (StateM σ)) (StateT (List Bytes) (StateM σ)) where
  rel x y := ∀ log w, (y.run (handedIn log)).run w =
    ((((x.run log).run w).1.1, handedIn ((x.run log).run w).1.2), ((x.run log).run w).2)
  rel_pure _ _ _ := rfl
  rel_bind {_ _ x y f g} first second log w := by
    obtain ⟨⟨⟨a, log₁⟩, w₁⟩, ran⟩ : ∃ made, (x.run log).run w = made := ⟨_, rfl⟩
    have same := first log w
    rw [ran] at same
    rw [run_bind_of same, run_bind_of ran]
    exact second a log₁ w₁

theorem handedIn_rel (request : Request) :
    (handedInCorrespondence σ).rel (ledger.logged request) (handing ledger request) := by
  intro log w
  have more : handedIn (log ++ [request]) = handedIn log ++ request.submitted?.toList := by
    cases submitted : request.submitted? <;> simp [handedIn, submitted]
  show ((_, handedIn log ++ request.submitted?.toList), _) = ((_, handedIn (log ++ [request])), _)
  rw [more]
  rfl

/-- A session over a ledger that writes down all requests, told by what is handed in. -/
theorem logged_of_handing {signer : Signer} {contract : Address} {fees : Fees} {chainId : Option UInt64}
    {reward : Reward} {lines : List String} {result : Except StartError (List Outcome)} {handed : List Bytes}
    {w w' : σ}
    (ran : ((session (.silent (handing ledger)) signer contract fees chainId reward lines).run []).run w =
      ((result, handed), w')) :
    ∃ log, ((session (.silent ledger.logged) signer contract fees chainId reward lines).run []).run w =
      ((result, log), w') ∧ handedIn log = handed := by
  have same : (handedInCorrespondence σ).rel
      (session (.silent ledger.logged) signer contract fees chainId reward lines)
      (session (.silent (handing ledger)) signer contract fees chainId reward lines) :=
    session_rel _ handedIn_rel (fun _ _ => Correspondence.rel_pure _ _) (Correspondence.rel_pure _ _) signer contract
      fees chainId reward lines
  obtain ⟨⟨⟨result', log⟩, w₁⟩, logged⟩ : ∃ made,
    ((session (.silent ledger.logged) signer contract fees chainId reward lines).run []).run w = made := ⟨_, rfl⟩
  have told := same [] w
  rw [logged] at told
  cases ran.symm.trans told
  exact ⟨log, logged, rfl⟩

/-- Calls are not handed in, so that they are still answered by the rule. -/
theorem fixedCalls_handing (fixed : ledger.FixedCalls answer) : (handing ledger).FixedCalls answer := by
  intro contract data
  funext handed w
  show ((((ledger (.call contract data)).run w).1, handed ++ []), ((ledger (.call contract data)).run w).2) = _
  rw [fixed, List.append_nil]
  rfl

theorem fixedCalls_dryRun (fixed : ledger.FixedCalls answer) : ledger.dryRun.FixedCalls answer := by
  intro contract data
  show StateT.lift (ledger (.call contract data)) = _
  rw [fixed]
  rfl

end HandedIn

/-- **Accounts that do not claim could as well not be listed.** Over any ledger at all, the lines that are no address
can be deleted: the requests, the outcomes of the other lines and where the ledger ends up stay the same. If the ledger
answers calls by a rule, whatever it does with other requests, then all lines can be deleted that turn out to be no
address, not to be answered or to be granted nothing: the same transactions are handed in, and the other lines have
the same outcomes. That is also so in a dry run over such a ledger. -/
theorem session_without_idle {σ : Type} (ledger : Ledger (StateM σ)) (signer : Signer) (contract : Address)
    (fees : Fees) (chainId : Option UInt64) (reward : Reward) (lines : List String) (w : σ) :
    (∃ result log w',
      ((session (.silent ledger.logged) signer contract fees chainId reward lines).run []).run w =
        ((result, log), w') ∧
      (∀ outcomes, result = .ok outcomes → outcomes.length = lines.length) ∧
      ((session (.silent ledger.logged) signer contract fees chainId reward (lines.filter isAccount)).run []).run w =
        ((result.map fun outcomes => ((lines.zip outcomes).filter fun p => isAccount p.1).map Prod.snd, log), w')) ∧
    ∀ answer, ledger.FixedCalls answer →
      (∃ result log w',
        ((session (.silent ledger.logged) signer contract fees chainId reward lines).run []).run w =
          ((result, log), w') ∧
        ∀ outcomes, result = .ok outcomes →
          let others := (lines.zip outcomes).filter fun p => !p.2.idle
          ∃ log',
            ((session (.silent ledger.logged) signer contract fees chainId reward (others.map Prod.fst)).run []).run w =
              ((.ok (others.map Prod.snd), log'), w') ∧
            handedIn log' = handedIn log) ∧
      ∃ result kept w',
        ((session (.silent ledger.dryRun) signer contract fees chainId reward lines).run []).run w =
          ((result, kept), w') ∧
        ∀ outcomes, result = .ok outcomes → outcomes.length = lines.length ∧
          let others := (lines.zip outcomes).filter fun p => !p.2.idle
          ((session (.silent ledger.dryRun) signer contract fees chainId reward (others.map Prod.fst)).run []).run w =
            ((.ok (others.map Prod.snd), kept), w') := by
  refine ⟨?_, fun answer fixed => ⟨?_, ?_⟩⟩
  · obtain ⟨result, log, w', ran, without⟩ := session_remaining fees
      (fun id => malformed_traceless ledger.logged ⟨signer, contract, fees, id⟩ reward) chainId lines [] w
    refine ⟨result, log, w', ran, ?_⟩
    cases result with
    | error cause => exact ⟨nofun, without _⟩
    | ok outcomes =>
      obtain ⟨sameLength, without⟩ := without
      rw [remaining_of_line isAccount sameLength] at without
      refine ⟨?_, by simpa [remaining, Except.map] using without⟩
      rintro _ ⟨⟩
      exact sameLength
  · obtain ⟨result, handed, w', ran, without⟩ := session_remaining fees
      (fun id => idle_traceless (fixedCalls_handing fixed) ⟨signer, contract, fees, id⟩ reward) chainId lines [] w
    obtain ⟨log, logged, rfl⟩ := logged_of_handing ran
    refine ⟨result, log, w', logged, ?_⟩
    rintro outcomes rfl
    exact logged_of_handing without.2
  · obtain ⟨result, kept, w', ran, without⟩ := session_remaining fees
      (fun id => idle_traceless (fixedCalls_dryRun fixed) ⟨signer, contract, fees, id⟩ reward) chainId lines [] w
    refine ⟨result, kept, w', ran, ?_⟩
    rintro outcomes rfl
    exact without

/-- What accounts are granted that end in three and in four; no others are known. -/
def grants (_ : Address) (data : Bytes) : Except LedgerError Bytes :=
  match data.getLast? with
  | some 3 => .ok (Bytes.ofNat 32 5)
  | some 4 => .ok (Bytes.ofNat 32 0)
  | _ => .error (.rpc .call "unknown account")

/-- A ledger that grants by this rule and takes every other transaction only, over how many were handed to it. -/
def granting : Ledger (StateM Nat)
  | .call contract data => return grants contract data
  | .chainId => return .ok 31337
  | .sequenceNumber _ => return .ok (UInt64.ofNat ((← get) / 2))
  | .submit raw => do
    modify (· + 1)
    return if (← get) % 2 = 0 then .ok (Keccak.hash raw) else .error (.rpc .submit "refused")

/-- Six lines, of which one is no address, one is not known and one is granted nothing. -/
def mixedLines : List String := [
  "0x0000000000000000000000000000000000000003", "nobody", "0x0000000000000000000000000000000000000005",
  "0x0000000000000000000000000000000000000003", "0x0000000000000000000000000000000000000004",
  "0x0000000000000000000000000000000000000103"]

/-- The mixed lines over this ledger, after six transactions. -/
theorem session_without_idle_granting :
    granting.FixedCalls grants ∧ ∃ result log w',
      ((session (.silent granting.logged) ⟨1, by decide, by decide⟩ ⟨Vector.replicate 20 1⟩ .standard none
        ⟨"2024-01", ⟨Vector.replicate 20 2⟩⟩ mixedLines).run []).run 6 = ((result, log), w') ∧
      ∀ outcomes, result = .ok outcomes →
        let others := (mixedLines.zip outcomes).filter fun p => !p.2.idle
        ∃ log',
          ((session (.silent granting.logged) ⟨1, by decide, by decide⟩ ⟨Vector.replicate 20 1⟩ .standard none
            ⟨"2024-01", ⟨Vector.replicate 20 2⟩⟩ (others.map Prod.fst)).run []).run 6 =
              ((.ok (others.map Prod.snd), log'), w') ∧
          handedIn log' = handedIn log :=
  ⟨fun _ _ => rfl,
    ((session_without_idle granting ⟨1, by decide, by decide⟩ ⟨Vector.replicate 20 1⟩ .standard none
      ⟨"2024-01", ⟨Vector.replicate 20 2⟩⟩ mixedLines 6).2 grants fun _ _ => rfl).1⟩

end Claim

end Allotment
