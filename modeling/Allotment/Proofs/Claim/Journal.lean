import Allotment.Proofs.Claim.Session

/-!
# The journal of a session

The surroundings answer as they like, from a state of any kind. A journal writes down all that is exchanged with them,
and what it can look like is said without the program:

* `Submission`: a sequence number is asked for, then the one intended transaction is signed and handed in;
* `Segment`: what is asked for one line, and the outcome that the answers lead to;
* `Transcript`: the segments of all lines, each with its announcement and with pauses between;
* `Minutes`: a chain id if there is need of one, and then a transcript;
* `Transcript.along`: what holds of each submission, and of whatever else happens, holds along transcripts;
* `session_journal`: every session in whatever surroundings has such a journal, and keeping it changes nothing.
-/

namespace Allotment.Claim

/-! ## Events -/

/-- Something that a session does to its surroundings. -/
inductive Event where
  | asked (request : Request) (answer : request.Answer)
  | told (line : String) (outcome : Outcome)
  | paused

/-- The lines that were announced, with their outcomes. -/
def announcements (events : List Event) : List (String × Outcome) :=
  events.filterMap fun
    | .told line outcome => some (line, outcome)
    | _ => none

theorem announcements_append (xs ys : List Event) :
    announcements (xs ++ ys) = announcements xs ++ announcements ys :=
  List.filterMap_append

/-- The transaction that an event hands in, with the answer. -/
def Event.submission? : Event → Option (Bytes × Except LedgerError Digest)
  | .asked (.submit raw) answer => some (raw, answer)
  | _ => none

/-- The transactions that were handed in, with their answers. -/
def submissions (events : List Event) : List (Bytes × Except LedgerError Digest) :=
  events.filterMap Event.submission?

theorem submissions_append (xs ys : List Event) : submissions (xs ++ ys) = submissions xs ++ submissions ys :=
  List.filterMap_append

/-- A computation that writes down its events. -/
abbrev Journaled (σ : Type) := StateT (List Event) (StateM σ)

/-- Does something, then writes it down. -/
def noting {σ α : Type} (event : α → Event) (act : StateM σ α) : Journaled σ α := do
  let a ← act
  modify (· ++ [event a])
  return a

namespace Surroundings

variable {σ : Type} {e : Surroundings (StateM σ)}

/-- The same surroundings with everything written down. -/
def journaled (e : Surroundings (StateM σ)) : Surroundings (Journaled σ) where
  ledger request := noting (.asked request) (e.ledger request)
  announce line outcome := noting (fun _ => .told line outcome) (e.announce line outcome)
  pause := noting (fun _ => .paused) e.pause

/-- An event takes the surroundings from one state to another, and an answer is the one they give in that state. -/
def Happens (e : Surroundings (StateM σ)) (w w' : σ) : Event → Prop
  | .asked request answer => (e.ledger request).run w = (answer, w')
  | .told line outcome => (e.announce line outcome).run w = ((), w')
  | .paused => e.pause.run w = ((), w')

/-- Events that happen one after the other. -/
inductive Plays (e : Surroundings (StateM σ)) : σ → List Event → σ → Prop where
  | nil (w : σ) : Plays e w [] w
  | cons {w w' w'' : σ} {event : Event} {events : List Event} :
      e.Happens w w' event → Plays e w' events w'' → Plays e w (event :: events) w''

theorem Plays.append {w w' w'' : σ} {xs ys : List Event} (first : e.Plays w xs w')
    (second : e.Plays w' ys w'') : e.Plays w (xs ++ ys) w'' := by
  induction first with
  | nil => exact second
  | cons happens _ ih => exact .cons happens (ih second)

theorem Plays.cons_inv {w w'' : σ} {event : Event} {events : List Event} (plays : e.Plays w (event :: events) w'') :
    ∃ w', e.Happens w w' event ∧ e.Plays w' events w'' := by
  cases plays with
  | cons happens plays => exact ⟨_, happens, plays⟩

theorem Plays.append_inv {w w'' : σ} {xs ys : List Event} (plays : e.Plays w (xs ++ ys) w'') :
    ∃ w', e.Plays w xs w' ∧ e.Plays w' ys w'' := by
  induction xs generalizing w with
  | nil => exact ⟨w, .nil w, plays⟩
  | cons event xs ih =>
    obtain ⟨w₁, happens, plays⟩ := plays.cons_inv
    obtain ⟨w', first, second⟩ := ih plays
    exact ⟨w', .cons happens first, second⟩

end Surroundings

/-! ## What a journal looks like -/

/-- Asks for a sequence number and hands in the claim signed under it, unless one of the two fails. -/
inductive Submission (s : Submitter) (sign : Transaction → Except LedgerError SignedTransaction) (reward : Reward) :
    List Event → Except LedgerError Digest → Prop where
  | unnumbered (cause : LedgerError) :
      Submission s sign reward [.asked (.sequenceNumber s.signer.address) (.error cause)] (.error cause)
  | unsigned {nonce : UInt64} {cause : LedgerError} :
      sign {
        chainId := s.chainId, nonce, fees := s.fees, contract := s.contract
        input := Contract.claimReward reward.period reward.token } = .error cause →
      Submission s sign reward [.asked (.sequenceNumber s.signer.address) (.ok nonce)] (.error cause)
  | handedIn {nonce : UInt64} {signed : SignedTransaction} (answer : Except LedgerError Digest) :
      sign {
        chainId := s.chainId, nonce, fees := s.fees, contract := s.contract
        input := Contract.claimReward reward.period reward.token } = .ok signed →
      Submission s sign reward
        [.asked (.sequenceNumber s.signer.address) (.ok nonce), .asked (.submit signed.raw) answer] answer

/-- The outcome of a submission. -/
def Outcome.ofAnswer : Except LedgerError Digest → Outcome
  | .ok hash => .submitted hash
  | .error cause => .failed cause.message

/-- The request that asks what an account can claim. -/
abbrev Submitter.question (s : Submitter) (reward : Reward) (account : Address) : Request :=
  .call s.contract (Contract.claimable reward.period reward.token account)

/-- What is asked for one line, and the outcome of the line. -/
inductive Segment (s : Submitter) (reward : Reward) (line : String) : List Event → Outcome → Prop where
  | malformed : Address.parse? line = none → Segment s reward line [] (.failed "invalid-address")
  | unanswered {account : Address} (cause : LedgerError) : Address.parse? line = some account →
      Segment s reward line [.asked (s.question reward account) (.error cause)] (.skipped .queryFailed)
  | short {account : Address} {reply : Bytes} : Address.parse? line = some account → reply.length < 32 →
      Segment s reward line [.asked (s.question reward account) (.ok reply)] (.skipped .queryFailed)
  | nothing {account : Address} {reply : Bytes} : Address.parse? line = some account → 32 ≤ reply.length →
      (∀ byte ∈ reply.take 32, byte = 0) →
      Segment s reward line [.asked (s.question reward account) (.ok reply)] (.skipped .zeroEntitlement)
  | entitled {account : Address} {reply : Bytes} {events : List Event} {answer : Except LedgerError Digest} :
      Address.parse? line = some account → 32 ≤ reply.length → ¬ (∀ byte ∈ reply.take 32, byte = 0) →
      Submission s s.signer.sign reward events answer →
      Segment s reward line (.asked (s.question reward account) (.ok reply) :: events) (.ofAnswer answer)

/-- The segments of lines in their order, each followed by its announcement, with a pause between every two. -/
inductive Transcript (s : Submitter) (reward : Reward) : List String → List Event → List Outcome → Prop where
  | none : Transcript s reward [] [] []
  | last {line : String} {events : List Event} {outcome : Outcome} : Segment s reward line events outcome →
      Transcript s reward [line] (events ++ [.told line outcome]) [outcome]
  | next {line next : String} {lines : List String} {events rest : List Event} {outcome : Outcome}
      {outcomes : List Outcome} : Segment s reward line events outcome →
      Transcript s reward (next :: lines) rest outcomes →
      Transcript s reward (line :: next :: lines) (events ++ .told line outcome :: .paused :: rest)
        (outcome :: outcomes)

/-- A whole session: the chain id is asked for only if none is given, and a session that does not get one does nothing
else. -/
inductive Minutes (signer : Signer) (contract : Address) (fees : Fees) (reward : Reward) (lines : List String) :
    Option UInt64 → List Event → Except StartError (List Outcome) → Prop where
  | given {id : UInt64} {events : List Event} {outcomes : List Outcome} :
      Transcript ⟨signer, contract, fees, id⟩ reward lines events outcomes →
      Minutes signer contract fees reward lines (some id) events (.ok outcomes)
  | found {id : UInt64} {events : List Event} {outcomes : List Outcome} :
      Transcript ⟨signer, contract, fees, id⟩ reward lines events outcomes →
      Minutes signer contract fees reward lines none (.asked .chainId (.ok id) :: events) (.ok outcomes)
  | refused (cause : LedgerError) :
      Minutes signer contract fees reward lines none [.asked .chainId (.error cause)] (.error (.chainId cause))

/-- Nothing is announced while a line is dealt with. -/
theorem Segment.announcements_eq {s : Submitter} {reward : Reward} {line : String} {events : List Event}
    {outcome : Outcome} (segment : Segment s reward line events outcome) : announcements events = [] := by
  cases segment with
  | malformed | unanswered | short | nothing => rfl
  | entitled _ _ _ submission => cases submission <;> rfl

/-- A transcript announces each line with its outcome, and there is one for each. -/
theorem Transcript.announcements_eq {s : Submitter} {reward : Reward} {lines : List String} {events : List Event}
    {outcomes : List Outcome} (transcript : Transcript s reward lines events outcomes) :
    outcomes.length = lines.length ∧ announcements events = lines.zip outcomes := by
  induction transcript with
  | none => exact ⟨rfl, rfl⟩
  | last segment =>
    refine ⟨rfl, ?_⟩
    rw [announcements_append, segment.announcements_eq]
    rfl
  | next segment _ ih =>
    obtain ⟨same, announced⟩ := ih
    refine ⟨congrArg (· + 1) same, ?_⟩
    rw [announcements_append, segment.announcements_eq]
    exact congrArg (_ :: ·) announced

theorem Minutes.announcements_eq {signer : Signer} {contract : Address} {fees : Fees} {reward : Reward}
    {lines : List String} {chainId : Option UInt64} {events : List Event} {outcomes : List Outcome}
    (minutes : Minutes signer contract fees reward lines chainId events (.ok outcomes)) :
    outcomes.length = lines.length ∧ announcements events = lines.zip outcomes := by
  cases minutes with
  | given transcript => exact transcript.announcements_eq
  | found transcript => exact transcript.announcements_eq

/-! ## What holds along a transcript -/

/-- Whether an event takes no part in handing in a claim. -/
def Event.isAside : Event → Bool
  | .asked (.sequenceNumber _) _ => false
  | .asked (.submit _) _ => false
  | _ => true

theorem Event.submission?_of_isAside {event : Event} (aside : event.isAside = true) : event.submission? = none := by
  cases event with
  | told | paused => rfl
  | asked request answer =>
    cases request with
    | submit raw => cases aside
    | _ => rfl

theorem countP_unsubmitted {outcome : Outcome} (quiet : outcome.isSubmitted = false) :
    [outcome].countP Outcome.isSubmitted = 0 := by
  rw [List.countP_singleton, quiet]
  rfl

/-- What is said of the events and outcomes between two states holds along transcripts if it goes along with sequencing
and holds of each submission, and of whatever else happens. -/
structure Along {σ : Type} (e : Surroundings (StateM σ)) (s : Submitter) (reward : Reward)
    (P : σ → List Event → List Outcome → σ → Prop) : Prop where
  append : ∀ {w w' w'' : σ} {xs ys : List Event} {outcomes outcomes' : List Outcome},
    P w xs outcomes w' → P w' ys outcomes' w'' → P w (xs ++ ys) (outcomes ++ outcomes') w''
  nothing : ∀ w, P w [] [] w
  aside : ∀ {w w' : σ} {event : Event}, event.isAside = true → e.Happens w w' event → P w [event] [] w'
  unsubmitted : ∀ w {outcome : Outcome}, outcome.isSubmitted = false → P w [] [outcome] w
  submission : ∀ {w w' : σ} {events : List Event} {answer : Except LedgerError Digest},
    Submission s s.signer.sign reward events answer → e.Plays w events w' → P w events [.ofAnswer answer] w'

section Along

variable {σ : Type} {e : Surroundings (StateM σ)} {s : Submitter} {reward : Reward}
  {P : σ → List Event → List Outcome → σ → Prop} (rule : Along e s reward P)
include rule

theorem Along.question {account : Address} {answer : Except LedgerError Bytes} {outcome : Outcome} {w w' : σ}
    (quiet : outcome.isSubmitted = false) (plays : e.Plays w [.asked (s.question reward account) answer] w') :
    P w [.asked (s.question reward account) answer] [outcome] w' := by
  obtain ⟨w₁, asked, ends⟩ := plays.cons_inv
  cases ends
  exact rule.append (rule.aside rfl asked) (rule.unsubmitted w' quiet)

theorem Segment.along {line : String} {events : List Event} {outcome : Outcome} {w w' : σ}
    (segment : Segment s reward line events outcome) (plays : e.Plays w events w') : P w events [outcome] w' := by
  cases segment with
  | malformed =>
    cases plays
    exact rule.unsubmitted w rfl
  | unanswered | short | nothing => exact rule.question rfl plays
  | entitled _ _ _ submission =>
    obtain ⟨w₁, asked, plays⟩ := plays.cons_inv
    exact rule.append (rule.aside rfl asked) (rule.submission submission plays)

/-- **What holds of each submission holds along a whole transcript.** -/
theorem Transcript.along {lines : List String} {events : List Event} {outcomes : List Outcome} {w w' : σ}
    (transcript : Transcript s reward lines events outcomes) (plays : e.Plays w events w') :
    P w events outcomes w' := by
  induction transcript generalizing w with
  | none =>
    cases plays
    exact rule.nothing w'
  | last segment =>
    obtain ⟨w₁, first, told⟩ := plays.append_inv
    obtain ⟨w₂, told, ends⟩ := told.cons_inv
    cases ends
    exact rule.append (segment.along rule first) (rule.aside rfl told)
  | next segment _ ih =>
    obtain ⟨w₁, first, plays⟩ := plays.append_inv
    obtain ⟨w₂, told, plays⟩ := plays.cons_inv
    obtain ⟨w₃, paused, plays⟩ := plays.cons_inv
    exact rule.append (segment.along rule first)
      (rule.append (rule.aside rfl told) (rule.append (rule.aside rfl paused) (ih plays)))

end Along

/-! ## Computations that keep a journal -/

section Goes

variable {σ α β : Type} {e : Surroundings (StateM σ)}

/-- A computation in given surroundings: its result, the events that it adds to any journal, and the state that it
leaves behind. -/
structure Goes (e : Surroundings (StateM σ)) (act : Journaled σ α) (w : σ) (a : α) (events : List Event) (w' : σ) :
    Prop where
  writes : ∀ before, (act.run before).run w = ((a, before ++ events), w')
  plays : e.Plays w events w'

theorem Goes.pure (a : α) (w : σ) : Goes e (pure a) w a [] w where
  writes before := by rw [List.append_nil]; rfl
  plays := .nil w

theorem Goes.bind {x : Journaled σ α} {f : α → Journaled σ β} {w w' w'' : σ} {a : α} {b : β} {xs ys : List Event}
    (first : Goes e x w a xs w') (second : Goes e (f a) w' b ys w'') : Goes e (x >>= f) w b (xs ++ ys) w'' where
  writes before := by
    have run : ((x >>= f).run before).run w = ((f a).run (before ++ xs)).run w' := by
      rw [StateT.run_bind, StateT.run_bind, first.writes]
      rfl
    rw [run, second.writes, List.append_assoc]
  plays := first.plays.append second.plays

/-- A computation goes on without events. -/
theorem Goes.bind_pure {x : Journaled σ α} {f : α → Journaled σ β} {w w' : σ} {a : α} {b : β} {xs : List Event}
    (first : Goes e x w a xs w') (second : f a = Pure.pure b) : Goes e (x >>= f) w b xs w' := by
  have whole := first.bind (second ▸ Goes.pure b w')
  rwa [List.append_nil] at whole

theorem Goes.noting {event : α → Event} {act : StateM σ α} {w w' : σ} {a : α} (result : act.run w = (a, w'))
    (happens : e.Happens w w' (event a)) : Goes e (noting event act) w a [event a] w' where
  writes before := by
    show (let (a, w') := act.run w; ((a, before ++ [event a]), w')) = _
    rw [result]
  plays := .cons happens (.nil w')

variable (e)

theorem asks_goes (request : Request) (w : σ) :
    ∃ answer w', Goes e (e.journaled.ledger request) w answer [.asked request answer] w' :=
  ⟨_, _, .noting rfl rfl⟩

theorem tells_goes (line : String) (outcome : Outcome) (w : σ) :
    ∃ w', Goes e (e.journaled.announce line outcome) w () [.told line outcome] w' :=
  ⟨_, .noting rfl rfl⟩

theorem pauses_goes (w : σ) : ∃ w', Goes e e.journaled.pause w () [.paused] w' :=
  ⟨_, .noting rfl rfl⟩

/-! ## What the steps of a session write -/

/-- As with every fact about submissions, any way of signing will do. -/
theorem submitWith_goes (s : Submitter) (sign : Transaction → Except LedgerError SignedTransaction) (reward : Reward)
    (w : σ) :
    ∃ answer events w', Goes e (s.submitWith sign e.journaled.ledger reward) w answer events w' ∧
      Submission s sign reward events answer := by
  obtain ⟨numbered, w₁, asked⟩ := asks_goes e (.sequenceNumber s.signer.address) w
  cases numbered with
  | error cause => exact ⟨_, _, w₁, asked.bind_pure rfl, .unnumbered cause⟩
  | ok nonce =>
    cases signing : sign (s.transaction reward nonce) with
    | error cause => exact ⟨_, _, w₁, asked.bind_pure (by simp only [signing]), .unsigned signing⟩
    | ok signed =>
      obtain ⟨answer, w₂, submitted⟩ := asks_goes e (.submit signed.raw) w₁
      exact ⟨answer, _, w₂, asked.bind (by simpa only [signing] using submitted), .handedIn answer signing⟩

/-- The amount that the answer to a question stands for. -/
def entitlementOf : Except LedgerError Bytes → Except LedgerError Nat
  | .error cause => .error cause
  | .ok reply =>
    match Contract.firstWord? reply with
    | some amount => .ok amount
    | none => .error (.shortReply "claimable")

variable {e} in
theorem entitlement_goes {s : Submitter} {reward : Reward} {account : Address} {answer : Except LedgerError Bytes}
    {w w' : σ} (asked : Goes e (e.journaled.ledger (s.question reward account)) w answer
      [.asked (s.question reward account) answer] w') :
    Goes e (s.entitlement e.journaled.ledger reward account) w (entitlementOf answer)
      [.asked (s.question reward account) answer] w' := by
  refine asked.bind_pure ?_
  cases answer with
  | error cause => rfl
  | ok reply =>
    dsimp only [entitlementOf]
    cases Contract.firstWord? reply with
    | some amount => rfl
    | none => rfl

theorem entitlementOf_short {reply : Bytes} (short : reply.length < 32) :
    entitlementOf (.ok reply) = .error (.shortReply "claimable") := by
  have none : Contract.firstWord? reply = none := if_neg (by omega)
  simp only [entitlementOf, none]

theorem entitlementOf_long {reply : Bytes} (long : 32 ≤ reply.length) :
    entitlementOf (.ok reply) = .ok (Bytes.toNat (reply.take 32)) := by
  have some : Contract.firstWord? reply = some (Bytes.toNat (reply.take 32)) := if_pos long
  simp only [entitlementOf, some]

/-- **One line in whatever surroundings gives a segment.** -/
theorem process_goes (s : Submitter) (reward : Reward) (line : String) (w : σ) :
    ∃ outcome events w', Goes e (s.process e.journaled.ledger reward line) w outcome events w' ∧
      Segment s reward line events outcome := by
  unfold Submitter.process
  cases parsed : Address.parse? line with
  | none => exact ⟨_, _, w, .pure _ w, .malformed parsed⟩
  | some account =>
    obtain ⟨answer, w₁, asked⟩ := asks_goes e (s.question reward account) w
    have queried := entitlement_goes asked
    cases answer with
    | error cause => exact ⟨_, _, w₁, queried.bind_pure rfl, .unanswered cause parsed⟩
    | ok reply =>
      rcases Nat.lt_or_ge reply.length 32 with short | long
      · rw [entitlementOf_short short] at queried
        exact ⟨_, _, w₁, queried.bind_pure rfl, .short parsed short⟩
      rw [entitlementOf_long long] at queried
      cases amount : Bytes.toNat (reply.take 32) with
      | zero =>
        rw [amount] at queried
        exact ⟨_, _, w₁, queried.bind_pure rfl, .nothing parsed long ((Bytes.toNat_eq_zero _).mp amount)⟩
      | succ k =>
        rw [amount] at queried
        have positive : ¬ ∀ byte ∈ reply.take 32, byte = 0 := by
          rw [← Bytes.toNat_eq_zero, amount]
          exact Nat.succ_ne_zero k
        -- Only here, with something granted just now, does a line go on to a submission.
        obtain ⟨answer, events, w₂, submitted, submission⟩ := submitWith_goes e s s.signer.sign reward w₁
        refine ⟨.ofAnswer answer, _, w₂, queried.bind (submitted.bind_pure ?_), .entitled parsed long positive submission⟩
        cases answer with
        | ok hash => rfl
        | error cause => rfl

/-- **A run over lines in whatever surroundings gives a transcript.** -/
theorem run_goes (s : Submitter) (reward : Reward) (lines : List String) (w : σ) :
    ∃ outcomes events w', Goes e (s.run e.journaled.ledger reward e.journaled.announce e.journaled.pause lines) w
      outcomes events w' ∧ Transcript s reward lines events outcomes := by
  induction lines generalizing w with
  | nil => exact ⟨[], [], w, .pure _ w, .none⟩
  | cons line lines ih =>
    obtain ⟨outcome, events, w₁, processed, segment⟩ := process_goes e s reward line w
    obtain ⟨w₂, told⟩ := tells_goes e line outcome w₁
    -- A pause comes only where another line follows.
    cases lines with
    | nil => exact ⟨_, _, w₂, processed.bind (told.bind_pure rfl), .last segment⟩
    | cons next lines =>
      obtain ⟨w₃, paused⟩ := pauses_goes e w₂
      obtain ⟨outcomes, rest, w₄, ran, transcript⟩ := ih w₃
      exact ⟨_, _, w₄, processed.bind (told.bind (paused.bind (ran.bind_pure rfl))), .next segment transcript⟩

theorem session_goes (signer : Signer) (contract : Address) (fees : Fees) (chainId : Option UInt64) (reward : Reward)
    (lines : List String) (w : σ) :
    ∃ result events w', Goes e (session e.journaled signer contract fees chainId reward lines) w result events w' ∧
      Minutes signer contract fees reward lines chainId events result := by
  cases chainId with
  | some id =>
    obtain ⟨outcomes, events, w', ran, transcript⟩ := run_goes e ⟨signer, contract, fees, id⟩ reward lines w
    exact ⟨_, events, w', (Goes.pure _ w).bind (ran.bind_pure rfl), .given transcript⟩
  | none =>
    obtain ⟨answer, w₁, asked⟩ := asks_goes e .chainId w
    cases answer with
    | error cause =>
      exact ⟨_, _, w₁, Goes.bind_pure (asked.bind_pure rfl) rfl, .refused cause⟩
    | ok id =>
      obtain ⟨outcomes, events, w', ran, transcript⟩ := run_goes e ⟨signer, contract, fees, id⟩ reward lines w₁
      exact ⟨_, _, w', Goes.bind (asked.bind_pure rfl) (ran.bind_pure rfl), .found transcript⟩

end Goes

/-! ## The journal changes nothing -/

/-- A computation that keeps a journal does what another does that keeps none. -/
def journalCorrespondence (σ : Type) : Correspondence (Journaled σ) (StateM σ) where
  rel x y := ∀ before w, (((x.run before).run w).1.1, ((x.run before).run w).2) = y.run w
  rel_pure _ _ _ := rfl
  rel_bind {_ _ x y f g} first second before w := by
    have run : (y >>= g).run w = (g ((x.run before).run w).1.1).run ((x.run before).run w).2 := by
      rw [StateT.run_bind, ← first before w]
      rfl
    rw [run]
    exact second _ _ _

theorem noting_rel {σ α : Type} (event : α → Event) (act : StateM σ α) :
    (journalCorrespondence σ).rel (noting event act) act :=
  fun _ _ => rfl

theorem run_journaled {σ : Type} (e : Surroundings (StateM σ)) (s : Submitter) (reward : Reward)
    (lines : List String) :
    (journalCorrespondence σ).rel (s.run e.journaled.ledger reward e.journaled.announce e.journaled.pause lines)
      (s.run e.ledger reward e.announce e.pause lines) :=
  run_rel _ (fun _ => noting_rel _ _) (fun _ _ => noting_rel _ _) (noting_rel _ _) s reward lines

/-- Journals leave results and surroundings as they are. -/
theorem session_journaled {σ : Type} (e : Surroundings (StateM σ)) (signer : Signer) (contract : Address) (fees : Fees)
    (chainId : Option UInt64) (reward : Reward) (lines : List String) :
    (journalCorrespondence σ).rel (session e.journaled signer contract fees chainId reward lines)
      (session e signer contract fees chainId reward lines) :=
  session_rel _ (fun _ => noting_rel _ _) (fun _ _ => noting_rel _ _) (noting_rel _ _) signer contract fees chainId
    reward lines

/-- **Every session, whatever its surroundings are like, has a journal.** The journal tells the events that really
happened; it is made of one segment for each line; keeping it changes neither the result nor the surroundings; and a
session that gets under way has one outcome for each line and announces each line with its outcome, in order. -/
theorem session_journal {σ : Type} (e : Surroundings (StateM σ)) (signer : Signer) (contract : Address) (fees : Fees)
    (chainId : Option UInt64) (reward : Reward) (lines : List String) (w : σ) :
    ∃ result events w',
      ((session e.journaled signer contract fees chainId reward lines).run []).run w = ((result, events), w') ∧
      (session e signer contract fees chainId reward lines).run w = (result, w') ∧
      e.Plays w events w' ∧
      Minutes signer contract fees reward lines chainId events result ∧
      ∀ outcomes, result = .ok outcomes →
        outcomes.length = lines.length ∧ announcements events = lines.zip outcomes := by
  obtain ⟨result, events, w', goes, minutes⟩ := session_goes e signer contract fees chainId reward lines w
  have wrote := goes.writes []
  refine ⟨result, events, w', wrote, ?_, goes.plays, minutes, ?_⟩
  · rw [← session_journaled e signer contract fees chainId reward lines [] w, wrote]
  · rintro outcomes rfl
    exact minutes.announcements_eq

end Allotment.Claim
