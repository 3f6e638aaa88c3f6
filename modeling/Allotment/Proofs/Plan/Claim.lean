import Allotment.Plan.Claim
import Allotment.Proofs.Claim.Journal
import Allotment.Proofs.Host.Scene
import Allotment.Proofs.Ledger.DryRun
import Allotment.Proofs.Plan.Snapshot

/-!
# What is seen of claims being made

The claims of a plan are one session (`ClaimPlan.runOn_eq`), of which someone outside sees the announcements as text
and the requests as calls. What is seen is told by the journal of the session (`Claim.Shown`, `ClaimPlan.run_plays`):
in a dry run, all of it but the submissions (`ClaimPlan.Plays.shown`). So no dry run submits anything, whatever the
ledger answers to it (`ClaimPlan.dryRun_submits_nothing`).
-/

namespace Allotment

namespace Claim

/-! ## What a journal lets out -/

/-- The requests that were asked. -/
def requests (events : List Event) : List Request :=
  events.filterMap fun
    | .asked request _ => some request
    | _ => none

theorem requests_append (xs ys : List Event) : requests (xs ++ ys) = requests xs ++ requests ys :=
  List.filterMap_append

/-- What is seen of some events: a text for each announcement, and a call for each request that goes to the endpoint. -/
structure Shown {τ : Type} (passes : Request → Bool) (told : String → Outcome → String) (events : List Event)
    (scene after : Scene τ) : Prop where
  output : after.output =
    scene.output ++ String.join ((announcements events).map fun (line, outcome) => told line outcome)
  sent : after.sent = scene.sent ++ ((requests events).filter passes).map JsonRpc.callOf

namespace Shown

variable {ρ τ : Type} {passes : Request → Bool} {told : String → Outcome → String} {scene between after : Scene τ}

theorem nil (scene : Scene τ) : Shown passes told [] scene scene where
  output := String.append_empty.symm
  sent := (List.append_nil _).symm

theorem append {xs ys : List Event} (first : Shown passes told xs scene between)
    (second : Shown passes told ys between after) : Shown passes told (xs ++ ys) scene after where
  output := by
    rw [second.output, first.output, announcements_append, List.map_append, String.join_append, String.append_assoc]
  sent := by
    rw [second.sent, first.sent, requests_append, List.filter_append, List.map_append, List.append_assoc]

/-- Where each single event is seen, a whole run of events is. -/
theorem of_plays {e : Surroundings (StateM ρ)} (view : ρ → Scene τ)
    (shows : ∀ {w w' event}, e.Happens w w' event → Shown passes told [event] (view w) (view w')) {w w' : ρ}
    {events : List Event} (plays : e.Plays w events w') : Shown passes told events (view w) (view w') := by
  induction plays with
  | nil w => exact .nil _
  | cons happens _ ih => exact (shows happens).append ih

end Shown

/-- A session has minutes, which tell the events that happened. -/
theorem session_plays {ρ : Type} (e : Surroundings (StateM ρ)) (signer : Signer) (contract : Address) (fees : Fees)
    (chainId : Option UInt64) (reward : Reward) (lines : List String) (w : ρ) :
    ∃ result events w', session e signer contract fees chainId reward lines w = (result, w') ∧ e.Plays w events w' ∧
      Minutes signer contract fees reward lines chainId events result := by
  obtain ⟨result, events, w', goes, minutes⟩ := session_goes e signer contract fees chainId reward lines w
  refine ⟨result, events, w', ?_, goes.plays, minutes⟩
  have same := session_journaled e signer contract fees chainId reward lines [] w
  rw [goes.writes []] at same
  exact same.symm

/-- A session that does not start has asked for the chain id, in vain, and for nothing else. -/
theorem Minutes.of_error {signer : Signer} {contract : Address} {fees : Fees} {reward : Reward} {lines : List String}
    {chainId : Option UInt64} {events : List Event} {failure : StartError}
    (minutes : Minutes signer contract fees reward lines chainId events (.error failure)) :
    ∃ cause, chainId = none ∧ failure = .chainId cause ∧ events = [.asked .chainId (.error cause)] := by
  cases minutes with
  | refused cause => exact ⟨cause, rfl, rfl, rfl⟩

/-! ## Two states as one -/

/-- A computation with two states, as one whose state is the pair. -/
def paired {σ τ α : Type} (act : StateT σ (StateM τ) α) : StateM (σ × τ) α := fun (s, t) =>
  let ((a, s), t) := (act.run s).run t
  (a, (s, t))

/-- A computation on one state whose other state is let go, told by what it does to both. -/
theorem run'_of_paired {σ τ α β : Type} {act : StateT σ (StateM τ) α} {s : σ} {t : τ} {a : α} {w : σ × τ}
    (ran : paired act (s, t) = (a, w)) (f : α → β) : (f <$> act).run' s t = (f a, w.2) := by
  obtain ⟨rfl, rfl⟩ := Prod.mk.inj ran
  rfl

/-- Taking two states as one goes along with sequencing. -/
def pairCorrespondence (σ τ : Type) : Correspondence (StateM (σ × τ)) (StateT σ (StateM τ)) :=
  .along paired (fun _ => rfl) (fun _ _ => rfl)

/-- The same surroundings over one state. -/
def Surroundings.paired {σ τ : Type} (e : Surroundings (StateT σ (StateM τ))) : Surroundings (StateM (σ × τ)) where
  ledger request := Claim.paired (e.ledger request)
  announce line outcome := Claim.paired (e.announce line outcome)
  pause := Claim.paired e.pause

theorem session_paired {σ τ : Type} (e : Surroundings (StateT σ (StateM τ))) (signer : Signer) (contract : Address)
    (fees : Fees) (chainId : Option UInt64) (reward : Reward) (lines : List String) :
    session e.paired signer contract fees chainId reward lines =
      paired (session e signer contract fees chainId reward lines) := by
  have asks : ∀ request, (pairCorrespondence σ τ).rel (e.paired.ledger request) (e.ledger request) := fun _ => rfl
  exact session_rel (pairCorrespondence σ τ) asks (fun _ _ => rfl) rfl signer contract fees chainId reward lines

end Claim

namespace ClaimPlan

open Claim

/-! ## The session of a plan -/

/-- The session that makes the claims of a plan. -/
def session {m : Type → Type} [Monad m] (plan : ClaimPlan) (e : Surroundings m) :
    m (Except StartError (List Outcome)) :=
  Claim.session e plan.signer plan.contract plan.fees plan.chainId plan.reward plan.accounts

/-- The minutes that sessions of a plan have. -/
abbrev Minutes (plan : ClaimPlan) (events : List Event) (result : Except StartError (List Outcome)) : Prop :=
  Claim.Minutes plan.signer plan.contract plan.fees plan.reward plan.accounts plan.chainId events result

/-- Making the claims of a plan is its session, where a session that does not start is a failure of the program. -/
theorem runOn_eq {m : Type → Type} [Monad m] [LawfulMonad m] (plan : ClaimPlan) (e : Surroundings m) :
    (plan.runOn e.ledger e.announce e.pause).run = Except.mapError Failure.claim <$> plan.session e := by
  show ExceptT.run _ = _ <$> (Submitter.connect e.ledger plan.signer plan.contract plan.fees plan.chainId >>= _)
  rw [runOn, ExceptT.run_bind, map_bind]
  simp only [attempt, ExceptT.run_mk, bind_assoc, pure_bind]
  refine bind_congr fun bound => ?_
  cases bound with
  | error cause => simp [Except.mapError]
  | ok submitter => simp [Except.mapError]

/-- The ledger behind the endpoint of a plan. -/
def remote {m : Type → Type} [Monad m] (plan : ClaimPlan) (transport : JsonRpc.Transport m) : Ledger m :=
  fun request => do
    return JsonRpc.answerOf transport.wording request
      (← transport plan.ledger.endpoint plan.ledger.timeoutSecs.toNat (JsonRpc.callOf request))

section Watched

variable {τ : Type} (host : Host (StateM τ)) (plan : ClaimPlan) (told : String → Outcome → String)

/-- All that the claims of a plan deal with: the ledger behind its endpoint, and someone who prints a text for each
outcome. -/
def live : Surroundings (StateM (Scene τ)) where
  ledger := plan.remote host.watched.transport
  announce line outcome := host.watched.print (told line outcome)
  pause := host.watched.pause plan.throttleMs

/-- All that the claims of a plan deal with in a dry run. -/
def dry : Surroundings (StateT Ledger.Submissions (StateM (Scene τ))) where
  ledger := (plan.remote host.watched.transport).dryRun
  announce line outcome := liftM (host.watched.print (told line outcome))
  pause := liftM (host.watched.pause plan.throttleMs)

/-- What is printed is seen. -/
theorem shown_print (passes : Request → Bool) (line : String) (outcome : Outcome) (scene : Scene τ) :
    Shown passes told [.told line outcome] scene (host.watched.print (told line outcome) scene).2 where
  output := by
    show scene.output ++ told line outcome = scene.output ++ String.join [told line outcome]
    rw [String.join_cons, String.join_nil, String.append_empty]
  sent := (List.append_nil _).symm

/-- Each event of a live session is seen. -/
theorem live_shows {scene after : Scene τ} {event : Event} (happens : (plan.live host told).Happens scene after event) :
    Shown (fun _ => true) told [event] scene after := by
  cases event with
  | asked request answer =>
    obtain rfl := (Prod.mk.inj happens).2
    exact ⟨String.append_empty.symm, rfl⟩
  | told line outcome =>
    obtain rfl := (Prod.mk.inj happens).2
    exact shown_print host told _ line outcome scene
  | paused =>
    obtain rfl := (Prod.mk.inj happens).2
    exact ⟨String.append_empty.symm, (List.append_nil _).symm⟩

/-- Each event of a dry session is seen but for the submissions. -/
theorem dry_shows {w w' : Ledger.Submissions × Scene τ} {event : Event}
    (happens : (plan.dry host told).paired.Happens w w' event) : Shown Request.isRead told [event] w.2 w'.2 := by
  cases event with
  | asked request answer =>
    obtain rfl := (Prod.mk.inj happens).2
    cases request with
    | submit raw => exact ⟨String.append_empty.symm, (List.append_nil _).symm⟩
    | _ => exact ⟨String.append_empty.symm, rfl⟩
  | told line outcome =>
    obtain rfl := (Prod.mk.inj happens).2
    exact shown_print host told _ line outcome w.2
  | paused =>
    obtain rfl := (Prod.mk.inj happens).2
    exact ⟨String.append_empty.symm, (List.append_nil _).symm⟩

/-- Whether a request of a plan goes to its endpoint: in a dry run submissions do not. -/
def passes (request : Request) : Bool := !plan.dryRun || request.isRead

/-- Events that happen one after the other when the claims of a plan are made on a host. -/
def Plays (scene : Scene τ) (events : List Event) (after : Scene τ) : Prop :=
  if plan.dryRun then ∃ kept, (plan.dry host told).paired.Plays ([], scene) events (kept, after)
  else (plan.live host told).Plays scene events after

variable {host plan told} in
/-- All that happens is seen but for the submissions of a dry run. -/
theorem Plays.shown {scene after : Scene τ} {events : List Event} (plays : plan.Plays host told scene events after) :
    Shown plan.passes told events scene after := by
  unfold Plays at plays
  cases kind : plan.dryRun with
  | true =>
    have alike : plan.passes = Request.isRead := funext fun request => by rw [passes, kind]; rfl
    rw [if_pos kind] at plays
    obtain ⟨kept, plays⟩ := plays
    rw [alike]
    exact Shown.of_plays Prod.snd (dry_shows host plan told) plays
  | false =>
    have alike : plan.passes = fun _ => true := funext fun request => by rw [passes, kind]; rfl
    rw [if_neg (by rw [kind]; exact Bool.false_ne_true)] at plays
    rw [alike]
    exact Shown.of_plays id (live_shows host plan told) plays

/-- With a valid endpoint claims are made on the ledger behind it, or on a dry run over that ledger. -/
theorem run_connected (valid : Endpoint.isValid plan.ledger.endpoint = true) (scene : Scene τ) :
    plan.run host.watched (fun line outcome => host.watched.print (told line outcome)) scene =
      if plan.dryRun then
        (plan.runOn (plan.dry host told).ledger (plan.dry host told).announce (plan.dry host told).pause).run.run'
          [] scene
      else
        (plan.runOn (plan.live host told).ledger (plan.live host told).announce (plan.live host told).pause).run
          scene := by
  have connected : plan.ledger.connect host.watched.transport = .ok (plan.remote host.watched.transport) := if_pos valid
  rw [run, exceptT_bind_apply, attempt_apply, connected]
  cases plan.dryRun with
  | true => rfl
  | false => rfl

variable {host plan told}

/-- A live session tells what its plan comes to. -/
theorem runOn_live {scene after : Scene τ} {result : Except StartError (List Outcome)}
    (ran : plan.session (plan.live host told) scene = (result, after)) :
    (plan.runOn (plan.live host told).ledger (plan.live host told).announce (plan.live host told).pause).run scene =
      (result.mapError .claim, after) := by
  rw [plan.runOn_eq (plan.live host told)]
  obtain ⟨rfl, rfl⟩ := Prod.mk.inj ran
  rfl

/-- A dry session tells what its plan comes to. -/
theorem runOn_dry {scene : Scene τ} {w : Ledger.Submissions × Scene τ} {result : Except StartError (List Outcome)}
    (ran : plan.session (plan.dry host told).paired ([], scene) = (result, w)) :
    (plan.runOn (plan.dry host told).ledger (plan.dry host told).announce (plan.dry host told).pause).run.run'
      [] scene = (result.mapError .claim, w.2) := by
  rw [session, session_paired] at ran
  rw [plan.runOn_eq (plan.dry host told)]
  exact run'_of_paired ran (Except.mapError Failure.claim)

variable (host plan told)

/-- **Claims with a valid endpoint are a session**, whose minutes tell what happened. -/
theorem run_plays (valid : Endpoint.isValid plan.ledger.endpoint = true) (scene : Scene τ) :
    ∃ result events after,
      plan.run host.watched (fun line outcome => host.watched.print (told line outcome)) scene =
        (result.mapError .claim, after) ∧
      plan.Plays host told scene events after ∧ plan.Minutes events result := by
  rw [run_connected host plan told valid]
  unfold Plays
  cases plan.dryRun with
  | true =>
    obtain ⟨result, events, w, ran, plays, minutes⟩ := session_plays (plan.dry host told).paired plan.signer
      plan.contract plan.fees plan.chainId plan.reward plan.accounts ([], scene)
    refine ⟨result, events, w.2, ?_, ?_, minutes⟩
    · rw [if_pos rfl]
      exact runOn_dry ran
    · rw [if_pos rfl]
      exact ⟨w.1, plays⟩
  | false =>
    obtain ⟨result, events, after, ran, plays, minutes⟩ := session_plays (plan.live host told) plan.signer
      plan.contract plan.fees plan.chainId plan.reward plan.accounts scene
    refine ⟨result, events, after, ?_, ?_, minutes⟩
    · rw [if_neg Bool.false_ne_true]
      exact runOn_live ran
    · rw [if_neg Bool.false_ne_true]
      exact plays

/-- Without a valid endpoint nothing is done at all. -/
theorem run_invalid (invalid : Endpoint.isValid plan.ledger.endpoint = false) (scene : Scene τ) :
    plan.run host.watched (fun line outcome => host.watched.print (told line outcome)) scene =
      (.error (.ledger (JsonRpc.refusal host.transport.wording plan.ledger.endpoint)), scene) := by
  have refused : plan.ledger.connect host.watched.transport =
      .error (JsonRpc.refusal host.transport.wording plan.ledger.endpoint) :=
    if_neg (by rw [invalid]; exact Bool.false_ne_true)
  rw [run, exceptT_bind_apply, attempt_apply, refused]
  rfl

end Watched

/-! ## Dry runs -/

/-- Calls for reads submit nothing. -/
theorem submit_not_mem_reads (requests : List Request) :
    Method.submit ∉ ((requests.filter Request.isRead).map JsonRpc.callOf).map (·.method) := by
  intro mem
  obtain ⟨call, mem, method⟩ := List.mem_map.mp mem
  obtain ⟨request, passed, rfl⟩ := List.mem_map.mp mem
  have read := (List.mem_filter.mp passed).2
  cases request with
  | submit raw => cases read
  | _ => cases method

/-- **A dry run keeps every submission to itself.** Put to a dry run over whatever ledger, a sequence of requests comes
to what `Ledger.Overlaid` tells: the ledger below gets the reads, each once and as they are, and nothing else; answers
to reads are passed on, sequence numbers going up by the submissions before; submissions succeed and are kept in order.
So the claims of a plan for a dry run, on any host at all, never send a submission. -/
theorem dryRun_submits_nothing :
    (∀ {σ : Type} (inner : Ledger (StateM σ)) (requests : List Request) (kept : Ledger.Submissions) (w : σ),
      ∃ above below w', Ledger.Overlaid inner requests kept w above below w') ∧
    ∀ {τ : Type} (host : Host (StateM τ)) (plan : ClaimPlan) (told : String → Outcome → String) (scene : Scene τ),
      ∃ calls,
        (run host.watched { plan with dryRun := true } (fun line outcome => host.watched.print (told line outcome))
          scene).2.sent = scene.sent ++ calls ∧
        Method.submit ∉ calls.map (·.method) := by
  refine ⟨fun inner requests kept w => Ledger.dryRun_overlaid inner requests kept w, ?_⟩
  intro τ host plan told scene
  cases valid : Endpoint.isValid plan.ledger.endpoint with
  | false =>
    refine ⟨[], ?_, List.not_mem_nil⟩
    rw [run_invalid host { plan with dryRun := true } told valid, List.append_nil]
  | true =>
    obtain ⟨result, events, after, ran, plays, -⟩ := run_plays host { plan with dryRun := true } told valid scene
    refine ⟨((requests events).filter Request.isRead).map JsonRpc.callOf, ?_, submit_not_mem_reads _⟩
    rw [ran]
    exact plays.shown.sent

end ClaimPlan

end Allotment
