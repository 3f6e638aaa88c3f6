import Allotment.Proofs.Command.Planning
import Allotment.Proofs.Plan.Claim

/-!
# How a run of the program ends

An accepted command line leads to one of two endings. Either nothing was printed, the run failed with exit code 1, and
it had not got under way: there was no plan, or no endpoint, or no chain id. Or the run succeeded, and standard output
holds what was planned to be there: for claims a line for each account and the totals (`claimText`), for a snapshot the
totals of what was written.

The stages are taken one by one: planning is not seen by anyone (`Invocation.claimPlan_watched`), what was planned is
made and reported (`claims_end`, `snapshot_ends`), the two make a performance (`Invocation.claims_performed`,
`Invocation.snapshot_performed`), and the exit code tells how that went (`run_ends`).
-/

namespace Allotment.Command

open Claim

/-! ## The text of a report -/

/-- What claims print: for each account its line, a tab and the outcome, and behind all of them the totals. -/
def claimText (lines : List String) (outcomes : List Outcome) : String :=
  String.join ((lines.zip outcomes).map fun (line, outcome) => line ++ "\t" ++ outcome.text ++ "\n") ++
    "processed=" ++ toString lines.length ++
    " submitted=" ++ toString (outcomes.countP Outcome.isSubmitted) ++
    " skipped=" ++ toString (outcomes.countP Outcome.isSkipped) ++
    " failed=" ++ toString (outcomes.countP Outcome.isFailed) ++ "\n"

/-- Every outcome is of one kind. -/
theorem total_ofOutcomes (outcomes : List Outcome) : (Report.ofOutcomes outcomes).total = outcomes.length := by
  induction outcomes with
  | nil => rfl
  | cons outcome outcomes ih =>
    simp only [Report.total, Report.ofOutcomes, List.countP_cons, List.length_cons] at ih ⊢
    have one : (if outcome.isSubmitted = true then 1 else 0) + (if outcome.isSkipped = true then 1 else 0) +
        (if outcome.isFailed = true then 1 else 0) = 1 := by
      cases outcome <;> rfl
    omega

/-- The lines that were printed, and the report behind them, are the text for claims. -/
theorem claimText_eq {lines : List String} {outcomes : List Outcome} (each : outcomes.length = lines.length) :
    String.join ((lines.zip outcomes).map fun (line, outcome) => outcomeLine line outcome) ++
        ((Report.ofOutcomes outcomes).text ++ "\n") = claimText lines outcomes := by
  have total : (Report.ofOutcomes outcomes).total = lines.length := (total_ofOutcomes outcomes).trans each
  unfold Report.text
  rw [total]
  simp only [claimText, Report.ofOutcomes, outcomeLine, String.append_assoc]

/-! ## Plans of a command line -/

namespace Invocation

variable {m : Type → Type} [Monad m]

/-- The plan that a command line for claims comes to. -/
def claimPlan (host : Host m) (i : Invocation) (flags : ClaimFlags) : ExceptT Failure m ClaimPlan := do
  let config ← i.config host
  config.claimPlan host.files host.environment flags.inputs

/-- The plan that a command line for a snapshot comes to. -/
def snapshotPlan (host : Host m) (i : Invocation) : ExceptT Failure m SnapshotPlan := do
  let config ← i.config host
  config.snapshotPlan host.files

/-- Claims are planned, and then they are made and reported. -/
theorem perform_claim [LawfulMonad m] (host : Host m) {i : Invocation} {flags : ClaimFlags}
    (action : i.action = .claim flags) :
    i.perform host = (do
      let plan ← i.claimPlan host flags
      let outcomes ← plan.run host fun line outcome => host.print (outcomeLine line outcome)
      host.print ((Report.ofOutcomes outcomes).text ++ "\n")) := by
  simp only [perform, action, runClaim, claimPlan, bind_assoc]

/-- A snapshot is planned, and then it is made and reported. -/
theorem perform_snapshot [LawfulMonad m] (host : Host m) {i : Invocation} {flags : SnapshotFlags}
    (action : i.action = .snapshot flags) :
    i.perform host = (do
      let plan ← i.snapshotPlan host
      let summary ← plan.run host
      host.print (summary.text ++ "\n")) := by
  simp only [perform, action, runSnapshot, snapshotPlan, bind_assoc]

variable {τ : Type} (host : Host (StateM τ)) (i : Invocation) (scene : Scene τ)

/-- Nobody outside sees anything of planning. -/
theorem claimPlan_watched (flags : ClaimFlags) :
    i.claimPlan host.watched flags scene =
      ((i.claimPlan host flags scene.state).1, { scene with state := (i.claimPlan host flags scene.state).2 }) := by
  have same : i.claimPlan host.watched flags = ExceptT.mk (Scene.inside (i.claimPlan host flags).run) :=
    ((Scene.insideCorrespondence τ).exceptT Failure).rel_bind
      (config_rel host.files_watched host.environment_watched i)
      fun config => Config.claimPlan_rel host.files_watched host.environment_watched config flags.inputs
  rw [same]
  rfl

theorem snapshotPlan_watched :
    i.snapshotPlan host.watched scene =
      ((i.snapshotPlan host scene.state).1, { scene with state := (i.snapshotPlan host scene.state).2 }) := by
  have same : i.snapshotPlan host.watched = ExceptT.mk (Scene.inside (i.snapshotPlan host).run) :=
    ((Scene.insideCorrespondence τ).exceptT Failure).rel_bind
      (config_rel host.files_watched host.environment_watched i)
      fun config => Config.snapshotPlan_rel host.files_watched config
  rw [same]
  rfl

end Invocation

/-! ## Claims -/

section Claims

variable {τ : Type} (host : Host (StateM τ)) (i : Invocation) (flags : ClaimFlags) (scene : Scene τ)

/-- Why a run of claims does not get to the first account: there is no plan, no endpoint or no chain id. -/
inductive StartFailure : Failure → Prop where
  | unplanned {cause : Failure} {state : τ} : i.claimPlan host flags scene.state = (.error cause, state) →
      StartFailure cause
  | invalidEndpoint {plan : ClaimPlan} {state : τ} : i.claimPlan host flags scene.state = (.ok plan, state) →
      Endpoint.isValid plan.ledger.endpoint = false →
      StartFailure (.ledger (JsonRpc.refusal host.transport.wording plan.ledger.endpoint))
  | noChainId {plan : ClaimPlan} {state : τ} {cause : LedgerError} {after : Scene τ} :
      i.claimPlan host flags scene.state = (.ok plan, state) → plan.chainId = none →
      plan.Plays host outcomeLine { scene with state } [.asked .chainId (.error cause)] after →
      StartFailure (.claim (.chainId cause))

/-- A run of claims that did not get to the first account: nothing was printed and nothing submitted. -/
structure Unstarted (cause : Failure) (after : Scene τ) : Prop where
  reason : StartFailure host i flags scene cause
  output : after.output = scene.output
  sent : ∃ calls, after.sent = scene.sent ++ calls ∧ Method.submit ∉ calls.map (·.method)

/-- A run of claims that was reported: there is one outcome for each account of the plan, the minutes of what happened
lead to the outcomes, and they were printed with their totals. -/
structure Reported (plan : ClaimPlan) (events : List Event) (outcomes : List Outcome) (after : Scene τ) : Prop where
  planned : ∃ state between, i.claimPlan host flags scene.state = (.ok plan, state) ∧
    plan.Plays host outcomeLine { scene with state } events between
  minutes : plan.Minutes events (.ok outcomes)
  each : outcomes.length = plan.accounts.length
  kinds : outcomes.countP Outcome.isSubmitted + outcomes.countP Outcome.isSkipped +
    outcomes.countP Outcome.isFailed = plan.accounts.length
  output : after.output = scene.output ++ claimText plan.accounts outcomes

/-- Claims that were planned are made and reported, unless they do not start. -/
theorem claims_end {plan : ClaimPlan} {state : τ} (planned : i.claimPlan host flags scene.state = (.ok plan, state)) :
    let made : ExceptT Failure (StateM (Scene τ)) Unit := do
      let outcomes ← plan.run host.watched fun line outcome => host.watched.print (outcomeLine line outcome)
      host.watched.print ((Report.ofOutcomes outcomes).text ++ "\n")
    (∃ cause after, made { scene with state } = (.error cause, after) ∧ Unstarted host i flags scene cause after) ∨
      ∃ plan events outcomes after, made { scene with state } = (.ok (), after) ∧
        Reported host i flags scene plan events outcomes after := by
  dsimp only
  cases valid : Endpoint.isValid plan.ledger.endpoint with
  | false =>
    left
    refine ⟨.ledger (JsonRpc.refusal host.transport.wording plan.ledger.endpoint), { scene with state }, ?_,
      .invalidEndpoint planned valid, rfl, [], (List.append_nil _).symm, List.not_mem_nil⟩
    rw [exceptT_bind_apply, ClaimPlan.run_invalid host plan outcomeLine valid]
  | true =>
    obtain ⟨result, events, between, ran, plays, minutes⟩ :=
      ClaimPlan.run_plays host plan outcomeLine valid { scene with state }
    have shown := plays.shown
    rw [exceptT_bind_apply, ran]
    cases result with
    | error failure =>
      left
      obtain ⟨cause, noId, rfl, rfl⟩ := minutes.of_error
      refine ⟨.claim (.chainId cause), between, rfl, .noChainId planned noId plays, ?_, _, shown.sent, ?_⟩
      · exact shown.output.trans String.append_empty
      · have passed : plan.passes .chainId = true := Bool.or_true _
        simp [requests, passed, JsonRpc.callOf]
    | ok outcomes =>
      right
      obtain ⟨each, announced⟩ := minutes.announcements_eq
      refine ⟨plan, events, outcomes, _, rfl, ⟨state, between, planned, plays⟩, minutes, each, ?_, ?_⟩
      · exact (total_ofOutcomes outcomes).trans each
      · show between.output ++ ((Report.ofOutcomes outcomes).text ++ "\n") = _
        rw [shown.output, announced, String.append_assoc, claimText_eq each]

/-- Claims are made and reported, unless they are not planned or do not start. -/
theorem Invocation.claims_performed (action : i.action = .claim flags) :
    (∃ cause after, i.perform host.watched scene = (.error cause, after) ∧ Unstarted host i flags scene cause after) ∨
      ∃ plan events outcomes after, i.perform host.watched scene = (.ok (), after) ∧
        Reported host i flags scene plan events outcomes after := by
  rw [i.perform_claim host.watched action, exceptT_bind_apply, i.claimPlan_watched]
  cases planned : i.claimPlan host flags scene.state with
  | mk outcome state =>
    cases outcome with
    | error cause =>
      left
      have unsent : ∃ calls, scene.sent = scene.sent ++ calls ∧ Method.submit ∉ calls.map (·.method) :=
        ⟨[], (List.append_nil _).symm, List.not_mem_nil⟩
      exact ⟨cause, { scene with state }, rfl, .unplanned planned, rfl, unsent⟩
    | ok plan => exact claims_end host i flags scene planned

end Claims

/-! ## Snapshots -/

section Snapshots

variable {τ : Type} (host : Host (StateM τ)) (i : Invocation) (scene : Scene τ)

/-- Why there is no snapshot: there is no plan, or the file is not written. -/
inductive SnapshotFailure : Failure → Prop where
  | unplanned {cause : Failure} {state : τ} : i.snapshotPlan host scene.state = (.error cause, state) →
      SnapshotFailure cause
  | unwritten {plan : SnapshotPlan} {state between written : τ} {s : Snapshot} {cause : Snapshot.ArtifactError} :
      i.snapshotPlan host scene.state = (.ok plan, state) →
      (plan.registry host.transport).snapshot plan.dev plan.node state = (s, between) →
      s.write host.files plan.output between = (.error cause, written) → SnapshotFailure (.artifact cause)

/-- A snapshot that was written and reported with its totals. -/
structure Summarized (plan : SnapshotPlan) (s : Snapshot) (after : Scene τ) : Prop where
  written : ∃ state between written, i.snapshotPlan host scene.state = (.ok plan, state) ∧
    (plan.registry host.transport).snapshot plan.dev plan.node state = (s, between) ∧
    s.write host.files plan.output between = (.ok (), written)
  output : after.output = scene.output ++ (s.summary.text ++ "\n")

/-- Nothing is printed while a snapshot is made. -/
theorem run_quiet (plan : SnapshotPlan) :
    ((Scene.quietCorrespondence τ).exceptT Failure).rel (plan.run host.watched) (plan.run host) := by
  let c := Scene.quietCorrespondence τ
  refine (c.exceptT Failure).rel_bind (lift_rel (SnapshotPlan.snapshot_rel c host.transport_quiet rfl plan)) fun s => ?_
  refine (c.exceptT Failure).rel_bind (attempt_rel _ (s.write_rel host.files_quiet plan.output)) fun _ => ?_
  exact (c.exceptT Failure).rel_pure _

/-- A snapshot that was planned is made and reported, unless its file is not written. -/
theorem snapshot_ends {plan : SnapshotPlan} {state : τ}
    (planned : i.snapshotPlan host scene.state = (.ok plan, state)) :
    let made : ExceptT Failure (StateM (Scene τ)) Unit := do
      let summary ← plan.run host.watched
      host.watched.print (summary.text ++ "\n")
    (∃ cause after, made { scene with state } = (.error cause, after) ∧ SnapshotFailure host i scene cause ∧
        after.output = scene.output) ∨
      ∃ plan s after, made { scene with state } = (.ok (), after) ∧ Summarized host i scene plan s after := by
  dsimp only
  obtain ⟨sent, ran⟩ : ∃ sent, plan.run host.watched { scene with state } =
      ((plan.run host state).1, ⟨(plan.run host state).2, scene.output, sent⟩) := run_quiet host plan _
  rw [exceptT_bind_apply, ran, SnapshotPlan.run_eq]
  dsimp only
  cases asked : (plan.registry host.transport).snapshot plan.dev plan.node state with
  | mk s between =>
    cases wrote : s.write host.files plan.output between with
    | mk outcome written =>
      cases outcome with
      | error cause =>
        left
        exact ⟨.artifact cause, ⟨written, scene.output, sent⟩, rfl, .unwritten planned asked wrote, rfl⟩
      | ok _ =>
        right
        refine ⟨plan, s, (host.watched.print (s.summary.text ++ "\n") ⟨written, scene.output, sent⟩).2, rfl, ?_, rfl⟩
        exact ⟨state, between, written, planned, asked, wrote⟩

/-- A snapshot is made and reported, unless it is not planned or not written. -/
theorem Invocation.snapshot_performed {flags : SnapshotFlags} (action : i.action = .snapshot flags) :
    (∃ cause after, i.perform host.watched scene = (.error cause, after) ∧ SnapshotFailure host i scene cause ∧
        after.output = scene.output) ∨
      ∃ plan s after, i.perform host.watched scene = (.ok (), after) ∧ Summarized host i scene plan s after := by
  rw [i.perform_snapshot host.watched action, exceptT_bind_apply, i.snapshotPlan_watched]
  cases planned : i.snapshotPlan host scene.state with
  | mk outcome state =>
    cases outcome with
    | error cause =>
      left
      exact ⟨cause, { scene with state }, rfl, .unplanned planned, rfl⟩
    | ok plan => exact snapshot_ends host i scene planned

end Snapshots

/-! ## The whole program -/

/-- An accepted command line is carried out, and how that goes is how the run ends. -/
theorem run_accepted {ρ : Type} (host : Host (StateM ρ)) {arguments : List String} {i : Invocation}
    (accepted : Invocation.ofArguments arguments = .ok i) (w : ρ) :
    run host arguments w =
      match i.perform host w with
      | (.ok (), w) => (.success, w)
      | (.error cause, w) => (.failure cause, w) := by
  unfold run
  rw [accepted]
  simp only [bind, StateT.bind, ExceptT.run]
  generalize i.perform host w = made
  obtain ⟨outcome, w⟩ := made
  cases outcome with
  | ok _ => rfl
  | error cause => rfl

/-- **How a run of the program ends.** Whatever its surroundings are like, an accepted command line for claims ends in
one of two ways. Either the exit code is 1, and there was no plan, no endpoint or no chain id, so that nothing was
printed and nothing submitted; or it is 0, whatever became of the single accounts, and what was printed is a line for
each account of the plan, with the outcome that the journal of the run leads to, and then the totals. A command line
for a snapshot ends with exit code 1 and nothing printed, or with 0 and the totals of the snapshot that was written. -/
theorem run_ends {arguments : List String} {i : Invocation} (accepted : Invocation.ofArguments arguments = .ok i)
    {τ : Type} (host : Host (StateM τ)) (scene : Scene τ) :
    ∃ ending after, run host.watched arguments scene = (ending, after) ∧
      match i.action with
      | .claim flags =>
        (ending.code = 1 ∧ ∃ cause, ending = .failure cause ∧ Unstarted host i flags scene cause after) ∨
          (ending.code = 0 ∧ ∃ plan events outcomes, Reported host i flags scene plan events outcomes after)
      | .snapshot _ =>
        (ending.code = 1 ∧ after.output = scene.output ∧
            ∃ cause, ending = .failure cause ∧ SnapshotFailure host i scene cause) ∨
          (ending.code = 0 ∧ ∃ plan s, Summarized host i scene plan s after) := by
  rw [run_accepted host.watched accepted]
  cases action : i.action with
  | claim flags =>
    obtain ⟨cause, after, performed, unstarted⟩ | ⟨plan, events, outcomes, after, performed, reported⟩ :=
      i.claims_performed host flags scene action
    · rw [performed]
      exact ⟨.failure cause, after, rfl, .inl ⟨rfl, cause, rfl, unstarted⟩⟩
    · rw [performed]
      exact ⟨.success, after, rfl, .inr ⟨rfl, plan, events, outcomes, reported⟩⟩
  | snapshot flags =>
    obtain ⟨cause, after, performed, failure, silent⟩ | ⟨plan, s, after, performed, summarized⟩ :=
      i.snapshot_performed host scene action
    · rw [performed]
      exact ⟨.failure cause, after, rfl, .inl ⟨rfl, silent, cause, rfl, failure⟩⟩
    · rw [performed]
      exact ⟨.success, after, rfl, .inr ⟨rfl, plan, s, summarized⟩⟩

/-- A world with settings and a key, where no endpoint is reached. -/
def settled : World Unit where
  files := ⟨[(["s"], .file "\x7b\"ledger\":\x7b\"endpoint\":\"http://h\",\"chain_id\":7\x7d\x7d".toUTF8)], []⟩
  environment := [
    ("CONTRIBUTOR_REWARD_ADDRESS", "0x0000000000000000000000000000000000000001"),
    ("REWARD_TOKEN_ADDRESS", "0x0000000000000000000000000000000000000002"),
    ("AUTO_CLAIM_PRIVATE_KEY", "0000000000000000000000000000000000000000000000000000000000000001")]
  output := ""
  network := ()

/-- Claims for two lines, neither of which comes to anything, end well all the same. -/
theorem run_ends_settled :
    let account := "0x0000000000000000000000000000000000000003"
    let arguments := ["claim", "-c", "s", "-a", "nobody", "-a", account]
    let i : Invocation :=
      ⟨⟨some ⟨"s"⟩, none, false⟩, .claim { ClaimFlags.none with accounts := ["nobody", account] }⟩
    Invocation.ofArguments arguments = .ok i ∧
      ∃ ending after plan events outcomes,
        run (World.host World.unreachable).watched arguments ⟨settled, "", []⟩ = (ending, after) ∧ ending.code = 0 ∧
        Reported (World.host World.unreachable) i { ClaimFlags.none with accounts := ["nobody", account] }
          ⟨settled, "", []⟩ plan events outcomes after ∧
        after.output = "nobody\tfailed(invalid-address)\n" ++ account ++ "\tskipped(query-failed)\n" ++
          "processed=2 submitted=0 skipped=1 failed=1\n" := by
  intro account arguments i
  have accepted : Invocation.ofArguments arguments = .ok i := by
    have parsed : (Invocation.ofArguments arguments).toOption = some i := by decide +kernel
    cases given : Invocation.ofArguments arguments with
    | error ending =>
      rw [given] at parsed
      cases parsed
    | ok j =>
      rw [given] at parsed
      exact congrArg Except.ok (Option.some.inj parsed)
  refine ⟨accepted, ?_⟩
  have shows : (match run (World.host World.unreachable).watched arguments ⟨settled, "", []⟩ with
      | (ending, after) => (ending.code, after.output)) =
      (0, "nobody\tfailed(invalid-address)\n" ++ account ++ "\tskipped(query-failed)\n" ++
        "processed=2 submitted=0 skipped=1 failed=1\n") := by
    decide +kernel
  obtain ⟨ending, after, ran, ends⟩ := run_ends accepted (World.host World.unreachable) ⟨settled, "", []⟩
  rw [ran] at shows
  obtain ⟨succeeded, printed⟩ := Prod.mk.inj shows
  obtain ⟨failed, -⟩ | ⟨-, plan, events, outcomes, reported⟩ := ends
  · rw [succeeded] at failed
    cases failed
  · exact ⟨ending, after, plan, events, outcomes, ran, succeeded, reported, printed⟩

end Allotment.Command
