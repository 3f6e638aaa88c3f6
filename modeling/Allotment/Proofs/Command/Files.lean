import Allotment.Proofs.Command.Run
import Allotment.Proofs.Plan.Ready
import Allotment.Proofs.Settings.FirstUse
import Allotment.Proofs.Settings.Layers
import Allotment.Proofs.Snapshot.Atomic

/-!
# Which files a run touches

* Two hosts with corresponding endpoints, output and time cannot be told apart by claims being made
  (`ClaimPlan.run_rel`), which need no files; so no file is touched (`ClaimPlan.files_run`);
* with known variables, what is planned in a world is planned from its files alone (`World.filesWith`), and once the
  settings are loaded nothing is written any more (`Config.claimPlan_host`, `Config.snapshotPlan_host`);
* so a run of claims leaves the files as loading the settings did (`Command.files_run_claim`), and a run of a snapshot
  but for the file of the snapshot (`Command.files_run_snapshot`).
-/

namespace Allotment

open Claim

/-! ## Making claims -/

section Corresponding

variable {m n : Type → Type} [Monad m] [Monad n]

/-- A step that was settled before goes on or fails. -/
theorem attempt_pure_bind [LawfulMonad m] {ε α β : Type} (failure : ε → Failure) (step : Except ε α)
    (next : α → ExceptT Failure m β) :
    (attempt failure (pure step) >>= next) =
      match step with
      | .ok a => next a
      | .error e => throw (failure e) := by
  apply ExceptT.ext
  rw [ExceptT.run_bind]
  cases step with
  | ok a => simp [attempt, Except.mapError]
  | error e => simp [attempt, Except.mapError]

/-- Dry runs over ledgers that correspond do so with what they keep back. -/
theorem dryRun_stateT [LawfulMonad m] [LawfulMonad n] (c : Correspondence m n) {ledger : Ledger m} {ledger' : Ledger n}
    (asks : ∀ request, c.rel (ledger request) (ledger' request)) (request : Request) :
    (c.stateT Ledger.Submissions).rel (ledger.dryRun request) (ledger'.dryRun request) := by
  cases request with
  | submit raw =>
    refine (c.stateT Ledger.Submissions).rel_bind (fun kept => c.rel_pure ((), kept ++ [raw])) fun _ => ?_
    exact (c.stateT Ledger.Submissions).rel_pure _
  | sequenceNumber account =>
    refine (c.stateT Ledger.Submissions).rel_bind (c.lift_stateT (asks _)) fun answer => ?_
    refine (c.stateT Ledger.Submissions).rel_bind (fun kept => c.rel_pure (kept, kept)) fun kept => ?_
    exact (c.stateT Ledger.Submissions).rel_pure _
  | call contract data => exact c.lift_stateT (asks _)
  | chainId => exact c.lift_stateT (asks _)

namespace ClaimPlan

theorem runOn_rel [LawfulMonad m] [LawfulMonad n] (c : Correspondence m n) (plan : ClaimPlan) {e : Surroundings m}
    {e' : Surroundings n} (asks : ∀ request, c.rel (e.ledger request) (e'.ledger request))
    (tells : ∀ line outcome, c.rel (e.announce line outcome) (e'.announce line outcome))
    (pauses : c.rel e.pause e'.pause) :
    c.rel (plan.runOn e.ledger e.announce e.pause).run (plan.runOn e'.ledger e'.announce e'.pause).run := by
  rw [runOn_eq, runOn_eq, map_eq_pure_bind, map_eq_pure_bind]
  exact c.rel_bind (session_rel c asks tells pauses _ _ _ _ _ _) fun _ => c.rel_pure _

/-- Claims need endpoints, someone to tell and time, and nothing else. -/
theorem run_rel [LawfulMonad m] [LawfulMonad n] (c : Correspondence m n) (plan : ClaimPlan) {host : Host m}
    {host' : Host n} {announce : String → Outcome → m Unit} {announce' : String → Outcome → n Unit}
    (carries : ∀ endpoint seconds call,
      c.rel (host.transport endpoint seconds call) (host'.transport endpoint seconds call))
    (wording : host.transport.wording = host'.transport.wording)
    (tells : ∀ line outcome, c.rel (announce line outcome) (announce' line outcome))
    (pauses : ∀ milliseconds, c.rel (host.pause milliseconds) (host'.pause milliseconds)) :
    (c.exceptT Failure).rel (plan.run host announce) (plan.run host' announce') := by
  have asks (request : Request) :
      c.rel (plan.remote host.transport request) (plan.remote host'.transport request) := by
    rw [remote, remote, wording]
    exact c.rel_bind (carries _ _ _) fun _ => c.rel_pure _
  unfold run
  rw [attempt_pure_bind, attempt_pure_bind]
  cases valid : Endpoint.isValid plan.ledger.endpoint with
  | false =>
    have refused : Endpoint.isValid plan.ledger.endpoint ≠ true := by rw [valid]; exact Bool.false_ne_true
    simp only [LedgerPlan.connect, JsonRpc.connect, if_neg refused, wording]
    exact c.rel_pure _
  | true =>
    have connected : plan.ledger.connect host.transport = .ok (plan.remote host.transport) := if_pos valid
    have connected' : plan.ledger.connect host'.transport = .ok (plan.remote host'.transport) := if_pos valid
    rw [connected, connected']
    dsimp only
    cases plan.dryRun with
    | true =>
      let e : Surroundings (StateT Ledger.Submissions m) :=
        ⟨(plan.remote host.transport).dryRun, fun line outcome => liftM (announce line outcome),
          liftM (host.pause plan.throttleMs)⟩
      let e' : Surroundings (StateT Ledger.Submissions n) :=
        ⟨(plan.remote host'.transport).dryRun, fun line outcome => liftM (announce' line outcome),
          liftM (host'.pause plan.throttleMs)⟩
      have asksDry (request : Request) : (c.stateT Ledger.Submissions).rel (e.ledger request) (e'.ledger request) :=
        dryRun_stateT c asks request
      have made := runOn_rel (c.stateT Ledger.Submissions) plan asksDry
        (fun line outcome => c.lift_stateT (tells line outcome)) (c.lift_stateT (pauses plan.throttleMs)) []
      show c.rel (Prod.fst <$> _) (Prod.fst <$> _)
      rw [map_eq_pure_bind, map_eq_pure_bind]
      exact c.rel_bind made fun _ => c.rel_pure _
    | false =>
      let e : Surroundings m := ⟨plan.remote host.transport, announce, host.pause plan.throttleMs⟩
      let e' : Surroundings n := ⟨plan.remote host'.transport, announce', host'.pause plan.throttleMs⟩
      have asksLive : ∀ request, c.rel (e.ledger request) (e'.ledger request) := asks
      exact runOn_rel c plan asksLive tells (pauses plan.throttleMs)

/-- A computation on a world that changes no file. -/
def filesKept (σ : Type) : Correspondence (StateM (World σ)) (StateM (World σ)) where
  rel x _ := ∀ world, (x world).2.files = world.files
  rel_pure _ _ := rfl
  rel_bind first second world := (second _ _).trans (first world)

/-- Whatever claims come to, no file is touched. -/
theorem files_run {σ : Type} (answer : JsonRpc.Transport (StateM σ)) (plan : ClaimPlan)
    (told : String → Outcome → String) (world : World σ) :
    (plan.run (World.host answer) (fun line outcome => (World.host answer).print (told line outcome)) world).2.files =
      world.files := by
  let host := World.host answer
  have carries (endpoint : String) (seconds : Nat) (call : JsonRpc.Call) : (filesKept σ).rel
      (host.transport endpoint seconds call) (host.transport endpoint seconds call) := fun _ => rfl
  have tells (line : String) (outcome : Outcome) : (filesKept σ).rel
      (host.print (told line outcome)) (host.print (told line outcome)) := fun _ => rfl
  have pauses (milliseconds : UInt64) : (filesKept σ).rel (host.pause milliseconds) (host.pause milliseconds) :=
    fun _ => rfl
  exact run_rel (filesKept σ) plan carries rfl tells pauses world

end ClaimPlan

end Corresponding

/-- Without troubles, too, writing a snapshot is all or nothing. -/
theorem Snapshot.written_write_tree (s : Snapshot) (path : Path) (tree : FileTree) :
    Written path s tree (s.write FileTree.files path tree).1 (s.write FileTree.files path tree).2 := by
  have same : s.write Medium.files path ⟨tree, []⟩ =
      ((s.write FileTree.files path tree).1, ⟨(s.write FileTree.files path tree).2, []⟩) :=
    s.write_rel Medium.corresponding_untroubled path tree
  have written := s.written_write path ⟨tree, []⟩
  generalize s.write Medium.files path ⟨tree, []⟩ = made at same written
  obtain rfl := same
  dsimp only at written
  exact written

/-! ## Loading settings -/

namespace Settings

variable {path : Path} {tree tree' : FileTree} {s : Settings}

/-- A file whose text is a configuration. -/
def Holds (tree : FileTree) (path : Path) (c : Config) : Prop :=
  ∃ text, tree.read path = .ok text.toUTF8 ∧ Config.ofText text = .ok c

/-- Settings that were loaded are what their file holds. -/
theorem holds_of_load (loaded : load FileTree.files path tree = (.ok s, tree')) :
    tree' = tree ∧ s.path = path ∧ Holds tree path s.config := by
  cases there : tree.present path with
  | false =>
    rw [load_of_absent there] at loaded
    cases loaded
  | true =>
    have found : FileTree.files.present path tree = (true, tree) := congrArg (·, tree) there
    have parts := loaded
    simp only [load, read, readConfig, bind, StateT.bind, found, if_true, FileTree.readText_eq] at parts
    cases held : tree.read path with
    | error cause =>
      rw [held] at parts
      cases parts
    | ok contents =>
      cases decoded : Files.textOf contents with
      | error cause =>
        simp only [held, Except.bind, decoded] at parts
        cases parts
      | ok text =>
        obtain rfl := Files.textOf_eq_ok_iff.mp decoded
        rw [load_of_read held, ofText] at loaded
        cases given : Config.ofText text with
        | error fault =>
          rw [given] at loaded
          cases loaded
        | ok c =>
          rw [given] at loaded
          cases loaded
          exact ⟨rfl, rfl, text, held, given⟩

section Start

variable {env : String → Option String} {service : String} {custom : Option Path}

/-- Starting leaves a file that is there as it was. -/
theorem start_of_present (there : tree.present (custom.getD (fileOf env service)) = true) :
    ∃ result, start FileTree.files (fun name => pure (env name)) service custom tree = (result, tree) := by
  obtain ⟨result, unchanged⟩ := load_unchanged (custom.getD (fileOf env service)) tree
  refine ⟨result, ?_⟩
  rw [← unchanged]
  cases custom with
  | some path => rfl
  | none =>
    rw [start, loadOrDefault_eq]
    exact loadOrCreate_of_present there

/-- The settings that a program starts with are what their file holds then. -/
theorem holds_of_start (started : start FileTree.files (fun name => pure (env name)) service custom tree =
    (.ok s, tree')) :
    s.path = custom.getD (fileOf env service) ∧ Holds tree' (custom.getD (fileOf env service)) s.config := by
  cases custom with
  | some path =>
    obtain ⟨rfl, place, holds⟩ := holds_of_load started
    exact ⟨place, holds⟩
  | none =>
    rw [start, loadOrDefault_eq, Option.getD_none] at started
    rw [Option.getD_none]
    cases there : tree.present (fileOf env service) with
    | true =>
      rw [loadOrCreate_of_present there] at started
      obtain ⟨rfl, place, holds⟩ := holds_of_load started
      exact ⟨place, holds⟩
    | false =>
      obtain ⟨rfl, held⟩ := read_of_made there started
      exact ⟨rfl, _, held, Config.ofText_standard⟩

end Start

end Settings

/-! ## Planning -/

namespace World

variable {σ : Type}

/-- With known variables, a computation on a world that is one on its files. -/
def filesWith (σ : Type) (entries : List (String × String)) :
    Correspondence (StateM (World σ)) (StateM FileTree) where
  rel x y := ∀ world, world.environment = entries → x world = onFiles y world
  rel_pure _ _ _ := rfl
  rel_bind {_ _ x y f g} first second world known := by
    show f (x world).1 (x world).2 = _
    rw [first world known]
    exact second _ _ known

variable (answer : JsonRpc.Transport (StateM σ)) (entries : List (String × String))

theorem files_host_with : Files.Corresponding (filesWith σ entries) (host answer).files FileTree.files :=
  (files_host answer).mono fun same world _ => congrFun same world

theorem environment_host_with (name : String) :
    (filesWith σ entries).rel ((host answer).environment name) (pure (valueOf? entries name)) := by
  rintro world rfl
  rfl

end World

namespace Config

theorem snapshotPlan_readOnly {m : Type → Type} [Monad m] (files : Files m) (c : Config) :
    c.snapshotPlan files.readOnly = c.snapshotPlan files := rfl

/-- Planning a snapshot leaves the files as they were, whether there is a plan or not. -/
theorem snapshotPlan_unchanged (c : Config) (tree : FileTree) :
    ∃ planned, c.snapshotPlan FileTree.files tree = (planned, tree) := by
  have asks := snapshotPlan_rel FileTree.corresponding_readOnly c
  rw [snapshotPlan_readOnly] at asks
  exact ⟨_, congrFun asks tree⟩

variable {σ : Type} (answer : JsonRpc.Transport (StateM σ)) (c : Config) (world : World σ)

/-- Claims are planned from the files, which stay as they were. -/
theorem claimPlan_host (inputs : ClaimInputs) : ∃ planned,
    c.claimPlan FileTree.files (fun name => pure (World.valueOf? world.environment name)) inputs world.files =
      (planned, world.files) ∧
    c.claimPlan (World.host answer).files (World.host answer).environment inputs world = (planned, world) := by
  obtain ⟨planned, unchanged⟩ := claimPlan_unchanged (World.valueOf? world.environment) c inputs world.files
  refine ⟨planned, unchanged, ?_⟩
  have same : c.claimPlan (World.host answer).files (World.host answer).environment inputs world = World.onFiles
      (c.claimPlan FileTree.files (fun name => pure (World.valueOf? world.environment name)) inputs) world :=
    claimPlan_rel (World.files_host_with answer world.environment)
      (World.environment_host_with answer world.environment) c inputs world rfl
  rw [same, World.onFiles_apply, unchanged]

/-- Looking variables up does nothing else. -/
theorem override_host :
    c.override (World.host answer).environment world = (c.overridden (World.valueOf? world.environment), world) := by
  have same := override_rel (World.environment_host_with answer world.environment) c world rfl
  rw [override_pure] at same
  exact same

/-- A snapshot is planned from the files, which stay as they were. -/
theorem snapshotPlan_host : ∃ planned, c.snapshotPlan (World.host answer).files world = (planned, world) := by
  obtain ⟨planned, unchanged⟩ := snapshotPlan_unchanged c world.files
  refine ⟨planned, ?_⟩
  have same : c.snapshotPlan (World.host answer).files = World.onFiles (c.snapshotPlan FileTree.files) :=
    snapshotPlan_rel (World.files_host answer) c
  rw [same, World.onFiles_apply, unchanged]

end Config

/-- In a world settings are loaded from its files. -/
theorem Settings.start_host {σ : Type} (answer : JsonRpc.Transport (StateM σ)) (service : String)
    (custom : Option Path) (world : World σ) :
    start (World.host answer).files (World.host answer).environment service custom world =
      World.onFiles (start FileTree.files (fun name => pure (World.valueOf? world.environment name)) service custom)
        world :=
  start_rel (World.files_host_with answer world.environment) (World.environment_host_with answer world.environment)
    service custom world rfl

namespace Command

namespace Invocation

variable {σ : Type} {answer : JsonRpc.Transport (StateM σ)} {i : Invocation} {world loaded : World σ}

/-- Without settings there is no configuration. -/
theorem config_of_error {e : SettingsError}
    (failed : Settings.start (World.host answer).files (World.host answer).environment programName i.globals.config
      world = (.error e, loaded)) :
    i.config (World.host answer) world = (.error (.settings e), loaded) := by
  rw [config, exceptT_bind_apply, attempt_apply, failed]
  rfl

/-- The configuration is made of the settings, the variables over them, and what was given over these. -/
theorem config_of_ok {s : Settings}
    (started : Settings.start (World.host answer).files (World.host answer).environment programName i.globals.config
      world = (.ok s, loaded)) :
    i.config (World.host answer) world =
      (.ok (i.apply (s.config.overridden (World.valueOf? loaded.environment))), loaded) := by
  rw [config, exceptT_bind_apply, attempt_apply, started]
  have looked : (ExceptT.lift (s.config.override (World.host answer).environment) : ExceptT Failure _ _) loaded =
      (.ok (s.config.overridden (World.valueOf? loaded.environment)), loaded) :=
    congrArg (Prod.map Except.ok id) (Config.override_host answer s.config loaded)
  show (ExceptT.lift (s.config.override (World.host answer).environment) >>= _ : ExceptT Failure _ _) loaded = _
  rw [exceptT_bind_apply, looked]
  rfl

end Invocation

/-! ## Runs -/

variable {σ : Type} {answer : JsonRpc.Transport (StateM σ)} {arguments : List String} {i : Invocation}
  {world loaded : World σ}

/-- A run of claims touches no file once the settings are loaded. -/
theorem files_run_claim (accepted : Invocation.ofArguments arguments = .ok i) {flags : ClaimFlags}
    (action : i.action = .claim flags) {planned : Except Failure ClaimPlan}
    (plans : i.claimPlan (World.host answer) flags world = (planned, loaded)) :
    (run (World.host answer) arguments world).2.files = loaded.files := by
  rw [run_accepted _ accepted, i.perform_claim _ action, exceptT_bind_apply, plans]
  cases planned with
  | error cause => rfl
  | ok plan =>
    dsimp only
    rw [exceptT_bind_apply]
    have kept := plan.files_run answer outcomeLine loaded
    generalize plan.run (World.host answer) _ loaded = made at kept ⊢
    obtain ⟨outcomes, after⟩ := made
    cases outcomes with
    | error cause => exact kept
    | ok outcomes => exact kept

/-- A run that is not planned touches no file once the settings are loaded. -/
theorem files_run_unplanned (accepted : Invocation.ofArguments arguments = .ok i) {flags : SnapshotFlags}
    (action : i.action = .snapshot flags) {cause : Failure}
    (unplanned : i.snapshotPlan (World.host answer) world = (.error cause, loaded)) :
    (run (World.host answer) arguments world).2.files = loaded.files := by
  rw [run_accepted _ accepted, i.perform_snapshot _ action, exceptT_bind_apply, unplanned]

/-- A run of a snapshot touches no file once the settings are loaded, but for the file of the snapshot. -/
theorem files_run_snapshot (accepted : Invocation.ofArguments arguments = .ok i) {flags : SnapshotFlags}
    (action : i.action = .snapshot flags) {plan : SnapshotPlan}
    (planned : i.snapshotPlan (World.host answer) world = (.ok plan, loaded)) :
    ∃ (s : Snapshot) (result : Except Snapshot.ArtifactError Unit),
      s.Written plan.output loaded.files result (run (World.host answer) arguments world).2.files := by
  rw [run_accepted _ accepted, i.perform_snapshot _ action, exceptT_bind_apply, planned]
  dsimp only
  rw [exceptT_bind_apply, SnapshotPlan.run_host]
  generalize (plan.registry answer).snapshot plan.dev plan.node loaded.network = made
  obtain ⟨s, network⟩ := made
  have written := s.written_write_tree plan.output loaded.files
  dsimp only
  generalize s.write FileTree.files plan.output loaded.files = ended at written ⊢
  obtain ⟨result, files⟩ := ended
  cases result with
  | error cause => exact ⟨s, .error cause, written⟩
  | ok _ => exact ⟨s, .ok (), written⟩

end Command

end Allotment
