import Allotment.Proofs.Command.Files

/-!
# What is in effect

The settings in a file are overridden by variables, once and for all (`Config.override_override`), and both by what is
given on the command line (`Command.Invocation.Layered`); one configuration comes of it
(`Command.Invocation.layered_iff`). A plan takes it over as it is (`Config.CarriesSnapshot`), but for a timeout of no
seconds at all. Nothing of this is written back.
-/

namespace Allotment

open Claim

namespace Config

/-! ## Variables that are looked up again -/

/-- Looking variables up twice comes to the same as once. -/
theorem override_override {σ : Type} (answer : JsonRpc.Transport (StateM σ)) (c : Config) :
    (c.override (World.host answer).environment >>= fun c => c.override (World.host answer).environment) =
      c.override (World.host answer).environment := by
  have once (c : Config) : c.override (World.host answer).environment =
      fun world => (c.overridden (World.valueOf? world.environment), world) :=
    funext (override_host answer c)
  funext world
  simp only [once, bind, StateT.bind, overridden_overridden]

/-! ## Plans for snapshots -/

/-- A plan for a snapshot takes over what it is made from. -/
structure CarriesSnapshot (c : Config) (tree : FileTree) (plan : SnapshotPlan) : Prop where
  dev : ∃ own others,
    Points.Sources tree "snapshot.dev_points" c.snapshot.devPoints c.snapshot.devPointsFile own others ∧
    plan.dev = ⟨"snapshot.dev_points", own ++ others⟩
  node : ∃ own others,
    Points.Sources tree "snapshot.node_points" c.snapshot.nodePoints c.snapshot.nodePointsFile own others ∧
    plan.node = ⟨"snapshot.node_points", own ++ others⟩
  nodeRewards (a : Address) : plan.nodeRewards = some a ↔ NamesAddress c.snapshot.nodeRewardsAddress a
  endpoint : plan.ledger.endpoint = Text.trim c.ledger.endpoint
  timeout : plan.ledger.timeoutSecs = max 1 c.ledger.requestTimeoutSecs
  enrichment : plan.onchainEnrichment = c.snapshot.onchainEnrichment
  output : plan.output = c.snapshot.output

theorem carriesSnapshot_of_planned {σ : Type} {answer : JsonRpc.Transport (StateM σ)} {c : Config} {plan : SnapshotPlan}
    {world world' : World σ}
    (planned : c.snapshotPlan (World.host answer).files world = (.ok plan, world')) :
    c.CarriesSnapshot world.files plan := by
  obtain ⟨-, output, dev, node⟩ := snapshotPlan_eq_ok planned
  unfold snapshotPlan at planned
  obtain ⟨_, _, -, planned⟩ := exceptT_bind_eq_ok planned
  obtain ⟨_, _, -, planned⟩ := exceptT_bind_eq_ok planned
  obtain ⟨nodeRewards, _, address, planned⟩ := exceptT_bind_eq_ok planned
  obtain ⟨ledger, _, settled, planned⟩ := exceptT_bind_eq_ok planned
  have address := (Prod.mk.inj (attempt_eq_ok address)).1
  obtain ⟨-, rfl⟩ := ledgerPlan_eq_ok_iff.mp (Prod.mk.inj (attempt_eq_ok settled)).1
  cases planned
  refine ⟨dev, node, fun a => ?_, rfl, rfl, rfl, output⟩
  rw [← readAddress_eq_ok_some_iff "snapshot.node_rewards_address", address, Except.ok.injEq]

end Config

namespace Command

namespace Invocation

/-! ## Layers -/

/-- What was given for a snapshot, which is nothing in a run of claims. -/
def snapshotFlags (i : Invocation) : SnapshotFlags :=
  match i.action with
  | .snapshot flags => flags
  | .claim _ => .none

/-- What was given for claims, which is nothing in a run of a snapshot. -/
def claimFlags (i : Invocation) : ClaimFlags :=
  match i.action with
  | .snapshot _ => .none
  | .claim flags => flags

/-- Every setting has the value that is in effect: the one that is given on the command line, or else the one that its
variable exports, or else the one in the file. A setting that cannot be given and has no variable is as in the file. -/
structure Layered (env : String → Option String) (i : Invocation) (file c : Config) : Prop where
  endpoint : InEffect (i.globals.rpcUrl = some ·) (Exports env "RPC_URL") file.ledger.endpoint c.ledger.endpoint
  requestTimeoutSecs : c.ledger.requestTimeoutSecs = file.ledger.requestTimeoutSecs
  chainId : c.ledger.chainId = file.ledger.chainId
  nodeRewardsAddress : InEffect (fun _ => False) (∃ text, · = some text ∧ Exports env "NODE_REWARDS_ADDRESS" text)
    file.snapshot.nodeRewardsAddress c.snapshot.nodeRewardsAddress
  devPoints : c.snapshot.devPoints = file.snapshot.devPoints
  nodePoints : c.snapshot.nodePoints = file.snapshot.nodePoints
  devPointsFile : c.snapshot.devPointsFile = file.snapshot.devPointsFile
  nodePointsFile : c.snapshot.nodePointsFile = file.snapshot.nodePointsFile
  output : InEffect (i.snapshotFlags.output = some ·) (fun _ => False) file.snapshot.output c.snapshot.output
  onchainEnrichment : InEffect (fun enriched => i.snapshotFlags.noOnchain = true ∧ enriched = false) (fun _ => False)
    file.snapshot.onchainEnrichment c.snapshot.onchainEnrichment
  contributorRewardAddress : InEffect (fun _ => False)
    (∃ text, · = some text ∧ Exports env "CONTRIBUTOR_REWARD_ADDRESS" text)
    file.claim.contributorRewardAddress c.claim.contributorRewardAddress
  rewardToken : InEffect (fun _ => False) (∃ text, · = some text ∧ Exports env "REWARD_TOKEN_ADDRESS" text)
    file.claim.rewardToken c.claim.rewardToken
  period : InEffect (i.claimFlags.period = some ·) (Exports env "PERIOD") file.claim.period c.claim.period
  accounts : c.claim.accounts = file.claim.accounts
  accountsFile : InEffect (fun file => ∃ path, file = some path ∧ i.claimFlags.accountsFile = some path)
    (fun _ => False) file.claim.accountsFile c.claim.accountsFile
  signingKey : c.claim.signingKey = file.claim.signingKey
  throttleMs : InEffect (i.claimFlags.throttleMs = some ·) (fun _ => False) file.claim.throttleMs c.claim.throttleMs
  gas : c.claim.gas = file.claim.gas

/-- What is given for the other command counts for nothing. -/
theorem apply_eq (i : Invocation) (c : Config) :
    i.apply c = {
      ledger := { c.ledger with endpoint := i.globals.rpcUrl.getD c.ledger.endpoint }
      snapshot := { c.snapshot with
        output := i.snapshotFlags.output.getD c.snapshot.output
        onchainEnrichment := c.snapshot.onchainEnrichment && !i.snapshotFlags.noOnchain }
      claim := { c.claim with
        accountsFile := i.claimFlags.accountsFile.or c.claim.accountsFile
        period := i.claimFlags.period.getD c.claim.period
        throttleMs := i.claimFlags.throttleMs.getD c.claim.throttleMs } } := by
  unfold apply snapshotFlags claimFlags
  cases i.action with
  | snapshot flags => rfl
  | claim flags =>
    simp only [ClaimFlags.apply, Globals.apply, SnapshotFlags.none, Option.getD_none, Bool.not_false, Bool.and_true]

/-- **One configuration is in effect.** -/
theorem layered_iff {env : String → Option String} {i : Invocation} {file c : Config} :
    i.Layered env file c ↔ c = i.apply (file.overridden env) := by
  rw [apply_eq, Config.overridden_eq]
  dsimp only
  constructor
  · rintro ⟨endpoint, timeout, chainId, nodeRewards, devPoints, nodePoints, devFile, nodeFile, output, enrichment,
      contract, token, period, accounts, accountsFile, signingKey, throttle, gas⟩
    obtain ⟨ledger, snapshot, claim⟩ := c
    obtain ⟨_, _, _⟩ := ledger
    obtain ⟨_, _, _, _, _, _, _⟩ := snapshot
    obtain ⟨_, _, _, _, _, _, _, _⟩ := claim
    dsimp only at *
    rw [Override.inEffect_exported] at endpoint period
    rw [Override.inEffect_exported_some] at nodeRewards contract token
    rw [inEffect_flag] at output throttle
    rw [inEffect_mark] at enrichment
    rw [inEffect_flag_some] at accountsFile
    subst endpoint timeout chainId nodeRewards devPoints nodePoints devFile nodeFile output enrichment
    subst contract token period accounts accountsFile signingKey throttle gas
    rfl
  · rintro rfl
    exact {
      endpoint := Override.inEffect_exported.mpr rfl
      requestTimeoutSecs := rfl
      chainId := rfl
      nodeRewardsAddress := Override.inEffect_exported_some.mpr rfl
      devPoints := rfl
      nodePoints := rfl
      devPointsFile := rfl
      nodePointsFile := rfl
      output := inEffect_flag.mpr rfl
      onchainEnrichment := inEffect_mark.mpr rfl
      contributorRewardAddress := Override.inEffect_exported_some.mpr rfl
      rewardToken := Override.inEffect_exported_some.mpr rfl
      period := Override.inEffect_exported.mpr rfl
      accounts := rfl
      accountsFile := inEffect_flag_some.mpr rfl
      signingKey := rfl
      throttleMs := inEffect_flag.mpr rfl
      gas := rfl }

/-! ## Plans -/

variable {σ : Type} {answer : JsonRpc.Transport (StateM σ)} {i : Invocation} {c : Config} {world loaded : World σ}

/-- Claims are planned from the configuration, the variables and the files as they were loaded. -/
theorem claimPlan_of_config (configured : i.config (World.host answer) world = (.ok c, loaded)) (flags : ClaimFlags) :
    ∃ planned, i.claimPlan (World.host answer) flags world = (planned, loaded) ∧
      ∀ plan, planned = .ok plan →
        c.Carries (World.valueOf? loaded.environment) flags.inputs loaded.files plan := by
  obtain ⟨planned, fromFiles, fromWorld⟩ := Config.claimPlan_host answer c loaded flags.inputs
  refine ⟨planned, ?_, ?_⟩
  · rw [claimPlan, exceptT_bind_apply, configured]
    exact fromWorld
  · rintro plan rfl
    exact (Config.claimPlan_eq_ok_iff_carries.mp fromFiles).2

/-- A snapshot is planned from the configuration and the files as they were loaded. -/
theorem snapshotPlan_of_config (configured : i.config (World.host answer) world = (.ok c, loaded)) :
    ∃ planned, i.snapshotPlan (World.host answer) world = (planned, loaded) ∧
      ∀ plan, planned = .ok plan → c.CarriesSnapshot loaded.files plan := by
  obtain ⟨planned, fromWorld⟩ := Config.snapshotPlan_host answer c loaded
  refine ⟨planned, ?_, ?_⟩
  · rw [snapshotPlan, exceptT_bind_apply, configured]
    exact fromWorld
  · rintro plan rfl
    exact Config.carriesSnapshot_of_planned fromWorld

end Invocation

/-! ## Runs -/

/-- **Which settings are in effect.** Looking variables up twice comes to the same as once. Where settings are loaded,
a run has the one configuration in which every setting is the one that is given on the command line, or else the one
that its variable exports, or else the one in the file, and plans take it over. The file of the settings stays as it was
unless it is made on first use; after that claims touch no file at all, and a snapshot at most its own. -/
theorem settings_in_effect {σ : Type} (answer : JsonRpc.Transport (StateM σ)) {arguments : List String} {i : Invocation}
    (accepted : Invocation.ofArguments arguments = .ok i) (world : World σ) :
    let host := World.host answer
    let env := World.valueOf? world.environment
    let path := i.globals.config.getD (Settings.fileOf env programName)
    let after := (run host arguments world).2
    (∀ c : Config, (c.override host.environment >>= fun c => c.override host.environment) =
      c.override host.environment) ∧
    ∃ result loaded,
      Settings.start host.files host.environment programName i.globals.config world = (result, loaded) ∧
      (world.files.present path = true → loaded = world) ∧
      (∀ e, result = .error e → run host arguments world = (.failure (.settings e), loaded)) ∧
      ∀ s, result = .ok s →
        Settings.Holds loaded.files path s.config ∧
        ∃ c, i.config host world = (.ok c, loaded) ∧ (∀ c', i.Layered env s.config c' ↔ c' = c) ∧
          (∀ flags, i.action = .claim flags →
            after.files = loaded.files ∧
            ∃ planned, i.claimPlan host flags world = (planned, loaded) ∧
              ∀ plan, planned = .ok plan → c.Carries env flags.inputs loaded.files plan) ∧
          (∀ flags, i.action = .snapshot flags →
            ∃ planned, i.snapshotPlan host world = (planned, loaded) ∧
              (∀ cause, planned = .error cause → after.files = loaded.files) ∧
              ∀ plan, planned = .ok plan → c.CarriesSnapshot loaded.files plan ∧
                ∃ (made : Snapshot) (written : Except Snapshot.ArtifactError Unit),
                  made.Written plan.output loaded.files written after.files) := by
  intro host env path after
  refine ⟨Config.override_override answer, ?_⟩
  have started := Settings.start_host answer programName i.globals.config world
  rw [World.onFiles_apply] at started
  generalize outcome : Settings.start FileTree.files (fun name => pure (World.valueOf? world.environment name))
    programName i.globals.config world.files = made at started
  obtain ⟨result, tree⟩ := made
  refine ⟨result, { world with files := tree }, started, ?_, ?_, ?_⟩
  · intro there
    obtain ⟨_, unchanged⟩ := Settings.start_of_present there
    rw [unchanged] at outcome
    cases outcome
    rfl
  · rintro e rfl
    rw [run_accepted host accepted, Invocation.perform, exceptT_bind_apply, Invocation.config_of_error started]
  · rintro s rfl
    refine ⟨(Settings.holds_of_start outcome).2, i.apply (s.config.overridden env), ?_, ?_, ?_, ?_⟩
    · exact Invocation.config_of_ok started
    · exact fun c' => Invocation.layered_iff
    · intro flags action
      obtain ⟨planned, plans, carries⟩ := Invocation.claimPlan_of_config (Invocation.config_of_ok started) flags
      exact ⟨files_run_claim accepted action plans, planned, plans, carries⟩
    · intro flags action
      obtain ⟨planned, plans, carries⟩ := Invocation.snapshotPlan_of_config (Invocation.config_of_ok started)
      refine ⟨planned, plans, ?_, ?_⟩
      · rintro cause rfl
        exact files_run_unplanned accepted action plans
      · rintro plan rfl
        exact ⟨carries plan rfl, files_run_snapshot accepted action plans⟩

/-- A world with settings and a key where variables name another endpoint and a period. -/
def exported : World Unit :=
  { settled with environment := ("RPC_URL", " http://e\n") :: ("PERIOD", "2026-02") :: settled.environment }

/-- The endpoint is the exported one, the period the one that is given, and the chain id the one in the file. -/
theorem settings_in_effect_exported :
    let arguments := ["claim", "-c", "s", "-p", "2026-03", "-a", "nobody"]
    let flags : ClaimFlags := { ClaimFlags.none with accounts := ["nobody"], period := some "2026-03" }
    let i : Invocation := ⟨⟨some ⟨"s"⟩, none, false⟩, .claim flags⟩
    let host := World.host World.unreachable
    Invocation.ofArguments arguments = .ok i ∧
      ∃ s c plan, Settings.start host.files host.environment programName i.globals.config exported = (.ok s, exported) ∧
        i.config host exported = (.ok c, exported) ∧ i.claimPlan host flags exported = (.ok plan, exported) ∧
        c.ledger.endpoint = "http://e" ∧ c.claim.period = "2026-03" ∧
        c.ledger.chainId = s.config.ledger.chainId ∧ s.config.ledger.chainId = some 7 ∧ plan.chainId = some 7 ∧
        (run host arguments exported).2.files = exported.files := by
  intro arguments flags i host
  have accepted : Invocation.ofArguments arguments = .ok i := toOption_eq_some_iff.mp (by decide +kernel)
  have there : exported.files.present ⟨"s"⟩ = true := by decide +kernel
  have chainId : (Settings.start host.files host.environment programName i.globals.config exported).1.toOption.map
      (·.config.ledger.chainId) = some (some 7) := by decide +kernel
  have ready : (i.claimPlan host flags exported).1.toOption.isSome = true := by decide +kernel
  refine ⟨accepted, ?_⟩
  obtain ⟨-, result, loaded, started, kept, -, inEffect⟩ := settings_in_effect World.unreachable accepted exported
  obtain rfl : loaded = exported := kept there
  rw [started] at chainId
  cases result with
  | error e => cases chainId
  | ok s =>
    obtain ⟨-, c, configured, layers, claims, -⟩ := inEffect s rfl
    obtain ⟨files, planned, plans, carries⟩ := claims flags rfl
    have layered := (layers c).mpr rfl
    rw [plans] at ready
    cases planned with
    | error cause => cases ready
    | ok plan =>
      have number : s.config.ledger.chainId = some 7 := Option.some.inj chainId
      refine ⟨s, c, plan, started, configured, plans, ?_, ?_, layered.chainId, number, ?_, files⟩
      · exact Override.inEffect_exported.mp layered.endpoint
      · exact Override.inEffect_exported.mp layered.period
      · rw [(carries plan rfl).chainId, layered.chainId, number]

/-- A world with settings that give a request no time at all. -/
def hurried : World Unit where
  files := ⟨[(["s"], .file "\x7b\"ledger\":\x7b\"request_timeout_secs\":0\x7d\x7d".toUTF8)], []⟩
  environment := []
  output := ""
  network := ()

/-- A timeout in a plan is not always the one in the file, although nothing else can set it: a request has a second at
least. -/
theorem not_forall_timeout_kept :
    ¬∀ (arguments : List String) (i : Invocation) (world : World Unit) (s : Settings) (plan : SnapshotPlan),
      Invocation.ofArguments arguments = .ok i →
      (Settings.start (World.host World.unreachable).files (World.host World.unreachable).environment programName
        i.globals.config world).1 = .ok s →
      (i.snapshotPlan (World.host World.unreachable) world).1 = .ok plan →
      plan.ledger.timeoutSecs = s.config.ledger.requestTimeoutSecs := by
  intro kept
  let i : Invocation := ⟨⟨some ⟨"s"⟩, none, false⟩, .snapshot SnapshotFlags.none⟩
  have parsed : (Invocation.ofArguments ["snapshot", "-c", "s"]).toOption = some i := by decide +kernel
  have asked : (Settings.start (World.host World.unreachable).files (World.host World.unreachable).environment
      programName i.globals.config hurried).1.toOption.map (·.config.ledger.requestTimeoutSecs) = some 0 := by
    decide +kernel
  have planned : (i.snapshotPlan (World.host World.unreachable) hurried).1.toOption.map (·.ledger.timeoutSecs) =
      some 1 := by
    decide +kernel
  obtain ⟨s, started, none⟩ := Option.map_eq_some_iff.mp asked
  obtain ⟨plan, plans, one⟩ := Option.map_eq_some_iff.mp planned
  have same := kept _ i hurried s plan (toOption_eq_some_iff.mp parsed) (toOption_eq_some_iff.mp started)
    (toOption_eq_some_iff.mp plans)
  rw [none, one] at same
  cases same

end Command

end Allotment
