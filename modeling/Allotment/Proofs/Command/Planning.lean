import Allotment.Command.Run
import Allotment.Proofs.Files.Basic
import Allotment.Proofs.Plan.Sources

/-!
# Planning uses files and environment variables only

Two hosts whose files and environment variables correspond cannot be told apart before there is a plan: not when the
settings are loaded (`Settings.start_rel`, `Command.Invocation.config_rel`), nor when they are turned into the plan for
a snapshot (`Config.snapshotPlan_rel`) or for claims (`Config.claimPlan_rel`). Endpoints, standard output and time have
no part in it.
-/

namespace Allotment

variable {m n : Type → Type} [Monad m] [Monad n]

/-! ## Computations that may fail -/

/-- A correspondence also relates computations that may fail. -/
def Claim.Correspondence.exceptT (c : Claim.Correspondence m n) (ε : Type) :
    Claim.Correspondence (ExceptT ε m) (ExceptT ε n) where
  rel {α} x y := c.rel (α := Except ε α) x.run y.run
  rel_pure a := c.rel_pure (Except.ok a)
  rel_bind {_ _ x y f g} first second := by
    refine c.rel_bind first fun outcome => ?_
    cases outcome with
    | ok a => exact second a
    | error e => exact c.rel_pure _

section Corresponding

variable {c : Claim.Correspondence m n}

theorem attempt_rel {ε α : Type} {step : m (Except ε α)} {step' : n (Except ε α)} (failure : ε → Failure)
    (steps : c.rel step step') : (c.exceptT Failure).rel (attempt failure step) (attempt failure step') :=
  c.rel_bind steps fun _ => c.rel_pure _

theorem lift_rel [LawfulMonad m] [LawfulMonad n] {α : Type} {step : m α} {step' : n α} (steps : c.rel step step') :
    (c.exceptT Failure).rel (ExceptT.lift step) (ExceptT.lift step') := by
  show c.rel (Except.ok <$> step) (Except.ok <$> step')
  rw [map_eq_pure_bind, map_eq_pure_bind]
  exact c.rel_bind steps fun _ => c.rel_pure _

section Environment

variable {environment : Environment m} {environment' : Environment n}
  (looksUp : ∀ name, c.rel (environment name) (environment' name))
include looksUp

/-! ## Where things are found -/

theorem Path.home_rel : c.rel (Path.home environment) (Path.home environment') :=
  c.rel_bind (looksUp "HOME") fun _ => c.rel_pure _

theorem Path.expand_rel (path : Path) : c.rel (path.expand environment) (path.expand environment') :=
  c.rel_bind (Path.home_rel looksUp) fun _ => c.rel_pure _

theorem Path.configHome_rel : c.rel (Path.configHome environment) (Path.configHome environment') := by
  refine c.rel_bind (looksUp "XDG_CONFIG_HOME") fun directory => ?_
  cases directory with
  | some directory => exact c.rel_pure _
  | none => exact c.rel_bind (Path.home_rel looksUp) fun _ => c.rel_pure _

theorem Path.settingsFile_rel (service : String) :
    c.rel (Path.settingsFile environment service) (Path.settingsFile environment' service) :=
  c.rel_bind (c.rel_bind (Path.configHome_rel looksUp) fun _ => c.rel_pure _) fun _ => c.rel_pure _

/-! ## Settings -/

theorem Config.override_rel (config : Config) : c.rel (config.override environment) (config.override environment') := by
  refine c.rel_foldlM (fun config o => ?_) config Override.all
  refine c.rel_bind (looksUp o.name) fun value => ?_
  cases Override.textOf value with
  | some text => exact c.rel_pure _
  | none => exact c.rel_pure _

end Environment

section Files

variable {files : Files m} {files' : Files n} (corresponding : Files.Corresponding c files files')
include corresponding

namespace Settings

theorem read_rel (path : Path) : c.rel (read files path) (read files' path) := by
  refine c.rel_bind (c.rel_bind (corresponding.readText path) fun outcome => ?_) fun _ => c.rel_pure _
  cases outcome with
  | error cause => exact c.rel_pure _
  | ok text =>
    dsimp only
    cases Config.ofText text with
    | error fault => exact c.rel_pure _
    | ok config => exact c.rel_pure _

theorem load_rel (path : Path) : c.rel (load files path) (load files' path) := by
  refine c.rel_bind (corresponding.present path) fun present => ?_
  cases present with
  | true => exact read_rel corresponding path
  | false => exact c.rel_pure _

theorem write_rel (s : Settings) : c.rel (write files s) (write files' s) := by
  refine c.rel_bind (corresponding.write _ _) fun outcome => ?_
  cases outcome with
  | ok _ => exact c.rel_pure _
  | error cause => exact c.rel_pure _

theorem save_rel (s : Settings) : c.rel (save files s) (save files' s) := by
  unfold save
  cases s.path.parent? with
  | none => exact write_rel corresponding s
  | some parent =>
    by_cases blank : parent.text.isEmpty = true
    case pos =>
      dsimp only
      rw [if_pos blank, if_pos blank]
      exact write_rel corresponding s
    case neg =>
      dsimp only
      rw [if_neg blank, if_neg blank]
      refine c.rel_bind (corresponding.createDirectories parent) fun outcome => ?_
      cases outcome with
      | error cause => exact c.rel_pure _
      | ok _ => exact write_rel corresponding s

theorem loadOrCreate_rel (path : Path) : c.rel (loadOrCreate files path) (loadOrCreate files' path) := by
  refine c.rel_bind (corresponding.present path) fun present => ?_
  cases present with
  | true => exact read_rel corresponding path
  | false =>
    refine c.rel_bind (save_rel corresponding _) fun outcome => ?_
    cases outcome with
    | error e => exact c.rel_pure _
    | ok _ => exact c.rel_pure _

theorem start_rel {environment : Environment m} {environment' : Environment n}
    (looksUp : ∀ name, c.rel (environment name) (environment' name)) (service : String) (path : Option Path) :
    c.rel (start files environment service path) (start files' environment' service path) := by
  cases path with
  | some path => exact load_rel corresponding path
  | none =>
    exact c.rel_bind (Path.settingsFile_rel looksUp service) fun path => loadOrCreate_rel corresponding path

end Settings

/-! ## Plans -/

theorem Secret.load_rel {environment : Environment m} {environment' : Environment n}
    (looksUp : ∀ name, c.rel (environment name) (environment' name)) (source : KeySource) :
    c.rel (Secret.load files environment source) (Secret.load files' environment' source) := by
  cases source with
  | env name => exact c.rel_bind (looksUp name) fun _ => c.rel_pure _
  | file path =>
    refine c.rel_bind (Path.expand_rel looksUp path) fun path => ?_
    refine c.rel_bind (corresponding.present path) fun present => ?_
    cases present with
    | false => exact c.rel_pure _
    | true =>
      refine c.rel_bind (corresponding.read path) fun outcome => ?_
      cases outcome with
      | ok contents => exact c.rel_pure _
      | error cause => exact c.rel_pure _

namespace Config

theorem pointsTable_rel (name : String) (members : List (String × Json)) (file : Option Path) :
    (c.exceptT Failure).rel (pointsTable files name members file) (pointsTable files' name members file) := by
  refine (c.exceptT Failure).rel_bind (attempt_rel _ (c.rel_pure _)) fun table => ?_
  cases file with
  | none => exact (c.exceptT Failure).rel_pure _
  | some path =>
    exact (c.exceptT Failure).rel_bind (attempt_rel _ (Points.Table.loadCsv_rel corresponding path)) fun _ =>
      (c.exceptT Failure).rel_pure _

theorem snapshotPlan_rel (config : Config) :
    (c.exceptT Failure).rel (config.snapshotPlan files) (config.snapshotPlan files') := by
  refine (c.exceptT Failure).rel_bind (pointsTable_rel corresponding _ _ _) fun dev => ?_
  refine (c.exceptT Failure).rel_bind (pointsTable_rel corresponding _ _ _) fun node => ?_
  refine (c.exceptT Failure).rel_bind (attempt_rel _ (c.rel_pure _)) fun nodeRewards => ?_
  exact (c.exceptT Failure).rel_bind (attempt_rel _ (c.rel_pure _)) fun ledger => (c.exceptT Failure).rel_pure _

theorem claimAccounts_rel (config : Config) (inputs : ClaimInputs) :
    (c.exceptT Failure).rel (config.claimAccounts files inputs) (config.claimAccounts files' inputs) := by
  have lines : (c.exceptT Failure).rel (accountLines files config.claim.accountsFile)
      (accountLines files' config.claim.accountsFile) := by
    cases config.claim.accountsFile with
    | none => exact (c.exceptT Failure).rel_pure _
    | some path =>
      exact (c.exceptT Failure).rel_bind (attempt_rel _ (corresponding.readText path)) fun _ =>
        (c.exceptT Failure).rel_pure _
  have wallets : (c.exceptT Failure).rel (snapshotWallets files inputs.snapshot)
      (snapshotWallets files' inputs.snapshot) := by
    cases inputs.snapshot with
    | none => exact (c.exceptT Failure).rel_pure _
    | some path =>
      exact (c.exceptT Failure).rel_bind (attempt_rel _ (Snapshot.read_rel corresponding path)) fun _ =>
        (c.exceptT Failure).rel_pure _
  exact (c.exceptT Failure).rel_bind lines fun _ => (c.exceptT Failure).rel_bind wallets fun _ =>
    (c.exceptT Failure).rel_pure _

theorem claimPlan_rel {environment : Environment m} {environment' : Environment n}
    (looksUp : ∀ name, c.rel (environment name) (environment' name)) (config : Config) (inputs : ClaimInputs) :
    (c.exceptT Failure).rel (config.claimPlan files environment inputs)
      (config.claimPlan files' environment' inputs) := by
  refine (c.exceptT Failure).rel_bind (attempt_rel _ (c.rel_pure _)) fun contract => ?_
  refine (c.exceptT Failure).rel_bind (attempt_rel _ (c.rel_pure _)) fun token => ?_
  refine (c.exceptT Failure).rel_bind (attempt_rel _ (c.rel_pure _)) fun period => ?_
  refine (c.exceptT Failure).rel_bind (attempt_rel _ (Secret.load_rel corresponding looksUp _)) fun secret => ?_
  refine (c.exceptT Failure).rel_bind (attempt_rel _ (c.rel_pure _)) fun signer => ?_
  refine (c.exceptT Failure).rel_bind (claimAccounts_rel corresponding config inputs) fun accounts => ?_
  cases accounts with
  | nil =>
    -- Nothing comes behind the failure, but the text of the program goes on behind it all the same.
    exact (c.exceptT Failure).rel_bind (c.rel_pure (Except.error (Failure.config .noAccounts))) fun _ =>
      (c.exceptT Failure).rel_bind (attempt_rel _ (c.rel_pure _)) fun ledger => (c.exceptT Failure).rel_pure _
  | cons first others =>
    exact (c.exceptT Failure).rel_bind (attempt_rel _ (c.rel_pure _)) fun ledger => (c.exceptT Failure).rel_pure _

end Config

end Files

namespace Command.Invocation

theorem config_rel [LawfulMonad m] [LawfulMonad n] {host : Host m} {host' : Host n}
    (corresponding : Files.Corresponding c host.files host'.files)
    (looksUp : ∀ name, c.rel (host.environment name) (host'.environment name)) (i : Invocation) :
    (c.exceptT Failure).rel (i.config host) (i.config host') := by
  refine (c.exceptT Failure).rel_bind (attempt_rel _ (Settings.start_rel corresponding looksUp _ _))
    fun settings => ?_
  exact (c.exceptT Failure).rel_bind (lift_rel (Config.override_rel looksUp _)) fun config =>
    (c.exceptT Failure).rel_pure _

end Command.Invocation

end Corresponding

end Allotment
