import Allotment.Proofs.Address.Spelling
import Allotment.Proofs.Command.Planning
import Allotment.Proofs.Files.ReadOnly
import Allotment.Proofs.Plan.Accounts
import Allotment.Proofs.Plan.Endpoint

/-!
# When there is a plan for claims

* `Config.Plannable`: all that is looked at before there is a plan, of the configuration, what is given besides, the
  files and the variables;
* `Config.Carries`: all that a plan takes over from them;
* `Config.claimPlan_readOnly`: planning asks nothing of the files but to be read;
* `Config.claimPlan_plannable`: there is a plan just if all that is looked at is in order, and it carries what it takes
  over. What stands in the lines of accounts is not looked at.
-/

namespace Allotment

/-! ## The single checks -/

theorem Signer.ofSecret_eq_ok_iff {secret : Vector UInt8 32} {signer : Signer} :
    ofSecret secret = .ok signer ↔ Bytes.toNat secret.toList = signer.key.value := by
  unfold ofSecret Secp256k1.PrivateKey.ofBytes?
  by_cases within : 0 < Bytes.toNat secret.toList ∧ Bytes.toNat secret.toList < Secp256k1.order
  case pos =>
    simp only [dif_pos within, Except.ok.injEq]
    constructor
    · rintro rfl
      rfl
    · obtain ⟨value, pos, lt⟩ := signer
      rintro rfl
      rfl
  case neg =>
    simp only [dif_neg within]
    constructor
    · exact nofun
    · intro same
      rw [same] at within
      exact absurd ⟨signer.key.pos, signer.key.lt⟩ within

namespace Config

/-- A setting names an address: it is given, it is not blank, and it denotes the address. -/
def NamesAddress (text : Option String) (a : Address) : Prop :=
  ∃ raw, text = some raw ∧ Text.isBlankText raw = false ∧ Address.parse raw = .ok a

theorem readAddress_eq_ok_some_iff (field : String) {text : Option String} {a : Address} :
    readAddress field text = .ok (some a) ↔ NamesAddress text a := by
  cases text with
  | none =>
    constructor
    · rintro ⟨⟩
    · rintro ⟨raw, ⟨⟩, -⟩
  | some raw =>
    have named : NamesAddress (some raw) a ↔ Text.isBlankText raw = false ∧ Address.parse raw = .ok a := by
      constructor
      · rintro ⟨_, ⟨⟩, named⟩
        exact named
      · exact fun named => ⟨raw, rfl, named⟩
    rw [named, ← Address.parse_trim, Address.parse_eq_ok_iff]
    simp only [readAddress, Option.map_some, Option.filter_some, Text.isEmpty_trim]
    cases Text.isBlankText raw with
    | true => simp
    | false =>
      cases denoted : Address.parse? (Text.trim raw) with
      | none => simp [denoted]
      | some b => simp [denoted]

theorem requireAddress_eq_ok_iff (field variableName : String) {text : Option String} {a : Address} :
    requireAddress field variableName text = .ok a ↔ NamesAddress text a := by
  rw [requireAddress, bind_eq_ok_iff, ← readAddress_eq_ok_some_iff field]
  constructor
  · rintro ⟨found, read, given⟩
    cases found with
    | none => cases given
    | some b =>
      obtain rfl : b = a := Except.ok.inj given
      exact read
  · intro read
    exact ⟨some a, read, rfl⟩

theorem claimPeriod_eq_ok_iff {c : Config} {period : String} :
    c.claimPeriod = .ok period ↔ Text.isBlankText c.claim.period = false ∧ period = Text.trim c.claim.period := by
  simp only [claimPeriod, Text.isEmpty_trim]
  cases Text.isBlankText c.claim.period with
  | true => simp
  | false => simp [eq_comm]

theorem ledgerPlan_eq_ok_iff {c : Config} {ledger : LedgerPlan} :
    c.ledgerPlan = .ok ledger ↔ Text.isBlankText c.ledger.endpoint = false ∧
      ledger = ⟨Text.trim c.ledger.endpoint, max 1 c.ledger.requestTimeoutSecs⟩ := by
  rw [ledgerPlan_eq]
  cases Text.isBlankText c.ledger.endpoint with
  | true => simp
  | false => simp [eq_comm]

/-! ## Planning reads files only -/

section Reading

variable {m : Type → Type} [Monad m]

/-- Planning asks nothing of the files but to be read. -/
theorem claimPlan_readOnly (files : Files m) (environment : Environment m) (c : Config) (inputs : ClaimInputs) :
    c.claimPlan files.readOnly environment inputs = c.claimPlan files environment inputs := rfl

end Reading

variable {env : String → Option String} {c : Config} {inputs : ClaimInputs} {tree : FileTree}

/-- So the files stay as they were, whether there is a plan or not. -/
theorem claimPlan_unchanged (env : String → Option String) (c : Config) (inputs : ClaimInputs) (tree : FileTree) :
    ∃ result, c.claimPlan FileTree.files (fun name => pure (env name)) inputs tree = (result, tree) := by
  have looksUp (name : String) : FileTree.askingCorrespondence.rel (pure (env name)) (pure (env name)) := rfl
  have asks := claimPlan_rel FileTree.corresponding_readOnly looksUp c inputs
  rw [claimPlan_readOnly] at asks
  exact ⟨_, congrFun asks tree⟩

/-! ## What is looked at, and what is taken over -/

/-- The accounts of all sources in order, where the sources can be read. -/
def Lists (c : Config) (inputs : ClaimInputs) (tree : FileTree) (accounts : List String) : Prop :=
  ∃ lines wallets, FileLines tree c.claim.accountsFile lines ∧ SnapshotWallets tree inputs.snapshot wallets ∧
    accounts = c.claim.accounts ++ inputs.accounts ++ lines ++ wallets.map Address.text

theorem Lists.unique {accounts others : List String} (first : Lists c inputs tree accounts)
    (second : Lists c inputs tree others) : accounts = others := by
  have collected := claimAccounts_eq_ok_iff.mpr ⟨Eq.refl tree, first⟩
  rw [claimAccounts_eq_ok_iff.mpr ⟨Eq.refl tree, second⟩] at collected
  exact (Except.ok.inj (Prod.mk.inj collected).1).symm

/-- A secret is loaded that is a key: as a number it is neither zero nor as large as the order. -/
def LoadsKey (env : String → Option String) (c : Config) (tree : FileTree) (value : Nat) : Prop :=
  0 < value ∧ value < Secp256k1.order ∧
    ∃ secret, (Secret.load FileTree.files (fun name => pure (env name)) c.claim.signingKey tree).1 = .ok secret ∧
      value = Bytes.toNat secret.bytes.toList

/-- All that is looked at before there is a plan is in order. -/
structure Plannable (env : String → Option String) (c : Config) (inputs : ClaimInputs) (tree : FileTree) : Prop where
  contract : ∃ a, NamesAddress c.claim.contributorRewardAddress a
  token : ∃ a, NamesAddress c.claim.rewardToken a
  period : Text.isBlankText c.claim.period = false
  key : ∃ value, LoadsKey env c tree value
  file : ∃ lines, FileLines tree c.claim.accountsFile lines
  snapshot : ∃ wallets, SnapshotWallets tree inputs.snapshot wallets
  accounts : ∀ accounts, Lists c inputs tree accounts → accounts ≠ []
  endpoint : Text.isBlankText c.ledger.endpoint = false

/-- A plan takes over what it is made from. -/
structure Carries (env : String → Option String) (c : Config) (inputs : ClaimInputs) (tree : FileTree)
    (plan : ClaimPlan) : Prop where
  contract : NamesAddress c.claim.contributorRewardAddress plan.contract
  token : NamesAddress c.claim.rewardToken plan.reward.token
  period : plan.reward.period = Text.trim c.claim.period
  key : LoadsKey env c tree plan.signer.key.value
  accounts : Lists c inputs tree plan.accounts
  endpoint : plan.ledger.endpoint = Text.trim c.ledger.endpoint
  timeout : plan.ledger.timeoutSecs = max 1 c.ledger.requestTimeoutSecs
  chainId : plan.chainId = c.ledger.chainId
  throttle : plan.throttleMs = c.claim.throttleMs
  fees : plan.fees = c.claim.gas
  dryRun : plan.dryRun = inputs.dryRun

/-- A plan is made just if everything is in order and it takes this over. -/
theorem claimPlan_eq_ok_iff_carries {plan : ClaimPlan} :
    c.claimPlan FileTree.files (fun name => pure (env name)) inputs tree = (.ok plan, tree) ↔
      Plannable env c inputs tree ∧ Carries env c inputs tree plan := by
  simp only [claimPlan_eq_ok_iff, requireAddress_eq_ok_iff, claimPeriod_eq_ok_iff, ledgerPlan_eq_ok_iff,
    Signer.ofSecret_eq_ok_iff, claimAccounts_eq_ok_iff]
  constructor
  · rintro ⟨secret, between, contract, token, ⟨period, periodSame⟩, loaded, value, ⟨rfl, accounts⟩, some,
      ⟨endpoint, ledger⟩, chainId, throttle, fees, dryRun⟩
    have key : LoadsKey env c between plan.signer.key.value :=
      ⟨plan.signer.key.pos, plan.signer.key.lt, secret, congrArg Prod.fst loaded, value.symm⟩
    have nonempty : ∀ others, Lists c inputs between others → others ≠ [] := by
      intro others listed
      rwa [listed.unique accounts]
    obtain ⟨lines, wallets, file, snapshot, whole⟩ := accounts
    constructor
    · exact ⟨⟨_, contract⟩, ⟨_, token⟩, period, ⟨_, key⟩, ⟨_, file⟩, ⟨_, snapshot⟩, nonempty, endpoint⟩
    · exact ⟨contract, token, periodSame, key, ⟨lines, wallets, file, snapshot, whole⟩,
        congrArg LedgerPlan.endpoint ledger, congrArg LedgerPlan.timeoutSecs ledger, chainId, throttle, fees, dryRun⟩
  · rintro ⟨ready, carries⟩
    obtain ⟨-, -, secret, loaded, value⟩ := carries.key
    obtain ⟨result, unchanged⟩ := Secret.load_eq env c.claim.signingKey tree
    rw [unchanged] at loaded
    obtain rfl : result = .ok secret := loaded
    refine ⟨secret, tree, carries.contract, carries.token, ⟨ready.period, carries.period⟩, unchanged, value.symm,
      ⟨rfl, carries.accounts⟩, ready.accounts _ carries.accounts, ⟨ready.endpoint, ?_⟩, carries.chainId,
      carries.throttle, carries.fees, carries.dryRun⟩
    rw [← carries.endpoint, ← carries.timeout]

theorem Plannable.exists_carries (ready : Plannable env c inputs tree) : ∃ plan, Carries env c inputs tree plan := by
  obtain ⟨contract, named⟩ := ready.contract
  obtain ⟨token, tokenNamed⟩ := ready.token
  obtain ⟨value, key⟩ := ready.key
  obtain ⟨lines, file⟩ := ready.file
  obtain ⟨wallets, snapshot⟩ := ready.snapshot
  let plan : ClaimPlan := {
    ledger := ⟨Text.trim c.ledger.endpoint, max 1 c.ledger.requestTimeoutSecs⟩
    chainId := c.ledger.chainId
    contract
    reward := ⟨Text.trim c.claim.period, token⟩
    accounts := c.claim.accounts ++ inputs.accounts ++ lines ++ wallets.map Address.text
    signer := ⟨value, key.1, key.2.1⟩
    throttleMs := c.claim.throttleMs
    fees := c.claim.gas
    dryRun := inputs.dryRun }
  exact ⟨plan, named, tokenNamed, rfl, key, ⟨lines, wallets, file, snapshot, rfl⟩, rfl, rfl, rfl, rfl, rfl, rfl⟩

/-- What is in order stays so with any other accounts that can be listed and are some, if the same key is loaded. -/
theorem Plannable.of_lists (ready : Plannable env c inputs tree) {own : List String} {file : Option Path}
    {inputs' : ClaimInputs} {tree' : FileTree} {accounts : List String}
    (key : (Secret.load FileTree.files (fun name => pure (env name)) c.claim.signingKey tree').1 =
      (Secret.load FileTree.files (fun name => pure (env name)) c.claim.signingKey tree).1)
    (listed : Lists { c with claim := { c.claim with accounts := own, accountsFile := file } } inputs' tree' accounts)
    (some : accounts ≠ []) :
    Plannable env { c with claim := { c.claim with accounts := own, accountsFile := file } } inputs' tree' := by
  have nonempty : ∀ others, Lists { c with claim := { c.claim with accounts := own, accountsFile := file } } inputs'
      tree' others → others ≠ [] := by
    intro others relisted
    rwa [relisted.unique listed]
  obtain ⟨value, pos, lt, secret, loaded, same⟩ := ready.key
  obtain ⟨lines, wallets, read, accepted, -⟩ := listed
  exact ⟨ready.contract, ready.token, ready.period, ⟨value, pos, lt, secret, key.trans loaded, same⟩, ⟨lines, read⟩,
    ⟨wallets, accepted⟩, nonempty, ready.endpoint⟩

/-- **When there is a plan for claims, and what is in it.** Planning reads files only and leaves them as they were. There
is a plan just if both addresses, the period and the endpoint are given, a key is loaded, the accounts of all sources
can be listed and are some. The plan carries just these, with the white space around them gone. Of the accounts nothing
else counts: with any others that can be listed and are some, and the same key, there is a plan just the same. -/
theorem claimPlan_plannable (env : String → Option String) (c : Config) (inputs : ClaimInputs) (tree : FileTree) :
    c.claimPlan FileTree.files.readOnly (fun name => pure (env name)) inputs =
      c.claimPlan FileTree.files (fun name => pure (env name)) inputs ∧
    ∃ result, c.claimPlan FileTree.files (fun name => pure (env name)) inputs tree = (result, tree) ∧
      ((∃ plan, result = .ok plan) ↔ Plannable env c inputs tree) ∧
      (∀ plan, result = .ok plan → Carries env c inputs tree plan) ∧
      ∀ own file inputs' tree' accounts accounts',
        let c' := { c with claim := { c.claim with accounts := own, accountsFile := file } }
        (Secret.load FileTree.files (fun name => pure (env name)) c.claim.signingKey tree').1 =
          (Secret.load FileTree.files (fun name => pure (env name)) c.claim.signingKey tree).1 →
        Lists c inputs tree accounts → accounts ≠ [] → Lists c' inputs' tree' accounts' → accounts' ≠ [] →
        ((∃ plan, result = .ok plan) ↔
          ∃ plan, c'.claimPlan FileTree.files (fun name => pure (env name)) inputs' tree' = (.ok plan, tree')) := by
  refine ⟨claimPlan_readOnly _ _ c inputs, ?_⟩
  obtain ⟨result, planned⟩ := claimPlan_unchanged env c inputs tree
  have made (plan : ClaimPlan) : result = .ok plan ↔ Plannable env c inputs tree ∧ Carries env c inputs tree plan := by
    rw [← claimPlan_eq_ok_iff_carries, planned, Prod.mk.injEq, and_iff_left rfl]
  have ready {c : Config} {inputs : ClaimInputs} {tree : FileTree} :
      (∃ plan, Plannable env c inputs tree ∧ Carries env c inputs tree plan) ↔ Plannable env c inputs tree := by
    rw [exists_and_left]
    exact and_iff_left_of_imp Plannable.exists_carries
  refine ⟨result, planned, ?_, fun plan given => ((made plan).mp given).2, ?_⟩
  · simp only [made, ready]
  · intro own file inputs' tree' accounts accounts' c' key listed some listed' some'
    simp only [made, claimPlan_eq_ok_iff_carries, ready]
    constructor
    · exact fun plannable => plannable.of_lists key listed' some'
    · -- the first accounts are other ones of the second configuration
      intro plannable
      show Plannable env { c' with claim := { c'.claim with
        accounts := c.claim.accounts, accountsFile := c.claim.accountsFile } } inputs tree
      exact plannable.of_lists key.symm listed some

/-- A plan for the lines of a file, and with it one for a line that is no address. -/
theorem claimPlan_plannable_listed :
    let other := { listedConfig with claim := { listedConfig.claim with accounts := ["0x"], accountsFile := none } }
    (∃ plan, listedConfig.claimPlan FileTree.files (fun name => pure (listedKey name)) ⟨[], none, false⟩ listedFiles =
      (.ok plan, listedFiles) ∧ Carries listedKey listedConfig ⟨[], none, false⟩ listedFiles plan) ∧
    ∃ plan, other.claimPlan FileTree.files (fun name => pure (listedKey name)) ⟨[], none, false⟩ ⟨[], []⟩ =
      (.ok plan, ⟨[], []⟩) := by
  intro other
  have contract : NamesAddress listedConfig.claim.contributorRewardAddress ⟨Vector.replicate 20 0x11⟩ :=
    (requireAddress_eq_ok_iff "" "").mp (by decide)
  have token : NamesAddress listedConfig.claim.rewardToken ⟨Vector.replicate 20 0x22⟩ :=
    (requireAddress_eq_ok_iff "" "").mp (by decide)
  have key : LoadsKey listedKey listedConfig listedFiles 1 :=
    ⟨by decide, by decide, ⟨(Vector.replicate 31 0).push 1⟩, rfl, by decide⟩
  have same : (Secret.load FileTree.files (fun name => pure (listedKey name)) listedConfig.claim.signingKey ⟨[], []⟩).1 =
      (Secret.load FileTree.files (fun name => pure (listedKey name)) listedConfig.claim.signingKey listedFiles).1 := by
    rw [listedConfig, Secret.load_env, Secret.load_env]
  have file : FileLines listedFiles listedConfig.claim.accountsFile (Claim.accountLines listedText) :=
    ⟨listedText, rfl, rfl⟩
  have listed : Lists listedConfig ⟨[], none, false⟩ listedFiles (["nobody"] ++ Claim.accountLines listedText) :=
    ⟨_, [], file, rfl, by simp [listedConfig]⟩
  have nonempty : ∀ accounts, Lists listedConfig ⟨[], none, false⟩ listedFiles accounts → accounts ≠ [] := by
    intro accounts relisted
    rw [relisted.unique listed]
    exact List.cons_ne_nil _ _
  have ready : Plannable listedKey listedConfig ⟨[], none, false⟩ listedFiles :=
    ⟨⟨_, contract⟩, ⟨_, token⟩, by decide, ⟨_, key⟩, ⟨_, file⟩, ⟨[], rfl⟩, nonempty, by decide⟩
  obtain ⟨-, result, planned, iff, carries, others⟩ :=
    claimPlan_plannable listedKey listedConfig ⟨[], none, false⟩ listedFiles
  obtain ⟨plan, rfl⟩ := iff.mpr ready
  have elsewhere : Lists other ⟨[], none, false⟩ ⟨[], []⟩ ["0x"] := ⟨[], [], rfl, rfl, rfl⟩
  exact ⟨⟨plan, planned, carries plan rfl⟩,
    (others _ _ _ _ _ _ same listed (List.cons_ne_nil _ _) elsewhere (List.cons_ne_nil _ _)).mp ⟨plan, rfl⟩⟩

end Config

end Allotment
