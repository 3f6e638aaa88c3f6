import Allotment.Proofs.Claim.Questions
import Allotment.Proofs.Key.Spelling
import Allotment.Proofs.Plan.Claim
import Allotment.Proofs.Snapshot.Validate

/-!
# From the sources of accounts to the questions about them

A plan lists the accounts of all its sources (`Config.claimAccounts_eq_ok_iff`), whose texts are looked at only when
claims are made. The wallets of a snapshot that was read are all different (`Snapshot.nodup_of_read`) and are written so
that they are read again, so each of them gets its own question in the run (`Config.claimPlan_accounts`).
-/

namespace Allotment

open Claim

/-! ## Reading changes nothing -/

theorem Snapshot.read_eq (path : Path) (tree : FileTree) :
    read FileTree.files path tree =
      (match (tree.read path).bind Files.textOf with
        | .ok text => ofFileText path text
        | .error cause => .error (.unreadable path cause), tree) := by
  simp only [read, bind, StateT.bind, FileTree.readText_eq]
  cases (tree.read path).bind Files.textOf with
  | ok text => rfl
  | error cause => rfl

/-- A snapshot that was read repeats no wallet. -/
theorem Snapshot.nodup_of_read {path : Path} {tree tree' : FileTree} {s : Snapshot}
    (found : read FileTree.files path tree = (.ok s, tree')) : s.wallets.Nodup := by
  rw [read_eq] at found
  have found := (Prod.mk.inj found).1
  split at found
  case h_2 => cases found
  case h_1 text _ =>
    unfold ofFileText at found
    split at found
    case h_1 => cases found
    case h_2 =>
      split at found
      case h_1 => cases found
      case h_2 passed =>
        cases found
        exact (validate_eq_ok_iff.mp passed).2

namespace Config

variable {c : Config} {inputs : ClaimInputs} {tree tree' : FileTree} {plan : ClaimPlan}

/-- The lines of an accounts file, if one is named. -/
def FileLines (tree : FileTree) : Option Path → List String → Prop
  | none, lines => lines = []
  | some path, lines => ∃ text, tree.read path = .ok text.toUTF8 ∧ lines = Claim.accountLines text

/-- The wallets of a snapshot that can be read, if one is named. -/
def SnapshotWallets (tree : FileTree) : Option Path → List Address → Prop
  | none, wallets => wallets = []
  | some path, wallets => ∃ s, Snapshot.read FileTree.files path tree = (.ok s, tree) ∧ wallets = s.wallets

theorem accountLines_eq_ok_iff {file : Option Path} {lines : List String} :
    accountLines FileTree.files file tree = (.ok lines, tree') ↔ tree = tree' ∧ FileLines tree file lines := by
  cases file with
  | none =>
    constructor
    · intro read
      cases read
      exact ⟨rfl, rfl⟩
    · rintro ⟨rfl, rfl⟩
      rfl
  | some path =>
    constructor
    · intro read
      obtain ⟨text, between, attempted, given⟩ := exceptT_bind_eq_ok read
      cases given
      have attempted := attempt_eq_ok attempted
      rw [FileTree.readText_eq] at attempted
      obtain ⟨held, rfl⟩ := Prod.mk.inj attempted
      obtain ⟨contents, held, decoded⟩ := bind_eq_ok_iff.mp held
      obtain rfl := Files.textOf_eq_ok_iff.mp decoded
      exact ⟨rfl, text, held, rfl⟩
    · rintro ⟨rfl, text, held, rfl⟩
      rw [accountLines, exceptT_bind_apply, attempt_apply, FileTree.readText_eq, held]
      simp only [Except.bind, Files.textOf_toUTF8]
      rfl

theorem snapshotWallets_eq_ok_iff {file : Option Path} {texts : List String} :
    snapshotWallets FileTree.files file tree = (.ok texts, tree') ↔
      tree = tree' ∧ ∃ wallets, SnapshotWallets tree file wallets ∧ texts = wallets.map Address.text := by
  cases file with
  | none =>
    constructor
    · intro read
      cases read
      exact ⟨rfl, [], rfl, rfl⟩
    · rintro ⟨rfl, wallets, rfl, rfl⟩
      rfl
  | some path =>
    constructor
    · intro read
      obtain ⟨s, between, attempted, given⟩ := exceptT_bind_eq_ok read
      cases given
      have found := attempt_eq_ok attempted
      obtain rfl : tree = tree' := by
        rw [Snapshot.read_eq] at found
        exact (Prod.mk.inj found).2
      exact ⟨rfl, s.wallets, ⟨s, found, rfl⟩, rfl⟩
    · rintro ⟨rfl, wallets, ⟨s, found, rfl⟩, rfl⟩
      rw [snapshotWallets, exceptT_bind_apply, attempt_apply, found]
      rfl

/-- **The accounts of a plan are those of its sources, in order.** -/
theorem claimAccounts_eq_ok_iff {accounts : List String} :
    c.claimAccounts FileTree.files inputs tree = (.ok accounts, tree') ↔
      tree = tree' ∧ ∃ lines wallets, FileLines tree c.claim.accountsFile lines ∧
        SnapshotWallets tree inputs.snapshot wallets ∧
        accounts = c.claim.accounts ++ inputs.accounts ++ lines ++ wallets.map Address.text := by
  constructor
  · intro collected
    obtain ⟨lines, between, first, rest⟩ := exceptT_bind_eq_ok collected
    obtain ⟨texts, after, second, given⟩ := exceptT_bind_eq_ok rest
    obtain ⟨rfl, file⟩ := accountLines_eq_ok_iff.mp first
    obtain ⟨rfl, wallets, snapshot, rfl⟩ := snapshotWallets_eq_ok_iff.mp second
    cases given
    exact ⟨rfl, lines, wallets, file, snapshot, rfl⟩
  · rintro ⟨rfl, lines, wallets, file, snapshot, rfl⟩
    rw [claimAccounts, exceptT_bind_apply, accountLines_eq_ok_iff.mpr ⟨rfl, file⟩]
    dsimp only
    rw [exceptT_bind_apply, snapshotWallets_eq_ok_iff.mpr ⟨rfl, wallets, snapshot, rfl⟩]
    rfl

/-- **What a plan for claims is made of.** -/
theorem claimPlan_eq_ok_iff {σ : Type} {files : Files (StateM σ)} {environment : Environment (StateM σ)} {s s' : σ} :
    c.claimPlan files environment inputs s = (.ok plan, s') ↔ ∃ secret between,
      requireAddress "claim.contributor_reward_address" "CONTRIBUTOR_REWARD_ADDRESS" c.claim.contributorRewardAddress =
        .ok plan.contract ∧
      requireAddress "claim.reward_token" "REWARD_TOKEN_ADDRESS" c.claim.rewardToken = .ok plan.reward.token ∧
      c.claimPeriod = .ok plan.reward.period ∧
      Secret.load files environment c.claim.signingKey s = (.ok secret, between) ∧
      Signer.ofSecret secret.bytes = .ok plan.signer ∧
      c.claimAccounts files inputs between = (.ok plan.accounts, s') ∧ plan.accounts ≠ [] ∧
      c.ledgerPlan = .ok plan.ledger ∧ plan.chainId = c.ledger.chainId ∧ plan.throttleMs = c.claim.throttleMs ∧
      plan.fees = c.claim.gas ∧ plan.dryRun = inputs.dryRun := by
  have settled {ε α : Type} {failure : ε → Failure} {step : Except ε α} {a : α} {s s' : σ} :
      (attempt failure (pure step) : ExceptT Failure (StateM σ) α) s = (.ok a, s') ↔ step = .ok a ∧ s = s' := by
    constructor
    · exact fun given => Prod.mk.inj (attempt_eq_ok given)
    · rintro ⟨rfl, rfl⟩
      rfl
  constructor
  · intro planned
    unfold claimPlan at planned
    obtain ⟨contract, s₁, first, planned⟩ := exceptT_bind_eq_ok planned
    obtain ⟨contractGiven, rfl⟩ := settled.mp first
    obtain ⟨token, s₁, second, planned⟩ := exceptT_bind_eq_ok planned
    obtain ⟨tokenGiven, rfl⟩ := settled.mp second
    obtain ⟨period, s₁, third, planned⟩ := exceptT_bind_eq_ok planned
    obtain ⟨periodGiven, rfl⟩ := settled.mp third
    obtain ⟨secret, between, fourth, planned⟩ := exceptT_bind_eq_ok planned
    obtain ⟨signer, s₁, fifth, planned⟩ := exceptT_bind_eq_ok planned
    obtain ⟨signerGiven, rfl⟩ := settled.mp fifth
    obtain ⟨accounts, s₁, sixth, planned⟩ := exceptT_bind_eq_ok planned
    cases accounts with
    | nil => cases planned
    | cons account others =>
      obtain ⟨ledger, s₂, seventh, planned⟩ := exceptT_bind_eq_ok planned
      obtain ⟨ledgerGiven, rfl⟩ := settled.mp seventh
      cases planned
      exact ⟨secret, between, contractGiven, tokenGiven, periodGiven, attempt_eq_ok fourth, signerGiven, sixth,
        List.cons_ne_nil _ _, ledgerGiven, rfl, rfl, rfl, rfl⟩
  · obtain ⟨ledger, chainId, contract, ⟨period, token⟩, accounts, signer, throttleMs, fees, dryRun⟩ := plan
    rintro ⟨secret, between, first, second, third, loaded, signerGiven, collected, some, ledgerGiven, rfl, rfl, rfl, rfl⟩
    have fourth : (attempt .key (Secret.load files environment c.claim.signingKey) : ExceptT Failure (StateM σ) _) s =
        (.ok secret, between) := by
      rw [attempt_apply, loaded]
      rfl
    rw [claimPlan, exceptT_bind_apply, settled.mpr ⟨first, rfl⟩]
    dsimp only
    rw [exceptT_bind_apply, settled.mpr ⟨second, rfl⟩]
    dsimp only
    rw [exceptT_bind_apply, settled.mpr ⟨third, rfl⟩]
    dsimp only
    rw [exceptT_bind_apply, fourth]
    dsimp only
    rw [exceptT_bind_apply, settled.mpr ⟨signerGiven, rfl⟩]
    dsimp only
    rw [exceptT_bind_apply, collected]
    cases accounts with
    | nil => exact absurd rfl some
    | cons account others =>
      show (attempt .config (pure c.ledgerPlan) >>= _ : ExceptT Failure (StateM σ) ClaimPlan) s' = _
      rw [exceptT_bind_apply, settled.mpr ⟨ledgerGiven, rfl⟩]
      rfl

/-- No wallet comes twice from a snapshot. -/
theorem nodup_of_snapshotWallets {file : Option Path} {wallets : List Address}
    (read : SnapshotWallets tree file wallets) : wallets.Nodup := by
  cases file with
  | none =>
    obtain rfl : wallets = [] := read
    exact List.nodup_nil
  | some path =>
    obtain ⟨s, found, rfl⟩ := read
    exact Snapshot.nodup_of_read found

end Config

/-! ## The questions of a run -/

namespace ClaimPlan

variable {plan : ClaimPlan} {events : List Event} {outcomes : List Outcome} {place : Nat} {line : String}
  {account : Address}

/-- The question about an account. -/
def question (plan : ClaimPlan) (account : Address) : Request :=
  .call plan.contract (Contract.claimable plan.reward.period plan.reward.token account)

/-- The line at a place of the list is dealt with as an account: the lines before it have been announced and asked
about, then comes the question about the account, no other question comes before the line is announced, and its outcome
is not that of a line that is no address. -/
def AsksAt (plan : ClaimPlan) (events : List Event) (outcomes : List Outcome) (place : Nat) (line : String)
    (account : Address) : Prop :=
  ∃ before answer own outcome later,
    events = before ++ .asked (plan.question account) answer :: own ++ .told line outcome :: later ∧
    announcements before = (plan.accounts.zip outcomes).take place ∧
    calls before = ((plan.accounts.take place).filterMap Address.parse?).map plan.question ∧ calls own = [] ∧
    outcomes[place]? = some outcome ∧ outcome ≠ .invalidAddress

theorem asksAt_of_minutes (minutes : plan.Minutes events (.ok outcomes)) (found : plan.accounts[place]? = some line)
    (parsed : Address.parse? line = some account) : plan.AsksAt events outcomes place line account := by
  obtain ⟨id, before, own, outcome, later, rfl, segment, there, announced, asked⟩ := minutes.segment_at found
  obtain ⟨⟨answer, rest, rfl, others⟩, valid⟩ := segment.begins parsed
  exact ⟨before, answer, rest, outcome, later, rfl, announced, asked, others, there, valid⟩

/-- **A run asks about every line that is an account**, at its place, or else no line is dealt with at all. -/
theorem run_asks {τ : Type} (host : Host (StateM τ)) (plan : ClaimPlan) (told : String → Outcome → String)
    (scene : Scene τ) :
    ∃ result events after,
      plan.run host.watched (fun line outcome => host.watched.print (told line outcome)) scene = (result, after) ∧
      plan.Plays host told scene events after ∧
      (∀ failure, result = .error failure → calls events = [] ∧ announcements events = []) ∧
      ∀ outcomes, result = .ok outcomes → ∀ (place : Nat) line account, plan.accounts[place]? = some line →
        Address.parse? line = some account → plan.AsksAt events outcomes place line account := by
  cases valid : Endpoint.isValid plan.ledger.endpoint with
  | false =>
    refine ⟨_, [], scene, run_invalid host plan told valid scene, ?_, fun _ _ => ⟨rfl, rfl⟩, nofun⟩
    unfold Plays
    split
    case isTrue => exact ⟨[], .nil _⟩
    case isFalse => exact .nil _
  | true =>
    obtain ⟨result, events, after, ran, plays, minutes⟩ := run_plays host plan told valid scene
    refine ⟨_, events, after, ran, plays, ?_, ?_⟩
    · intro failure failed
      cases result with
      | ok outcomes => cases failed
      | error cause =>
        obtain ⟨cause, -, -, rfl⟩ := minutes.of_error
        exact ⟨rfl, rfl⟩
    · intro outcomes succeeded place line account found parsed
      cases result with
      | error cause => cases succeeded
      | ok outcomes' =>
        cases succeeded
        exact asksAt_of_minutes minutes found parsed

end ClaimPlan

/-- **The accounts of a plan, and what becomes of those from a snapshot.** The accounts are those of the configuration,
those given besides, the lines of the accounts file and the wallets of the snapshot, in this order, all of them. The
wallets are all different and are read again from their texts. Whenever the claims of the plan are made, on any host at
all, then either no line is dealt with, or the line of each wallet is asked about as just this wallet, at its place. -/
theorem Config.claimPlan_accounts {env : String → Option String} {c : Config} {inputs : ClaimInputs}
    {tree tree' : FileTree} {plan : ClaimPlan}
    (planned : c.claimPlan FileTree.files (fun name => pure (env name)) inputs tree = (.ok plan, tree')) :
    ∃ lines wallets, FileLines tree c.claim.accountsFile lines ∧ SnapshotWallets tree inputs.snapshot wallets ∧
      plan.accounts = c.claim.accounts ++ inputs.accounts ++ lines ++ wallets.map Address.text ∧
      wallets.Nodup ∧ (wallets.map Address.text).map Address.parse = wallets.map .ok ∧
      ∀ {τ : Type} (host : Host (StateM τ)) (told : String → Outcome → String) (scene : Scene τ),
        ∃ result events after,
          plan.run host.watched (fun line outcome => host.watched.print (told line outcome)) scene = (result, after) ∧
          plan.Plays host told scene events after ∧
          (∀ failure, result = .error failure → calls events = [] ∧ announcements events = []) ∧
          ∀ outcomes, result = .ok outcomes → ∀ (j : Nat) wallet, wallets[j]? = some wallet →
            plan.AsksAt events outcomes ((c.claim.accounts ++ inputs.accounts ++ lines).length + j) wallet.text wallet := by
  obtain ⟨secret, between, -, -, -, loaded, -, collected, -⟩ := claimPlan_eq_ok_iff.mp planned
  obtain ⟨result, unchanged⟩ := Secret.load_eq env c.claim.signingKey tree
  obtain ⟨-, rfl⟩ := Prod.mk.inj (unchanged.symm.trans loaded)
  obtain ⟨-, lines, wallets, file, snapshot, accounts⟩ := claimAccounts_eq_ok_iff.mp collected
  refine ⟨lines, wallets, file, snapshot, accounts, nodup_of_snapshotWallets snapshot, ?_, ?_⟩
  · rw [List.map_map, List.map_congr_left]
    intro wallet _
    rw [Function.comp_apply, wallet.parse_text]
  · intro τ host told scene
    obtain ⟨result, events, after, ran, plays, failed, asks⟩ := plan.run_asks host told scene
    refine ⟨result, events, after, ran, plays, failed, fun outcomes succeeded j wallet found => ?_⟩
    refine asks outcomes succeeded _ _ _ ?_ wallet.parse?_text
    rw [accounts, List.getElem?_append_right (Nat.le_add_right _ _), Nat.add_sub_cancel_left, List.getElem?_map, found]
    rfl

/-- A configuration whose own account is no address. -/
def listedConfig : Config where
  ledger := LedgerSettings.standard
  snapshot := SnapshotSettings.standard
  claim := { ClaimSettings.standard with
    contributorRewardAddress := some "0x1111111111111111111111111111111111111111"
    rewardToken := some "0x2222222222222222222222222222222222222222"
    accounts := ["nobody"]
    accountsFile := some ⟨"accounts.txt"⟩
    signingKey := .env "KEY" }

/-- What is given besides. -/
def listedInputs : ClaimInputs := ⟨["nobody"], some ⟨"snapshot.json"⟩, true⟩

/-- The value of the one variable that is set. -/
def listedKey (name : String) : Option String :=
  if name = "KEY" then some "0x0000000000000000000000000000000000000000000000000000000000000001" else none

/-- A snapshot of two wallets. -/
def listedSnapshot : Snapshot :=
  .ofRecords [⟨⟨Vector.replicate 20 0x33⟩, 7, 0, 0⟩, ⟨⟨Vector.replicate 20 0x44⟩, 0, 1, 0⟩]

/-- A list that names one of these wallets, with a comment and white space. -/
def listedText : String := "# team\n\n 0x3333333333333333333333333333333333333333 \r\nnobody"

/-- The list beside the snapshot. -/
def listedFiles : FileTree where
  entries := [
    (["accounts.txt"], .file listedText.toUTF8),
    (["snapshot.json"], .file listedSnapshot.fileText.toUTF8)]
  current := []

/-- A plan with accounts of all kinds, among them the wallets of a snapshot. -/
theorem Config.claimPlan_accounts_listed :
    ∃ plan, listedConfig.claimPlan FileTree.files (fun name => pure (listedKey name)) listedInputs listedFiles =
        (.ok plan, listedFiles) ∧
      ∃ lines wallets, FileLines listedFiles (some ⟨"accounts.txt"⟩) lines ∧
        SnapshotWallets listedFiles (some ⟨"snapshot.json"⟩) wallets ∧
        plan.accounts = ["nobody", "nobody"] ++ lines ++ wallets.map Address.text ∧ wallets.Nodup := by
  have file : FileLines listedFiles (some ⟨"accounts.txt"⟩) (Claim.accountLines listedText) := ⟨listedText, rfl, rfl⟩
  have valid : listedSnapshot.validate = .ok () := by decide
  have found : listedFiles.read ⟨"snapshot.json"⟩ = .ok listedSnapshot.fileText.toUTF8 := rfl
  have snapshot : SnapshotWallets listedFiles (some ⟨"snapshot.json"⟩) listedSnapshot.wallets :=
    ⟨listedSnapshot, by rw [Snapshot.read_of_text found, Snapshot.ofFileText_fileText, valid], rfl⟩
  have accounts : listedConfig.claimAccounts FileTree.files listedInputs listedFiles =
      (.ok (["nobody", "nobody"] ++ Claim.accountLines listedText ++ listedSnapshot.wallets.map Address.text),
        listedFiles) :=
    claimAccounts_eq_ok_iff.mpr ⟨rfl, _, _, file, snapshot, rfl⟩
  have contract : requireAddress "claim.contributor_reward_address" "CONTRIBUTOR_REWARD_ADDRESS"
      listedConfig.claim.contributorRewardAddress = .ok ⟨Vector.replicate 20 0x11⟩ := by decide
  have token : requireAddress "claim.reward_token" "REWARD_TOKEN_ADDRESS" listedConfig.claim.rewardToken =
      .ok ⟨Vector.replicate 20 0x22⟩ := by decide
  have period : listedConfig.claimPeriod = .ok "2026-01" := by decide
  have secret : Secret.load FileTree.files (fun name => pure (listedKey name)) listedConfig.claim.signingKey listedFiles =
      (.ok ⟨(Vector.replicate 31 0).push 1⟩, listedFiles) := by rfl
  have signer : Signer.ofSecret ((Vector.replicate 31 0).push 1) = .ok ⟨1, by decide, by decide⟩ := by rfl
  have ledger : listedConfig.ledgerPlan = .ok ⟨"https://ethereum-sepolia.publicnode.com", 30⟩ := by decide
  let plan : ClaimPlan := {
    ledger := ⟨"https://ethereum-sepolia.publicnode.com", 30⟩
    chainId := none
    contract := ⟨Vector.replicate 20 0x11⟩
    reward := ⟨"2026-01", ⟨Vector.replicate 20 0x22⟩⟩
    accounts := ["nobody", "nobody"] ++ Claim.accountLines listedText ++ listedSnapshot.wallets.map Address.text
    signer := ⟨1, by decide, by decide⟩
    throttleMs := 3000
    fees := Fees.standard
    dryRun := true }
  have planned : listedConfig.claimPlan FileTree.files (fun name => pure (listedKey name)) listedInputs listedFiles =
      (.ok plan, listedFiles) :=
    claimPlan_eq_ok_iff.mpr ⟨_, _, contract, token, period, secret, signer, accounts, List.cons_ne_nil _ _, ledger,
      rfl, rfl, rfl, rfl⟩
  obtain ⟨lines, wallets, fromFile, fromSnapshot, listed, once, -⟩ := claimPlan_accounts planned
  exact ⟨plan, planned, lines, wallets, fromFile, fromSnapshot, listed, once⟩

end Allotment
