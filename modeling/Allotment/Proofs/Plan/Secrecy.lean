import Allotment.Proofs.Bytes.Minimal
import Allotment.Proofs.Key.Spelling
import Allotment.Proofs.Plan.Ready

/-!
# A key is seen in nothing but the signer

Two plans are made from one configuration whose key is the value of a variable, with two values of it:

* the value is looked at after the contract and the reward and before all else (`Config.claimPlan_apply`), and it gives
  the signer of the key that is spelled in it (`Signer.ofVariable_of_spelledBy`) or one of two failures, which do not
  tell it (`Signer.ofVariable_eq_error`);
* what comes after takes the signer over and looks at nothing of it (`Config.planSigned_signer`).

So two keys give plans that differ in the signer alone, or one failure, and all values that are refused for one reason
give one text (`Config.claimPlan_conceals`).
-/

namespace Allotment

/-! ## Keys in the values of variables -/

/-- A text spells a key: it is spelled in the digits of the key's bytes, of either case. -/
def Secp256k1.PrivateKey.SpelledBy (key : Secp256k1.PrivateKey) (text : String) : Prop :=
  ∃ digits, Secret.Spells text digits ∧ digits.map Char.toLower = Hex.encode key.bytes

/-- A text is spelled in the digits of a secret, but as a number it is no key of the curve. -/
def Secret.SpellsNoKey (text : String) : Prop :=
  ∃ (digits : List Char) (secret : Secret), Spells text digits ∧
    digits.map Char.toLower = Hex.encode secret.bytes.toList ∧ Secp256k1.order ≤ Bytes.toNat secret.bytes.toList

theorem Secret.Spells.isBlankText {text : String} {digits : List Char} (spells : Secret.Spells text digits) :
    Text.isBlankText text = false := by
  refine Secret.isBlankText_of_spelled spells.spelled ?_
  rintro rfl
  exact absurd spells.sixtyFour (by decide)

namespace Signer

variable {name text : String} {key : Secp256k1.PrivateKey} {failure : Failure}

/-- The signer with the key in the value of a variable. -/
def ofVariable (name : String) (value : Option String) : Except Failure Signer := do
  let secret ← (Secret.ofVariable name value).mapError .key
  (ofSecret secret.bytes).mapError .ledger

theorem ofVariable_of_spelledBy (spelled : key.SpelledBy text) : ofVariable name (some text) = .ok ⟨key⟩ := by
  obtain ⟨digits, spells, same⟩ := spelled
  obtain ⟨v, bytes⟩ : ∃ v : Vector UInt8 32, v.toList = key.bytes :=
    ⟨⟨key.bytes.toArray, by rw [List.size_toArray]; exact Bytes.length_ofNat 32 key.value⟩, rfl⟩
  have denoted : Secret.ofHex? text = some ⟨v⟩ :=
    Secret.ofHex?_eq_some_iff.mpr ⟨digits, spells, same.trans (congrArg Hex.encode bytes.symm)⟩
  have number : Bytes.toNat v.toList = key.value := by
    rw [bytes]
    exact Bytes.toNat_ofNat (key.lt.trans (by decide))
  have signer : ofSecret v = .ok ⟨key⟩ := ofSecret_eq_ok_iff.mpr number
  rw [ofVariable, Secret.ofVariable, spells.isBlankText, denoted]
  show (ofSecret v).mapError Failure.ledger = _
  rw [signer]
  rfl

/-- A value that is not blank is refused for one of two reasons. -/
theorem ofVariable_eq_error (visible : Text.isBlankText text = false)
    (refused : ofVariable name (some text) = .error failure) :
    ((¬∃ digits, Secret.Spells text digits) ∧ failure = .key .invalidFormat) ∨
      (Secret.SpellsNoKey text ∧ failure = .ledger .invalidKey) := by
  rw [ofVariable, Secret.ofVariable, visible] at refused
  cases denoted : Secret.ofHex? text with
  | none =>
    rw [denoted] at refused
    exact .inl ⟨Secret.ofHex?_eq_none_iff.mp denoted, (Except.error.inj refused).symm⟩
  | some secret =>
    rw [denoted] at refused
    obtain ⟨digits, spells, same⟩ := Secret.ofHex?_eq_some_iff.mp denoted
    have positive : 0 < Bytes.toNat secret.bytes.toList := by
      refine Nat.pos_of_ne_zero fun none => ?_
      rw [Secret.eq_zero_iff.mpr ((Bytes.toNat_eq_zero _).mp none)] at denoted
      exact Secret.ofHex?_ne_zero denoted
    by_cases less : Bytes.toNat secret.bytes.toList < Secp256k1.order
    case pos =>
      have signer : ofSecret secret.bytes = .ok ⟨⟨_, positive, less⟩⟩ := ofSecret_eq_ok_iff.mpr rfl
      change (ofSecret secret.bytes).mapError Failure.ledger = _ at refused
      rw [signer] at refused
      cases refused
    case neg =>
      have none : ofSecret secret.bytes = .error .invalidKey := by
        rw [ofSecret, Secp256k1.PrivateKey.ofBytes?, dif_neg fun within => less within.2]
      change (ofSecret secret.bytes).mapError Failure.ledger = _ at refused
      rw [none] at refused
      exact .inr ⟨⟨digits, secret, spells, same, Nat.le_of_not_lt less⟩, (Except.error.inj refused).symm⟩

end Signer

/-! ## Plans -/

namespace Config

section Stages

variable {m : Type → Type} [Monad m]

/-- What is looked at before the key: the contract and the reward. -/
def claimTerms (c : Config) : Except Failure (Address × Claim.Reward) := do
  let contract ← (requireAddress "claim.contributor_reward_address" "CONTRIBUTOR_REWARD_ADDRESS"
    c.claim.contributorRewardAddress).mapError .config
  let token ← (requireAddress "claim.reward_token" "REWARD_TOKEN_ADDRESS" c.claim.rewardToken).mapError .config
  let period ← c.claimPeriod.mapError .config
  return (contract, ⟨period, token⟩)

/-- What is planned once there is a signer. -/
def planSigned (files : Files m) (c : Config) (inputs : ClaimInputs) (contract : Address) (reward : Claim.Reward)
    (signer : Signer) : ExceptT Failure m ClaimPlan := do
  let accounts ← claimAccounts files c inputs
  if accounts.isEmpty then throw (.config .noAccounts)
  let ledger ← attempt .config (pure c.ledgerPlan)
  return {
    ledger, contract, reward, accounts, signer
    chainId := c.ledger.chainId
    throttleMs := c.claim.throttleMs
    fees := c.claim.gas
    dryRun := inputs.dryRun }

end Stages

variable {σ : Type} {files : Files (StateM σ)} {env env' : String → Option String} {c : Config} {inputs : ClaimInputs}
  {name : String}

/-- A plan whose key is the value of a variable is made in three stages, of which only the second looks at the value. -/
theorem claimPlan_apply (source : c.claim.signingKey = .env name) (s : σ) :
    c.claimPlan files (fun name => pure (env name)) inputs s =
      match c.claimTerms with
      | .error failure => (.error failure, s)
      | .ok (contract, reward) =>
        match Signer.ofVariable name (env name) with
        | .error failure => (.error failure, s)
        | .ok signer => c.planSigned files inputs contract reward signer s := by
  have settled {ε α : Type} (failure : ε → Failure) (step : Except ε α) (s : σ) :
      (attempt failure (pure step) : ExceptT Failure (StateM σ) α) s = (step.mapError failure, s) := rfl
  have loaded (s : σ) : (attempt .key (Secret.load files (fun name => pure (env name)) (.env name)) :
      ExceptT Failure (StateM σ) Secret) s = ((Secret.ofVariable name (env name)).mapError .key, s) := rfl
  simp only [claimPlan, claimTerms, source, exceptT_bind_apply, settled, loaded, Signer.ofVariable, planSigned]
  cases requireAddress "claim.contributor_reward_address" "CONTRIBUTOR_REWARD_ADDRESS"
      c.claim.contributorRewardAddress with
  | error fault => rfl
  | ok contract =>
    cases requireAddress "claim.reward_token" "REWARD_TOKEN_ADDRESS" c.claim.rewardToken with
    | error fault => rfl
    | ok token =>
      cases c.claimPeriod with
      | error fault => rfl
      | ok period =>
        cases Secret.ofVariable name (env name) with
        | error cause => rfl
        | ok secret =>
          simp only [Except.mapError, ok_bind]
          cases Signer.ofSecret secret.bytes with
          | error cause => rfl
          | ok signer => rfl

/-- The signer is taken over and not looked at. -/
theorem planSigned_signer (contract : Address) (reward : Claim.Reward) (signer signer' : Signer) (s : σ) :
    c.planSigned files inputs contract reward signer' s =
      ((c.planSigned files inputs contract reward signer s).1.map fun plan => { plan with signer := signer' },
        (c.planSigned files inputs contract reward signer s).2) := by
  simp only [planSigned, exceptT_bind_apply]
  cases claimAccounts files c inputs s with
  | mk result s =>
  cases result with
  | error failure => rfl
  | ok accounts =>
    cases accounts with
    | nil => rfl
    | cons account others =>
      cases c.ledgerPlan with
      | error fault => rfl
      | ok ledger => rfl

/-- With a key in the variable, what happens does not depend on the key, but a plan has its signer. -/
theorem claimPlan_of_spelledBy (files : Files (StateM σ)) (inputs : ClaimInputs)
    (source : c.claim.signingKey = .env name) (s : σ) :
    ∃ (planned : Except Failure ClaimPlan) (s' : σ), ∀ (env : String → Option String) text (key : Secp256k1.PrivateKey),
      env name = some text → key.SpelledBy text → c.claimPlan files (fun name => pure (env name)) inputs s =
        (planned.map fun plan => { plan with signer := ⟨key⟩ }, s') := by
  cases terms : c.claimTerms with
  | error failure =>
    refine ⟨.error failure, s, fun env text key value spelled => ?_⟩
    rw [claimPlan_apply source, terms]
    rfl
  | ok known =>
    obtain ⟨contract, reward⟩ := known
    let one : Signer := ⟨⟨1, by decide, by decide⟩⟩
    let made := c.planSigned files inputs contract reward one s
    refine ⟨made.1, made.2, fun env text key value spelled => ?_⟩
    rw [claimPlan_apply source, terms, value, Signer.ofVariable_of_spelledBy spelled]
    exact planSigned_signer contract reward one ⟨key⟩ s

/-- Where a value that is not blank makes the difference, one of two failures is all there is to see. -/
theorem eq_of_claimPlan_eq_error (source : c.claim.signingKey = .env name) {text text' : String}
    {key : Secp256k1.PrivateKey} {failure : Failure} {s s' : σ} (value : env name = some text)
    (visible : Text.isBlankText text = false)
    (failed : c.claimPlan files (fun name => pure (env name)) inputs s = (.error failure, s'))
    (value' : env' name = some text') (spelled : key.SpelledBy text')
    (mended : (c.claimPlan files (fun name => pure (env' name)) inputs s).1 ≠ .error failure) :
    ((¬∃ digits, Secret.Spells text digits) ∧ failure = .key .invalidFormat) ∨
      (Secret.SpellsNoKey text ∧ failure = .ledger .invalidKey) := by
  rw [claimPlan_apply source] at failed mended
  cases terms : c.claimTerms with
  | error earlier =>
    -- what fails before the key is looked at fails with every key
    rw [terms] at failed mended
    exact absurd (Prod.mk.inj failed).1 mended
  | ok known =>
    obtain ⟨contract, reward⟩ := known
    rw [terms] at failed mended
    dsimp only at failed mended
    rw [value', Signer.ofVariable_of_spelledBy spelled] at mended
    rw [value] at failed
    cases signed : Signer.ofVariable name (some text) with
    | error refused =>
      rw [signed] at failed
      obtain ⟨same, -⟩ := Prod.mk.inj failed
      rw [← Except.error.inj same]
      exact Signer.ofVariable_eq_error visible signed
    | ok signer =>
      -- what fails after the key was taken fails with every signer
      rw [signed] at failed
      dsimp only at failed mended
      rw [planSigned_signer contract reward signer, failed] at mended
      exact absurd rfl mended

/-- **A key is seen in nothing but the signer.** Let the key of a configuration be the value of a variable. With two
keys there, in any spelling and whatever the other variables are, planning ends in one failure or in plans that are
equal but for the signer. Where a value that is not blank makes planning fail, as a key in its place would not, it has
not the digits of a secret or it has those of a number that is no key of the curve, and for each of these there is one
text. All secrets are shown in one way, and a signer as a function of its address. -/
theorem claimPlan_conceals (files : Files (StateM σ)) (source : c.claim.signingKey = .env name) (inputs : ClaimInputs)
    (s : σ) :
    (∀ (env env' : String → Option String) text text' (key key' : Secp256k1.PrivateKey), env name = some text →
      env' name = some text' → key.SpelledBy text → key'.SpelledBy text' →
      ∃ s', (∃ failure,
          c.claimPlan files (fun name => pure (env name)) inputs s = (.error failure, s') ∧
          c.claimPlan files (fun name => pure (env' name)) inputs s = (.error failure, s')) ∨
        ∃ plan : ClaimPlan,
          c.claimPlan files (fun name => pure (env name)) inputs s = (.ok { plan with signer := ⟨key⟩ }, s') ∧
          c.claimPlan files (fun name => pure (env' name)) inputs s = (.ok { plan with signer := ⟨key'⟩ }, s')) ∧
    (∀ (env env' : String → Option String) text text' (key : Secp256k1.PrivateKey) failure s', env name = some text →
      Text.isBlankText text = false →
      c.claimPlan files (fun name => pure (env name)) inputs s = (.error failure, s') →
      env' name = some text' → key.SpelledBy text' →
      (c.claimPlan files (fun name => pure (env' name)) inputs s).1 ≠ .error failure →
      ((¬∃ digits, Secret.Spells text digits) ∧ failure.message = "Keystore error: Invalid key format") ∨
        (Secret.SpellsNoKey text ∧ failure.message = "signing failed: invalid private key: signature error")) ∧
    (∀ secret secret' : Secret, secret.shown = secret'.shown) ∧
    ∃ shown : Address → String, ∀ signer : Signer, signer.shown = shown signer.address := by
  refine ⟨?_, ?_, fun _ _ => rfl, fun a => "ClaimSigner \x7b address: " ++ a.lowerText ++ ", .. \x7d", fun _ => rfl⟩
  · intro env env' text text' key key' value value' spelled spelled'
    obtain ⟨planned, s', made⟩ := claimPlan_of_spelledBy files inputs source s
    refine ⟨s', ?_⟩
    rw [made env text key value spelled, made env' text' key' value' spelled']
    cases planned with
    | error failure => exact .inl ⟨failure, rfl, rfl⟩
    | ok plan => exact .inr ⟨plan, rfl, rfl⟩
  · intro env env' text text' key failure s' value visible failed value' spelled mended
    rcases eq_of_claimPlan_eq_error source value visible failed value' spelled mended with ⟨none, rfl⟩ | ⟨large, rfl⟩
    · exact .inl ⟨none, rfl⟩
    · exact .inr ⟨large, rfl⟩

/-- A configuration with one account and a key in a variable. -/
def keyedConfig : Config :=
  { listedConfig with claim := { listedConfig.claim with accountsFile := none } }

/-- A value of that variable alone. -/
def keyedWith (text name : String) : Option String :=
  if name = "KEY" then some text else none

/-- The digits of a key after a mark. -/
def markedKey : String := "0x0000000000000000000000000000000000000000000000000000000000000001"

/-- The digits of a key with white space around. -/
def spacedKey : String := " 00000000000000000000000000000000000000000000000000000000000000aB\n"

/-- The order of the curve, which is no key. -/
def orderDigits : String := "fffffffffffffffffffffffffffffffebaaedce6af48a03bbfd25e8cd0364141"

/-- Two keys in different spellings give one plan with two signers, and too large a number gives none. -/
theorem claimPlan_conceals_keyed :
    let key : Secp256k1.PrivateKey := ⟨1, by decide, by decide⟩
    let key' : Secp256k1.PrivateKey := ⟨0xab, by decide, by decide⟩
    key.SpelledBy markedKey ∧ key'.SpelledBy spacedKey ∧
    (∃ plan : ClaimPlan,
      keyedConfig.claimPlan FileTree.files (fun name => pure (keyedWith markedKey name)) ⟨[], none, false⟩ ⟨[], []⟩ =
        (.ok { plan with signer := ⟨key⟩ }, ⟨[], []⟩) ∧
      keyedConfig.claimPlan FileTree.files (fun name => pure (keyedWith spacedKey name)) ⟨[], none, false⟩ ⟨[], []⟩ =
        (.ok { plan with signer := ⟨key'⟩ }, ⟨[], []⟩)) ∧
    keyedConfig.claimPlan FileTree.files (fun name => pure (keyedWith orderDigits name)) ⟨[], none, false⟩ ⟨[], []⟩ =
      (.error (.ledger .invalidKey), ⟨[], []⟩) ∧
    Secret.SpellsNoKey orderDigits := by
  intro key key'
  have first : Secret.Spells markedKey (List.replicate 63 '0' ++ ['1']) := by
    refine ⟨Hex.spelledIn_iff_dropMark.mpr ⟨?_, ?_⟩, by decide, '1', by decide, by decide⟩
    · decide +kernel
    · exact List.all_eq_true.mp (by decide)
  have second : Secret.Spells spacedKey (List.replicate 62 '0' ++ ['a', 'B']) := by
    refine ⟨Hex.spelledIn_iff_dropMark.mpr ⟨?_, ?_⟩, by decide, 'B', by decide, by decide⟩
    · decide +kernel
    · exact List.all_eq_true.mp (by decide)
  have spelled : key.SpelledBy markedKey := ⟨_, first, by decide +kernel⟩
  have spelled' : key'.SpelledBy spacedKey := ⟨_, second, by decide +kernel⟩
  let plan : ClaimPlan := {
    ledger := ⟨"https://ethereum-sepolia.publicnode.com", 30⟩
    chainId := none
    contract := ⟨Vector.replicate 20 0x11⟩
    reward := ⟨"2026-01", ⟨Vector.replicate 20 0x22⟩⟩
    accounts := ["nobody"]
    signer := ⟨key⟩
    throttleMs := 3000
    fees := Fees.standard
    dryRun := false }
  have planned : keyedConfig.claimPlan FileTree.files (fun name => pure (keyedWith markedKey name)) ⟨[], none, false⟩
      ⟨[], []⟩ = (.ok plan, ⟨[], []⟩) := rfl
  have failed : keyedConfig.claimPlan FileTree.files (fun name => pure (keyedWith orderDigits name)) ⟨[], none, false⟩
      ⟨[], []⟩ = (.error (.ledger .invalidKey), ⟨[], []⟩) := rfl
  have source : keyedConfig.claim.signingKey = .env "KEY" := rfl
  obtain ⟨keys, refused, -, -⟩ := claimPlan_conceals FileTree.files source ⟨[], none, false⟩ ⟨[], []⟩
  refine ⟨spelled, spelled', ?_, failed, ?_⟩
  · obtain ⟨tree, ⟨failure, wrong, -⟩ | ⟨made, one, other⟩⟩ :=
      keys (keyedWith markedKey) (keyedWith spacedKey) markedKey spacedKey key key' rfl rfl spelled spelled'
    · rw [planned] at wrong
      cases wrong
    · rw [planned] at one
      obtain ⟨-, rfl⟩ := Prod.mk.inj one
      exact ⟨made, planned.trans one, other⟩
  · have mended : (keyedConfig.claimPlan FileTree.files (fun name => pure (keyedWith markedKey name)) ⟨[], none, false⟩
        ⟨[], []⟩).1 ≠ .error (.ledger .invalidKey) := by
      rw [planned]
      exact nofun
    obtain ⟨-, message⟩ | ⟨none, -⟩ :=
      refused (keyedWith orderDigits) (keyedWith markedKey) orderDigits markedKey key _ _ rfl (by decide +kernel) failed
        rfl spelled mended
    · exact absurd message (by decide)
    · exact none

end Config

end Allotment
