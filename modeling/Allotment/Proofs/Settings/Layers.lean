import Allotment.Settings.Override
import Allotment.Text.Blank

/-!
# Layers of settings

A setting may come from several layers (`InEffect`), and what is in effect depends on nothing else (`inEffect_iff`). The
middle layer are the variables: `Exports` tells what one has to say. Looking all of them up comes to one configuration
(`Config.override_pure`), in which each variable has its own setting and no other one (`Config.overridden_eq`); looking
them up again changes nothing (`Config.overridden_overridden`).
-/

namespace Allotment

/-- The value of a setting that is in effect: one that is given, or else one that is exported, or else the one that was
kept. -/
inductive InEffect {α : Type} (given exported : α → Prop) (kept : α) : α → Prop
  | given {a : α} : given a → InEffect given exported kept a
  | exported {a : α} : (∀ b, ¬given b) → exported a → InEffect given exported kept a
  | kept : (∀ b, ¬given b) → (∀ b, ¬exported b) → InEffect given exported kept kept

/-- Where a layer says nothing, it has no value. -/
theorem eq_none_of_silent {α : Type} {layer : α → Prop} {value : Option α} (shows : ∀ b, layer b ↔ value = some b)
    (silent : ∀ b, ¬layer b) : value = none :=
  Option.eq_none_iff_forall_ne_some.mpr fun b same => silent b ((shows b).mpr same)

theorem inEffect_iff {α : Type} {given exported : α → Prop} {kept a : α} (flag text : Option α)
    (flagged : ∀ b, given b ↔ flag = some b) (set : ∀ b, exported b ↔ text = some b) :
    InEffect given exported kept a ↔ a = flag.getD (text.getD kept) := by
  constructor
  · rintro (isGiven | ⟨none, isExported⟩ | ⟨none, silent⟩)
    · rw [(flagged a).mp isGiven, Option.getD_some]
    · rw [eq_none_of_silent flagged none, (set a).mp isExported, Option.getD_none, Option.getD_some]
    · rw [eq_none_of_silent flagged none, eq_none_of_silent set silent, Option.getD_none, Option.getD_none]
  · rintro rfl
    cases flag with
    | some b => exact .given ((flagged b).mpr rfl)
    | none =>
      have none : ∀ b, ¬given b := fun b isGiven => nomatch (flagged b).mp isGiven
      cases text with
      | some b => exact .exported none ((set b).mpr rfl)
      | none => exact .kept none fun b isExported => nomatch (set b).mp isExported

/-- Without a layer there is no value. -/
theorem silent_iff {α : Type} {b : α} : False ↔ none = some b :=
  iff_of_false id (Option.some_ne_none b).symm

/-- Where there is no variable, the flag counts. -/
theorem inEffect_flag {α : Type} {flag : Option α} {kept a : α} :
    InEffect (flag = some ·) (fun _ => False) kept a ↔ a = flag.getD kept :=
  inEffect_iff flag none (fun _ => Iff.rfl) fun _ => silent_iff

/-- The same where the setting may be missing. -/
theorem inEffect_flag_some {α : Type} {flag kept a : Option α} :
    InEffect (fun a => ∃ b, a = some b ∧ flag = some b) (fun _ => False) kept a ↔ a = flag.or kept := by
  have flagged (a : Option α) : (∃ b, a = some b ∧ flag = some b) ↔ flag.map some = some a := by
    cases flag <;> simp [eq_comm]
  rw [inEffect_iff (flag.map some) none flagged fun _ => silent_iff]
  cases flag <;> rfl

/-- A flag without a value that turns a setting off. -/
theorem inEffect_mark {marked kept a : Bool} :
    InEffect (fun b => marked = true ∧ b = false) (fun _ => False) kept a ↔ a = (kept && !marked) := by
  have flagged (b : Bool) : (marked = true ∧ b = false) ↔ (if marked then some false else none) = some b := by
    cases marked <;> simp [eq_comm]
  rw [inEffect_iff (if marked then some false else none) none flagged fun _ => silent_iff]
  cases marked <;> simp

/-! ## Variables -/

variable {env : String → Option String} {name text : String}

/-- A variable exports a text: its value without white space at its ends, unless it is not set or blank. -/
def Exports (env : String → Option String) (name text : String) : Prop :=
  ∃ raw, env name = some raw ∧ Text.isBlankText raw = false ∧ text = Text.trim raw

namespace Override

theorem exports_iff : Exports env name text ↔ textOf (env name) = some text := by
  unfold Exports textOf
  cases env name with
  | none => exact ⟨nofun, nofun⟩
  | some raw =>
    simp only [Option.some.injEq, exists_eq_left', Option.map_some, Option.filter_some, Text.isEmpty_trim]
    cases Text.isBlankText raw with
    | true => simp
    | false => simp [eq_comm]

/-- Where there is a variable, it counts if the flag does not. -/
theorem inEffect_exported {flag : Option String} {kept a : String} :
    InEffect (flag = some ·) (Exports env name) kept a ↔ a = flag.getD ((textOf (env name)).getD kept) :=
  inEffect_iff flag (textOf (env name)) (fun _ => Iff.rfl) fun _ => exports_iff

/-- The same where there is no flag, and the setting may be missing. -/
theorem inEffect_exported_some {kept a : Option String} :
    InEffect (fun _ => False) (fun a => ∃ text, a = some text ∧ Exports env name text) kept a ↔
      a = (textOf (env name)).or kept := by
  have set (a : Option String) : (∃ text, a = some text ∧ Exports env name text) ↔
      (textOf (env name)).map some = some a := by
    simp only [exports_iff]
    cases textOf (env name) <;> simp [eq_comm]
  rw [inEffect_iff none ((textOf (env name)).map some) (fun _ => silent_iff) set]
  cases textOf (env name) <;> rfl

/-- The configuration with an override, if the variable exports anything. -/
def put (env : String → Option String) (c : Config) (o : Override) : Config :=
  match textOf (env o.name) with
  | some text => o.apply text c
  | none => c

theorem lookUp_pure {m : Type → Type} [Monad m] [LawfulMonad m] (env : String → Option String) (c : Config)
    (o : Override) : lookUp (fun name => (pure (env name) : m _)) c o = pure (put env c o) := by
  rw [lookUp, pure_bind, put]
  cases textOf (env o.name) with
  | some text => rfl
  | none => rfl

/-- Each override has a setting of its own and leaves all others alone. -/
theorem put_eq (env : String → Option String) (c : Config) (o : Override) :
    put env c o =
      match o with
      | .rpcUrl => { c with ledger.endpoint := (textOf (env "RPC_URL")).getD c.ledger.endpoint }
      | .nodeRewardsAddress =>
        { c with snapshot.nodeRewardsAddress :=
            (textOf (env "NODE_REWARDS_ADDRESS")).or c.snapshot.nodeRewardsAddress }
      | .contributorRewardAddress =>
        { c with claim.contributorRewardAddress :=
            (textOf (env "CONTRIBUTOR_REWARD_ADDRESS")).or c.claim.contributorRewardAddress }
      | .rewardTokenAddress =>
        { c with claim.rewardToken := (textOf (env "REWARD_TOKEN_ADDRESS")).or c.claim.rewardToken }
      | .period => { c with claim.period := (textOf (env "PERIOD")).getD c.claim.period } := by
  unfold put
  cases o with
  | rpcUrl =>
    dsimp only [name]
    cases textOf (env "RPC_URL") <;> rfl
  | nodeRewardsAddress =>
    dsimp only [name]
    cases textOf (env "NODE_REWARDS_ADDRESS") <;> rfl
  | contributorRewardAddress =>
    dsimp only [name]
    cases textOf (env "CONTRIBUTOR_REWARD_ADDRESS") <;> rfl
  | rewardTokenAddress =>
    dsimp only [name]
    cases textOf (env "REWARD_TOKEN_ADDRESS") <;> rfl
  | period =>
    dsimp only [name]
    cases textOf (env "PERIOD") <;> rfl

end Override

namespace Config

open Override (textOf)

/-- The configuration with all overrides. -/
def overridden (env : String → Option String) (c : Config) : Config :=
  Override.all.foldl (Override.put env) c

theorem override_pure {m : Type → Type} [Monad m] [LawfulMonad m] (env : String → Option String) (c : Config) :
    c.override (fun name => (pure (env name) : m _)) = pure (c.overridden env) := by
  have steps : Override.lookUp (fun name => (pure (env name) : m _)) = fun c o => pure (Override.put env c o) :=
    funext fun c => funext fun o => Override.lookUp_pure env c o
  rw [override, steps, List.foldlM_pure, overridden]

theorem overridden_eq (env : String → Option String) (c : Config) :
    c.overridden env = {
      ledger := { c.ledger with endpoint := (textOf (env "RPC_URL")).getD c.ledger.endpoint }
      snapshot := { c.snapshot with
        nodeRewardsAddress := (textOf (env "NODE_REWARDS_ADDRESS")).or c.snapshot.nodeRewardsAddress }
      claim := { c.claim with
        contributorRewardAddress := (textOf (env "CONTRIBUTOR_REWARD_ADDRESS")).or c.claim.contributorRewardAddress
        rewardToken := (textOf (env "REWARD_TOKEN_ADDRESS")).or c.claim.rewardToken
        period := (textOf (env "PERIOD")).getD c.claim.period } } := by
  simp only [overridden, Override.all, List.foldl_cons, List.foldl_nil, Override.put_eq]

/-- Variables that were looked up have nothing more to say. -/
theorem overridden_overridden (env : String → Option String) (c : Config) :
    (c.overridden env).overridden env = c.overridden env := by
  have again {α : Type} (text : Option α) (kept : α) : text.getD (text.getD kept) = text.getD kept := by
    cases text <;> rfl
  simp only [overridden_eq, again, ← Option.or_assoc, Option.or_self]

end Config

end Allotment
