import Allotment.Proofs.Claim.Journal
import Allotment.Proofs.Entries
import Allotment.Proofs.Snapshot.Build
import Allotment.Proofs.Snapshot.Enrich
import Mathlib.Algebra.Order.Ring.Nat

/-!
# What is asked for counts of bound nodes, and what the counts are

* `Counted`: the counts that answers lead to, said without the program: a number that has no room in 64 bits becomes the
  largest that has, and an answer that holds no number leaves no trace;
* `Consulted`: all that can be exchanged with a ledger for the counts of two tables;
* `NodeRegistry.collect_consults`: collecting counts is one of these exchanges, whatever the ledger is like.
-/

namespace Allotment

open Points Claim

/-! ## Counts -/

namespace Points.BoundCounts

theorem get_insert_self (bounds : BoundCounts) (account : Address) (count : UInt64) :
    (bounds.insert account count).get account = count := by
  rw [get, insert, List.lookup_cons_self]
  rfl

theorem get_insert_of_ne (bounds : BoundCounts) {account account' : Address} (other : account' ≠ account)
    (count : UInt64) : (bounds.insert account count).get account' = bounds.get account' := by
  rw [get, insert, List.lookup_cons, beq_eq_false_iff_ne.mpr other, lookup_filter_ne other, get]

/-- Whether an account has a count, be it zero. -/
def holds (bounds : BoundCounts) (account : Address) : Bool := (bounds.entries.lookup account).isSome

theorem holds_insert_of_ne (bounds : BoundCounts) {account account' : Address} (other : account' ≠ account)
    (count : UInt64) : (bounds.insert account count).holds account' = bounds.holds account' := by
  rw [holds, insert, List.lookup_cons, beq_eq_false_iff_ne.mpr other, lookup_filter_ne other, holds]

/-- A count for one more account is one more count. -/
theorem size_insert {bounds : BoundCounts} {account : Address} (free : bounds.holds account = false) (count : UInt64) :
    (bounds.insert account count).size = bounds.size + 1 := by
  have free : bounds.entries.lookup account = none := Option.isSome_eq_false_iff.mp free |> Option.isNone_iff_eq_none.mp
  rw [size, insert, List.length_cons, filter_ne_of_lookup free, size]

end Points.BoundCounts

/-- A number becomes itself or the largest of 64 bits. -/
theorem NodeRegistry.toNat_clamp (n : Nat) : (clamp n).toNat = min n (2 ^ 64 - 1) := by
  unfold clamp
  split
  case isTrue fits =>
    have fits : n < 2 ^ 64 := fits
    rw [UInt64.toNat_ofNatLT]
    omega
  case isFalse large =>
    have large : ¬ n < 2 ^ 64 := large
    have most : (UInt64.ofNat (UInt64.size - 1)).toNat = 2 ^ 64 - 1 := by decide
    omega

/-! ## Lookups -/

/-- A lookup: an account and what was answered to the question for its bound nodes. -/
abbrev Lookup := Address × Except LedgerError Bytes

namespace Lookup

/-- The event that a lookup is. -/
def event (contract : Address) (lookup : Lookup) : Event :=
  .asked (.call contract (Contract.boundNodeCount lookup.1)) lookup.2

/-- Whether an answer holds a number: it must be long enough. -/
def decodes (lookup : Lookup) : Bool :=
  match lookup.2 with
  | .ok reply => 32 ≤ reply.length
  | .error _ => false

/-- The count that an answer gives, if it holds a number. -/
def countOf (answer : Except LedgerError Bytes) : Option UInt64 :=
  match answer with
  | .ok reply => (Contract.firstWord? reply).map NodeRegistry.clamp
  | .error _ => none

/-- The counts after one more lookup. -/
def note (bounds : BoundCounts) (lookup : Lookup) : BoundCounts :=
  match countOf lookup.2 with
  | some count => bounds.insert lookup.1 count
  | none => bounds

theorem isSome_countOf (lookup : Lookup) : (countOf lookup.2).isSome = lookup.decodes := by
  obtain ⟨account, answer⟩ := lookup
  cases answer with
  | error cause => rfl
  | ok reply =>
    simp only [countOf, decodes, Contract.firstWord?]
    by_cases long : 32 ≤ reply.length
    case pos => simp [long]
    case neg => simp [long]

theorem get_note_self (bounds : BoundCounts) (account : Address) (answer : Except LedgerError Bytes) :
    (note bounds (account, answer)).get account = (countOf answer).getD (bounds.get account) := by
  unfold note
  cases countOf answer with
  | some count => exact bounds.get_insert_self account count
  | none => rfl

theorem get_note_of_ne (bounds : BoundCounts) {lookup : Lookup} {account : Address} (other : account ≠ lookup.1) :
    (note bounds lookup).get account = bounds.get account := by
  unfold note
  cases countOf lookup.2 with
  | some count => exact bounds.get_insert_of_ne other count
  | none => rfl

theorem holds_note_of_ne (bounds : BoundCounts) {lookup : Lookup} {account : Address} (other : account ≠ lookup.1) :
    (note bounds lookup).holds account = bounds.holds account := by
  unfold note
  cases countOf lookup.2 with
  | some count => exact bounds.holds_insert_of_ne other count
  | none => rfl

theorem size_note {bounds : BoundCounts} {lookup : Lookup} (free : bounds.holds lookup.1 = false) :
    (note bounds lookup).size = bounds.size + if lookup.decodes then 1 else 0 := by
  rw [← isSome_countOf]
  unfold note
  cases countOf lookup.2 with
  | some count => exact bounds.size_insert free count
  | none => rfl

/-- After lookups for different accounts, each account has the count that its own lookup gave. -/
theorem get_foldl_note {lookups : List Lookup} (nodup : (lookups.map Prod.fst).Nodup) (bounds : BoundCounts)
    (account : Address) :
    (lookups.foldl note bounds).get account =
      ((List.lookup account lookups).bind countOf).getD (bounds.get account) := by
  induction lookups generalizing bounds with
  | nil => rfl
  | cons first lookups ih =>
    obtain ⟨new, nodup⟩ := List.nodup_cons.mp nodup
    rw [List.foldl_cons, ih nodup]
    obtain ⟨account', answer⟩ := first
    rw [List.lookup_cons]
    by_cases here : account = account'
    case pos =>
      subst here
      have later : List.lookup account lookups = none := by
        rw [List.lookup_eq_none_iff]
        intro lookup mem
        exact bne_iff_ne.mpr fun same => new (List.mem_map.mpr ⟨lookup, mem, same.symm⟩)
      rw [later, beq_self_eq_true]
      exact get_note_self bounds account answer
    case neg =>
      rw [beq_eq_false_iff_ne.mpr here, get_note_of_ne bounds here]

/-- After lookups for different accounts there is a count for each that holds a number. -/
theorem size_foldl_note {lookups : List Lookup} (nodup : (lookups.map Prod.fst).Nodup) {bounds : BoundCounts}
    (free : ∀ lookup ∈ lookups, bounds.holds lookup.1 = false) :
    (lookups.foldl note bounds).size = bounds.size + lookups.countP decodes := by
  induction lookups generalizing bounds with
  | nil => rfl
  | cons first lookups ih =>
    obtain ⟨new, nodup⟩ := List.nodup_cons.mp nodup
    have later : ∀ lookup ∈ lookups, (note bounds first).holds lookup.1 = false := by
      intro lookup mem
      have other : lookup.1 ≠ first.1 := fun same => new (List.mem_map.mpr ⟨lookup, mem, same⟩)
      rw [holds_note_of_ne bounds other]
      exact free lookup (List.mem_cons_of_mem first mem)
    rw [List.foldl_cons, ih nodup later, size_note (free first List.mem_cons_self), List.countP_cons]
    omega

end Lookup

/-- The counts that lookups lead to: the number in the first 32 bytes of an answer, or the largest of 64 bits where it
is larger; none for an account whose lookup failed or was answered too shortly, or that was not looked up. -/
structure Counted (lookups : List Lookup) (bounds : BoundCounts) : Prop where
  counts (account : Address) : (bounds.get account).toNat =
    match List.lookup account lookups with
    | some (.ok reply) => if 32 ≤ reply.length then min (Bytes.toNat (reply.take 32)) (2 ^ 64 - 1) else 0
    | _ => 0
  size : bounds.size = lookups.countP Lookup.decodes

/-- Lookups for different accounts, noted one after the other, give the counts that they lead to. -/
theorem Lookup.counted {lookups : List Lookup} (nodup : (lookups.map Prod.fst).Nodup) :
    Counted lookups (lookups.foldl note .empty) where
  counts account := by
    rw [get_foldl_note nodup]
    cases List.lookup account lookups with
    | none => rfl
    | some answer =>
      cases answer with
      | error cause => rfl
      | ok reply =>
        simp only [Option.bind_some, countOf, Contract.firstWord?]
        by_cases long : 32 ≤ reply.length
        case pos =>
          rw [if_pos long, if_pos long, ← NodeRegistry.toNat_clamp]
          rfl
        case neg =>
          rw [if_neg long, if_neg long]
          rfl
  size := by
    rw [size_foldl_note nodup fun _ _ => rfl]
    exact Nat.zero_add _

/-! ## Collecting counts -/

namespace NodeRegistry

section Goes

variable {σ : Type} (e : Surroundings (StateM σ))

/-- One lookup asks one question, and its answer is noted. -/
theorem lookUp_goes (contract : Address) (bounds : BoundCounts) (account : Address) (w : σ) :
    ∃ answer w', Goes e (lookUp e.journaled.ledger contract bounds account) w (Lookup.note bounds (account, answer))
      [Lookup.event contract (account, answer)] w' := by
  obtain ⟨answer, w', asked⟩ := asks_goes e (.call contract (Contract.boundNodeCount account)) w
  refine ⟨answer, w', ?_⟩
  cases answer with
  | error cause => exact (asked.bind_pure (b := .error cause) rfl).bind_pure rfl
  | ok reply =>
    cases word : Contract.firstWord? reply with
    | some n =>
      refine (asked.bind_pure (b := .ok n) (by simp only [word])).bind_pure ?_
      simp only [Lookup.note, Lookup.countOf, word, Option.map_some]
    | none =>
      refine (asked.bind_pure (b := .error (.shortReply "boundNodeCount")) (by simp only [word])).bind_pure ?_
      simp only [Lookup.note, Lookup.countOf, word, Option.map_none]

/-- Accounts are looked up one after the other, whatever is answered. -/
theorem lookUps_goes (contract : Address) (accounts : List Address) (bounds : BoundCounts) (w : σ) :
    ∃ (lookups : List Lookup) (w' : σ), Goes e (accounts.foldlM (lookUp e.journaled.ledger contract) bounds) w
      (lookups.foldl Lookup.note bounds) (lookups.map (Lookup.event contract)) w' ∧
      lookups.map Prod.fst = accounts := by
  induction accounts generalizing bounds w with
  | nil => exact ⟨[], w, .pure bounds w, rfl⟩
  | cons account accounts ih =>
    obtain ⟨answer, w₁, first⟩ := lookUp_goes e contract bounds account w
    obtain ⟨lookups, w', others, same⟩ := ih (Lookup.note bounds (account, answer)) w₁
    refine ⟨(account, answer) :: lookups, w', ?_, congrArg (account :: ·) same⟩
    rw [List.foldlM_cons]
    exact first.bind others

end Goes

variable {σ : Type}

/-- The same registry with everything written down that is asked of its ledger. -/
def journaled (registry : NodeRegistry (StateM σ)) : NodeRegistry (Journaled σ) where
  ledger := registry.ledger.map fun ledger => (Surroundings.silent ledger).journaled.ledger
  contract := registry.contract

/-- What can be exchanged with a registry for the counts of two tables, from one state to another: nothing if a part of
the registry is missing; nothing but the chain id if that is not answered; or else the chain id and then one question
for each account of the tables, where it first appears. -/
inductive Consulted (registry : NodeRegistry (StateM σ)) (dev node : Table) (w : σ) :
    List Event → BoundCounts → σ → Prop where
  | absent : registry.ledger = none ∨ registry.contract = none → Consulted registry dev node w [] .empty w
  | silent {ledger : Ledger (StateM σ)} {contract : Address} {cause : LedgerError} {w' : σ} :
      registry = ⟨some ledger, some contract⟩ →
      (Surroundings.silent ledger).Plays w [.asked .chainId (.error cause)] w' →
      Consulted registry dev node w [.asked .chainId (.error cause)] .empty w'
  | answered {ledger : Ledger (StateM σ)} {contract : Address} {id : UInt64} {lookups : List Lookup}
      {bounds : BoundCounts} {w' : σ} :
      registry = ⟨some ledger, some contract⟩ →
      (Surroundings.silent ledger).Plays w (.asked .chainId (.ok id) :: lookups.map (Lookup.event contract)) w' →
      lookups.map Prod.fst = firstAppearances (dev.accounts ++ node.accounts) → Counted lookups bounds →
      Consulted registry dev node w (.asked .chainId (.ok id) :: lookups.map (Lookup.event contract)) bounds w'

/-- Writing down what is asked leaves the counts and the ledger as they are. -/
theorem collect_of_goes {ledger : Ledger (StateM σ)} {contract : Address} {dev node : Table} {w w' : σ}
    {bounds : BoundCounts} {events : List Event}
    (goes : Goes (.silent ledger) (collect (journaled ⟨some ledger, some contract⟩) dev node) w bounds events w') :
    (collect ⟨some ledger, some contract⟩ dev node).run w = (bounds, w') := by
  have asks : ∀ request, (journalCorrespondence σ).rel ((Surroundings.silent ledger).journaled.ledger request)
      (ledger request) := fun _ => noting_rel _ _
  have same := collect_rel (journalCorrespondence σ) asks (some contract) dev node [] w
  exact same.symm.trans (congrArg (fun made => (made.1.1, made.2)) (goes.writes []))

/-- **What is asked for the counts of two tables, and what the counts are.** Collecting counts, from whatever registry,
exchanges with its ledger what `Consulted` tells and gives the counts that the answers lead to; writing all this down
changes nothing. -/
theorem collect_consults (registry : NodeRegistry (StateM σ)) (dev node : Table) (w : σ) :
    ∃ events bounds w',
      ((registry.journaled.collect dev node).run []).run w = ((bounds, events), w') ∧
      (registry.collect dev node).run w = (bounds, w') ∧ Consulted registry dev node w events bounds w' := by
  obtain ⟨ledger, contract⟩ := registry
  cases ledger with
  | none => exact ⟨[], .empty, w, rfl, rfl, .absent (.inl rfl)⟩
  | some ledger =>
    cases contract with
    | none => exact ⟨[], .empty, w, rfl, rfl, .absent (.inr rfl)⟩
    | some contract =>
      obtain ⟨answer, w₁, asked⟩ := asks_goes (Surroundings.silent ledger) .chainId w
      cases answer with
      | error cause =>
        have goes : Goes (.silent ledger) (collect (journaled ⟨some ledger, some contract⟩) dev node) w .empty
            [.asked .chainId (.error cause)] w₁ := asked.bind_pure rfl
        exact ⟨_, .empty, w₁, goes.writes [], collect_of_goes goes, .silent rfl goes.plays⟩
      | ok id =>
        obtain ⟨lookups, w', looked, accounts⟩ :=
          lookUps_goes (.silent ledger) contract (candidates dev node) .empty w₁
        have goes : Goes (.silent ledger) (collect (journaled ⟨some ledger, some contract⟩) dev node) w
            (lookups.foldl Lookup.note .empty) (.asked .chainId (.ok id) :: lookups.map (Lookup.event contract)) w' :=
          asked.bind looked
        rw [candidates_eq] at accounts
        have nodup : (lookups.map Prod.fst).Nodup := accounts ▸ nodup_firstAppearances _
        exact ⟨_, _, w', goes.writes [], collect_of_goes goes, .answered rfl goes.plays accounts (Lookup.counted nodup)⟩

end NodeRegistry

end Allotment
