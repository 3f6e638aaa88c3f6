import Allotment.Claim.Run

/-!
# Whole sessions, and how two of them correspond

* `session`: a signer is bound to a chain and claims are made for every line of a list;
* `Correspondence`: a relation between computations in two monads that goes along with sequencing;
* `session_rel`: sessions correspond as soon as single requests, announcements and pauses do. A session cannot tell
  one monad from another, so that nothing else need be looked at.
-/

namespace Allotment.Claim

/-- All that a session deals with: the ledger, whoever is told the outcomes, and the wait between two lines. -/
structure Surroundings (m : Type → Type) where
  ledger : Ledger m
  announce : String → Outcome → m Unit
  pause : m Unit

/-- A ledger with no one to tell and no wait. -/
def Surroundings.silent {m : Type → Type} [Monad m] (ledger : Ledger m) : Surroundings m where
  ledger
  announce _ _ := pure ()
  pause := pure ()

/-- Binds a signer to a chain and claims for every line of a list. -/
def session {m : Type → Type} [Monad m] (e : Surroundings m) (signer : Signer) (contract : Address) (fees : Fees)
    (chainId : Option UInt64) (reward : Reward) (lines : List String) : m (Except StartError (List Outcome)) := do
  match ← Submitter.connect e.ledger signer contract fees chainId with
  | .error cause => return .error cause
  | .ok submitter => return .ok (← submitter.run e.ledger reward e.announce e.pause lines)

/-- A relation between computations in two monads that holds of plain results and goes along with sequencing. -/
structure Correspondence (m n : Type → Type) [Monad m] [Monad n] where
  rel : {α : Type} → m α → n α → Prop
  rel_pure : ∀ {α : Type} (a : α), rel (pure a) (pure a)
  rel_bind : ∀ {α β : Type} {x : m α} {y : n α} {f : α → m β} {g : α → n β},
    rel x y → (∀ a, rel (f a) (g a)) → rel (x >>= f) (y >>= g)

/-- The computations that a way into another monad gives, where that way goes along with sequencing. -/
def Correspondence.along {m n : Type → Type} [Monad m] [Monad n] (up : {α : Type} → n α → m α)
    (up_pure : ∀ {α : Type} (a : α), pure a = up (pure a))
    (up_bind : ∀ {α β : Type} (x : n α) (f : α → n β), (up x >>= fun a => up (f a)) = up (x >>= f)) :
    Correspondence m n where
  rel x y := x = up y
  rel_pure := up_pure
  rel_bind {_ _ x y f g} first second := by
    obtain rfl := first
    obtain rfl : f = fun a => up (g a) := funext second
    exact up_bind y g

section Corresponding

variable {m n : Type → Type} [Monad m] [Monad n] (c : Correspondence m n)

/-- A correspondence also relates computations with a state of their own on top. -/
def Correspondence.stateT (τ : Type) : Correspondence (StateT τ m) (StateT τ n) where
  rel x y := ∀ t, c.rel (x.run t) (y.run t)
  rel_pure a t := c.rel_pure (a, t)
  rel_bind first second t := c.rel_bind (first t) fun (a, t) => second a t

/-- Computations that correspond do so without a look at a state on top. -/
theorem Correspondence.lift_stateT {τ α : Type} {x : m α} {y : n α} (same : c.rel x y) :
    (c.stateT τ).rel (liftM x : StateT τ m α) (liftM y) :=
  fun t => c.rel_bind same fun a => c.rel_pure (a, t)

/-- Loops over a list correspond when their steps do. -/
theorem Correspondence.rel_foldlM {α β : Type} {step : β → α → m β} {step' : β → α → n β}
    (steps : ∀ b a, c.rel (step b a) (step' b a)) (b : β) (as : List α) :
    c.rel (as.foldlM step b) (as.foldlM step' b) := by
  induction as generalizing b with
  | nil => exact c.rel_pure b
  | cons a as ih =>
    rw [List.foldlM_cons, List.foldlM_cons]
    exact c.rel_bind (steps b a) ih

section Requests

variable {ledger : Ledger m} {ledger' : Ledger n} (asks : ∀ request, c.rel (ledger request) (ledger' request))
include asks

theorem connect_rel (signer : Signer) (contract : Address) (fees : Fees) (chainId : Option UInt64) :
    c.rel (Submitter.connect ledger signer contract fees chainId)
      (Submitter.connect ledger' signer contract fees chainId) := by
  cases chainId with
  | some id => exact c.rel_pure _
  | none =>
    refine c.rel_bind (asks .chainId) fun answer => ?_
    cases answer with
    | ok id => exact c.rel_pure _
    | error e => exact c.rel_pure _

theorem entitlement_rel (s : Submitter) (reward : Reward) (account : Address) :
    c.rel (s.entitlement ledger reward account) (s.entitlement ledger' reward account) := by
  refine c.rel_bind (asks _) fun answer => ?_
  cases answer with
  | error e => exact c.rel_pure _
  | ok reply =>
    dsimp only
    cases Contract.firstWord? reply with
    | some k => exact c.rel_pure _
    | none => exact c.rel_pure _

/-- This is about any way of signing: a proof about the signer's own would set out to compute a signature. -/
theorem submitWith_rel (s : Submitter) (sign : Transaction → Except LedgerError SignedTransaction) (reward : Reward) :
    c.rel (s.submitWith sign ledger reward) (s.submitWith sign ledger' reward) := by
  refine c.rel_bind (asks _) fun answer => ?_
  cases answer with
  | error e => exact c.rel_pure _
  | ok nonce =>
    dsimp only
    cases sign (s.transaction reward nonce) with
    | error e => exact c.rel_pure _
    | ok signed => exact asks _

theorem submit_rel (s : Submitter) (reward : Reward) :
    c.rel (s.submit ledger reward) (s.submit ledger' reward) :=
  submitWith_rel c asks s s.signer.sign reward

theorem process_rel (s : Submitter) (reward : Reward) (line : String) :
    c.rel (s.process ledger reward line) (s.process ledger' reward line) := by
  unfold Submitter.process
  cases Address.parse? line with
  | none => exact c.rel_pure _
  | some account =>
    refine c.rel_bind (entitlement_rel c asks s reward account) fun amount => ?_
    match amount with
    | .error e => exact c.rel_pure _
    | .ok 0 => exact c.rel_pure _
    | .ok (k + 1) =>
      refine c.rel_bind (submit_rel c asks s reward) fun answer => ?_
      cases answer with
      | ok hash => exact c.rel_pure _
      | error e => exact c.rel_pure _

end Requests

variable {e : Surroundings m} {e' : Surroundings n}
  (asks : ∀ request, c.rel (e.ledger request) (e'.ledger request))
  (tells : ∀ line outcome, c.rel (e.announce line outcome) (e'.announce line outcome))
  (pauses : c.rel e.pause e'.pause)
include asks tells pauses

theorem run_rel (s : Submitter) (reward : Reward) (lines : List String) :
    c.rel (s.run e.ledger reward e.announce e.pause lines) (s.run e'.ledger reward e'.announce e'.pause lines) := by
  induction lines with
  | nil => exact c.rel_pure _
  | cons line lines ih =>
    refine c.rel_bind (process_rel c asks s reward line) fun outcome => ?_
    refine c.rel_bind (tells line outcome) fun _ => ?_
    cases lines with
    | nil => exact c.rel_bind ih fun _ => c.rel_pure _
    | cons next lines => exact c.rel_bind pauses fun _ => c.rel_bind ih fun _ => c.rel_pure _

/-- **Sessions correspond when their single steps do.** -/
theorem session_rel (signer : Signer) (contract : Address) (fees : Fees) (chainId : Option UInt64) (reward : Reward)
    (lines : List String) :
    c.rel (session e signer contract fees chainId reward lines)
      (session e' signer contract fees chainId reward lines) := by
  refine c.rel_bind (connect_rel c asks signer contract fees chainId) fun bound => ?_
  cases bound with
  | error cause => exact c.rel_pure _
  | ok s => exact c.rel_bind (run_rel c asks tells pauses s reward lines) fun _ => c.rel_pure _

end Corresponding

end Allotment.Claim
