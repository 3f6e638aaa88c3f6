import Mathlib.Data.List.Forall2

/-!
# Computations that may fail

What a sequence of steps that may fail gives, told by what its steps give.
-/

namespace Allotment

variable {ε σ α β : Type}

@[simp] theorem ok_bind (a : α) (next : α → Except ε β) : (Except.ok a >>= next) = next a := rfl

/-- Two steps succeed when the first does and the second does with what the first gave. -/
theorem bind_eq_ok_iff {step : Except ε α} {next : α → Except ε β} {b : β} :
    (step >>= next) = .ok b ↔ ∃ a, step = .ok a ∧ next a = .ok b := by
  cases step with
  | ok a =>
    constructor
    · exact fun given => ⟨a, rfl, given⟩
    · rintro ⟨_, ⟨⟩, given⟩
      exact given
  | error e =>
    constructor
    · rintro ⟨⟩
    · rintro ⟨_, ⟨⟩, _⟩

/-- Two steps fail when the first does, or the second with what the first gave. -/
theorem bind_eq_error_iff {step : Except ε α} {next : α → Except ε β} {e : ε} :
    (step >>= next) = .error e ↔ step = .error e ∨ ∃ a, step = .ok a ∧ next a = .error e := by
  cases step with
  | ok a => simp
  | error e' =>
    constructor
    · rintro ⟨⟩
      exact .inl rfl
    · rintro (⟨⟨⟩⟩ | ⟨a, ⟨⟩, -⟩)
      rfl

/-- What is made of the result of a step is there when the step succeeds. -/
theorem map_eq_ok_iff {step : Except ε α} {f : α → β} {b : β} :
    step.map f = .ok b ↔ ∃ a, step = .ok a ∧ f a = b := by
  cases step with
  | ok a =>
    constructor
    · rintro ⟨⟩
      exact ⟨a, rfl, rfl⟩
    · rintro ⟨_, ⟨⟩, rfl⟩
      rfl
  | error e =>
    constructor
    · rintro ⟨⟩
    · rintro ⟨_, ⟨⟩, _⟩

theorem toOption_eq_some_iff {step : Except ε α} {a : α} : step.toOption = some a ↔ step = .ok a := by
  cases step with
  | ok b =>
    constructor
    · rintro ⟨⟩
      rfl
    · rintro ⟨⟩
      rfl
  | error e =>
    constructor
    · rintro ⟨⟩
    · rintro ⟨⟩

/-- A check that stops everything was passed, and the rest succeeded. -/
theorem check_eq_ok_iff {p : Prop} [Decidable p] {e : ε} {next : α → Except ε β} {rest : Except ε β} {b : β} :
    (if p then throw e >>= next else rest) = .ok b ↔ ¬p ∧ rest = .ok b := by
  by_cases stopped : p
  case pos =>
    rw [if_pos stopped]
    constructor
    · rintro ⟨⟩
    · exact fun passed => absurd stopped passed.1
  case neg => rw [if_neg stopped, and_iff_right stopped]

/-- A traversal succeeds just when every step does. -/
theorem mapM_eq_ok_iff {read : α → Except ε β} {sources : List α} {results : List β} :
    sources.mapM read = .ok results ↔ List.Forall₂ (fun source result => read source = .ok result) sources results := by
  induction sources generalizing results with
  | nil =>
    rw [List.mapM_nil, List.forall₂_nil_left_iff]
    constructor
    · rintro ⟨⟩
      rfl
    · rintro rfl
      rfl
  | cons source sources ih =>
    rw [List.mapM_cons, bind_eq_ok_iff, List.forall₂_cons_left_iff]
    constructor
    · rintro ⟨result, first, given⟩
      obtain ⟨results', rest, ⟨⟩⟩ := bind_eq_ok_iff.mp given
      exact ⟨result, results', first, ih.mp rest, rfl⟩
    · rintro ⟨result, results', first, rest, rfl⟩
      exact ⟨result, first, bind_eq_ok_iff.mpr ⟨results', ih.mpr rest, rfl⟩⟩

/-- A traversal fails as its first step that fails. -/
theorem mapM_eq_error_iff {read : α → Except ε β} {sources : List α} {e : ε} :
    sources.mapM read = .error e ↔
      ∃ earlier source later, sources = earlier ++ source :: later ∧ (∀ before ∈ earlier, ∃ b, read before = .ok b) ∧
        read source = .error e := by
  induction sources with
  | nil =>
    rw [List.mapM_nil]
    constructor
    · exact nofun
    · rintro ⟨earlier, source, later, whole, -⟩
      cases earlier <;> cases whole
  | cons source sources ih =>
    rw [List.mapM_cons]
    cases first : read source with
    | error e' =>
      constructor
      · rintro ⟨⟩
        exact ⟨[], source, sources, rfl, nofun, first⟩
      · rintro ⟨earlier, source', later, whole, passed, failed⟩
        cases earlier with
        | nil =>
          obtain ⟨rfl, rfl⟩ := List.cons.inj whole
          cases first.symm.trans failed
          rfl
        | cons other earlier =>
          obtain ⟨rfl, -⟩ := List.cons.inj whole
          obtain ⟨b, ok⟩ := passed source List.mem_cons_self
          rw [first] at ok
          cases ok
    | ok b =>
      rw [ok_bind]
      have rest : (sources.mapM read >>= fun results => pure (b :: results)) = .error e ↔
          sources.mapM read = .error e := by
        cases sources.mapM read with
        | error e' => exact Iff.rfl
        | ok results => exact ⟨nofun, nofun⟩
      rw [rest, ih]
      constructor
      · rintro ⟨earlier, source', later, rfl, passed, failed⟩
        exact ⟨source :: earlier, source', later, rfl, List.forall_mem_cons.mpr ⟨⟨b, first⟩, passed⟩, failed⟩
      · rintro ⟨earlier, source', later, whole, passed, failed⟩
        cases earlier with
        | nil =>
          obtain ⟨rfl, rfl⟩ := List.cons.inj whole
          rw [first] at failed
          cases failed
        | cons other earlier =>
          obtain ⟨rfl, rfl⟩ := List.cons.inj whole
          exact ⟨earlier, source', later, rfl, (List.forall_mem_cons.mp passed).2, failed⟩

/-! ## Computations that also have a state -/

theorem stateM_pure_apply (a : α) (s : σ) : (pure a : StateM σ α) s = (a, s) := rfl

/-- Two steps with a state: the second goes on from where the first left it, unless the first failed. -/
theorem exceptT_bind_apply (step : ExceptT ε (StateM σ) α) (next : α → ExceptT ε (StateM σ) β) (s : σ) :
    (step >>= next : ExceptT ε (StateM σ) β) s =
      match step s with
      | (.ok a, s) => next a s
      | (.error e, s) => (.error e, s) := by
  show (match step s with
    | (a, s) => ExceptT.bindCont next a s) = _
  generalize step s = made
  obtain ⟨outcome, s⟩ := made
  cases outcome with
  | ok a => rfl
  | error e => rfl

theorem exceptT_bind_eq_ok {step : ExceptT ε (StateM σ) α} {next : α → ExceptT ε (StateM σ) β} {s s' : σ} {b : β}
    (given : (step >>= next : ExceptT ε (StateM σ) β) s = (.ok b, s')) :
    ∃ a between, step s = (.ok a, between) ∧ next a between = (.ok b, s') := by
  rw [exceptT_bind_apply] at given
  generalize step s = made at given
  obtain ⟨outcome, between⟩ := made
  cases outcome with
  | ok a => exact ⟨a, between, rfl, given⟩
  | error e => cases given

theorem exceptT_lift_apply (step : StateM σ α) (s : σ) :
    (liftM step : ExceptT ε (StateM σ) α) s = (.ok (step s).1, (step s).2) := rfl

end Allotment
