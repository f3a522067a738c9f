import Mathlib.Data.List.Basic

/-!
# Runs of a deterministic machine

A machine is a total step function `step : σ → α → σ`; a run is a list of actions folded over a
start state. The trail of a run pairs every action with the state it is taken in, so a guard of the
program, an assumption on its environment and a condition of a theorem are all predicates on the
entries of a trail. Invariants are proved once for a step and lifted to runs here.
-/

namespace Huntarr2.Machine

variable {σ α : Type*}

/-- Every action of a run together with the state it is taken in. -/
def trail (step : σ → α → σ) : σ → List α → List (σ × α)
  | _, [] => []
  | state, action :: actions => (state, action) :: trail step (step state action) actions

/-- Every step of the run is taken in a state that meets `guard`. -/
def Along (step : σ → α → σ) (guard : σ → α → Prop) (state : σ) (actions : List α) : Prop :=
  ∀ entry ∈ trail step state actions, guard entry.1 entry.2

section Run

variable {step : σ → α → σ} {guard : σ → α → Prop} {state : σ}

@[simp]
theorem trail_nil : trail step state [] = [] := rfl

@[simp]
theorem trail_cons (action : α) (actions : List α) :
    trail step state (action :: actions) =
      (state, action) :: trail step (step state action) actions := rfl

theorem trail_append (first second : List α) :
    trail step state (first ++ second) =
      trail step state first ++ trail step (first.foldl step state) second := by
  induction first generalizing state with
  | nil => rfl
  | cons action actions ih => simp only [List.cons_append, trail_cons, ih, List.foldl_cons]

@[simp]
theorem along_nil : Along step guard state [] := by
  simp [Along]

@[simp]
theorem along_cons (action : α) (actions : List α) :
    Along step guard state (action :: actions) ↔
      guard state action ∧ Along step guard (step state action) actions := by
  simp [Along]

theorem along_append (first second : List α) :
    Along step guard state (first ++ second) ↔
      Along step guard state first ∧ Along step guard (first.foldl step state) second := by
  simp only [Along, trail_append, List.mem_append, or_imp, forall_and]

theorem Along.and {other : σ → α → Prop} {actions : List α}
    (h : Along step guard state actions) (hother : Along step other state actions) :
    Along step (fun state action ↦ guard state action ∧ other state action) state actions :=
  fun entry hentry ↦ ⟨h entry hentry, hother entry hentry⟩

theorem mem_of_mem_trail {actions : List α} {entry : σ × α}
    (h : entry ∈ trail step state actions) : entry.2 ∈ actions := by
  induction actions generalizing state with
  | nil => exact absurd h List.not_mem_nil
  | cons action actions ih =>
    cases List.mem_cons.mp h with
    | inl hhere =>
      rw [hhere]
      exact List.mem_cons_self
    | inr hlater => exact List.mem_cons_of_mem action (ih hlater)

/-- What holds of every action whatever the state holds along the run. -/
theorem along_of_forall {actions : List α} (h : ∀ action ∈ actions, ∀ state, guard state action) :
    Along step guard state actions :=
  fun entry hentry ↦ h entry.2 (mem_of_mem_trail hentry) entry.1

instance decidableAlong [∀ state action, Decidable (guard state action)] (actions : List α) :
    Decidable (Along step guard state actions) :=
  inferInstanceAs (Decidable (∀ entry ∈ trail step state actions, guard entry.1 entry.2))

/-- The invariant rule: what every guarded step preserves holds after a guarded run. -/
theorem invariant_of_along {motive : σ → Prop}
    (hstep : ∀ state action, motive state → guard state action → motive (step state action))
    {actions : List α} (hrun : Along step guard state actions) (hinit : motive state) :
    motive (actions.foldl step state) := by
  induction actions generalizing state with
  | nil => exact hinit
  | cons action actions ih =>
    obtain ⟨hguard, hrest⟩ := (along_cons action actions).mp hrun
    exact ih hrest (hstep state action hinit hguard)

/-- Two properties of steps that agree wherever an invariant and the guard hold agree along a guarded
run. -/
theorem along_congr_of_invariant {motive : σ → Prop} {first second : σ → α → Prop}
    (hstep : ∀ state action, motive state → guard state action → motive (step state action))
    (hagree : ∀ state action, motive state → guard state action →
      (first state action ↔ second state action))
    {actions : List α} (hrun : Along step guard state actions) (hinit : motive state) :
    Along step first state actions ↔ Along step second state actions := by
  induction actions generalizing state with
  | nil => exact iff_of_true along_nil along_nil
  | cons action actions ih =>
    obtain ⟨hguard, hrest⟩ := (along_cons action actions).mp hrun
    rw [along_cons, along_cons, hagree state action hinit hguard,
      ih hrest (hstep state action hinit hguard)]

end Run

end Huntarr2.Machine
