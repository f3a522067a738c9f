import Huntarr2.Foundation.Machine

/-!
# Progress of a machine

Some actions of a machine are its own, the others come from its environment. Where every own action
lowers a measure that an action of the environment raises by a bounded amount, the own actions of a run
are bounded by the others. Where one of them is enabled in every state that is not final, they lead to a
final state from everywhere.
-/

namespace Huntarr2.Machine

variable {σ α : Type*} {step : σ → α → σ} {guard : σ → α → Prop} {motive final : σ → Prop}
  {own : α → Bool} {measure : σ → ℕ}

/-- The measure pays for the own actions of a run. -/
theorem countP_own_le {cost : ℕ}
    (hstep : ∀ state action, motive state → guard state action → motive (step state action))
    (hown : ∀ state action, motive state → guard state action → own action = true →
      measure (step state action) < measure state)
    (hother : ∀ state action, motive state → guard state action →
      measure (step state action) ≤ measure state + cost)
    {actions : List α} {state : σ} (hrun : Along step guard state actions) (hinit : motive state) :
    actions.countP own + measure (actions.foldl step state) ≤
      measure state + cost * actions.countP (!own ·) := by
  induction actions generalizing state with
  | nil => exact Nat.le_of_eq (Nat.zero_add _)
  | cons action actions ih =>
    obtain ⟨hguard, hrest⟩ := (along_cons action actions).mp hrun
    have htail := ih hrest (hstep state action hinit hguard)
    rw [List.foldl_cons, List.countP_cons, List.countP_cons]
    by_cases hmine : own action = true
    · have hlower := hown state action hinit hguard hmine
      simp only [hmine, if_true, Bool.not_true, Bool.false_eq_true, if_false, Nat.add_zero]
      omega
    · have hraise := hother state action hinit hguard
      simp only [Bool.not_eq_true] at hmine
      simp only [hmine, Bool.false_eq_true, if_false, Bool.not_false, if_true, Nat.mul_add,
        Nat.add_zero]
      omega

/-- Own actions lead to a final state. -/
theorem exists_final
    (hstep : ∀ state action, motive state → guard state action → motive (step state action))
    (hown : ∀ state action, motive state → guard state action → own action = true →
      measure (step state action) < measure state)
    (henabled : ∀ state, motive state → ¬final state → ∃ action, own action = true ∧ guard state action)
    (state : σ) (hinit : motive state) :
    ∃ actions : List α, (∀ action ∈ actions, own action = true) ∧ Along step guard state actions ∧
      final (actions.foldl step state) := by
  induction hmeasure : measure state using Nat.strongRecOn generalizing state with
  | ind bound ih =>
    by_cases hfinal : final state
    · exact ⟨[], List.forall_mem_nil _, along_nil, hfinal⟩
    · obtain ⟨action, hmine, hguard⟩ := henabled state hinit hfinal
      obtain ⟨actions, hactions, hrun, hend⟩ := ih _ (hmeasure ▸ hown state action hinit hguard hmine)
        (step state action) (hstep state action hinit hguard) rfl
      exact ⟨action :: actions, List.forall_mem_cons.mpr ⟨hmine, hactions⟩,
        (along_cons action actions).mpr ⟨hguard, hrun⟩, hend⟩

end Huntarr2.Machine
