import Mathlib.Data.List.Nodup

/-!
# Read, modify, write

Every client reads a shared value, merges its request into what it read and writes the result back,
in two separate steps. Clients whose steps are adjacent act one after the other; of two clients whose
steps overlap, the one that writes last overwrites what the other merged.
-/

namespace Huntarr2.ReadModifyWrite

variable {ι σ ρ : Type*}

/-- How far a client is. -/
inductive Phase (σ : Type*)
  | waiting
  | holding (snapshot : σ)
  | done

structure State (ι σ : Type*) where
  value : σ
  phase : ι → Phase σ

/-- Before the first step. -/
def State.initial (value : σ) : State ι σ := ⟨value, fun _ ↦ .waiting⟩

variable [DecidableEq ι] (merge : σ → ρ → σ) (requests : ι → ρ)

/-- The next step of a client. -/
def step (state : State ι σ) (client : ι) : State ι σ :=
  match state.phase client with
  | .waiting =>
    { state with phase := Function.update state.phase client (.holding state.value) }
  | .holding snapshot =>
    ⟨merge snapshot (requests client), Function.update state.phase client .done⟩
  | .done => state

/-- The value after the steps of a schedule. -/
def outcome (value : σ) (schedule : List ι) : σ :=
  (schedule.foldl (step merge requests) (State.initial value)).value

variable {merge requests}

/-- The read and the write of a client with nothing between them. -/
theorem step_step_of_waiting {state : State ι σ} {client : ι}
    (h : state.phase client = .waiting) :
    step merge requests (step merge requests state client) client =
      ⟨merge state.value (requests client), Function.update state.phase client .done⟩ := by
  have hread : step merge requests state client =
      { state with phase := Function.update state.phase client (.holding state.value) } := by
    unfold step
    rw [h]
  rw [hread]
  unfold step
  simp only [Function.update_self, Function.update_idem]

/-- Clients whose steps are adjacent act one after the other. -/
theorem foldl_step_adjacent (order : List ι) (hnodup : order.Nodup) (state : State ι σ)
    (hwaiting : ∀ client ∈ order, state.phase client = .waiting) :
    ((order.flatMap fun client ↦ [client, client]).foldl (step merge requests) state).value =
      order.foldl (fun value client ↦ merge value (requests client)) state.value := by
  induction order generalizing state with
  | nil => rfl
  | cons client order ih =>
    obtain ⟨hfresh, hnodup⟩ := List.nodup_cons.mp hnodup
    have hstep : step merge requests (step merge requests state client) client =
        ⟨merge state.value (requests client), Function.update state.phase client .done⟩ :=
      step_step_of_waiting (hwaiting client List.mem_cons_self)
    rw [List.flatMap_cons, List.foldl_append]
    change ((order.flatMap fun client ↦ [client, client]).foldl _
      (step merge requests (step merge requests state client) client)).value = _
    rw [hstep]
    apply ih hnodup
    intro other hother
    have hne : other ≠ client := fun hsame ↦ hfresh (hsame ▸ hother)
    dsimp only
    rw [Function.update_of_ne hne]
    exact hwaiting other (List.mem_cons_of_mem client hother)

theorem outcome_adjacent (value : σ) (order : List ι) (hnodup : order.Nodup) :
    outcome merge requests value (order.flatMap fun client ↦ [client, client]) =
      order.foldl (fun value client ↦ merge value (requests client)) value :=
  foldl_step_adjacent order hnodup (State.initial value) fun _ _ ↦ rfl

/-! ## Two clients -/

section Pair

variable {requests : Bool → ρ} {schedule : List Bool}

/-- Both clients read before one of them writes. -/
def Overlapping (schedule : List Bool) : Prop := schedule[0]? ≠ schedule[1]?

instance : DecidablePred Overlapping :=
  fun schedule ↦ inferInstanceAs (Decidable (schedule[0]? ≠ schedule[1]?))

/-- The interleavings of the two steps of either client. -/
def IsInterleaving (schedule : List Bool) : Prop := schedule.Perm [false, false, true, true]

instance : DecidablePred IsInterleaving :=
  fun schedule ↦ inferInstanceAs (Decidable (schedule.Perm [false, false, true, true]))

/-- The client that writes last. -/
def lastWriter (schedule : List Bool) : Bool := schedule.getLastD false

theorem IsInterleaving.cases (h : IsInterleaving schedule) :
    schedule = [!lastWriter schedule, !lastWriter schedule, lastWriter schedule,
        lastWriter schedule] ∧ ¬Overlapping schedule ∨
      (∃ first, schedule = [first, !first, !lastWriter schedule, lastWriter schedule]) ∧
        Overlapping schedule := by
  have hlength : schedule.length = 4 := h.length_eq
  match schedule, hlength with
  | [a, b, c, d], _ =>
    revert a b c d
    decide

/-- If the two clients do not overlap, the last writer merges into what the other wrote. -/
theorem outcome_of_not_overlapping (h : IsInterleaving schedule) (hserial : ¬Overlapping schedule)
    (value : σ) : outcome merge requests value schedule =
      merge (merge value (requests !lastWriter schedule)) (requests (lastWriter schedule)) := by
  rcases h.cases with ⟨hshape, -⟩ | ⟨-, hoverlapping⟩
  · generalize lastWriter schedule = last at hshape ⊢
    subst hshape
    exact outcome_adjacent value [!last, last] (by cases last <;> decide)
  · exact absurd hoverlapping hserial

/-- If the two clients overlap, the last writer merges into what it read before the other wrote. -/
theorem outcome_of_overlapping (h : IsInterleaving schedule) (hoverlapping : Overlapping schedule)
    (value : σ) : outcome merge requests value schedule =
      merge value (requests (lastWriter schedule)) := by
  rcases h.cases with ⟨-, hserial⟩ | ⟨⟨first, hshape⟩, -⟩
  · exact absurd hoverlapping hserial
  · generalize lastWriter schedule = last at hshape ⊢
    subst hshape
    cases first <;> cases last <;> rfl

end Pair

end Huntarr2.ReadModifyWrite
