import Huntarr2.Scheduler.IntervalBand

/-!
# The arithmetic of the search interval

The intervals stay far below the range of 64-bit integers, whatever settings a run of ticks resolves.
The batch size does not: the validator accepts every positive one, and twice a batch size of `2 ^ 62`
or more wraps to a negative number, which every list of candidates exceeds.
-/

namespace Huntarr2.Scheduling

open Activity Arr Cooldown GoStd Settings

/-- `computeNextInterval` takes the branch of a backlog. -/
def TakesBacklog (totalItems batchSize : ℤ) : Prop :=
  totalItems ≠ 0 ∧ wrap64 (batchSize * 2) < totalItems

/-- Every product and quotient that the end of a cycle computes is exact, twice the batch size only
being computed for some candidates, and the branch of a backlog is taken for a backlog. -/
structure ComputesExactly (cycle : Cycle) : Prop where
  ceiling : wrap64 (cycle.base * 4) = cycle.base * 4
  doubled : wrap64 (cycle.previous * 2) = cycle.previous * 2
  floor : wrap64 (cycle.base.tdiv 4) = cycle.base.tdiv 4
  halved : wrap64 (cycle.previous.tdiv 2) = cycle.previous.tdiv 2
  twice : cycle.totalItems ≠ 0 → wrap64 (cycle.batchSize * 2) = cycle.batchSize * 2
  backlog : TakesBacklog cycle.totalItems cycle.batchSize ↔
    cycle.totalItems ≠ 0 ∧ cycle.batchSize * 2 < cycle.totalItems

/-! ## Twice the batch size -/

/-- Twice a positive batch size is exact up to `2 ^ 62`. -/
theorem wrap64_twice_iff {batchSize : ℤ} (hpos : 1 ≤ batchSize) :
    wrap64 (batchSize * 2) = batchSize * 2 ↔ batchSize < 2 ^ 62 := by
  constructor
  · intro h
    have hbound : wrap64 (batchSize * 2) < 2 ^ 63 := by
      unfold wrap64
      have hlt := @Int.bmod_lt (batchSize * 2) (2 ^ 64) (by decide)
      omega
    omega
  · intro h
    exact wrap64_of_bounds (by unfold minInt64; omega) (by unfold maxInt64; omega)

theorem wrap64_quotient {value divisor : ℤ} (hdivisor : 0 ≤ divisor)
    (hvalue : 0 ≤ value ∧ value ≤ maxInterval) : wrap64 (value.tdiv divisor) = value.tdiv divisor := by
  have hlow : 0 ≤ value.tdiv divisor := Int.tdiv_nonneg hvalue.1 hdivisor
  have hhigh : value.tdiv divisor ≤ maxInterval :=
    (Int.tdiv_le_self divisor hvalue.1).trans hvalue.2
  exact wrap64_of_bounds (le_trans (by decide) hlow) (hhigh.trans (by decide))

/-! ## Over runs -/

/-- A cycle between permitted settings and a permitted previous interval. -/
structure Cycle.Permitted (cycle : Cycle) : Prop where
  base : 0 < cycle.base ∧ cycle.base ≤ maxSearchInterval
  previous : 0 < cycle.previous ∧ cycle.previous ≤ maxInterval
  batchSize : 1 ≤ cycle.batchSize

theorem computesExactly_iff {cycle : Cycle} (h : cycle.Permitted) :
    ComputesExactly cycle ↔ cycle.totalItems = 0 ∨ cycle.batchSize < 2 ^ 62 := by
  have hbase : 0 ≤ cycle.base ∧ cycle.base ≤ maxInterval :=
    ⟨h.base.1.le, h.base.2.trans (by decide)⟩
  have hprevious : 0 ≤ cycle.previous ∧ cycle.previous ≤ maxInterval :=
    ⟨h.previous.1.le, h.previous.2⟩
  have htwice := wrap64_twice_iff h.batchSize
  constructor
  · intro hexact
    by_cases hempty : cycle.totalItems = 0
    · exact Or.inl hempty
    · exact Or.inr (htwice.mp (hexact.twice hempty))
  · intro hsmall
    have hexact : cycle.totalItems ≠ 0 → wrap64 (cycle.batchSize * 2) = cycle.batchSize * 2 :=
      fun hsome ↦ htwice.mpr (hsmall.resolve_left hsome)
    exact
      { ceiling := wrap64_mul (by decide) hbase
        doubled := wrap64_mul (by decide) hprevious
        floor := wrap64_quotient (by decide) hbase
        halved := wrap64_quotient (by decide) hprevious
        twice := hexact
        backlog := and_congr_right fun hsome ↦ by rw [hexact hsome] }

/-- Every cycle of a run is permitted. -/
theorem permitted_of_run {world : World} (h : IntervalInv world)
    (hbefore : ∀ cycle ∈ cycles world.trace, cycle.Permitted) (steps : List Step) :
    ∀ cycle ∈ cycles (steps.foldl Step.apply world).trace, cycle.Permitted := by
  have hstep (world : World) (step : Step)
      (hinv : IntervalInv world ∧ ∀ cycle ∈ cycles world.trace, cycle.Permitted) :
      IntervalInv (step.apply world) ∧
        ∀ cycle ∈ cycles (step.apply world).trace, cycle.Permitted := by
    refine ⟨hinv.1.apply step, fun cycle hcycle ↦ ?_⟩
    cases step.apply_cycles world cycle hcycle with
    | inl hold => exact hinv.2 cycle hold
    | inr hnew =>
      obtain ⟨now, inst, resolved, totalItems, cycleEnd, rfl⟩ := hnew
      exact
        { base := ⟨resolved.2.searchInterval_pos, resolved.2.searchInterval_le⟩
          previous := hinv.1.previousInterval inst resolved
          batchSize := resolved.2.batchSize_pos }
  have hrun : Machine.Along Step.apply (fun _ _ ↦ True) world steps :=
    Machine.along_of_forall fun _ _ _ ↦ trivial
  exact (Machine.invariant_of_along (motive := fun world ↦
    IntervalInv world ∧ ∀ cycle ∈ cycles world.trace, cycle.Permitted)
    (fun world step hinv _ ↦ hstep world step hinv) hrun ⟨h, hbefore⟩).2

/-- In every run of ticks of a new scheduler, with settings that may change to any permitted values,
the end of a cycle computes exactly if the cycle has no candidates or a batch size below `2 ^ 62`, and
only then. -/
theorem arithmetic_exact_iff {tickInterval : Duration} {created : Time} {sched : Scheduler}
    (hnew : new tickInterval created = .ok sched) (cooldowns : Cooldown.Table) (polls : PollTable)
    (zone : Zone) (ios : List TickIO) :
    ∀ cycle ∈ cycles (ios.foldl tick (World.start sched cooldowns polls zone created)).trace,
      ComputesExactly cycle ↔ cycle.totalItems = 0 ∨ cycle.batchSize < 2 ^ 62 := by
  intro cycle hcycle
  rw [foldl_tick] at hcycle
  refine computesExactly_iff (permitted_of_run (IntervalInv.start hnew cooldowns polls zone) ?_ _
    cycle hcycle)
  obtain rfl := eq_of_new hnew
  exact fun _ hnone ↦ absurd hnone List.not_mem_nil

/-- A library with one candidate, with the default batch size. -/
theorem arithmetic_exact_default :
    ∃ sched, new minute 0 = .ok sched ∧
      ∀ cycle ∈ cycles ([smoothTick minute ⟨defaults, defaults_valid⟩ soloList (library [1])].foldl tick
        (World.start sched ∅ ∅ Zone.utc 0)).trace,
      ComputesExactly cycle ↔ cycle.totalItems = 0 ∨ cycle.batchSize < 2 ^ 62 := by
  have hnew : new minute 0 = .ok _ := rfl
  exact ⟨_, hnew, arithmetic_exact_iff hnew ∅ ∅ Zone.utc _⟩

/-- With an accepted batch size of `2 ^ 62` one candidate is taken for a backlog, and the interval is
halved. -/
theorem batch_size_wraps :
    let huge : Validated := ⟨{ defaults with batchSize := 2 ^ 62 }, by constructor <;> decide⟩
    validateValue Key.batchSize.name "4611686018427387904" = .ok () ∧
      (applyOverride defaults ⟨none, Key.batchSize.name, "4611686018427387904"⟩) = huge.1 ∧
      ∃ sched, new minute 0 = .ok sched ∧
        ∃ cycle ∈ cycles ([smoothTick minute huge soloList (library [1])].foldl tick
          (World.start sched ∅ ∅ Zone.utc 0)).trace,
          cycle.totalItems = 1 ∧ cycle.interval = 15 * minute ∧ cycle.base = 30 * minute ∧
            ¬ComputesExactly cycle := by
  intro huge
  have hwraps : ¬wrap64 ((2 : ℤ) ^ 62 * 2) = (2 : ℤ) ^ 62 * 2 := by decide
  have hrun : ∃ cycle ∈ cycles ([smoothTick minute huge soloList (library [1])].foldl tick
      (World.start ⟨false, ∅, 0, 0, nextHourBoundary 0, zeroTime, zeroTime⟩ ∅ ∅ Zone.utc 0)).trace,
      cycle.totalItems = 1 ∧ cycle.batchSize = 2 ^ 62 ∧ cycle.interval = 15 * minute ∧
        cycle.base = 30 * minute := by decide
  obtain ⟨cycle, hcycle, hitems, hbatch, hinterval, hbase⟩ := hrun
  refine ⟨by decide, by decide, _, rfl, cycle, hcycle, hitems, hinterval, hbase, fun hexact ↦ ?_⟩
  have htwice := hexact.twice (by rw [hitems]; decide)
  rw [hbatch] at htwice
  exact hwraps htwice

end Huntarr2.Scheduling
