import Huntarr2.Scheduler.Ownership

/-!
# The band of the search interval

An empty fetch doubles the interval up to four times the base, a backlog halves it down to a quarter
of the base. Each branch checks one bound only, so an interval computed from an earlier base can miss
the other one.
-/

namespace Huntarr2.Scheduling

open Activity Arr Cooldown GoStd Settings

/-- The largest interval any permitted base leads to. -/
def maxInterval : Duration := 4 * maxSearchInterval

/-- The interval lies between a quarter of the base and four times the base. -/
def InBand (base interval : Duration) : Prop := base.tdiv 4 ≤ interval ∧ interval ≤ 4 * base

instance (base interval : Duration) : Decidable (InBand base interval) :=
  inferInstanceAs (Decidable (base.tdiv 4 ≤ interval ∧ interval ≤ 4 * base))

/-- The previous interval is within the reach of the bound that the branch taken does not check. -/
def ReachesBand (base previous : Duration) (totalItems batchSize : ℤ) : Prop :=
  (totalItems = 0 → base.tdiv 4 ≤ 2 * previous) ∧
    (totalItems ≠ 0 → wrap64 (batchSize * 2) < totalItems → previous.tdiv 2 ≤ 4 * base)

section Branches

variable {base previous : Duration} {totalItems batchSize : ℤ}

/-- Up to the largest permitted intervals 64-bit arithmetic is exact. -/
theorem wrap64_mul {factor value : ℤ} (hfactor : 0 ≤ factor ∧ factor ≤ 4)
    (hvalue : 0 ≤ value ∧ value ≤ maxInterval) : wrap64 (value * factor) = value * factor := by
  have hlow : 0 ≤ value * factor := mul_nonneg hvalue.1 hfactor.1
  have hhigh : value * factor ≤ maxInterval * 4 :=
    mul_le_mul hvalue.2 hfactor.2 hfactor.1 (by decide)
  exact wrap64_of_bounds (le_trans (by decide) hlow) (hhigh.trans (by decide))

theorem computeNextInterval_empty (hbase : 0 < base ∧ base ≤ maxSearchInterval)
    (hprevious : 0 < previous ∧ previous ≤ maxInterval) :
    computeNextInterval base previous 0 batchSize = min (4 * base) (2 * previous) := by
  have hceiling : wrap64 (base * 4) = base * 4 :=
    wrap64_mul (by decide) ⟨hbase.1.le, hbase.2.trans (by decide)⟩
  have hdoubled : wrap64 (previous * 2) = previous * 2 :=
    wrap64_mul (by decide) ⟨hprevious.1.le, hprevious.2⟩
  unfold computeNextInterval
  rw [if_pos rfl, hceiling, hdoubled, mul_comm base, mul_comm previous]
  dsimp only
  split
  case isTrue h => exact (min_eq_left h.le).symm
  case isFalse h => exact (min_eq_right (not_lt.mp h)).symm

theorem computeNextInterval_backlog (hsome : totalItems ≠ 0)
    (hbacklog : wrap64 (batchSize * 2) < totalItems) :
    computeNextInterval base previous totalItems batchSize =
      max (base.tdiv 4) (previous.tdiv 2) := by
  unfold computeNextInterval
  rw [if_neg hsome, if_pos hbacklog]
  dsimp only
  split
  case isTrue h => exact (max_eq_left h.le).symm
  case isFalse h => exact (max_eq_right (not_lt.mp h)).symm

theorem computeNextInterval_light (hsome : totalItems ≠ 0)
    (hlight : ¬wrap64 (batchSize * 2) < totalItems) :
    computeNextInterval base previous totalItems batchSize = base := by
  unfold computeNextInterval
  rw [if_neg hsome, if_neg hlight]

/-- The three branches together: the next interval is in the band exactly if the unchecked bound is
in reach. -/
theorem computeNextInterval_inBand_iff (hbase : 0 < base ∧ base ≤ maxSearchInterval)
    (hprevious : 0 < previous ∧ previous ≤ maxInterval) :
    InBand base (computeNextInterval base previous totalItems batchSize) ↔
      ReachesBand base previous totalItems batchSize := by
  have hquarter : base.tdiv 4 ≤ 4 * base := (Int.tdiv_le_self 4 hbase.1.le).trans (by linarith)
  by_cases hempty : totalItems = 0
  · subst hempty
    rw [computeNextInterval_empty hbase hprevious]
    unfold InBand ReachesBand
    rw [le_min_iff]
    exact ⟨fun h ↦ ⟨fun _ ↦ h.1.2, fun hsome ↦ absurd rfl hsome⟩,
      fun h ↦ ⟨⟨hquarter, h.1 rfl⟩, min_le_left _ _⟩⟩
  · by_cases hbacklog : wrap64 (batchSize * 2) < totalItems
    · rw [computeNextInterval_backlog hempty hbacklog]
      unfold InBand ReachesBand
      rw [max_le_iff]
      exact ⟨fun h ↦ ⟨fun hzero ↦ absurd hzero hempty, fun _ _ ↦ h.2.2⟩,
        fun h ↦ ⟨le_max_left _ _, hquarter, h.2 hempty hbacklog⟩⟩
    · rw [computeNextInterval_light hempty hbacklog]
      unfold InBand ReachesBand
      exact ⟨fun _ ↦ ⟨fun hzero ↦ absurd hzero hempty, fun _ hlong ↦ absurd hlong hbacklog⟩,
        fun _ ↦ ⟨Int.tdiv_le_self 4 hbase.1.le, by linarith⟩⟩

/-- The next interval never exceeds the largest one and is never negative. -/
theorem computeNextInterval_bounds (hbase : 0 < base ∧ base ≤ maxSearchInterval)
    (hprevious : 0 < previous ∧ previous ≤ maxInterval) :
    0 ≤ computeNextInterval base previous totalItems batchSize ∧
      computeNextInterval base previous totalItems batchSize ≤ maxInterval := by
  have hquarter : 0 ≤ base.tdiv 4 := Int.tdiv_nonneg hbase.1.le (by decide)
  have hfour : 4 * base ≤ maxInterval := mul_le_mul_of_nonneg_left hbase.2 (by decide)
  by_cases hempty : totalItems = 0
  · subst hempty
    rw [computeNextInterval_empty hbase hprevious]
    exact ⟨le_min (by linarith [hbase.1]) (by linarith [hprevious.1]), (min_le_left _ _).trans hfour⟩
  · by_cases hbacklog : wrap64 (batchSize * 2) < totalItems
    · rw [computeNextInterval_backlog hempty hbacklog]
      have hhalf : previous.tdiv 2 ≤ maxInterval := calc
        previous.tdiv 2 ≤ previous := Int.tdiv_le_self 2 hprevious.1.le
        _ ≤ maxInterval := hprevious.2
      have hbase' : base.tdiv 4 ≤ maxInterval := calc
        base.tdiv 4 ≤ base := Int.tdiv_le_self 4 hbase.1.le
        _ ≤ maxSearchInterval := hbase.2
        _ ≤ maxInterval := by decide
      exact ⟨hquarter.trans (le_max_left _ _), max_le hbase' hhalf⟩
    · rw [computeNextInterval_light hempty hbacklog]
      exact ⟨hbase.1.le, hbase.2.trans (by decide)⟩

end Branches

/-! ## Over runs -/

/-- Every stored interval is permitted. -/
def StoresPermitted (world : World) : Prop :=
  ∀ instanceID, ∀ sched ∈ world.sched.schedules.lookup instanceID,
    0 ≤ sched.interval ∧ sched.interval ≤ maxInterval

/-- Every stored interval is permitted, and every cycle's is in the band exactly if it can be. -/
structure IntervalInv (world : World) : Prop where
  stored : ∀ instanceID, ∀ sched ∈ world.sched.schedules.lookup instanceID,
    0 ≤ sched.interval ∧ sched.interval ≤ maxInterval
  banded : ∀ cycle ∈ cycles world.trace,
    InBand cycle.base cycle.interval ↔
      ReachesBand cycle.base cycle.previous cycle.totalItems cycle.batchSize

namespace IntervalInv

variable {world : World}

theorem previousInterval (h : IntervalInv world) (inst : Instance) (resolved : Validated) :
    0 < world.previousInterval inst resolved.1 ∧
      world.previousInterval inst resolved.1 ≤ maxInterval := by
  have hbase : 0 < resolved.1.searchInterval ∧ resolved.1.searchInterval ≤ maxInterval :=
    ⟨resolved.2.searchInterval_pos, resolved.2.searchInterval_le.trans (by decide)⟩
  unfold World.previousInterval Scheduling.previousInterval
  split
  case h_2 => exact hbase
  case h_1 sched hsched =>
    split
    case isTrue hpos => exact ⟨hpos, (h.stored inst.id sched hsched).2⟩
    case isFalse => exact hbase

/-- The intervals stored before and zero are permitted. -/
theorem frame (h : IntervalInv world) {after : World}
    (hlookup : ∀ instanceID, ∀ sched ∈ after.sched.schedules.lookup instanceID,
      sched ∈ world.sched.schedules.lookup instanceID ∨ sched.interval = 0) :
    StoresPermitted after := by
  intro instanceID sched hsched
  cases hlookup instanceID sched hsched with
  | inl hold => exact h.stored instanceID sched hold
  | inr hzero =>
    rw [hzero]
    decide

/-- The end of a cycle stores a permitted interval. -/
theorem afterCycle (h : IntervalInv world) {during : World}
    (hschedules : during.sched.schedules = world.sched.schedules) {now : Time} {inst : Instance}
    {resolved : Validated} {totalItems : ℕ} {cycleEnd : Time} {searched : ℕ} :
    StoresPermitted (afterCycle during inst
      (world.turnCycle now inst resolved.1 totalItems cycleEnd) searched) := by
  intro instanceID sched hsched
  unfold Scheduling.afterCycle at hsched
  rw [hschedules, KeyedTable.lookup_insert_eq] at hsched
  split at hsched
  case isTrue =>
    cases hsched
    exact computeNextInterval_bounds
      ⟨resolved.2.searchInterval_pos, resolved.2.searchInterval_le⟩ (h.previousInterval inst resolved)
  case isFalse => exact h.stored instanceID sched hsched

theorem takeTurn (h : IntervalInv world) (now : Time) (inst : Instance) (cancelled : Bool)
    (io : TurnIO) : StoresPermitted (takeTurn world now inst cancelled io) := by
  apply takeTurn_cases (motive := StoresPermitted)
  case idle => exact h.stored
  case disabled =>
    refine h.frame fun instanceID sched hsched ↦ ?_
    unfold afterDisabled World.append World.setSchedule at hsched
    rw [KeyedTable.lookup_insert_eq] at hsched
    split at hsched
    case isTrue =>
      cases hsched
      exact Or.inr rfl
    case isFalse => exact Or.inl hsched
  case closed => exact fun _ _ ↦ h.stored
  case quiet => exact fun _ _ _ _ _ ↦ h.afterCycle rfl
  case sent => exact fun _ _ _ _ _ _ _ _ ↦ h.afterCycle rfl

theorem storesPermitted_apply (h : IntervalInv world) (step : Step) :
    StoresPermitted (step.apply world) := by
  apply Step.apply_cases (motive := fun _ after ↦ StoresPermitted after)
  case started =>
    intro now
    obtain ⟨_, _, hstart⟩ := startTick_eq world now
    rw [hstart]
    exact h.stored
  case limited => exact fun _ ↦ h.stored
  case turned => exact h.takeTurn
  case removed =>
    intro insts
    refine h.frame fun instanceID sched hsched ↦ Or.inl ?_
    unfold removeUnlisted at hsched
    rw [KeyedTable.lookup_deleteWhere, Option.mem_filter_iff] at hsched
    exact hsched.1
  case pruned => exact fun _ _ _ ↦ h.stored
  case passed => exact fun _ _ _ _ _ ↦ h.stored

/-- Every step keeps the invariant. -/
theorem apply (h : IntervalInv world) (step : Step) : IntervalInv (step.apply world) where
  stored := h.storesPermitted_apply step
  banded := by
    intro cycle hcycle
    cases step.apply_cycles world cycle hcycle with
    | inl hold => exact h.banded cycle hold
    | inr hnew =>
      obtain ⟨now, inst, resolved, totalItems, cycleEnd, rfl⟩ := hnew
      exact computeNextInterval_inBand_iff
        ⟨resolved.2.searchInterval_pos, resolved.2.searchInterval_le⟩ (h.previousInterval inst resolved)

theorem start {tickInterval : Duration} {now : Time} {sched : Scheduler}
    (hnew : new tickInterval now = .ok sched) (cooldowns : Cooldown.Table) (polls : PollTable)
    (zone : Zone) : IntervalInv (World.start sched cooldowns polls zone now) := by
  obtain rfl := eq_of_new hnew
  exact
    { stored := fun instanceID sched hsched ↦ absurd hsched (Option.not_mem_none _)
      banded := fun cycle hcycle ↦ absurd hcycle List.not_mem_nil }

end IntervalInv

/-- In every run of ticks of a new scheduler, with settings that may change to any permitted values,
the interval stored after a cycle is in its documented band exactly if the previous interval is within
the reach of the bound that the branch taken does not check. -/
theorem interval_inBand_iff {tickInterval : Duration} {created : Time} {sched : Scheduler}
    (hnew : new tickInterval created = .ok sched) (cooldowns : Cooldown.Table) (polls : PollTable)
    (zone : Zone) (ios : List TickIO) :
    ∀ cycle ∈ cycles (ios.foldl tick (World.start sched cooldowns polls zone created)).trace,
      InBand cycle.base cycle.interval ↔
        ReachesBand cycle.base cycle.previous cycle.totalItems cycle.batchSize := by
  have hrun : Machine.Along Step.apply (fun _ _ ↦ True) (World.start sched cooldowns polls zone created)
      (runSteps (World.start sched cooldowns polls zone created) ios) :=
    Machine.along_of_forall fun _ _ _ ↦ trivial
  rw [foldl_tick]
  exact (Machine.invariant_of_along (motive := IntervalInv) (fun _ step h _ ↦ h.apply step) hrun
    (IntervalInv.start hnew cooldowns polls zone)).banded

/-- An empty library doubles the default interval. -/
theorem interval_inBand_iff_empty_library :
    ∃ sched, new minute 0 = .ok sched ∧
      (cycles (tick (World.start sched ∅ ∅ Zone.utc 0)
        (smoothTick minute ⟨defaults, defaults_valid⟩ soloList (library []))).trace).map
          (·.interval) = [2 * defaults.searchInterval] ∧
      ∀ cycle ∈ cycles ([smoothTick minute ⟨defaults, defaults_valid⟩ soloList (library [])].foldl tick
        (World.start sched ∅ ∅ Zone.utc 0)).trace,
      InBand cycle.base cycle.interval ↔
        ReachesBand cycle.base cycle.previous cycle.totalItems cycle.batchSize := by
  have hnew : new minute 0 = .ok _ := rfl
  exact ⟨_, hnew, by decide, interval_inBand_iff hnew ∅ ∅ Zone.utc _⟩

/-- After a cycle with a base of a minute, an empty fetch with a base of a day stores two minutes. -/
theorem interval_below_band :
    let short : Validated := ⟨{ defaults with searchInterval := minute }, by constructor <;> decide⟩
    let long : Validated :=
      ⟨{ defaults with searchInterval := 24 * hour }, by constructor <;> decide⟩
    ∃ sched, new minute 0 = .ok sched ∧
      ∃ cycle ∈ cycles ([smoothTick minute short soloList (library [1]),
          smoothTick (10 * minute) long soloList (library [])].foldl tick
            (World.start sched ∅ ∅ Zone.utc 0)).trace,
        cycle.base = 24 * hour ∧ cycle.interval = 2 * minute ∧ ¬InBand cycle.base cycle.interval := by
  intro short long
  refine ⟨_, rfl, ?_⟩
  decide

end Huntarr2.Scheduling
