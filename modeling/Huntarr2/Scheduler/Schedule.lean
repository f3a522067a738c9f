import Huntarr2.Arr.PollState
import Huntarr2.Settings.Settings

/-!
# Schedules and their arithmetic

The state the scheduler keeps between ticks and the pure functions of its decisions: the next search
interval of an instance, the daily search window, the hour boundary at which the search counter
restarts, and the selection of the items to search.
-/

namespace Huntarr2.Scheduling

open Arr GoStd Settings

/-- `pruneInterval`. -/
def pruneInterval : Duration := 24 * hour

/-- `historyPollInterval`. -/
def historyPollInterval : Duration := 5 * minute

/-- `historyPageSize`. -/
def historyPageSize : ℕ := 50

/-- `cooldownRetention`. -/
def cooldownRetention : Duration := maxCooldownPeriod

/-- `firstPollLookback`. -/
def firstPollLookback : Duration := 24 * hour

/-- The scheduling state of one instance. -/
structure InstanceSchedule where
  instanceID : UUID
  instanceName : String
  nextSearchAt : Time
  interval : Duration
  enabled : Bool
  deriving DecidableEq, Repr

/-- `newInstanceSchedule`. -/
def newInstanceSchedule (id : UUID) (name : String) (nextAt : Time) (enabled : Bool)
    (interval : Duration) : InstanceSchedule :=
  { instanceID := id, instanceName := name, nextSearchAt := nextAt, interval := interval
    enabled := enabled }

/-- `nextHourBoundary`. -/
def nextHourBoundary (time : Time) : Time := time - time % hour + hour

/-- `computeNextInterval`, in 64-bit arithmetic. -/
def computeNextInterval (base previous : Duration) (totalItems batchSize : ℤ) : Duration :=
  if totalItems = 0 then
    let ceiling := wrap64 (base * 4)
    let doubled := wrap64 (previous * 2)
    if ceiling < doubled then ceiling else doubled
  else if wrap64 (batchSize * 2) < totalItems then
    let floor := base.tdiv 4
    let halved := previous.tdiv 2
    if halved < floor then floor else halved
  else base

/-- `parseHHMM`: the empty text has no minutes. -/
def parseHHMM (text : Text) : Option ℤ :=
  if text.isEmpty then none else Settings.parseHHMM text

/-- `inSearchWindow`; a missing or malformed bound lets every search through. -/
def inSearchWindow (zone : Zone) (windowStart windowEnd : Text) (now : Time) : Bool :=
  if windowStart.isEmpty ∧ windowEnd.isEmpty then true
  else
    let nowMins := zone.minuteOfDay now
    match parseHHMM windowStart, parseHHMM windowEnd with
    | some startMins, some endMins =>
      if startMins ≤ endMins then startMins ≤ nowMins ∧ nowMins < endMins
      else startMins ≤ nowMins ∨ nowMins < endMins
    | _, _ => true

/-- `excludeIDs`. -/
def excludeIDs (all excluded : List ℤ) : List ℤ := all.filter fun id ↦ id ∉ excluded

/-- The mutable fields of the scheduler. -/
structure Scheduler where
  running : Bool
  schedules : KeyedTable UUID InstanceSchedule
  searchCount : ℤ
  hourlyLimit : ℤ
  hourResetAt : Time
  lastPrunedAt : Time
  lastHistoryPoll : Time

/-- `New`, at the time `now`. -/
def new (tickInterval : Duration) (now : Time) : Except String Scheduler :=
  if tickInterval ≤ 0 then .error s!"tick interval must be positive, got {tickInterval}ns"
  else .ok
    { running := false
      schedules := ∅
      searchCount := 0
      hourlyLimit := 0
      hourResetAt := nextHourBoundary now
      lastPrunedAt := zeroTime
      lastHistoryPoll := zeroTime }

theorem eq_of_new {tickInterval : Duration} {now : Time} {sched : Scheduler}
    (h : new tickInterval now = .ok sched) :
    sched = ⟨false, ∅, 0, 0, nextHourBoundary now, zeroTime, zeroTime⟩ := by
  unfold new at h
  split at h
  case isTrue => cases h
  case isFalse => exact (Except.ok.inj h).symm

/-! ## Hours -/

/-- The number of the full hour a point in time lies in. -/
def hourOf (time : Time) : ℤ := time / hour

theorem nextHourBoundary_eq (time : Time) : nextHourBoundary time = (hourOf time + 1) * hour := by
  unfold nextHourBoundary hourOf
  have hsplit := Int.mul_ediv_add_emod time hour
  calc time - time % hour + hour = hour * (time / hour) + hour := by linarith
    _ = (time / hour + 1) * hour := by ring

theorem hourOf_mono {first second : Time} (h : first ≤ second) : hourOf first ≤ hourOf second :=
  Int.ediv_le_ediv (by decide) h

theorem hourOf_lt_iff {time : Time} {count : ℤ} : hourOf time < count ↔ time < count * hour := by
  unfold hourOf
  exact Int.ediv_lt_iff_lt_mul (by decide)

theorem le_hourOf_iff {time : Time} {count : ℤ} : count ≤ hourOf time ↔ count * hour ≤ time := by
  unfold hourOf
  exact Int.le_ediv_iff_mul_le (by decide)

/-! ## Selection -/

theorem mem_excludeIDs {all excluded : List ℤ} {id : ℤ} :
    id ∈ excludeIDs all excluded ↔ id ∈ all ∧ id ∉ excluded := by
  simp [excludeIDs]

theorem excludeIDs_sublist (all excluded : List ℤ) : (excludeIDs all excluded).Sublist all :=
  List.filter_sublist

end Huntarr2.Scheduling
