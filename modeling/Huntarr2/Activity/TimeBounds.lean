import Huntarr2.Activity.Log
import Huntarr2.Clock.TextOrder

/-!
# Time bounds of the activity log

Every query of the activity log compares timestamp texts. This module says for which rows and bounds
such a comparison is the comparison of the instants, and from that when listing, counting, statistics
and pruning use exactly the rows their bounds mean.
-/

namespace Huntarr2.Activity

open Clock

/-! ## What the bounds mean -/

/-- The row was created at or after the bound; no bound admits every row. -/
def CreatedSince (since : Option Timestamp) (row : Row) : Prop :=
  ∀ bound ∈ since, bound.instant ≤ row.creation.instant

/-- The row was created before the bound; no bound admits every row. -/
def CreatedBefore (untilTime : Option Timestamp) (row : Row) : Prop :=
  ∀ bound ∈ untilTime, row.creation.instant < bound.instant

/-- The row's text compares with the bound as its creation time does. -/
def ComparedInTime (bound : Option Timestamp) (row : Row) : Prop :=
  ∀ time ∈ bound, ComparesInTime row.creation time

instance (since : Option Timestamp) (row : Row) : Decidable (CreatedSince since row) :=
  inferInstanceAs (Decidable (∀ bound ∈ since, bound.instant ≤ row.creation.instant))

instance (untilTime : Option Timestamp) (row : Row) : Decidable (CreatedBefore untilTime row) :=
  inferInstanceAs (Decidable (∀ bound ∈ untilTime, row.creation.instant < bound.instant))

instance (bound : Option Timestamp) (row : Row) : Decidable (ComparedInTime bound row) :=
  inferInstanceAs (Decidable (∀ time ∈ bound, ComparesInTime row.creation time))

/-- Either both bounds are compared in time, or the row is out of the window for a reason that the
bound compared out of time does not change. -/
def WindowComparedInTime (since untilTime : Option Timestamp) (row : Row) : Prop :=
  if ComparedInTime since row then
    ComparedInTime untilTime row ∨ ¬CreatedSince since row
  else if ComparedInTime untilTime row then
    ¬CreatedBefore untilTime row
  else (CreatedSince since row ↔ ¬CreatedBefore untilTime row)

/-! ## One comparison -/

theorem createdAt_lt_iff (row : Row) (bound : Timestamp) :
    (row.createdAt < bound.formatRFC3339Nano ↔ row.creation.instant < bound.instant) ↔
      ComparesInTime row.creation bound := by
  rw [← format_lt_iff_instant_lt_iff row.creation bound row.creation_utc, row.format_creation]

/-- A bound compared out of time gives the opposite answer. -/
theorem since_text_iff (since : Option Timestamp) (row : Row) :
    (since.all fun bound ↦ bound.formatRFC3339Nano ≤ row.createdAt) = true ↔
      (CreatedSince since row ↔ ComparedInTime since row) := by
  cases since with
  | none => simp [CreatedSince, ComparedInTime]
  | some bound =>
    have hcompare := createdAt_lt_iff row bound
    simp only [Option.all_some, decide_eq_true_eq, CreatedSince, ComparedInTime, Option.mem_some,
      forall_eq', ← not_lt]
    tauto

theorem until_text_iff (untilTime : Option Timestamp) (row : Row) :
    (untilTime.all fun bound ↦ row.createdAt < bound.formatRFC3339Nano) = true ↔
      (CreatedBefore untilTime row ↔ ComparedInTime untilTime row) := by
  cases untilTime with
  | none => simp [CreatedBefore, ComparedInTime]
  | some bound =>
    have hcompare := createdAt_lt_iff row bound
    simp only [Option.all_some, decide_eq_true_eq, CreatedBefore, ComparedInTime, Option.mem_some,
      forall_eq']
    tauto

/-- A row is selected by the texts exactly when it lies in the window, outside the exceptions. -/
theorem window_text_iff (since untilTime : Option Timestamp) (row : Row) :
    (((CreatedSince since row ↔ ComparedInTime since row) ∧
        (CreatedBefore untilTime row ↔ ComparedInTime untilTime row)) ↔
      CreatedSince since row ∧ CreatedBefore untilTime row) ↔
        WindowComparedInTime since untilTime row := by
  unfold WindowComparedInTime
  by_cases hsince : ComparedInTime since row <;> by_cases huntil : ComparedInTime untilTime row <;>
    simp only [hsince, huntil, if_true, if_false, iff_true, iff_false, true_or, false_or] <;> tauto

/-! ## Queries -/

theorem filter_eq_filter_iff {α : Type*} (p q : α → Bool) (l : List α) :
    l.filter p = l.filter q ↔ ∀ x ∈ l, (p x = true ↔ q x = true) := by
  constructor
  · intro h x hx
    have hmem : x ∈ l.filter p ↔ x ∈ l.filter q := by rw [h]
    simpa only [List.mem_filter, hx, true_and] using hmem
  · intro h
    exact List.filter_congr fun x hx ↦ Bool.eq_iff_iff.mpr (h x hx)

/-- The rows that a listing with these parameters means. -/
def meant (log : List Row) (params : ListParams) : List Row :=
  log.filter fun row ↦ filtersMatch params row &&
    decide (CreatedSince params.since row ∧ CreatedBefore params.untilTime row)

theorem selected_eq_meant_iff (log : List Row) (params : ListParams) :
    selected log params = meant log params ↔
      ∀ row ∈ log, filtersMatch params row = true →
        WindowComparedInTime params.since params.untilTime row := by
  unfold selected meant
  rw [filter_eq_filter_iff]
  apply forall₂_congr
  intro row _
  rw [← window_text_iff]
  unfold buildListQuery boundsMatch
  simp only [Bool.and_eq_true, since_text_iff, until_text_iff, decide_eq_true_eq]
  exact ⟨fun h hmatch ↦ by simpa only [hmatch, true_and] using h,
    fun h ↦ and_congr_right h⟩

theorem statsRows_eq_iff (log : List Row) (since : Option Timestamp) :
    statsRows log since = log.filter (fun row ↦ decide (CreatedSince since row)) ↔
      ∀ row ∈ log, ComparedInTime since row := by
  unfold statsRows
  rw [filter_eq_filter_iff]
  apply forall₂_congr
  intro row _
  rw [since_text_iff, decide_eq_true_eq]
  tauto

/-- What a deletion before the given time means. -/
def meantDeletion (log : List Row) (before : Timestamp) : List Row × ℕ :=
  (log.filter fun row ↦ !decide (row.creation.instant < before.instant),
    (log.filter fun row ↦ decide (row.creation.instant < before.instant)).length)

theorem deleteBefore_eq_iff (log : List Row) (before : Timestamp) :
    deleteBefore log before = meantDeletion log before ↔
      ∀ row ∈ log, ComparesInTime row.creation before := by
  unfold deleteBefore meantDeletion
  simp only [← createdAt_lt_iff]
  constructor
  · intro h row hrow
    have hkept := (filter_eq_filter_iff _ _ log).mp (congrArg Prod.fst h) row hrow
    simpa only [Bool.not_eq_true', decide_eq_false_iff_not, not_iff_not] using hkept
  · intro h
    have hcongr : ∀ row ∈ log, decide (row.createdAt < before.formatRFC3339Nano) =
        decide (row.creation.instant < before.instant) := fun row hrow ↦ by simp [h row hrow]
    rw [List.filter_congr hcongr, List.filter_congr fun row hrow ↦ by rw [hcongr row hrow]]

/-- Pruning removes the entries older than the retention exactly when they are compared in time with
the cut-off in the process time zone. -/
theorem prune_eq_iff (log : List Row) (zone : ℤ → ℤ) (now retention : ℤ) :
    prune log zone now retention =
        (Timestamp.ofInstant (now - retention) (zone (now - retention))).map (meantDeletion log) ↔
      ∀ before ∈ Timestamp.ofInstant (now - retention) (zone (now - retention)),
        ∀ row ∈ log, ComparesInTime row.creation before := by
  unfold prune
  dsimp only
  generalize Timestamp.ofInstant (now - retention) (zone (now - retention)) = reading
  cases reading with
  | none => simp
  | some before =>
    simp only [Option.map_some, Option.some.injEq, Option.mem_some, forall_eq']
    exact deleteBefore_eq_iff log before

/-- Listing and counting, statistics, deletion and pruning each use exactly the rows their bounds
mean when, and only when, the rows are compared in time. -/
theorem queries_chronological_iff (log : List Row) (params : ListParams) (since : Option Timestamp)
    (before : Timestamp) (zone : ℤ → ℤ) (now retention : ℤ) :
    (selected log params = meant log params ↔
      ∀ row ∈ log, filtersMatch params row = true →
        WindowComparedInTime params.since params.untilTime row) ∧
    (statsRows log since = log.filter (fun row ↦ decide (CreatedSince since row)) ↔
      ∀ row ∈ log, ComparedInTime since row) ∧
    (deleteBefore log before = meantDeletion log before ↔
      ∀ row ∈ log, ComparesInTime row.creation before) ∧
    (prune log zone now retention =
        (Timestamp.ofInstant (now - retention) (zone (now - retention))).map (meantDeletion log) ↔
      ∀ before ∈ Timestamp.ofInstant (now - retention) (zone (now - retention)),
        ∀ row ∈ log, ComparesInTime row.creation before) :=
  ⟨selected_eq_meant_iff log params, statsRows_eq_iff log since, deleteBefore_eq_iff log before,
    prune_eq_iff log zone now retention⟩

/-- 2026-01-01T10:30:00Z. -/
def halfPastTen : Timestamp where
  wall := 739982 * 86400 + 37800
  nanos := 0
  offset := 0
  wall_lt := by decide
  nanos_lt := by decide
  offset_le := by decide

/-- 2026-01-01T12:00:00+02:00, half an hour earlier. -/
def tenInTheEast : Timestamp where
  wall := 739982 * 86400 + 43200
  nanos := 0
  offset := 7200
  wall_lt := by decide
  nanos_lt := by decide
  offset_le := by decide

theorem exists_utc_text (time : UTCTime) : ∃ read : Timestamp, read.offset = 0 ∧
    read.formatRFC3339Nano = time.1.formatRFC3339Nano :=
  ⟨time.1, time.2, rfl⟩

/-- An entry created at the given time. -/
def entryAt (time : UTCTime) : Row where
  instanceID := none
  level := .info
  action := .rateLimit
  message := "hourly search limit reached (100)"
  details := none
  id := 0
  createdAt := time.1.formatRFC3339Nano
  created_utc := exists_utc_text time

/-- Deleting with a cut-off east of UTC removes an entry created after it. -/
theorem deleteBefore_removes_later_entry :
    ¬∀ (log : List Row) (before : Timestamp), deleteBefore log before = meantDeletion log before := by
  intro h
  have hkept := congrArg Prod.snd (h [entryAt ⟨halfPastTen, rfl⟩] tenInTheEast)
  exact absurd hkept (by decide)

end Huntarr2.Activity
