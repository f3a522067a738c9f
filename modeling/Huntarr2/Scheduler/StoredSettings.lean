import Huntarr2.Foundation.Positions
import Huntarr2.Scheduler.Batch
import Huntarr2.Settings.Resolution

/-!
# Settings from arbitrary rows

The reader of the stored settings clamps or skips a duration that is out of range, whatever the rows
contain, but takes every integer. A batch size or a search limit below one is in force when the last
row for it that parses carries one, and with a negative batch size a search cycle panics.
-/

namespace Huntarr2.Settings

open GoStd

/-! ## Resolving arbitrary rows -/

/-- `Service.Resolve` for what the repository answers. -/
def resolveRows (listGlobal listByInstance : Except String (List Setting)) :
    Except String Resolved :=
  match listGlobal with
  | .error err => .error s!"loading global settings: {err}"
  | .ok global =>
    match listByInstance with
    | .error err => .error s!"loading instance settings: {err}"
    | .ok perInst => .ok (applyOverrides (applyOverrides defaults global) perInst)

/-- `Service.ResolveGlobal` for what the repository answers. -/
def resolveGlobalRows (listGlobal : Except String (List Setting)) : Except String Resolved :=
  match listGlobal with
  | .error err => .error s!"loading global settings: {err}"
  | .ok global => .ok (applyOverrides defaults global)

/-- With the store as repository the rows are those of the two scopes. -/
theorem resolve_eq_resolveRows (table : Table) (instanceID : UUID)
    (globalFailure instanceFailure : Option String) :
    Service.resolve table instanceID globalFailure instanceFailure =
        resolveRows (listGlobal table globalFailure)
          (listByInstance table instanceID instanceFailure) ∧
      Service.resolveGlobal table globalFailure = resolveGlobalRows (listGlobal table globalFailure) :=
  ⟨rfl, rfl⟩

/-! ## Durations -/

/-- The bounds of the two durations. -/
structure Resolved.DurationsInRange (resolved : Resolved) : Prop where
  cooldownPeriod_pos : 0 < resolved.cooldownPeriod
  cooldownPeriod_le : resolved.cooldownPeriod ≤ maxCooldownPeriod
  searchInterval_pos : 0 < resolved.searchInterval
  searchInterval_le : resolved.searchInterval ≤ maxSearchInterval

/-- Whatever text is read, a duration stays in its range. -/
theorem readDuration_inRange {limit field : Duration} (hlimit : 0 < limit) (hpos : 0 < field)
    (hle : field ≤ limit) (value : Text) :
    0 < readDuration limit value field ∧ readDuration limit value field ≤ limit := by
  unfold readDuration
  cases parseDuration value with
  | none => exact ⟨hpos, hle⟩
  | some duration =>
    dsimp only
    split_ifs with hnonpos hlong
    · exact ⟨hpos, hle⟩
    · exact ⟨hlimit, le_refl limit⟩
    · exact ⟨not_le.mp hnonpos, not_lt.mp hlong⟩

theorem Resolved.DurationsInRange.applyOverride {resolved : Resolved}
    (hrange : resolved.DurationsInRange) (setting : Setting) :
    (Settings.applyOverride resolved setting).DurationsInRange := by
  unfold Settings.applyOverride
  split
  case h_2 =>
    have hread := readDuration_inRange (by decide : 0 < maxCooldownPeriod) hrange.cooldownPeriod_pos
      hrange.cooldownPeriod_le setting.value
    exact { hrange with cooldownPeriod_pos := hread.1, cooldownPeriod_le := hread.2 }
  case h_5 =>
    have hread := readDuration_inRange (by decide : 0 < maxSearchInterval) hrange.searchInterval_pos
      hrange.searchInterval_le setting.value
    exact { hrange with searchInterval_pos := hread.1, searchInterval_le := hread.2 }
  all_goals exact { hrange with }

/-- Arbitrary rows over the defaults keep both durations in range. -/
theorem durationsInRange_applyOverrides (settings : List Setting) :
    (applyOverrides defaults settings).DurationsInRange := by
  have hdefaults : defaults.DurationsInRange := by constructor <;> decide
  exact List.foldlRecOn settings applyOverride hdefaults fun _ hrange setting _ ↦
    hrange.applyOverride setting

/-! ## Integers -/

/-- What a row says about an integer key, if it is one for the key and parses. -/
def storedInt (key : Key) (setting : Setting) : Option ℤ :=
  if setting.key = key.name then atoi setting.value else none

/-- The last integer the rows say about a key, if any, is at least one. -/
def LastPositive (key : Key) (settings : List Setting) : Prop :=
  ∀ v ∈ (settings.filterMap (storedInt key)).getLast?, 1 ≤ v

instance (key : Key) (settings : List Setting) : Decidable (LastPositive key settings) :=
  inferInstanceAs (Decidable (∀ v ∈ (settings.filterMap (storedInt key)).getLast?, 1 ≤ v))

theorem batchSize_applyOverride (resolved : Resolved) (setting : Setting) :
    (applyOverride resolved setting).batchSize =
      (storedInt .batchSize setting).getD resolved.batchSize := by
  obtain ⟨instanceID, key, value⟩ := setting
  unfold storedInt
  split_ifs with hkey
  · obtain rfl : key = Key.name .batchSize := hkey
    exact field_applyOverride_self resolved instanceID .batchSize value
  · exact field_applyOverride_of_ne resolved ⟨instanceID, key, value⟩ hkey

theorem searchLimit_applyOverride (resolved : Resolved) (setting : Setting) :
    (applyOverride resolved setting).searchLimit =
      (storedInt .searchLimit setting).getD resolved.searchLimit := by
  obtain ⟨instanceID, key, value⟩ := setting
  unfold storedInt
  split_ifs with hkey
  · obtain rfl : key = Key.name .searchLimit := hkey
    exact field_applyOverride_self resolved instanceID .searchLimit value
  · exact field_applyOverride_of_ne resolved ⟨instanceID, key, value⟩ hkey

/-- The resolved settings are in range exactly when the last stored integers are. -/
theorem valid_applyOverrides_iff (settings : List Setting) :
    (applyOverrides defaults settings).Valid ↔
      LastPositive .batchSize settings ∧ LastPositive .searchLimit settings := by
  have hdurations := durationsInRange_applyOverrides settings
  have hpositive {last : Option ℤ} {initial : ℤ} (hinitial : 1 ≤ initial) :
      1 ≤ last.getD initial ↔ ∀ v ∈ last, 1 ≤ v := by
    cases last with
    | none => simpa using hinitial
    | some v => simp
  have hbatch : 1 ≤ (applyOverrides defaults settings).batchSize ↔
      LastPositive .batchSize settings := by
    unfold applyOverrides LastPositive
    rw [get_foldl_getD batchSize_applyOverride]
    exact hpositive (by decide)
  have hlimit : 1 ≤ (applyOverrides defaults settings).searchLimit ↔
      LastPositive .searchLimit settings := by
    unfold applyOverrides LastPositive
    rw [get_foldl_getD searchLimit_applyOverride]
    exact hpositive (by decide)
  rw [← hbatch, ← hlimit]
  exact ⟨fun h ↦ ⟨h.batchSize_pos, h.searchLimit_pos⟩,
    fun h ↦ { hdurations with batchSize_pos := h.1, searchLimit_pos := h.2 }⟩

end Huntarr2.Settings

namespace Huntarr2.Scheduling

open Settings

/-! ## The batch slice -/

/-- A cycle can panic exactly when the batch size is negative. -/
theorem never_panics_iff (resolved : Resolved) :
    (∀ inst cancelled answers, (cycleCalls inst resolved cancelled answers).2 ≠ none) ↔
      0 ≤ resolved.batchSize := by
  constructor
  · intro hnever
    by_contra hneg
    -- One candidate that is not cooling down reaches the slice.
    let result : Arr.UpgradeResult := ⟨[⟨1, "", ""⟩], [], ⟨1, 0, 0, 0, 0, 0, 0, 1⟩⟩
    let answers : Answers := ⟨.ok result, .ok [], "radarr", .ok ()⟩
    have hsearch (searchMissing : Bool) : candidates result searchMissing = [⟨1, "", ""⟩] := by
      cases searchMissing <;> rfl
    refine hnever ⟨0, "", ""⟩ false answers ?_
    unfold cycleCalls
    simp only [answers, hsearch, slice_panics_of_neg (not_le.mp hneg), Bool.false_eq_true, if_false]
    rfl
  · intro hbatch inst cancelled answers
    cases cancelled with
    | true => exact Option.some_ne_none _
    | false =>
      exact cycleCalls_cases (motive := fun run ↦ run.2 ≠ none) inst hbatch answers
        (fun _ _ ↦ Option.some_ne_none _) (fun _ _ _ ↦ Option.some_ne_none _)
        (fun _ _ _ _ _ ↦ Option.some_ne_none _) (fun _ _ _ _ _ _ ↦ Option.some_ne_none _)
        (fun _ _ _ _ _ ↦ Option.some_ne_none _) (fun _ _ _ _ _ _ _ _ ↦ Option.some_ne_none _)
        (fun _ _ _ _ _ _ _ ↦ Option.some_ne_none _)

/-- Settings in their ranges, with which no cycle takes the batch slice out of range. -/
def Usable (resolved : Resolved) : Prop :=
  resolved.Valid ∧ ∀ inst cancelled answers, (cycleCalls inst resolved cancelled answers).2 ≠ none

theorem usable_iff_valid (resolved : Resolved) : Usable resolved ↔ resolved.Valid := by
  refine and_iff_left_of_imp fun hvalid ↦ (never_panics_iff resolved).mpr ?_
  have hbatch := hvalid.batchSize_pos
  omega

/-- Whatever rows are stored, the resolved settings are in range exactly when the last batch size and
the last search limit that parse are at least one; the defaults are, and the durations always are. -/
theorem resolve_usable_iff (global perInst : List Setting) :
    (∃ resolved, resolveRows (.ok global) (.ok perInst) = .ok resolved ∧
      (Usable resolved ↔ LastPositive .batchSize (global ++ perInst) ∧
        LastPositive .searchLimit (global ++ perInst))) ∧
    ∃ resolved, resolveGlobalRows (.ok global) = .ok resolved ∧
      (Usable resolved ↔ LastPositive .batchSize global ∧ LastPositive .searchLimit global) := by
  have hlayers : applyOverrides (applyOverrides defaults global) perInst =
      applyOverrides defaults (global ++ perInst) := List.foldl_append.symm
  refine ⟨⟨_, rfl, ?_⟩, _, rfl, ?_⟩
  · rw [hlayers, usable_iff_valid, valid_applyOverrides_iff]
  · rw [usable_iff_valid, valid_applyOverrides_iff]

/-- One global row with the batch size `-1` makes a cycle panic. -/
theorem negative_batch_size_panics :
    let row : Setting := ⟨none, "batch_size", "-1"⟩
    ∃ resolved, resolveRows (.ok [row]) (.ok []) = .ok resolved ∧ ¬resolved.Valid ∧
      ∃ inst cancelled answers, (cycleCalls inst resolved cancelled answers).2 = none := by
  intro row
  have hbatch : (applyOverrides (applyOverrides defaults [row]) []).batchSize = -1 := by decide
  refine ⟨_, rfl, fun hvalid ↦ ?_, ?_⟩
  · have hpos := hvalid.batchSize_pos
    omega
  · by_contra hnone
    have hnonneg := (never_panics_iff (applyOverrides (applyOverrides defaults [row]) [])).mp
      fun inst cancelled answers hpanic ↦ hnone ⟨inst, cancelled, answers, hpanic⟩
    omega

end Huntarr2.Scheduling
