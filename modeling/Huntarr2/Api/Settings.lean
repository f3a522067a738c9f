import Huntarr2.GoStd.DurationText
import Huntarr2.Settings.Resolution

/-!
# The settings of the API

The replies of `GET`, `PUT` and `DELETE /api/settings` over the settings table, and the text that a
reply shows a duration as.
-/

namespace Huntarr2.Api

open Database GoStd Settings

/-! ## Replies -/

/-- The body of an error reply and its status. -/
structure ErrorReply where
  status : ℕ
  error : String
  deriving DecidableEq, Repr

def badRequest (message : String) : ErrorReply := ⟨400, message⟩

def internalServerError (message : String) : ErrorReply := ⟨500, message⟩

/-- The text of an error of the settings service. -/
def errorText : Settings.Error → String
  | .unknownKey key => s!"key {quoted key}: unknown setting key"
  | .invalidValue key value => s!"key {quoted key} value {quoted value}: invalid setting value"
  | .repository message => message

/-- The scope of a request: its `instanceId` may be missing or fail to parse. -/
def requestScope : Option (Option UUID) → Except ErrorReply (Option UUID)
  | none => .ok none
  | some none => .error (badRequest "invalid UUID")
  | some (some id) => .ok (some id)

/-- `settingsResponse`. -/
structure SettingsResponse where
  batchSize : ℤ
  cooldownPeriod : Text
  searchWindowStart : Text
  searchWindowEnd : Text
  searchInterval : Text
  searchLimit : ℤ
  enabled : Bool
  searchMissing : Bool
  deriving DecidableEq, Repr

/-! ## Durations -/

/-- A part of a duration that is left out when it is zero. -/
def part (value : ℤ) (unit : Char) : Text :=
  if 0 < value then decimal value.toNat ++ [unit] else []

/-- `formatDuration`. -/
def formatDuration (duration : Duration) : Text :=
  if duration = 0 then "0s"
  else
    let h := int64OfFloat (inUnits hour duration)
    let m := (int64OfFloat (inUnits minute duration)).tmod 60
    let s := (int64OfFloat (inUnits second duration)).tmod 60
    let text := part h 'h' ++ part m 'm' ++ part s 's'
    if text = [] ∧ 0 < duration then decimal (duration.tdiv 1000000).toNat ++ ['m', 's'] else text

/-- `toSettingsResponse`. -/
def toSettingsResponse (resolved : Resolved) : SettingsResponse where
  batchSize := resolved.batchSize
  cooldownPeriod := formatDuration resolved.cooldownPeriod
  searchWindowStart := resolved.searchWindowStart
  searchWindowEnd := resolved.searchWindowEnd
  searchInterval := formatDuration resolved.searchInterval
  searchLimit := resolved.searchLimit
  enabled := resolved.enabled
  searchMissing := resolved.searchMissing

/-! ## Handlers -/

/-- `handleGetSettings`. -/
def handleGetSettings (table : Table) (rawID : Option (Option UUID))
    (globalFailure instanceFailure : Option String) : Except ErrorReply SettingsResponse :=
  let reply (result : Except String Resolved) :=
    match result with
    | .ok resolved => .ok (toSettingsResponse resolved)
    | .error _ => .error (internalServerError "failed to resolve settings")
  match requestScope rawID with
  | .error err => .error err
  | .ok (some id) => reply (Service.resolve table id globalFailure instanceFailure)
  | .ok none => reply (Service.resolveGlobal table globalFailure)

/-- `handleUpdateSettings`; a body that is not of the expected form is missing here. -/
def handleUpdateSettings (table : Table) (rawID : Option (Option UUID))
    (body : Option (List SettingEntry)) (faults : TxFaults) : Except ErrorReply String × Table :=
  match body with
  | none => (.error (badRequest "invalid request body"), table)
  | some entries =>
    match requestScope rawID with
    | .error err => (.error err, table)
    | .ok scope =>
      match Service.setBatch table scope entries faults with
      | (.ok _, changed) => (.ok "updated", changed)
      | (.error err, changed) =>
        if err.sentinel.isSome then (.error (badRequest (errorText err)), changed)
        else (.error (internalServerError "failed to update settings"), changed)

/-- `handleDeleteSettings`. -/
def handleDeleteSettings (table : Table) (rawID : Option (Option UUID)) (body : Option (List Text))
    (faults : TxFaults) : Except ErrorReply String × Table :=
  match body with
  | none => (.error (badRequest "invalid request body"), table)
  | some keys =>
    if keys.isEmpty then (.error (badRequest "keys must not be empty"), table)
    else
      match requestScope rawID with
      | .error err => (.error err, table)
      | .ok scope =>
        match Service.removeBatch table scope keys faults with
        | (.ok _, changed) => (.ok "deleted", changed)
        | (.error err, changed) =>
          if err.sentinel = some "unknown setting key" then
            (.error (badRequest (errorText err)), changed)
          else (.error (internalServerError "failed to remove settings"), changed)

/-- A successful `GET` of the global settings replies what they resolve to. -/
theorem handleGetSettings_global {table : Table} {globalFailure instanceFailure : Option String}
    {response : SettingsResponse}
    (h : handleGetSettings table none globalFailure instanceFailure = .ok response) :
    response = toSettingsResponse (applyOverrides defaults (listScope table none)) := by
  unfold handleGetSettings Service.resolveGlobal listGlobal requestScope at h
  cases globalFailure with
  | none => exact (Except.ok.inj h).symm
  | some err => cases h

/-- A successful `PUT` for an instance writes the validated entries to its scope. -/
theorem handleUpdateSettings_ok {table : Table} {id : UUID} {entries : List SettingEntry}
    {faults : TxFaults} {status : String}
    (h : (handleUpdateSettings table (some (some id)) (some entries) faults).1 = .ok status) :
    (handleUpdateSettings table (some (some id)) (some entries) faults).2 =
        (entries.map fun entry ↦ Edit.write (some id) entry.key entry.value).foldl Edit.apply
          table ∧
      ∀ entry ∈ entries, validateEntry entry.key entry.value = .ok () := by
  rcases run_cases table (.setBatch (some id) entries faults) with ⟨err, herr⟩ | ⟨hok, hedits⟩
  · simp only [Call.run] at herr
    simp only [handleUpdateSettings, requestScope, herr] at h
    split_ifs at h
  · simp only [Call.run] at hok
    simp only [handleUpdateSettings, requestScope, hok]
    refine ⟨rfl, fun entry hentry ↦ ?_⟩
    exact hedits (.write (some id) entry.key entry.value) (List.mem_map_of_mem hentry)

/-- A successful `DELETE` for an instance clears the keys of its scope. -/
theorem handleDeleteSettings_ok {table : Table} {id : UUID} {keys : List Text} {faults : TxFaults}
    {status : String}
    (h : (handleDeleteSettings table (some (some id)) (some keys) faults).1 = .ok status) :
    (handleDeleteSettings table (some (some id)) (some keys) faults).2 =
      (keys.map fun key ↦ Edit.clear (some id) key).foldl Edit.apply table := by
  rcases run_cases table (.removeBatch (some id) keys faults) with ⟨err, herr⟩ | ⟨hok, -⟩
  · simp only [Call.run] at herr
    simp only [handleDeleteSettings, requestScope, herr] at h
    split_ifs at h
  · simp only [Call.run] at hok
    simp only [handleDeleteSettings, requestScope, hok] at h ⊢
    split_ifs at h ⊢
    rfl

/-! ## Durations of whole seconds -/

/-- The component of a part. -/
def partComponent (value : ℤ) (unit : Char) (nanos : ℕ) (known : (unit, nanos) ∈ clockUnits) :
    List Component :=
  if 0 < value then [.ofNumber value.toNat unit nanos known] else []

theorem allText_partComponent (value : ℤ) (unit : Char) (nanos : ℕ)
    (known : (unit, nanos) ∈ clockUnits) :
    Component.allText (partComponent value unit nanos known) = part value unit := by
  unfold partComponent part
  split_ifs
  · exact List.append_nil _
  · rfl

theorem total_partComponent {value : ℤ} (hvalue : 0 ≤ value) (unit : Char) (nanos : ℕ)
    (known : (unit, nanos) ∈ clockUnits) :
    (Component.total (partComponent value unit nanos known) : ℤ) = value * nanos := by
  unfold partComponent
  split_ifs with hpos
  · have hamount : (Component.ofNumber value.toNat unit nanos known).amount =
        value.toNat * nanos := rfl
    rw [Component.total_cons, hamount, show Component.total [] = 0 from rfl, Nat.add_zero]
    push_cast
    rw [Int.toNat_of_nonneg hvalue]
  · rw [show value = 0 by omega, zero_mul]
    rfl

/-- The components of a duration in hours, minutes and seconds. -/
def clockComponents (h m s : ℤ) : List Component :=
  partComponent h 'h' 3600000000000 (by decide) ++ partComponent m 'm' 60000000000 (by decide) ++
    partComponent s 's' 1000000000 (by decide)

theorem allText_clockComponents (h m s : ℤ) :
    Component.allText (clockComponents h m s) = part h 'h' ++ part m 'm' ++ part s 's' := by
  unfold clockComponents
  rw [Component.allText_append, Component.allText_append, allText_partComponent,
    allText_partComponent, allText_partComponent]

theorem total_clockComponents {h m s : ℤ} (hh : 0 ≤ h) (hm : 0 ≤ m) (hs : 0 ≤ s) :
    (Component.total (clockComponents h m s) : ℤ) =
      h * 3600000000000 + m * 60000000000 + s * 1000000000 := by
  unfold clockComponents
  rw [Component.total_append, Component.total_append, Nat.cast_add, Nat.cast_add,
    total_partComponent hh, total_partComponent hm, total_partComponent hs]
  norm_num

/-- The duration that the text of a duration stands for: its whole seconds, or its whole milliseconds
if it has no seconds. -/
def shownDuration (duration : Duration) : Duration :=
  if duration < second then duration / 1000000 * 1000000 else duration / second * second

/-- A text without parts is shown in milliseconds. -/
theorem formatDuration_eq {duration : ℤ} (hpos : 0 < duration) (hsmall : duration + hour < 2 ^ 53) :
    formatDuration duration =
      if duration < second then decimal (duration / 1000000).toNat ++ ['m', 's']
      else Component.allText (clockComponents (duration / 3600000000000)
        (duration / 60000000000 % 60) (duration / 1000000000 % 60)) := by
  have hhourValue : hour = (3600000000000 : ℤ) := rfl
  have hminuteValue : minute = (60000000000 : ℤ) := rfl
  have hsecondValue : second = (1000000000 : ℤ) := rfl
  rw [hhourValue] at hsmall
  have hhour : int64OfFloat (inUnits hour duration) = duration / 3600000000000 :=
    int64OfFloat_inUnits (by decide) hpos.le hsmall
  have hminute : int64OfFloat (inUnits minute duration) = duration / 60000000000 :=
    int64OfFloat_inUnits (by decide) hpos.le (by rw [hminuteValue]; omega)
  have hsecond : int64OfFloat (inUnits second duration) = duration / 1000000000 :=
    int64OfFloat_inUnits (by decide) hpos.le (by rw [hsecondValue]; omega)
  have hminutes : (duration / 60000000000).tmod 60 = duration / 60000000000 % 60 :=
    Int.tmod_eq_emod_of_nonneg (by omega)
  have hseconds : (duration / 1000000000).tmod 60 = duration / 1000000000 % 60 :=
    Int.tmod_eq_emod_of_nonneg (by omega)
  have htotal := total_clockComponents (h := duration / 3600000000000)
    (m := duration / 60000000000 % 60) (s := duration / 1000000000 % 60) (by omega) (by omega)
    (by omega)
  unfold formatDuration
  dsimp only
  rw [if_neg hpos.ne', hhour, hminute, hsecond, hminutes, hseconds, ← allText_clockComponents,
    hsecondValue]
  by_cases hshort : duration < 1000000000
  · have hnil : clockComponents (duration / 3600000000000) (duration / 60000000000 % 60)
        (duration / 1000000000 % 60) = [] := by
      unfold clockComponents partComponent
      rw [if_neg (by omega), if_neg (by omega), if_neg (by omega)]
      rfl
    rw [hnil, if_pos ⟨rfl, hpos⟩, if_pos hshort, Int.tdiv_eq_ediv_of_nonneg hpos.le]
  · have hne : clockComponents (duration / 3600000000000) (duration / 60000000000 % 60)
        (duration / 1000000000 % 60) ≠ [] := by
      intro hnil
      rw [hnil] at htotal
      have hzero : ((Component.total [] : ℕ) : ℤ) = 0 := rfl
      omega
    rw [if_neg fun hempty ↦ Component.allText_ne_nil hne hempty.1, if_neg hshort]

/-- What is read from the text a duration is shown as. -/
theorem parseDuration_formatDuration {duration : ℤ} (hpos : 0 < duration)
    (hsmall : duration + hour < 2 ^ 53) :
    parseDuration (formatDuration duration) = some (shownDuration duration) := by
  have hsecondValue : second = (1000000000 : ℤ) := rfl
  have hhourValue : hour = (3600000000000 : ℤ) := rfl
  rw [formatDuration_eq hpos hsmall]
  unfold shownDuration
  rw [hhourValue] at hsmall
  rw [hsecondValue]
  split_ifs with hshort
  · have hcast : ((duration / 1000000).toNat : ℤ) = duration / 1000000 :=
      Int.toNat_of_nonneg (by omega)
    have hunit : unitMap.lookup ['m', 's'] = some 1000000 := by decide
    have hname : ∀ c ∈ ['m', 's'], isDigit c = false ∧ c ≠ '.' := by
      rw [List.forall_mem_cons, List.forall_mem_singleton]
      exact ⟨⟨rfl, by decide⟩, rfl, by decide⟩
    have hread := parseDuration_single (decimal_ne_nil _)
      (digitsValue_decimal (duration / 1000000).toNat) hunit hname (by omega)
      (by unfold maxMagnitude; omega)
    rw [hread]
    push_cast
    rw [hcast]
  · have htotal := total_clockComponents (h := duration / 3600000000000)
      (m := duration / 60000000000 % 60) (s := duration / 1000000000 % 60) (by omega) (by omega)
      (by omega)
    have hsum : (Component.total (clockComponents (duration / 3600000000000)
        (duration / 60000000000 % 60) (duration / 1000000000 % 60)) : ℤ) =
        duration / 1000000000 * 1000000000 := by
      omega
    have hne : clockComponents (duration / 3600000000000) (duration / 60000000000 % 60)
        (duration / 1000000000 % 60) ≠ [] := by
      intro hnil
      rw [hnil] at hsum
      have hzero : ((Component.total [] : ℕ) : ℤ) = 0 := rfl
      omega
    rw [Component.parseDuration_allText hne, hsum]
    exact if_pos (by unfold maxInt64; omega)

/-- A duration of whole seconds is shown as itself. -/
theorem shownDuration_of_dvd {duration : ℤ} (hpos : 0 < duration) (hwhole : second ∣ duration) :
    shownDuration duration = duration := by
  unfold shownDuration
  rw [if_neg (not_lt.mpr (Int.le_of_dvd hpos hwhole)), Int.ediv_mul_cancel hwhole]

example : formatDuration (90 * minute + 5 * second) = "1h30m5s".toList := by decide +kernel

/-! ## Saving a reply back -/

/-- The two keys with a duration. -/
inductive DurationKey
  | cooldownPeriod
  | searchInterval
  deriving DecidableEq, Repr

namespace DurationKey

def key : DurationKey → Key
  | .cooldownPeriod => .cooldownPeriod
  | .searchInterval => .searchInterval

def limit : DurationKey → Duration
  | .cooldownPeriod => maxCooldownPeriod
  | .searchInterval => maxSearchInterval

/-- The text a reply shows. -/
def shown : DurationKey → SettingsResponse → Text
  | .cooldownPeriod => SettingsResponse.cooldownPeriod
  | .searchInterval => SettingsResponse.searchInterval

theorem limit_add_hour_lt (which : DurationKey) : which.limit + hour < 2 ^ 53 := by
  cases which <;> decide

theorem validateValue_iff (which : DurationKey) (value : Text) :
    validateValue which.key.name value = .ok () ↔ durationAccepted which.limit value = true := by
  have haccepted : validateValue which.key.name value =
      if durationAccepted which.limit value then .ok ()
      else .error (.invalidValue which.key.name value) := by
    unfold validateValue
    rw [Key.ofName_name]
    cases which <;> rfl
  rw [haccepted]
  split_ifs with h
  · exact ⟨fun _ ↦ h, fun _ ↦ rfl⟩
  · exact ⟨fun herr ↦ absurd herr (by simp), fun hok ↦ absurd hok h⟩

/-- The validator accepts the texts of the durations in range. -/
theorem durationAccepted_iff {limit : Duration} {value : Text} :
    durationAccepted limit value = true ↔
      ∃ duration, parseDuration value = some duration ∧ 0 < duration ∧ duration ≤ limit := by
  unfold durationAccepted
  cases parseDuration value with
  | none => simp
  | some duration => simp

/-- The shown text reads back as the duration: the validator accepts it, it parses to the duration,
and once saved it resolves to the duration. -/
structure ReadsBack (which : DurationKey) (text : Text) (duration : Duration) : Prop where
  accepted : validateValue which.key.name text = .ok ()
  parsed : parseDuration text = some duration
  resolved : ∀ field, readDuration which.limit text field = duration

/-- The field the key sets. -/
def field : DurationKey → Resolved → Duration
  | .cooldownPeriod => Resolved.cooldownPeriod
  | .searchInterval => Resolved.searchInterval

theorem shown_toSettingsResponse (which : DurationKey) (resolved : Resolved) :
    which.shown (toSettingsResponse resolved) = formatDuration (which.field resolved) := by
  cases which <;> rfl

/-- A stored value that was accepted resolves to the duration it stands for. -/
theorem field_of_stored (which : DurationKey) {table : Table} {scope : Option UUID} {value : Text}
    {duration : Duration} (hlookup : table.lookup (scope, which.key.name) = some value)
    (haccepted : validateValue which.key.name value = .ok ())
    (hparsed : parseDuration value = some duration) (start : Resolved) :
    which.field (applyOverrides start (listScope table scope)) = duration := by
  have hfield := field_listScope table scope which.key start
  rw [hlookup] at hfield
  dsimp only at hfield
  have hread := which.key.parse_of_valid haccepted (start.field which.key)
  rw [← hfield] at hread
  cases which <;> exact Option.some.inj (hread.symm.trans hparsed)

theorem shownDuration_eq_self_iff {duration : ℤ} (hpos : 0 < duration) :
    shownDuration duration = duration ↔
      second ∣ duration ∨ duration < second ∧ 1000000 ∣ duration := by
  have hdvd (unit : ℤ) : duration / unit * unit = duration ↔ unit ∣ duration :=
    ⟨fun h ↦ ⟨duration / unit, by rw [mul_comm, h]⟩, fun h ↦ Int.ediv_mul_cancel h⟩
  unfold shownDuration
  split_ifs with hshort
  · rw [hdvd]
    exact ⟨fun h ↦ Or.inr ⟨hshort, h⟩, fun h ↦ h.elim
      (fun hwhole ↦ absurd (Int.le_of_dvd hpos hwhole) (not_le.mpr hshort)) (·.2)⟩
  · rw [hdvd]
    exact ⟨Or.inl, fun h ↦ h.resolve_right fun hless ↦ hshort hless.1⟩

/-- A stored duration is replied as its text, and the text reads back exactly for whole seconds and
for whole milliseconds of less than a second. -/
theorem reply_readsBack_iff (which : DurationKey) {value : Text} {duration : Duration}
    (haccepted : validateValue which.key.name value = .ok ())
    (hparsed : parseDuration value = some duration) :
    (∀ (table : Table) (scope : Option UUID), table.lookup (scope, which.key.name) = some value →
      ∃ response, handleGetSettings table (scope.map some) none none = .ok response ∧
        which.shown response = formatDuration duration) ∧
    (which.ReadsBack (formatDuration duration) duration ↔
      second ∣ duration ∨ duration < second ∧ 1000000 ∣ duration) := by
  have hrange : 0 < duration ∧ duration ≤ which.limit := by
    obtain ⟨_, hparse, hrange⟩ := durationAccepted_iff.mp ((which.validateValue_iff value).mp haccepted)
    exact Option.some.inj (hparse.symm.trans hparsed) ▸ hrange
  have hread : parseDuration (formatDuration duration) = some (shownDuration duration) :=
    parseDuration_formatDuration hrange.1
      (lt_of_le_of_lt (add_le_add_left hrange.2 hour) which.limit_add_hour_lt)
  refine ⟨fun table scope hlookup ↦ ?_, ?_⟩
  · cases scope with
    | none => exact ⟨_, rfl, (which.shown_toSettingsResponse _).trans
        (congrArg formatDuration (which.field_of_stored hlookup haccepted hparsed _))⟩
    | some id => exact ⟨_, rfl, (which.shown_toSettingsResponse _).trans
        (congrArg formatDuration (which.field_of_stored hlookup haccepted hparsed _))⟩
  · rw [← shownDuration_eq_self_iff hrange.1]
    constructor
    · exact fun h ↦ Option.some.inj (hread.symm.trans h.parsed)
    · intro hself
      rw [hself] at hread
      have hshown : durationAccepted which.limit (formatDuration duration) = true :=
        durationAccepted_iff.mpr ⟨duration, hread, hrange⟩
      exact {
        accepted := (which.validateValue_iff _).mpr hshown
        parsed := hread
        resolved := fun field ↦
          Option.some.inj ((readDuration_of_accepted field hshown).1.symm.trans hread) }

/-- A search interval of `90m5s`, shown as `1h30m5s`, reads back. -/
theorem reply_readsBack_minutes :
    DurationKey.searchInterval.ReadsBack (formatDuration (90 * minute + 5 * second))
      (90 * minute + 5 * second) :=
  (reply_readsBack_iff .searchInterval (by decide : validateValue _ "90m5s" = .ok ())
    (by decide)).2.mpr (Or.inl (by decide))

/-- A cooldown period of one second and a half is accepted, but shown as one second. -/
theorem reply_drops_half_second :
    validateValue Key.cooldownPeriod.name "1.5s" = .ok () ∧
      parseDuration "1.5s" = some 1500000000 ∧
      formatDuration 1500000000 = "1s".toList ∧
      ¬DurationKey.cooldownPeriod.ReadsBack (formatDuration 1500000000) 1500000000 := by
  have hshown : formatDuration 1500000000 = "1s".toList := by decide +kernel
  refine ⟨by decide +kernel, by decide +kernel, hshown, fun h ↦ ?_⟩
  have hparsed := h.parsed
  rw [hshown] at hparsed
  revert hparsed
  decide

end DurationKey

end Huntarr2.Api
