import Huntarr2.GoStd.Duration
import Huntarr2.Instance.Instance

/-!
# Settings and their values

The eight setting keys, what the validator accepts for each of them, and how a stored value overrides
a field of the resolved settings. The validator and the reader are separate functions of the source;
the read-back theorem of this module says that they agree on every accepted value.
-/

namespace Huntarr2.Settings

open GoStd

/-- The recognised setting keys. -/
inductive Key
  | batchSize
  | cooldownPeriod
  | searchWindowStart
  | searchWindowEnd
  | searchInterval
  | searchLimit
  | enabled
  | searchMissing
  deriving DecidableEq, Repr

def Key.all : List Key :=
  [.batchSize, .cooldownPeriod, .searchWindowStart, .searchWindowEnd, .searchInterval, .searchLimit,
    .enabled, .searchMissing]

/-- The text a key is stored under. -/
def Key.name : Key → Text
  | .batchSize => "batch_size"
  | .cooldownPeriod => "cooldown_period"
  | .searchWindowStart => "search_window_start"
  | .searchWindowEnd => "search_window_end"
  | .searchInterval => "search_interval"
  | .searchLimit => "search_limit"
  | .enabled => "enabled"
  | .searchMissing => "search_missing"

/-- The key a `switch` on the text selects. -/
def Key.ofName (text : Text) : Option Key := Key.all.find? fun key ↦ key.name = text

/-- `ValidKey`. -/
def validKey (text : Text) : Bool := (Key.ofName text).isSome

@[simp]
theorem Key.ofName_name (key : Key) : Key.ofName key.name = some key := by
  cases key <;> decide

theorem Key.name_eq_of_ofName {text : Text} {key : Key} (h : Key.ofName text = some key) :
    key.name = text := by
  simpa using List.find?_some h

/-- `MaxCooldownPeriod`. -/
def maxCooldownPeriod : Duration := 90 * 24 * hour

/-- `MaxSearchInterval`. -/
def maxSearchInterval : Duration := 7 * 24 * hour

/-- The effective settings. -/
structure Resolved where
  batchSize : ℤ
  cooldownPeriod : Duration
  searchWindowStart : Text
  searchWindowEnd : Text
  searchInterval : Duration
  searchLimit : ℤ
  enabled : Bool
  searchMissing : Bool
  deriving DecidableEq, Repr

/-- `Defaults`. -/
def defaults : Resolved where
  batchSize := 4
  cooldownPeriod := 24 * hour
  searchWindowStart := []
  searchWindowEnd := []
  searchInterval := 30 * minute
  searchLimit := 100
  enabled := true
  searchMissing := true

/-- `ParseHHMM`: minutes since midnight. -/
def parseHHMM (text : Text) : Option ℤ :=
  if text.length ≠ 5 ∨ text[2]? ≠ some ':' then none
  else do
    let hours ← atoi (text.take 2)
    if hours < 0 ∨ 23 < hours then none
    else
      let minutes ← atoi (text.drop 3)
      if minutes < 0 ∨ 59 < minutes then none else some (hours * 60 + minutes)

/-! ## Errors and validation -/

/-- The errors of the settings service. -/
inductive Error
  | unknownKey (key : Text)
  | invalidValue (key value : Text)
  | repository (message : String)
  deriving DecidableEq, Repr

/-- The text of the sentinel error that a rejected call wraps. -/
def Error.sentinel : Error → Option String
  | .unknownKey _ => some "unknown setting key"
  | .invalidValue _ _ => some "invalid setting value"
  | .repository _ => none

/-- The validator's check of a positive integer. -/
def intAccepted (value : Text) : Bool :=
  match atoi value with
  | some v => 1 ≤ v
  | none => false

/-- The validator's check of a duration with the given maximum. -/
def durationAccepted (limit : Duration) (value : Text) : Bool :=
  match parseDuration value with
  | some duration => 0 < duration ∧ duration ≤ limit
  | none => false

/-- `validateValue`; a key without a case is not checked. -/
def validateValue (key value : Text) : Except Error Unit :=
  let accepted := match Key.ofName key with
    | some .batchSize | some .searchLimit => intAccepted value
    | some .cooldownPeriod => durationAccepted maxCooldownPeriod value
    | some .searchInterval => durationAccepted maxSearchInterval value
    | some .enabled | some .searchMissing => (parseBool value).isSome
    | some .searchWindowStart | some .searchWindowEnd => value.isEmpty || (parseHHMM value).isSome
    | none => true
  if accepted then .ok () else .error (.invalidValue key value)

/-- `ValidateEntry`, and the checks `Set` makes before it writes. -/
def validateEntry (key value : Text) : Except Error Unit :=
  if !validKey key then .error (.unknownKey key) else validateValue key value

/-! ## Reading stored values -/

/-- A stored setting; a missing instance ID denotes a global one. -/
structure Setting where
  instanceID : Option UUID
  key : Text
  value : Text
  deriving DecidableEq, Repr

/-- A value that does not parse as an integer leaves the field as it is. -/
def readInt (value : Text) (field : ℤ) : ℤ := (atoi value).getD field

/-- A value that does not parse as a positive duration leaves the field as it is, and one above the
maximum is clamped to it. -/
def readDuration (limit : Duration) (value : Text) (field : Duration) : Duration :=
  match parseDuration value with
  | some duration => if duration ≤ 0 then field else if limit < duration then limit else duration
  | none => field

/-- A value that does not parse as a boolean leaves the field as it is. -/
def readBool (value : Text) (field : Bool) : Bool := (parseBool value).getD field

/-- One round of the loop of `applyOverrides`. -/
def applyOverride (resolved : Resolved) (setting : Setting) : Resolved :=
  match Key.ofName setting.key with
  | some .batchSize => { resolved with batchSize := readInt setting.value resolved.batchSize }
  | some .cooldownPeriod =>
    { resolved with
      cooldownPeriod := readDuration maxCooldownPeriod setting.value resolved.cooldownPeriod }
  | some .searchWindowStart => { resolved with searchWindowStart := setting.value }
  | some .searchWindowEnd => { resolved with searchWindowEnd := setting.value }
  | some .searchInterval =>
    { resolved with
      searchInterval := readDuration maxSearchInterval setting.value resolved.searchInterval }
  | some .searchLimit => { resolved with searchLimit := readInt setting.value resolved.searchLimit }
  | some .enabled => { resolved with enabled := readBool setting.value resolved.enabled }
  | some .searchMissing =>
    { resolved with searchMissing := readBool setting.value resolved.searchMissing }
  | none => resolved

/-- `applyOverrides`. -/
def applyOverrides (resolved : Resolved) (settings : List Setting) : Resolved :=
  settings.foldl applyOverride resolved

/-! ## Fields by key -/

/-- The type of the field a key sets. -/
def Key.Value : Key → Type
  | .batchSize | .searchLimit => ℤ
  | .cooldownPeriod | .searchInterval => Duration
  | .searchWindowStart | .searchWindowEnd => Text
  | .enabled | .searchMissing => Bool

/-- The field a key sets. -/
def Resolved.field (resolved : Resolved) : (key : Key) → key.Value
  | .batchSize => resolved.batchSize
  | .cooldownPeriod => resolved.cooldownPeriod
  | .searchWindowStart => resolved.searchWindowStart
  | .searchWindowEnd => resolved.searchWindowEnd
  | .searchInterval => resolved.searchInterval
  | .searchLimit => resolved.searchLimit
  | .enabled => resolved.enabled
  | .searchMissing => resolved.searchMissing

/-- The value a text stands for, without any clamping. -/
def Key.parse : (key : Key) → Text → Option key.Value
  | .batchSize => atoi
  | .cooldownPeriod => parseDuration
  | .searchWindowStart => some
  | .searchWindowEnd => some
  | .searchInterval => parseDuration
  | .searchLimit => atoi
  | .enabled => parseBool
  | .searchMissing => parseBool

/-- What a stored text makes of the field of its key. -/
def Key.read : (key : Key) → Text → key.Value → key.Value
  | .batchSize => readInt
  | .cooldownPeriod => readDuration maxCooldownPeriod
  | .searchWindowStart => fun value _ ↦ value
  | .searchWindowEnd => fun value _ ↦ value
  | .searchInterval => readDuration maxSearchInterval
  | .searchLimit => readInt
  | .enabled => readBool
  | .searchMissing => readBool

theorem field_applyOverride_self (resolved : Resolved) (instanceID : Option UUID) (key : Key)
    (value : Text) :
    (applyOverride resolved ⟨instanceID, key.name, value⟩).field key =
      key.read value (resolved.field key) := by
  unfold applyOverride
  simp only [Key.ofName_name]
  cases key <;> rfl

theorem readDuration_readDuration (limit : Duration) (value : Text) (field : Duration) :
    readDuration limit value (readDuration limit value field) = readDuration limit value field := by
  unfold readDuration
  cases parseDuration value with
  | none => rfl
  | some duration =>
    dsimp only
    split_ifs <;> rfl

/-- Reading a text twice is reading it once. -/
theorem Key.read_read (key : Key) (value : Text) (field : key.Value) :
    key.read value (key.read value field) = key.read value field := by
  have hint (field : ℤ) : readInt value (readInt value field) = readInt value field := by
    unfold readInt
    cases atoi value <;> rfl
  have hbool (field : Bool) : readBool value (readBool value field) = readBool value field := by
    unfold readBool
    cases parseBool value <;> rfl
  cases key with
  | batchSize => exact hint field
  | cooldownPeriod => exact readDuration_readDuration maxCooldownPeriod value field
  | searchWindowStart => rfl
  | searchWindowEnd => rfl
  | searchInterval => exact readDuration_readDuration maxSearchInterval value field
  | searchLimit => exact hint field
  | enabled => exact hbool field
  | searchMissing => exact hbool field

/-- An override of one key leaves the fields of the others alone. -/
theorem field_applyOverride_of_ne (resolved : Resolved) (setting : Setting) {key : Key}
    (hkey : setting.key ≠ key.name) :
    (applyOverride resolved setting).field key = resolved.field key := by
  unfold applyOverride
  cases hname : Key.ofName setting.key with
  | none => rfl
  | some other =>
    have hne : other ≠ key := by
      intro h
      exact hkey (by rw [← Key.name_eq_of_ofName hname, h])
    cases other <;> cases key <;> first | exact absurd rfl hne | rfl

/-! ## Agreement of validator and reader -/

theorem readInt_of_accepted {value : Text} (field : ℤ) (h : intAccepted value = true) :
    atoi value = some (readInt value field) ∧ 1 ≤ readInt value field := by
  unfold intAccepted at h
  unfold readInt
  cases hparse : atoi value with
  | none => simp [hparse] at h
  | some v => simpa [hparse] using h

theorem readDuration_of_accepted {limit : Duration} {value : Text} (field : Duration)
    (h : durationAccepted limit value = true) :
    parseDuration value = some (readDuration limit value field) ∧
      0 < readDuration limit value field ∧ readDuration limit value field ≤ limit := by
  unfold durationAccepted at h
  unfold readDuration
  cases hparse : parseDuration value with
  | none => simp [hparse] at h
  | some duration =>
    have hbounds : 0 < duration ∧ duration ≤ limit := by simpa [hparse] using h
    simp only [if_neg (not_le.mpr hbounds.1), if_neg (not_lt.mpr hbounds.2)]
    exact ⟨trivial, hbounds⟩

theorem readBool_of_accepted {value : Text} (field : Bool) (h : (parseBool value).isSome = true) :
    parseBool value = some (readBool value field) := by
  unfold readBool
  cases hparse : parseBool value with
  | none => simp [hparse] at h
  | some v => rfl

theorem accepted_of_validateValue {key value : Text} (h : validateValue key value = .ok ()) :
    (match Key.ofName key with
    | some .batchSize | some .searchLimit => intAccepted value
    | some .cooldownPeriod => durationAccepted maxCooldownPeriod value
    | some .searchInterval => durationAccepted maxSearchInterval value
    | some .enabled | some .searchMissing => (parseBool value).isSome
    | some .searchWindowStart | some .searchWindowEnd => value.isEmpty || (parseHHMM value).isSome
    | none => true) = true := by
  by_contra hrejected
  unfold validateValue at h
  simp [hrejected] at h

/-- An accepted value is read back as the value it stands for, whatever was resolved before. -/
theorem Key.parse_of_valid (key : Key) {value : Text}
    (h : validateValue key.name value = .ok ()) (field : key.Value) :
    key.parse value = some (key.read value field) := by
  have haccepted := accepted_of_validateValue h
  simp only [Key.ofName_name] at haccepted
  cases key with
  | batchSize => exact (readInt_of_accepted _ haccepted).1
  | cooldownPeriod => exact (readDuration_of_accepted _ haccepted).1
  | searchWindowStart => rfl
  | searchWindowEnd => rfl
  | searchInterval => exact (readDuration_of_accepted _ haccepted).1
  | searchLimit => exact (readInt_of_accepted _ haccepted).1
  | enabled => exact readBool_of_accepted _ haccepted
  | searchMissing => exact readBool_of_accepted _ haccepted

/-- The bounds the validator promises for resolved settings. -/
structure Resolved.Valid (resolved : Resolved) : Prop where
  batchSize_pos : 1 ≤ resolved.batchSize
  cooldownPeriod_pos : 0 < resolved.cooldownPeriod
  cooldownPeriod_le : resolved.cooldownPeriod ≤ maxCooldownPeriod
  searchInterval_pos : 0 < resolved.searchInterval
  searchInterval_le : resolved.searchInterval ≤ maxSearchInterval
  searchLimit_pos : 1 ≤ resolved.searchLimit

theorem defaults_valid : defaults.Valid := by
  constructor <;> decide

/-- Every default passes the validator's own bounds, and accepted overrides keep them. -/
theorem Resolved.Valid.applyOverride {resolved : Resolved} (hvalid : resolved.Valid)
    {setting : Setting} (h : validateValue setting.key setting.value = .ok ()) :
    (Settings.applyOverride resolved setting).Valid := by
  have haccepted := accepted_of_validateValue h
  unfold Settings.applyOverride
  split <;> rename_i hname <;> simp only [hname] at haccepted
  case h_1 => exact { hvalid with batchSize_pos := (readInt_of_accepted _ haccepted).2 }
  case h_2 =>
    have hread := (readDuration_of_accepted resolved.cooldownPeriod haccepted).2
    exact { hvalid with cooldownPeriod_pos := hread.1, cooldownPeriod_le := hread.2 }
  case h_5 =>
    have hread := (readDuration_of_accepted resolved.searchInterval haccepted).2
    exact { hvalid with searchInterval_pos := hread.1, searchInterval_le := hread.2 }
  case h_6 => exact { hvalid with searchLimit_pos := (readInt_of_accepted _ haccepted).2 }
  all_goals exact { hvalid with }

end Huntarr2.Settings
