import Huntarr2.Api.Settings
import Huntarr2.Web.Number

/-!
# The settings form

The settings page validates its form, compares it with the global settings it was sent, and saves the
form of an instance as overrides of the values that differ and removals of those that do not. What it
shows afterwards is what was in the form.
-/

namespace Huntarr2.Web

open Api Database GoStd Settings

/-! ## Validation -/

/-- What follows a number with this unit, if one comes first. -/
def skipPart (unit : Char) (text : Text) : Text :=
  let digits := text.takeWhile isDigit
  match text.drop digits.length with
  | c :: rest => if digits ≠ [] ∧ c = unit then rest else text
  | [] => text

/-- `validDuration`. A part of the pattern matches in at most one way, so one pass finds the match. -/
def validDuration (v : Text) : Bool :=
  v.isEmpty || (skipPart 's' (skipPart 'm' (skipPart 'h' v))).isEmpty

/-- `validHHMM`. -/
def validHHMM (v : Text) : Bool :=
  match v with
  | [] => true
  | [a, b, ':', c, d] =>
    (((a = '0' ∨ a = '1') ∧ isDigit b) ∨ (a = '2' ∧ '0' ≤ b ∧ b ≤ '3')) ∧ '0' ≤ c ∧ c ≤ '5' ∧
      isDigit d
  | _ => false

/-- The fields of the form that an instance overrides. The batch size is null when its input is
empty. -/
structure Form where
  batchSize : Option Number
  cooldownPeriod : Text
  searchWindowStart : Text
  searchWindowEnd : Text
  searchInterval : Text
  enabled : Bool
  searchMissing : Bool
  deriving DecidableEq

/-- The errors of `validate`, by field. -/
def errors (form : Form) : List (String × String) :=
  let check (valid : Bool) (field message : String) :=
    if valid then [] else [(field, message)]
  check (validDuration form.cooldownPeriod) "cooldownPeriod" "Use a Go duration (e.g. 24h, 1h30m)." ++
    check (validDuration form.searchInterval) "searchInterval"
      "Use a Go duration (e.g. 6h, 1h30m)." ++
    check (validHHMM form.searchWindowStart) "searchWindowStart" "Use HH:MM format (e.g. 01:00)." ++
    check (validHHMM form.searchWindowEnd) "searchWindowEnd" "Use HH:MM format (e.g. 06:00)."

/-- `validate`. -/
def validate (form : Form) : Bool := (errors form).isEmpty

/-! ## Replies -/

/-- A reply with settings, as the page reads it. -/
structure PageSettings where
  batchSize : Number
  cooldownPeriod : Text
  searchWindowStart : Text
  searchWindowEnd : Text
  searchInterval : Text
  enabled : Bool
  searchMissing : Bool
  deriving DecidableEq

def readReply (response : SettingsResponse) : PageSettings where
  batchSize := .ofInt response.batchSize
  cooldownPeriod := response.cooldownPeriod
  searchWindowStart := response.searchWindowStart
  searchWindowEnd := response.searchWindowEnd
  searchInterval := response.searchInterval
  enabled := response.enabled
  searchMissing := response.searchMissing

/-- `applyFormData`. -/
def applyFormData (data : PageSettings) : Form where
  batchSize := some data.batchSize
  cooldownPeriod := data.cooldownPeriod
  searchWindowStart := data.searchWindowStart
  searchWindowEnd := data.searchWindowEnd
  searchInterval := data.searchInterval
  enabled := data.enabled
  searchMissing := data.searchMissing

/-! ## Saving -/

/-- `String` of a boolean. -/
def boolText (value : Bool) : Text := if value then "true" else "false"

/-- `String` of the batch size field. -/
def batchSizeText : Option Number → Text
  | some number => number.text
  | none => "null"

/-- A value of the form beside the global one, as texts. -/
structure FormEntry where
  key : Text
  value : Text
  global : Text
  deriving DecidableEq, Repr

/-- The entries `saveInstanceSettings` compares. Global settings that were never loaded have no
values. -/
def formEntries (form : Form) (globalSettings : Option PageSettings) : List FormEntry :=
  let undefined (text : Option Text) := text.getD "undefined"
  let orEmpty (text : Option Text) := text.getD []
  [⟨"batch_size", batchSizeText form.batchSize,
      undefined (globalSettings.map fun gs ↦ gs.batchSize.text)⟩,
    ⟨"cooldown_period", form.cooldownPeriod, orEmpty (globalSettings.map (·.cooldownPeriod))⟩,
    ⟨"search_window_start", form.searchWindowStart,
      orEmpty (globalSettings.map (·.searchWindowStart))⟩,
    ⟨"search_window_end", form.searchWindowEnd, orEmpty (globalSettings.map (·.searchWindowEnd))⟩,
    ⟨"search_interval", form.searchInterval, orEmpty (globalSettings.map (·.searchInterval))⟩,
    ⟨"enabled", boolText form.enabled, undefined (globalSettings.map fun gs ↦ boolText gs.enabled)⟩,
    ⟨"search_missing", boolText form.searchMissing,
      undefined (globalSettings.map fun gs ↦ boolText gs.searchMissing)⟩]

def overrides (entries : List FormEntry) : List SettingEntry :=
  (entries.filter fun entry ↦ entry.value ≠ entry.global).map fun entry ↦ ⟨entry.key, entry.value⟩

def removals (entries : List FormEntry) : List Text :=
  (entries.filter fun entry ↦ entry.value = entry.global).map FormEntry.key

inductive MessageType
  | success
  | error
  deriving DecidableEq, Repr

/-- What `showMessage` shows. -/
structure Message where
  text : String
  type : MessageType
  deriving DecidableEq, Repr

def saved : Message := ⟨"Settings saved.", .success⟩

def saveFailed : Message := ⟨"Failed to save settings.", .error⟩

/-- What becomes of a request: it is answered, or the connection is lost before or after the server
handles it. -/
inductive Exchange
  | answered (faults : TxFaults)
  | lost (reached : Option TxFaults)

/-- The message that ends the saving, if the request fails, and the table afterwards. -/
def send (handler : TxFaults → Except ErrorReply String × Table) (table : Table) :
    Exchange → Option Message × Table
  | .answered faults =>
    match handler faults with
    | (.ok _, changed) => (none, changed)
    | (.error err, changed) =>
      (some (if err.error = "" then saveFailed else ⟨err.error, .error⟩), changed)
  | .lost (some faults) => (some saveFailed, (handler faults).2)
  | .lost none => (some saveFailed, table)

/-- `saveInstanceSettings`: the message shown and the table afterwards. -/
def saveInstanceSettings (table : Table) (activeTab : UUID) (form : Form)
    (globalSettings : Option PageSettings) (put delete : Exchange) : Message × Table :=
  let rawID := some (some activeTab)
  let entries := formEntries form globalSettings
  let (putFailure, changed) :=
    if (overrides entries).isEmpty then (none, table)
    else send (handleUpdateSettings table rawID (some (overrides entries))) table put
  match putFailure with
  | some message => (message, changed)
  | none =>
    let (deleteFailure, changed) :=
      if (removals entries).isEmpty then (none, changed)
      else send (handleDeleteSettings changed rawID (some (removals entries))) changed delete
    (deleteFailure.getD saved, changed)

/-! ## Durations of the form -/

/-- What a part of the pattern matches is a component. -/
theorem exists_component (unit : Char) (nanos : ℕ) (known : (unit, nanos) ∈ clockUnits)
    (text : Text) : ∃ components, text = Component.allText components ++ skipPart unit text := by
  unfold skipPart
  dsimp only
  split
  case h_2 => exact ⟨[], rfl⟩
  case h_1 c rest hrest =>
    split_ifs with hpart
    · obtain ⟨hne, rfl⟩ := hpart
      obtain ⟨value, hvalue⟩ := exists_digitsValue fun c hc ↦
        List.mem_takeWhile_imp (p := isDigit) (l := text) hc
      refine ⟨[⟨_, value, c, nanos, hne, hvalue, known⟩], ?_⟩
      have hprefix := List.prefix_iff_eq_append.mp (List.takeWhile_prefix isDigit (l := text))
      rw [hrest] at hprefix
      simpa [Component.allText, Component.text] using hprefix.symm
    · exact ⟨[], rfl⟩

/-- A duration the page accepts is made of components. -/
theorem exists_components {v : Text} (hvalid : validDuration v = true) :
    ∃ components, v = Component.allText components := by
  unfold validDuration at hvalid
  rcases Bool.or_eq_true_iff.mp hvalid with hempty | hpattern
  · exact ⟨[], List.isEmpty_iff.mp hempty⟩
  · obtain ⟨hours, hhours⟩ := exists_component 'h' 3600000000000 (by decide) v
    obtain ⟨minutes, hminutes⟩ :=
      exists_component 'm' 60000000000 (by decide) (skipPart 'h' v)
    obtain ⟨seconds, hseconds⟩ :=
      exists_component 's' 1000000000 (by decide) (skipPart 'm' (skipPart 'h' v))
    rw [List.isEmpty_iff.mp hpattern, List.append_nil] at hseconds
    refine ⟨hours ++ minutes ++ seconds, ?_⟩
    rw [Component.allText_append, Component.allText_append, ← hseconds, List.append_assoc,
      ← hminutes, ← hhours]

/-- A duration the page accepts has whole seconds. -/
theorem dvd_of_validDuration {v : Text} (hvalid : validDuration v = true) {duration : ℤ}
    (hparse : parseDuration v = some duration) : 1000000000 ∣ duration := by
  obtain ⟨components, rfl⟩ := exists_components hvalid
  rcases eq_or_ne components [] with rfl | hne
  · have hnil : parseDuration (Component.allText []) = none := by decide
    rw [hnil] at hparse
    cases hparse
  · rw [Component.parseDuration_allText hne] at hparse
    split_ifs at hparse
    rw [← Option.some.inj hparse]
    exact_mod_cast Component.total_dvd components

/-! ## Requests of the page -/

theorem send_cases (handler : TxFaults → Except ErrorReply String × Table) (table : Table)
    (exchange : Exchange) :
    (∃ message, (send handler table exchange).1 = some message ∧ message ≠ saved) ∨
      ∃ faults status, (handler faults).1 = .ok status ∧
        send handler table exchange = (none, (handler faults).2) := by
  cases exchange with
  | lost reached =>
    have hfailed : saveFailed ≠ saved := by decide
    cases reached with
    | none => exact Or.inl ⟨saveFailed, rfl, hfailed⟩
    | some faults => exact Or.inl ⟨saveFailed, rfl, hfailed⟩
  | answered faults =>
    unfold send
    dsimp only
    split
    case h_1 status changed hok => exact Or.inr ⟨faults, status, by rw [hok], by rw [hok]⟩
    case h_2 err changed herr =>
      refine Or.inl ⟨_, rfl, fun h ↦ ?_⟩
      have htype := congrArg Message.type h
      split_ifs at htype
      · cases htype
      · cases htype

/-- The edits that the two requests of a saving ask for. -/
def saveEdits (id : UUID) (entries : List FormEntry) : List Edit :=
  (overrides entries).map (fun entry ↦ .write (some id) entry.key entry.value) ++
    (removals entries).map fun key ↦ .clear (some id) key

/-- A saving that reports success has made its edits, with values the validator accepts. -/
theorem saveInstanceSettings_saved {table : Table} {id : UUID} {form : Form}
    {globalSettings : Option PageSettings} {put delete : Exchange}
    (h : (saveInstanceSettings table id form globalSettings put delete).1 = saved) :
    (saveInstanceSettings table id form globalSettings put delete).2 =
        (saveEdits id (formEntries form globalSettings)).foldl Edit.apply table ∧
      ∀ entry ∈ overrides (formEntries form globalSettings),
        validateEntry entry.key entry.value = .ok () := by
  unfold saveInstanceSettings at h ⊢
  generalize formEntries form globalSettings = entries at h ⊢
  dsimp only at h ⊢
  have hput : ∃ changed, (if (overrides entries).isEmpty then (none, table)
      else send (handleUpdateSettings table (some (some id)) (some (overrides entries))) table put) =
        (none, changed) ∧
      changed = ((overrides entries).map fun entry ↦
        Edit.write (some id) entry.key entry.value).foldl Edit.apply table ∧
      ∀ entry ∈ overrides entries, validateEntry entry.key entry.value = .ok () := by
    split_ifs with hempty
    · rw [List.isEmpty_iff.mp hempty]
      exact ⟨table, rfl, rfl, by simp⟩
    · rcases send_cases (handleUpdateSettings table (some (some id)) (some (overrides entries)))
        table put with ⟨message, hmessage, hne⟩ | ⟨faults, status, hok, hsent⟩
      · rw [if_neg hempty, hmessage] at h
        exact absurd h hne
      · obtain ⟨hchanged, haccepted⟩ := handleUpdateSettings_ok hok
        exact ⟨_, hsent, hchanged, haccepted⟩
  obtain ⟨changed, hsent, hchanged, haccepted⟩ := hput
  rw [hsent] at h ⊢
  dsimp only at h ⊢
  refine ⟨?_, haccepted⟩
  unfold saveEdits
  rw [List.foldl_append, ← hchanged]
  split_ifs with hempty
  · rw [List.isEmpty_iff.mp hempty]
    rfl
  · rcases send_cases (handleDeleteSettings changed (some (some id)) (some (removals entries)))
      changed delete with ⟨message, hmessage, hne⟩ | ⟨faults, status, hok, hsent⟩
    · rw [if_neg hempty, hmessage] at h
      exact absurd h hne
    · rw [hsent]
      exact handleDeleteSettings_ok hok

/-- The edit that saving makes of an entry. -/
def FormEntry.edit (id : UUID) (entry : FormEntry) : Edit :=
  if entry.value = entry.global then .clear (some id) entry.key
  else .write (some id) entry.key entry.value

theorem FormEntry.edit_scope (id : UUID) (entry : FormEntry) :
    (entry.edit id).scope = some id := by
  unfold FormEntry.edit
  split_ifs <;> rfl

theorem FormEntry.edit_key (id : UUID) (entry : FormEntry) : (entry.edit id).key = entry.key := by
  unfold FormEntry.edit
  split_ifs <;> rfl

theorem mem_saveEdits {id : UUID} {entries : List FormEntry} {edit : Edit} :
    edit ∈ saveEdits id entries ↔ ∃ entry ∈ entries, edit = entry.edit id := by
  unfold saveEdits overrides removals FormEntry.edit
  simp only [List.mem_append, List.mem_map, List.mem_filter, decide_eq_true_eq]
  constructor
  · rintro (⟨_, ⟨entry, ⟨hmem, hne⟩, rfl⟩, rfl⟩ | ⟨_, ⟨entry, ⟨hmem, heq⟩, rfl⟩, rfl⟩)
    · exact ⟨entry, hmem, (if_neg hne).symm⟩
    · exact ⟨entry, hmem, (if_pos heq).symm⟩
  · rintro ⟨entry, hmem, rfl⟩
    split_ifs with heq
    · exact Or.inr ⟨entry.key, ⟨entry, ⟨hmem, heq⟩, rfl⟩, rfl⟩
    · exact Or.inl ⟨⟨entry.key, entry.value⟩, ⟨entry, ⟨hmem, heq⟩, rfl⟩, rfl⟩

theorem scope_of_mem_saveEdits {id : UUID} {entries : List FormEntry} {edit : Edit}
    (h : edit ∈ saveEdits id entries) : edit.scope = some id := by
  obtain ⟨entry, -, rfl⟩ := mem_saveEdits.mp h
  exact entry.edit_scope id

/-- The row of an entry after saving. -/
theorem lookup_saveEdits (id : UUID) {entries : List FormEntry}
    (hkeys : (entries.map FormEntry.key).Nodup) {entry : FormEntry} (hmem : entry ∈ entries)
    (table : Table) :
    ((saveEdits id entries).foldl Edit.apply table).lookup (some id, entry.key) =
      if entry.value = entry.global then none else some entry.value := by
  have hagree : ∀ other ∈ saveEdits id entries, other.scope = (entry.edit id).scope →
      other.key = (entry.edit id).key → other = entry.edit id := by
    intro other hother _ hkey
    obtain ⟨found, hfound, rfl⟩ := mem_saveEdits.mp hother
    rw [FormEntry.edit_key, FormEntry.edit_key] at hkey
    rw [List.inj_on_of_nodup_map hkeys hfound hmem hkey]
  have hafter := foldl_after_of_agree (mem_saveEdits.mpr ⟨entry, hmem, rfl⟩) hagree
    (table.lookup (some id, entry.key))
  rw [FormEntry.edit_scope, FormEntry.edit_key] at hafter
  rw [lookup_foldl_apply, hafter]
  unfold FormEntry.edit
  split_ifs <;> simp [Edit.after]

/-- A key that no entry has keeps its row. -/
theorem lookup_saveEdits_of_notMem {id : UUID} {entries : List FormEntry} {key : Text}
    (hkey : ∀ entry ∈ entries, entry.key ≠ key) (table : Table) (scope : Option UUID) :
    ((saveEdits id entries).foldl Edit.apply table).lookup (scope, key) =
      table.lookup (scope, key) := by
  rw [lookup_foldl_apply, foldl_after_of_untouched]
  rintro edit hedit ⟨-, htouched⟩
  obtain ⟨entry, hentry, rfl⟩ := mem_saveEdits.mp hedit
  rw [FormEntry.edit_key] at htouched
  exact hkey entry hentry htouched

/-! ## What saving shows -/

/-- The keys the form has entries for. -/
def formKeys : List Key :=
  [.batchSize, .cooldownPeriod, .searchWindowStart, .searchWindowEnd, .searchInterval, .enabled,
    .searchMissing]

theorem keys_formEntries (form : Form) (globalSettings : Option PageSettings) :
    (formEntries form globalSettings).map FormEntry.key = formKeys.map Key.name := rfl

theorem nodup_formEntries (form : Form) (globalSettings : Option PageSettings) :
    ((formEntries form globalSettings).map FormEntry.key).Nodup := by
  rw [keys_formEntries]
  decide

theorem key_ne_searchLimit {form : Form} {globalSettings : Option PageSettings} :
    ∀ entry ∈ formEntries form globalSettings, entry.key ≠ Key.searchLimit.name := by
  intro entry hentry
  have hkeys : ∀ key ∈ formKeys.map Key.name, key ≠ Key.searchLimit.name := by decide
  rw [← keys_formEntries form globalSettings] at hkeys
  exact hkeys entry.key (List.mem_map_of_mem hentry)

section Saved

variable {table : Table} {id : UUID} {form : Form} {globalSettings : Option PageSettings}
  {put delete : Exchange}
  (hsaved : (saveInstanceSettings table id form globalSettings put delete).1 = saved)

include hsaved

/-- After saving, the field of an entry resolves to the global one if the texts were equal, and to
the form's value, which is valid, if they were not. -/
theorem field_saved {key : Key} {value global : Text}
    (hmem : ⟨key.name, value, global⟩ ∈ formEntries form globalSettings) (resolved : Resolved) :
    let shown := applyOverrides resolved
      (listScope (saveInstanceSettings table id form globalSettings put delete).2 (some id))
    value = global ∧ shown.field key = resolved.field key ∨
      validateValue key.name value = .ok () ∧ key.parse value = some (shown.field key) := by
  obtain ⟨htable, haccepted⟩ := saveInstanceSettings_saved hsaved
  have hlookup := lookup_saveEdits id (nodup_formEntries form globalSettings) hmem table
  dsimp only at hlookup ⊢
  rw [htable, field_listScope, hlookup]
  by_cases heq : value = global
  · rw [if_pos heq]
    exact Or.inl ⟨heq, rfl⟩
  · rw [if_neg heq]
    have hoverride : ⟨key.name, value⟩ ∈ overrides (formEntries form globalSettings) :=
      List.mem_map.mpr ⟨_, List.mem_filter.mpr ⟨hmem, decide_eq_true heq⟩, rfl⟩
    have hvalid := validateValue_of_validateEntry (haccepted _ hoverride)
    exact Or.inr ⟨hvalid, key.parse_of_valid hvalid _⟩

/-- Saving changes the rows of no other scope and not the search limit. -/
theorem saved_unchanged :
    (∀ scope, scope ≠ some id →
      listScope (saveInstanceSettings table id form globalSettings put delete).2 scope =
        listScope table scope) ∧
      (saveInstanceSettings table id form globalSettings put delete).2.lookup
          (some id, Key.searchLimit.name) =
        table.lookup (some id, Key.searchLimit.name) := by
  rw [(saveInstanceSettings_saved hsaved).1]
  exact ⟨fun scope hscope ↦ listScope_foldl (fun edit hedit ↦ scope_of_mem_saveEdits hedit) hscope
    table, lookup_saveEdits_of_notMem key_ne_searchLimit table (some id)⟩

end Saved

/-- Texts that are the same or stand for one duration. -/
def SameDuration (first second : Text) : Prop :=
  first = second ∨
    ∃ duration, parseDuration first = some duration ∧ parseDuration second = some duration

/-- The values of two forms are the same, the durations as durations. -/
structure SameValues (first second : Form) : Prop where
  batchSize : first.batchSize = second.batchSize
  cooldownPeriod : SameDuration first.cooldownPeriod second.cooldownPeriod
  searchWindowStart : first.searchWindowStart = second.searchWindowStart
  searchWindowEnd : first.searchWindowEnd = second.searchWindowEnd
  searchInterval : SameDuration first.searchInterval second.searchInterval
  enabled : first.enabled = second.enabled
  searchMissing : first.searchMissing = second.searchMissing

theorem boolText_injective {first second : Bool} (h : boolText first = boolText second) :
    first = second := by
  revert first second
  decide

theorem parseBool_boolText (value : Bool) : parseBool (boolText value) = some value := by
  cases value <;> decide

/-- A batch size whose text is read as an integer is shown again for this integer. -/
theorem batchSize_of_atoi {batchSize : Option Number} {value : ℤ}
    (h : atoi (batchSizeText batchSize) = some value) : some (Number.ofInt value) = batchSize := by
  have hvalue := (atoi_eq_some h).1
  cases batchSize with
  | none => cases hvalue
  | some number => exact congrArg some (Number.ofInt_of_text hvalue)

/-- A batch size with the text of an integer of a reply is the number read for it. -/
theorem batchSize_of_text {batchSize : Option Number} {value : ℤ} (hbound : |value| ≤ 2 ^ 63)
    (h : batchSizeText batchSize = (Number.ofInt value).text) :
    some (Number.ofInt value) = batchSize := by
  cases batchSize with
  | none =>
    obtain ⟨written, hwritten⟩ := Number.exists_integerValue_ofInt hbound
    rw [← h] at hwritten
    cases hwritten
  | some number => exact congrArg some (Number.eq_ofInt_of_text hbound h).symm

/-- The text of a duration of the form that the validator accepts is shown as the same duration. -/
theorem sameDuration_of_accepted {limit duration : ℤ} {v : Text} (hlimit : limit + hour < 2 ^ 53)
    (hvalid : validDuration v = true) (haccepted : durationAccepted limit v = true)
    (hparse : parseDuration v = some duration) : SameDuration (formatDuration duration) v := by
  have hbounds := (readDuration_of_accepted 0 haccepted).2
  have hread := (readDuration_of_accepted 0 haccepted).1
  rw [← Option.some.inj (hparse.symm.trans hread)] at hbounds
  refine Or.inr ⟨duration, ?_, hparse⟩
  have hwhole := dvd_of_validDuration hvalid hparse
  have hsmall : duration + hour < 2 ^ 53 := lt_of_le_of_lt (add_le_add_left hbounds.2 hour) hlimit
  rw [parseDuration_formatDuration hbounds.1 hsmall, shownDuration_of_dvd hbounds.1 hwhole]

theorem abs_batchSize_le (table : Table) :
    |(applyOverrides defaults (listScope table none)).batchSize| ≤ 2 ^ 63 := by
  have hfield := field_listScope table none .batchSize defaults
  change (applyOverrides defaults (listScope table none)).batchSize = _ at hfield
  rw [hfield]
  cases table.lookup (none, Key.batchSize.name) with
  | none => decide
  | some value =>
    change |readInt value 4| ≤ 2 ^ 63
    unfold readInt
    cases hread : atoi value with
    | none => decide
    | some number =>
      obtain ⟨-, hlow, hhigh⟩ := atoi_eq_some hread
      unfold minInt64 at hlow
      unfold maxInt64 at hhigh
      exact abs_le.mpr ⟨by simpa using hlow, by simp only [Option.getD_some]; omega⟩

/-- The durations of a form that the page accepts. -/
theorem validDuration_of_validate {form : Form} (h : validate form = true) :
    validDuration form.cooldownPeriod = true ∧ validDuration form.searchInterval = true := by
  unfold validate errors at h
  dsimp only at h
  rw [List.isEmpty_iff] at h
  simp only [List.append_eq_nil_iff, ite_eq_left_iff, List.cons_ne_nil, imp_false,
    Bool.not_eq_true, Bool.not_eq_false] at h
  exact ⟨h.1.1.1, h.1.1.2⟩

/-! What a field shows after saving, from the two cases of `field_saved`. -/

section Shown

variable {valid : Prop}

theorem shown_batchSize {batchSize : Option Number} {global shown : ℤ} (hglobal : |global| ≤ 2 ^ 63)
    (h : batchSizeText batchSize = (Number.ofInt global).text ∧ shown = global ∨
      valid ∧ atoi (batchSizeText batchSize) = some shown) :
    some (Number.ofInt shown) = batchSize := by
  rcases h with ⟨htext, rfl⟩ | ⟨-, hparse⟩
  · exact batchSize_of_text hglobal htext
  · exact batchSize_of_atoi hparse

theorem shown_duration {limit global shown : ℤ} {v : Text} (hlimit : limit + hour < 2 ^ 53)
    (hvalid : validDuration v = true) (haccepted : valid → durationAccepted limit v = true)
    (h : v = formatDuration global ∧ shown = global ∨ valid ∧ parseDuration v = some shown) :
    SameDuration (formatDuration shown) v := by
  rcases h with ⟨htext, rfl⟩ | ⟨hvalue, hparse⟩
  · exact Or.inl htext.symm
  · exact sameDuration_of_accepted hlimit hvalid (haccepted hvalue) hparse

theorem shown_text {value global shown : Text}
    (h : value = global ∧ shown = global ∨ valid ∧ some value = some shown) : shown = value := by
  rcases h with ⟨htext, hshown⟩ | ⟨-, hparse⟩
  · exact hshown.trans htext.symm
  · exact (Option.some.inj hparse).symm

theorem shown_bool {value global shown : Bool}
    (h : boolText value = boolText global ∧ shown = global ∨
      valid ∧ parseBool (boolText value) = some shown) : shown = value := by
  rcases h with ⟨htext, rfl⟩ | ⟨-, hparse⟩
  · exact (boolText_injective htext).symm
  · rw [parseBool_boolText] at hparse
    exact (Option.some.inj hparse).symm

end Shown

/-- Saving the form of an instance takes effect exactly. When the requests succeed, the instance's
settings are then shown as the form has them, and nothing else has changed. -/
theorem saveInstanceSettings_takes_effect (table : Table) (id : UUID) (form : Form)
    (put delete : Exchange) {globalFailure instanceFailure : Option String}
    {global : SettingsResponse} (hvalid : validate form = true)
    (hglobal : handleGetSettings table none globalFailure instanceFailure = .ok global)
    (hsaved : (saveInstanceSettings table id form (some (readReply global)) put delete).1 =
      saved) :
    let after := (saveInstanceSettings table id form (some (readReply global)) put delete).2
    (∃ shown, handleGetSettings after (some (some id)) none none = .ok shown ∧
      SameValues (applyFormData (readReply shown)) form) ∧
      (∀ scope, scope ≠ some id → listScope after scope = listScope table scope) ∧
      after.lookup (some id, Key.searchLimit.name) =
        table.lookup (some id, Key.searchLimit.name) := by
  intro after
  obtain ⟨hothers, hsearchLimit⟩ := saved_unchanged hsaved
  refine ⟨?_, hothers, hsearchLimit⟩
  let resolvedGlobal := applyOverrides defaults (listScope table none)
  let shown := applyOverrides resolvedGlobal (listScope after (some id))
  have hget : handleGetSettings after (some (some id)) none none =
      .ok (toSettingsResponse shown) := by
    unfold shown resolvedGlobal
    rw [← hothers none (Option.some_ne_none id).symm]
    rfl
  refine ⟨toSettingsResponse shown, hget, ?_⟩
  have hfield (key : Key) {value text : Text}
      (hmem : ⟨key.name, value, text⟩ ∈ formEntries form (some (readReply global))) :
      value = text ∧ shown.field key = resolvedGlobal.field key ∨
        validateValue key.name value = .ok () ∧ key.parse value = some (shown.field key) :=
    field_saved hsaved hmem resolvedGlobal
  have hreply : global = toSettingsResponse resolvedGlobal := handleGetSettings_global hglobal
  have hbatch : |resolvedGlobal.batchSize| ≤ 2 ^ 63 := abs_batchSize_le table
  rw [hreply] at hfield
  clear_value shown resolvedGlobal
  obtain ⟨hcooldown, hinterval⟩ := validDuration_of_validate hvalid
  have hmax : maxCooldownPeriod + hour < (2 ^ 53 : ℤ) ∧ maxSearchInterval + hour < (2 ^ 53 : ℤ) := by
    decide
  exact {
    batchSize := shown_batchSize hbatch (hfield .batchSize (List.mem_of_getElem? (i := 0) rfl))
    cooldownPeriod :=
      shown_duration hmax.1 hcooldown accepted_of_validateValue
        (hfield .cooldownPeriod (List.mem_of_getElem? (i := 1) rfl))
    searchWindowStart := shown_text (hfield .searchWindowStart (List.mem_of_getElem? (i := 2) rfl))
    searchWindowEnd := shown_text (hfield .searchWindowEnd (List.mem_of_getElem? (i := 3) rfl))
    searchInterval :=
      shown_duration hmax.2 hinterval accepted_of_validateValue
        (hfield .searchInterval (List.mem_of_getElem? (i := 4) rfl))
    enabled := shown_bool (hfield .enabled (List.mem_of_getElem? (i := 5) rfl))
    searchMissing := shown_bool (hfield .searchMissing (List.mem_of_getElem? (i := 6) rfl)) }

/-- Global settings and the overrides of two instances. -/
def sampleTable : Table :=
  [⟨none, "cooldown_period", "90m"⟩, ⟨some 1, "batch_size", "7"⟩, ⟨some 1, "cooldown_period", "48h"⟩,
    ⟨some 1, "search_limit", "9"⟩, ⟨some 2, "batch_size", "5"⟩].foldl upsertRow ∅

/-- A form with a batch size and an interval of its own; the rest is as in the global settings. -/
def sampleForm : Form where
  batchSize := some (.ofInt 12)
  cooldownPeriod := "1h30m"
  searchWindowStart := []
  searchWindowEnd := []
  searchInterval := "45m"
  enabled := true
  searchMissing := true

theorem saveInstanceSettings_takes_effect_sample :
    ∃ global shown after,
      handleGetSettings sampleTable none none none = .ok global ∧
      saveInstanceSettings sampleTable 1 sampleForm (some (readReply global))
        (.answered .none) (.answered .none) = (saved, after) ∧
      handleGetSettings after (some (some 1)) none none = .ok shown ∧
      (readReply shown).batchSize = .ofInt 12 ∧ SameDuration shown.searchInterval "45m" ∧
      after.lookup (some 1, Key.searchLimit.name) = some "9".toList := by
  have hglobal : handleGetSettings sampleTable none none none = .ok
      { batchSize := 4, cooldownPeriod := "1h30m", searchWindowStart := [], searchWindowEnd := []
        searchInterval := "30m", searchLimit := 100, enabled := true, searchMissing := true } := by
    decide +kernel
  obtain ⟨⟨shown, hshown, hsame⟩, -, hlimit⟩ := saveInstanceSettings_takes_effect sampleTable 1
    sampleForm (.answered .none) (.answered .none) (by decide) hglobal (by decide +kernel)
  exact ⟨_, shown, _, hglobal, Prod.ext (by decide +kernel) rfl, hshown,
    Option.some.inj hsame.batchSize, hsame.searchInterval, hlimit.trans (by decide)⟩

end Huntarr2.Web
