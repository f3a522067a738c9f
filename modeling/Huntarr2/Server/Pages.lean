import Huntarr2.Instance.Store
import Huntarr2.Scheduler.Tick

/-!
# The upgrades of the dashboard

The dashboard reads its upgrade rows from the details of activity entries. Writer and reader agree on
the keys of the details map and on what a missing key means.
-/

namespace Huntarr2.Pages

open Activity Arr Clock GoStd

/-! ## Reading details -/

namespace EntryDetails

variable (details : Details) (key : String)

/-- `entryDetails.text`. -/
def text : String :=
  match details.lookup key with
  | some (.text value) => value
  | _ => ""

/-- `entryDetails.number`. -/
def number : ℚ :=
  match details.lookup key with
  | some (.real value) => value
  | some (.int value) => float64 value
  | _ => 0

/-- `entryDetails.integer`. -/
def integer : ℤ := int64OfFloat (number details key)

/-- `entryDetails.score`. -/
def score : Option ℤ :=
  if key ∈ details then some (int64OfFloat (number details key)) else none

end EntryDetails

/-! ## Labels -/

/-- `ResolutionLabel`. -/
def resolutionLabel (resolution : String) : String :=
  match resolution.toList.dropWhile (· ≠ 'x') with
  | [] => resolution
  | _ :: height =>
    match atoi height with
    | none => resolution
    | some _ => String.ofList height ++ "p"

/-- `trimDecimal`. -/
def trimDecimal (value : ℚ) : String :=
  let shown := (formatOneDecimal value).toList
  String.ofList (if ['.', '0'].isSuffixOf shown then shown.rdrop 2 else shown)

/-- `FormatBitrate`. -/
def formatBitrate (bps : ℤ) : String :=
  if bps ≤ 0 then ""
  else if 1000000 ≤ bps then trimDecimal (float64 (float64 bps / 1000000)) ++ " Mbps"
  else toString (mathRound (float64 (float64 bps / 1000))) ++ " kbps"

/-- `AudioLabel`. -/
def audioLabel (codec : String) (channels : ℚ) : String :=
  " ".intercalate ((if codec ≠ "" then [codec] else []) ++
    (if 0 < channels then [formatOneDecimal channels] else []))

/-- `bitDepthLabel`. -/
def bitDepthLabel (depth : ℤ) : String := if depth ≤ 0 then "" else s!"{depth}-bit"

open EntryDetails in
/-- `mediaTags`. -/
def mediaTags (details : Details) : List String :=
  [resolutionLabel (text details "resolution"),
    text details "videoCodec",
    text details "videoDynamicRange",
    bitDepthLabel (integer details "videoBitDepth"),
    formatBitrate (integer details "videoBitrate"),
    audioLabel (text details "audioCodec") (number details "audioChannels"),
    text details "audioBitrateText",
    text details "audioBits",
    text details "audioSampleRate"].filter (· ≠ "")

/-! ## The row -/

structure HomeUpgrade where
  instanceName : String
  appType : String
  itemLabel : String
  releaseTitle : String
  detailURL : String
  posterURL : String
  fromQuality : String
  toQuality : String
  fromSize : ℤ
  toSize : ℤ
  fromScore : Option ℤ
  toScore : Option ℤ
  mediaTags : List String
  detectedAt : Timestamp

/-- `strings.TrimRight(text, "/")`. -/
def trimRightSlashes (text : String) : String :=
  String.ofList (text.toList.rdropWhile (· = '/'))

open EntryDetails in
/-- `homeUpgrade`. -/
def homeUpgrade (entry : Recorded) (instMap : KeyedTable String Instances.FullInstance) :
    HomeUpgrade :=
  let details := entry.details.getD ∅
  let known := entry.instanceID.bind fun id ↦ instMap.lookup (uuidText id)
  let instanceName := text details "instanceName"
  let baseURL := text details "instanceBaseURL"
  let baseURL := if baseURL = "" then (known.map fun inst ↦ String.ofList inst.baseURL).getD ""
    else baseURL
  let cover := text details "mediaCover"
  let path := text details "itemDetailPath"
  let itemLabel := text details "itemLabel"
  let releaseTitle := text details "releaseTitle"
  { instanceName :=
      if instanceName = "" then (known.map fun inst ↦ String.ofList inst.name).getD ""
      else instanceName
    appType := (known.map fun inst ↦ Instances.appTypeLabel inst.appType).getD ""
    itemLabel := if itemLabel = "" then releaseTitle else itemLabel
    releaseTitle := releaseTitle
    detailURL := if path ≠ "" ∧ baseURL ≠ "" then trimRightSlashes baseURL ++ path else ""
    posterURL :=
      match entry.instanceID with
      | some id =>
        if cover ≠ "" then "/api/instances/" ++ uuidText id ++ "/mediacover/" ++ cover else ""
      | none => ""
    fromQuality := text details "previousQuality"
    toQuality := text details "quality"
    fromSize := integer details "previousSize"
    toSize := integer details "size"
    fromScore := score details "previousCustomFormatScore"
    toScore := score details "customFormatScore"
    mediaTags := mediaTags details
    detectedAt := entry.createdAt }

/-! ## What is read back -/

/-- The values written for an upgrade under the keys that are read. -/
structure Writes (inst : Instance) (record : HistoryRecord) (value : String → Option DetailValue) :
    Prop where
  instanceName : value "instanceName" = some (.text inst.name)
  instanceBaseURL : value "instanceBaseURL" = some (.text inst.baseURL)
  itemLabel : value "itemLabel" = some (.text record.itemLabel)
  itemDetailPath : value "itemDetailPath" = some (.text record.detailPath)
  quality : value "quality" = some (.text record.quality)
  releaseTitle : value "releaseTitle" =
    if record.releaseTitle ≠ "" then some (.text record.releaseTitle) else none
  mediaCover : value "mediaCover" =
    if record.mediaCoverPath ≠ "" then some (.text record.mediaCoverPath) else none
  previousQuality : value "previousQuality" =
    if record.previousQuality ≠ "" then some (.text record.previousQuality) else none
  size : value "size" = if record.size ≠ 0 then some (.int record.size) else none
  previousSize : value "previousSize" =
    if record.previousSize ≠ 0 then some (.int record.previousSize) else none
  customFormatScore : value "customFormatScore" = record.customFormatScore.map .int
  previousCustomFormatScore :
    value "previousCustomFormatScore" = record.previousCustomFormatScore.map .int

section Writing

variable (key : String)

theorem lastValue_ite (p : Prop) [Decidable p] (pair : String × DetailValue) :
    KeyedTable.lastValue key (if p then [pair] else []) =
      if pair.1 = key ∧ p then some pair.2 else none := by
  by_cases hp : p <;> simp [hp, KeyedTable.lastValue]

theorem lastValue_toList (name : String) (value : Option ℤ) :
    KeyedTable.lastValue key (value.map fun score ↦ (name, DetailValue.int score)).toList =
      if name = key then value.map .int else none := by
  cases value <;> simp [KeyedTable.lastValue]

/-- The keys are distinct, so each holds what was written for it. -/
theorem writes_historyDetails (inst : Instance) {record : HistoryRecord}
    (hupgrade : record.isUpgrade = true) :
    Writes inst record fun key ↦
      KeyedTable.lastValue key (Scheduling.historyDetails inst record) := by
  unfold Scheduling.historyDetails
  rw [hupgrade]
  constructor <;> cases record.mediaInfo <;>
    simp only [KeyedTable.lastValue_append, lastValue_ite, lastValue_toList, KeyedTable.lastValue,
      String.reduceEq, false_and, true_and, if_false, if_true, Option.none_or, Option.or_none]

end Writing

section Reading

variable {details : Details} {key : String} {value : String → Option DetailValue}
  (hdecoded : ∀ key, details.lookup key = (value key).map DetailValue.decoded)

include hdecoded

theorem text_eq {written : String} (h : value key = some (.text written)) :
    EntryDetails.text details key = written := by
  unfold EntryDetails.text
  rw [hdecoded, h]
  rfl

theorem text_eq_of_omitted {written : String}
    (h : value key = if written ≠ "" then some (.text written) else none) :
    EntryDetails.text details key = written := by
  by_cases hempty : written = ""
  · rw [if_neg (not_not.mpr hempty)] at h
    unfold EntryDetails.text
    rw [hdecoded, h, hempty]
    rfl
  · rw [if_pos hempty] at h
    exact text_eq hdecoded h

theorem int64_number_eq {written : ℤ} (hbound : |written| ≤ 2 ^ 53)
    (h : value key = some (.int written)) :
    int64OfFloat (EntryDetails.number details key) = written := by
  unfold EntryDetails.number
  rw [hdecoded, h]
  change int64OfFloat (float64 written) = written
  rw [float64_intCast hbound, int64OfFloat_intCast hbound]

theorem integer_eq {written : ℤ} (hbound : |written| ≤ 2 ^ 53)
    (h : value key = if written ≠ 0 then some (.int written) else none) :
    EntryDetails.integer details key = written := by
  by_cases hzero : written = 0
  · rw [if_neg (not_not.mpr hzero)] at h
    unfold EntryDetails.integer EntryDetails.number
    rw [hdecoded, h, hzero]
    exact int64OfFloat_intCast (show |(0 : ℤ)| ≤ 2 ^ 53 by decide)
  · rw [if_pos hzero] at h
    exact int64_number_eq hdecoded hbound h

theorem score_eq {written : Option ℤ} (hbound : ∀ score ∈ written, |score| ≤ 2 ^ 53)
    (h : value key = written.map .int) : EntryDetails.score details key = written := by
  unfold EntryDetails.score
  cases written with
  | none =>
    refine if_neg fun hmem ↦ ?_
    rw [← AList.lookup_isSome, hdecoded, h] at hmem
    exact absurd hmem (by decide)
  | some score =>
    have hmem : key ∈ details := by
      rw [← AList.lookup_isSome, hdecoded, h]
      rfl
    rw [if_pos hmem, int64_number_eq hdecoded (hbound score rfl) h]

end Reading

/-- The dashboard shows of an upgrade what its record says. -/
theorem homeUpgrade_recovers (inst : Instance) (record : HistoryRecord)
    (instMap : KeyedTable String Instances.FullInstance) (row : Row) (entry : Recorded)
    (hname : inst.name ≠ "") (hurl : inst.baseURL ≠ "") (hupgrade : record.isUpgrade = true)
    (hsize : |record.size| ≤ 2 ^ 53) (hpreviousSize : |record.previousSize| ≤ 2 ^ 53)
    (hscore : ∀ score ∈ record.customFormatScore, |score| ≤ 2 ^ 53)
    (hpreviousScore : ∀ score ∈ record.previousCustomFormatScore, |score| ≤ 2 ^ 53)
    (hdetails : row.details = Scheduling.details (Scheduling.historyDetails inst record))
    (hread : scanEntry row = .ok entry) :
    let shown := homeUpgrade entry instMap
    shown.instanceName = inst.name ∧
      shown.itemLabel = (if record.itemLabel = "" then record.releaseTitle else record.itemLabel) ∧
      shown.releaseTitle = record.releaseTitle ∧
      shown.fromQuality = record.previousQuality ∧ shown.toQuality = record.quality ∧
      shown.fromSize = record.previousSize ∧ shown.toSize = record.size ∧
      shown.fromScore = record.previousCustomFormatScore ∧
      shown.toScore = record.customFormatScore ∧
      shown.detailURL =
        (if record.detailPath = "" then "" else trimRightSlashes inst.baseURL ++ record.detailPath) ∧
      ∀ id, row.instanceID = some id → shown.posterURL =
        if record.mediaCoverPath = "" then ""
        else "/api/instances/" ++ uuidText id ++ "/mediacover/" ++ record.mediaCoverPath := by
  have hentry : entry.details.getD ∅ = (KeyedTable.ofPairs
      (Scheduling.historyDetails inst record)).mapValues DetailValue.decoded ∧
      entry.instanceID = row.instanceID := by
    rw [scanEntry_ok] at hread
    obtain rfl := Except.ok.inj hread
    dsimp only
    rw [hdetails]
    exact ⟨rfl, rfl⟩
  obtain ⟨hrecorded, hinstance⟩ := hentry
  have hdecoded (key : String) : ((KeyedTable.ofPairs (Scheduling.historyDetails inst record)).mapValues
      DetailValue.decoded).lookup key = (KeyedTable.lastValue key
        (Scheduling.historyDetails inst record)).map DetailValue.decoded := by
    rw [KeyedTable.lookup_mapValues, KeyedTable.lookup_ofPairs]
  have hwrites := writes_historyDetails inst hupgrade
  have hcover := text_eq_of_omitted hdecoded hwrites.mediaCover
  have hpath := text_eq hdecoded hwrites.itemDetailPath
  unfold homeUpgrade
  dsimp only
  rw [hrecorded, text_eq hdecoded hwrites.instanceName, text_eq hdecoded hwrites.instanceBaseURL,
    text_eq hdecoded hwrites.itemLabel, hpath, text_eq hdecoded hwrites.quality,
    text_eq_of_omitted hdecoded hwrites.releaseTitle, hcover,
    text_eq_of_omitted hdecoded hwrites.previousQuality,
    integer_eq hdecoded hpreviousSize hwrites.previousSize,
    integer_eq hdecoded hsize hwrites.size, score_eq hdecoded hscore hwrites.customFormatScore,
    score_eq hdecoded hpreviousScore hwrites.previousCustomFormatScore, if_neg hname, if_neg hurl]
  refine ⟨rfl, rfl, rfl, rfl, rfl, rfl, rfl, rfl, rfl, ?_, fun id hid ↦ ?_⟩
  · by_cases hempty : record.detailPath = ""
    · rw [if_neg fun h ↦ h.1 hempty, if_pos hempty]
    · rw [if_pos ⟨hempty, hurl⟩, if_neg hempty]
  · rw [hinstance, hid]
    dsimp only
    rw [ite_not]

/-- An upgrade of a file without a custom format score by one with the score zero. -/
def sampleRecord : HistoryRecord :=
  { id := 7, itemID := 3, date := 0, itemLabel := "", releaseTitle := "Movie.2024.1080p"
    detailPath := "/movie/3", mediaCoverPath := "3/poster.jpg", isUpgrade := true
    quality := "Bluray-1080p", previousQuality := "", size := 9000000000, previousSize := 0
    customFormatScore := some 0, previousCustomFormatScore := none, releaseGroup := ""
    fileID := 5, mediaInfo := none }

def sampleInstance : Instance := ⟨1, "Radarr", "http://radarr:7878/"⟩

theorem sampleRow_wall_lt : 63902908800 < maxWall := by decide

def sampleRow : Row :=
  { Scheduling.importEntry sampleInstance sampleRecord with
    id := 2
    createdAt := (⟨63902908800, 0, 0, sampleRow_wall_lt, zero_nanos_lt, zero_offset_le⟩ :
      Timestamp).formatRFC3339Nano
    created_utc := ⟨_, rfl, rfl⟩ }

theorem homeUpgrade_recovers_sample : ∃ entry, scanEntry sampleRow = .ok entry ∧
    (homeUpgrade entry ∅).itemLabel = "Movie.2024.1080p" ∧
    (homeUpgrade entry ∅).fromScore = none ∧ (homeUpgrade entry ∅).toScore = some 0 ∧
    (homeUpgrade entry ∅).toSize = 9000000000 ∧
    (homeUpgrade entry ∅).detailURL = "http://radarr:7878/movie/3" := by
  refine ⟨_, scanEntry_ok sampleRow, ?_⟩
  obtain ⟨-, hlabel, -, -, -, -, hsize, hfrom, hto, hurl, -⟩ := homeUpgrade_recovers sampleInstance
    sampleRecord ∅ sampleRow _ (by decide) (by decide) rfl (by decide) (by decide) (by decide)
    (by decide) rfl (scanEntry_ok sampleRow)
  exact ⟨hlabel, hfrom, hto, hsize, hurl.trans (by decide)⟩

end Huntarr2.Pages
