import Huntarr2.Arr.Arr
import Huntarr2.Foundation.KeyedTable
import Mathlib.Data.List.Sort

/-!
# Import history

A poll reads one page of file-deleted records and one page per import event type, keeps the import
records dated after the poll's start time, flags those whose item also lost a file to an upgrade, and
keeps the newest record of every item.
-/

namespace Huntarr2.Arr

open GoStd

/-! ## Records as an instance sends them -/

structure HistoryEntityRef where
  id : ℤ
  titleSlug : String
  title : String
  year : ℤ
  artistName : String
  images : List String
  deriving DecidableEq, Repr

/-- `hasImage`: a missing entity has no image. -/
def hasImage (entity : Option HistoryEntityRef) (coverType : String) : Bool :=
  entity.any fun entity ↦ entity.images.any fun image ↦ equalFold image coverType

structure HistoryEpisodeRef where
  seasonNumber : ℤ
  episodeNumber : ℤ
  title : String
  deriving DecidableEq, Repr

/-- The item ID field an application's history uses. -/
inductive ItemIDField
  | episodeId
  | movieId
  | albumId
  deriving DecidableEq, Repr

/-- A history record of the response. The entries of its data map are in the order in which the map
is read. -/
structure HistoryRecordResponse where
  id : ℤ
  date : Time
  eventType : String
  data : KeyedTable Text Text
  sourceTitle : String
  quality : String
  customFormatScore : Option ℤ
  episodeID : ℤ
  movieID : ℤ
  albumID : ℤ
  movie : Option HistoryEntityRef
  series : Option HistoryEntityRef
  episode : Option HistoryEpisodeRef
  artist : Option HistoryEntityRef
  album : Option HistoryEntityRef

namespace HistoryRecordResponse

variable (record : HistoryRecordResponse)

/-- `itemID`. -/
def itemID : ItemIDField → ℤ
  | .episodeId => record.episodeID
  | .movieId => record.movieID
  | .albumId => record.albumID

/-- `dataValue`: the first entry whose key matches in any letter case. -/
def dataValue (key : Text) : Text :=
  ((record.data.entries.find? fun entry ↦ equalFold entry.1 key).map fun entry ↦ entry.2).getD []

/-- `dataInt64` and `dataInt`, which agree where an `int` has 64 bits. -/
def dataInt (key : Text) : ℤ := (parseInt64 (trimSpace (record.dataValue key))).getD 0

def slugOf (entity : Option HistoryEntityRef) : String := (entity.map (·.titleSlug)).getD ""

def titleOf (entity : Option HistoryEntityRef) : String := (entity.map (·.title)).getD ""

/-- `detailPath`. -/
def detailPath : String :=
  if slugOf record.movie ≠ "" then "/movie/" ++ slugOf record.movie
  else if slugOf record.series ≠ "" then "/series/" ++ slugOf record.series
  else if slugOf record.artist ≠ "" then "/artist/" ++ slugOf record.artist
  else ""

/-- `%02d`. -/
def twoDigits (value : ℤ) : String :=
  if 0 ≤ value ∧ value < 10 then s!"0{value}" else s!"{value}"

/-- `itemLabel`. -/
def itemLabel : String :=
  let artistName := (record.artist.map (·.artistName)).getD ""
  if titleOf record.movie ≠ "" then
    let year := (record.movie.map (·.year)).getD 0
    if year ≠ 0 then s!"{titleOf record.movie} ({year})" else titleOf record.movie
  else if titleOf record.series ≠ "" then
    match record.episode with
    | some episode =>
      if episode.seasonNumber ≠ 0 ∨ episode.episodeNumber ≠ 0 then
        titleOf record.series ++ " S" ++ twoDigits episode.seasonNumber ++ "E" ++
          twoDigits episode.episodeNumber
      else titleOf record.series
    | none => titleOf record.series
  else if titleOf record.album ≠ "" then
    if artistName ≠ "" then artistName ++ " - " ++ titleOf record.album else titleOf record.album
  else if artistName ≠ "" then artistName
  else record.sourceTitle

/-- `mediaCoverPath`. -/
def mediaCoverPath : String :=
  let idOf (entity : Option HistoryEntityRef) : ℤ := (entity.map (·.id)).getD 0
  if hasImage record.movie "poster" then s!"{idOf record.movie}/poster-250.jpg"
  else if hasImage record.series "poster" then s!"{idOf record.series}/poster-250.jpg"
  else if hasImage record.album "cover" then s!"album/{idOf record.album}/cover-250.jpg"
  else if hasImage record.artist "poster" then s!"artist/{idOf record.artist}/poster-250.jpg"
  else ""

end HistoryRecordResponse

/-- A file resource. -/
structure FileResponse where
  size : ℤ
  releaseGroup : String
  customFormatScore : Option ℤ
  mediaInfo : Option MediaInfo
  deriving DecidableEq, Repr

/-- `mediaInfo` of a file: an empty object counts as none. -/
def FileResponse.usableMediaInfo (file : FileResponse) : Option MediaInfo :=
  file.mediaInfo.filter fun info ↦ info ≠ MediaInfo.zero

/-! ## The poll -/

/-- The event types and the item ID field of an application. -/
structure HistoryConfig where
  deleteEventType : ℤ
  importEventTypes : List ℤ
  itemIDField : ItemIDField
  deriving DecidableEq, Repr

def sonarrHistory : HistoryConfig := ⟨5, [3], .episodeId⟩

def radarrHistory : HistoryConfig := ⟨6, [3], .movieId⟩

def lidarrHistory : HistoryConfig := ⟨5, [3], .albumId⟩

def whisparrV3History : HistoryConfig := ⟨6, [3, 10], .movieId⟩

/-- The file an upgrade removed. -/
structure DeletedFile where
  quality : String
  size : ℤ
  score : Option ℤ
  deriving DecidableEq, Repr

/-- The response to one page request. -/
abbrev Page := Except String (List HistoryRecordResponse)

/-- The answers to a poll's file lookups, by the ID of the record and its file's ID. Two records may
share a file, and each looks it up for itself. -/
abbrev FileLookups := ℤ → ℤ → Except String FileResponse

/-- The upgraded items of a delete page; the first matching record of an item counts. -/
def upgradedItems (cfg : HistoryConfig) (since : Time) (deletePage : Page) :
    KeyedTable ℤ DeletedFile :=
  match deletePage with
  | .error _ => ∅
  | .ok records => records.foldl
    (fun upgraded record ↦
      let itemID := record.itemID cfg.itemIDField
      if !equalFold (record.dataValue "reason") "upgrade" ∨ ¬since < record.date then upgraded
      else if itemID ∈ upgraded then upgraded
      else upgraded.insert itemID
        ⟨record.quality, record.dataInt "size", record.customFormatScore⟩)
    ∅

/-- The import record built from a response record. -/
def toHistoryRecord (cfg : HistoryConfig) (upgraded : KeyedTable ℤ DeletedFile)
    (record : HistoryRecordResponse) : HistoryRecord :=
  let itemID := record.itemID cfg.itemIDField
  let deleted := upgraded.lookup itemID
  { id := record.id
    itemID := itemID
    date := record.date
    itemLabel := record.itemLabel
    releaseTitle := record.sourceTitle
    detailPath := record.detailPath
    mediaCoverPath := record.mediaCoverPath
    isUpgrade := deleted.isSome
    quality := record.quality
    previousQuality := (deleted.map (·.quality)).getD ""
    size := record.dataInt "size"
    previousSize := (deleted.map (·.size)).getD 0
    customFormatScore := record.customFormatScore
    previousCustomFormatScore := deleted.bind (·.score)
    releaseGroup := String.ofList (record.dataValue "releaseGroup")
    fileID := record.dataInt "fileId"
    mediaInfo := none }

/-- The loop over an import page: records not dated after `since`, and IDs already seen, are left
out. -/
def addImportPage (cfg : HistoryConfig) (since : Time) (upgraded : KeyedTable ℤ DeletedFile)
    (records : List HistoryRecord) (importRecords : List HistoryRecordResponse) :
    List HistoryRecord :=
  importRecords.foldl
    (fun records record ↦
      if ¬since < record.date ∨ record.id ∈ records.map (·.id) then records
      else records ++ [toHistoryRecord cfg upgraded record])
    records

/-- The loop over the import pages, after some records were collected; the first failed page ends the
poll. -/
def collectImports (cfg : HistoryConfig) (since : Time) (upgraded : KeyedTable ℤ DeletedFile)
    (records : List HistoryRecord) (pages : List (ℤ × Page)) : Except String (List HistoryRecord) :=
  pages.foldlM
    (fun records (eventType, page) ↦
      match page with
      | .error err => .error s!"fetching import events (type {eventType}): {err}"
      | .ok importRecords => .ok (addImportPage cfg since upgraded records importRecords))
    records

/-- Newest first by date, then by ID. -/
def newestFirst (first second : HistoryRecord) : Prop :=
  second.date < first.date ∨ second.date = first.date ∧ second.id ≤ first.id

instance : DecidableRel newestFirst :=
  fun _ _ ↦ inferInstanceAs (Decidable (_ ∨ _))

/-- `newestPerItem`: the first record of every non-zero item ID. -/
def newestPerItem (seenItems : List ℤ) : List HistoryRecord → List HistoryRecord
  | [] => []
  | record :: records =>
    if record.itemID = 0 then record :: newestPerItem seenItems records
    else if record.itemID ∈ seenItems then newestPerItem seenItems records
    else record :: newestPerItem (record.itemID :: seenItems) records

/-- Fills the gaps of an upgrade from its imported file; a failed lookup leaves it as it is. -/
def addFileDetails (file : ℤ → Except String FileResponse) (record : HistoryRecord) : HistoryRecord :=
  if !record.isUpgrade ∨ record.fileID = 0 then record
  else match file record.fileID with
    | .error _ => record
    | .ok file =>
      { record with
        mediaInfo := file.usableMediaInfo
        size := if record.size = 0 then file.size else record.size
        customFormatScore :=
          if record.customFormatScore = none then file.customFormatScore else record.customFormatScore
        releaseGroup := if record.releaseGroup = "" then file.releaseGroup else record.releaseGroup }

/-- What is returned of the collected imports: the newest one of each item, newest first, with the
details of its file. -/
def finishImports (files : FileLookups) (records : List HistoryRecord) : List HistoryRecord :=
  (newestPerItem [] (records.insertionSort newestFirst)).map fun record ↦
    addFileDetails (files record.id) record

/-- `fetchArrHistory`, given the responses to its requests: the delete page, the import pages in the
order of the event types, and the file lookups (those skipped once the context is done count as
failed). -/
def fetchArrHistory (cfg : HistoryConfig) (since : Time) (deletePage : Page)
    (importPages : List (ℤ × Page)) (files : FileLookups) : Except String (List HistoryRecord) :=
  match collectImports cfg since (upgradedItems cfg since deletePage) [] importPages with
  | .error err => .error err
  | .ok records => .ok (finishImports files records)

/-! ## What the result contains -/

@[simp]
theorem addFileDetails_id (file : ℤ → Except String FileResponse) (record : HistoryRecord) :
    (addFileDetails file record).id = record.id := by
  unfold addFileDetails
  split
  · rfl
  · split <;> rfl

@[simp]
theorem addFileDetails_date (file : ℤ → Except String FileResponse) (record : HistoryRecord) :
    (addFileDetails file record).date = record.date := by
  unfold addFileDetails
  split
  · rfl
  · split <;> rfl

@[simp]
theorem addFileDetails_itemID (file : ℤ → Except String FileResponse) (record : HistoryRecord) :
    (addFileDetails file record).itemID = record.itemID := by
  unfold addFileDetails
  split
  · rfl
  · split <;> rfl

@[simp]
theorem addFileDetails_isUpgrade (file : ℤ → Except String FileResponse) (record : HistoryRecord) :
    (addFileDetails file record).isUpgrade = record.isUpgrade := by
  unfold addFileDetails
  split
  · rfl
  · split <;> rfl

/-- The upgraded items are those of the records of upgrades dated after `since`. -/
theorem mem_upgradedItems {cfg : HistoryConfig} {since : Time}
    {page : List HistoryRecordResponse} {itemID : ℤ} :
    itemID ∈ upgradedItems cfg since (.ok page) ↔
      ∃ record ∈ page, equalFold (record.dataValue "reason") "upgrade" = true ∧
        since < record.date ∧ record.itemID cfg.itemIDField = itemID := by
  have hloop (upgraded : KeyedTable ℤ DeletedFile) : itemID ∈ page.foldl
      (fun upgraded record ↦
        let itemID := record.itemID cfg.itemIDField
        if !equalFold (record.dataValue "reason") "upgrade" ∨ ¬since < record.date then upgraded
        else if itemID ∈ upgraded then upgraded
        else upgraded.insert itemID
          ⟨record.quality, record.dataInt "size", record.customFormatScore⟩) upgraded ↔
      itemID ∈ upgraded ∨ ∃ record ∈ page, equalFold (record.dataValue "reason") "upgrade" = true ∧
        since < record.date ∧ record.itemID cfg.itemIDField = itemID := by
    induction page generalizing upgraded with
    | nil => simp
    | cons record page ih =>
      rw [List.foldl_cons, ih, List.exists_mem_cons_iff, ← or_assoc]
      refine or_congr_left ?_
      dsimp only
      split_ifs with hskipped hknown
      · simp only [Bool.not_eq_true'] at hskipped
        have hnot : ¬(equalFold (record.dataValue "reason") "upgrade" = true ∧
            since < record.date ∧ record.itemID cfg.itemIDField = itemID) := by
          rintro ⟨hreason, hdate, -⟩
          exact hskipped.elim (fun hother ↦ by rw [hother] at hreason; cases hreason)
            fun hold ↦ hold hdate
        exact (or_iff_left hnot).symm
      · refine (or_iff_left_of_imp ?_).symm
        rintro ⟨-, -, rfl⟩
        exact hknown
      · simp only [Bool.not_eq_true', not_or, Bool.not_eq_false, not_not] at hskipped
        rw [AList.mem_insert, or_comm]
        refine or_congr_right ?_
        exact ⟨fun hitem ↦ ⟨hskipped.1, hskipped.2, hitem.symm⟩, fun h ↦ h.2.2.symm⟩
  have hempty : itemID ∉ (∅ : KeyedTable ℤ DeletedFile) := AList.notMem_empty itemID
  exact (hloop ∅).trans (or_iff_right hempty)

/-- An import is flagged when its item is among the upgraded ones. -/
theorem isUpgrade_toHistoryRecord (cfg : HistoryConfig) (upgraded : KeyedTable ℤ DeletedFile)
    (response : HistoryRecordResponse) :
    (toHistoryRecord cfg upgraded response).isUpgrade = true ↔
      (toHistoryRecord cfg upgraded response).itemID ∈ upgraded := by
  change (upgraded.lookup (response.itemID cfg.itemIDField)).isSome = true ↔
    response.itemID cfg.itemIDField ∈ upgraded
  exact AList.lookup_isSome

section AddImportPage

variable {cfg : HistoryConfig} {since : Time} {upgraded : KeyedTable ℤ DeletedFile}

/-- A page adds nothing but its records dated after `since`. -/
theorem mem_addImportPage {records : List HistoryRecord} {page : List HistoryRecordResponse}
    {record : HistoryRecord} (h : record ∈ addImportPage cfg since upgraded records page) :
    record ∈ records ∨
      ∃ response ∈ page, since < response.date ∧ record = toHistoryRecord cfg upgraded response := by
  induction page generalizing records with
  | nil => exact Or.inl h
  | cons first page ih =>
    unfold addImportPage at h
    rw [List.foldl_cons] at h
    cases ih h with
    | inr hlater =>
      obtain ⟨response, hmem, hresponse⟩ := hlater
      exact Or.inr ⟨response, List.mem_cons_of_mem first hmem, hresponse⟩
    | inl hrecords =>
      split at hrecords
      case isTrue => exact Or.inl hrecords
      case isFalse hnew =>
        rw [List.mem_append, List.mem_singleton] at hrecords
        have hdate : since < first.date := by
          by_contra hold
          exact hnew (Or.inl hold)
        exact hrecords.imp_right fun hrecord ↦ ⟨first, List.mem_cons_self, hdate, hrecord⟩

theorem subset_addImportPage (records : List HistoryRecord) (page : List HistoryRecordResponse) :
    records ⊆ addImportPage cfg since upgraded records page := by
  induction page generalizing records with
  | nil => exact List.Subset.refl _
  | cons first page ih =>
    unfold addImportPage
    rw [List.foldl_cons]
    refine List.Subset.trans ?_ (ih _)
    split
    · exact List.Subset.refl _
    · exact List.subset_append_left _ _

/-- Every record of the page dated after `since` is collected under its ID. -/
theorem id_mem_addImportPage {records : List HistoryRecord} {page : List HistoryRecordResponse}
    {response : HistoryRecordResponse} (hmem : response ∈ page) (hdate : since < response.date) :
    response.id ∈ (addImportPage cfg since upgraded records page).map (·.id) := by
  induction page generalizing records with
  | nil => exact absurd hmem List.not_mem_nil
  | cons first page ih =>
    cases List.mem_cons.mp hmem with
    | inr hlater => exact ih hlater
    | inl hhere =>
      subst hhere
      have hadded : response.id ∈
          (addImportPage cfg since upgraded records [response]).map (·.id) := by
        unfold addImportPage
        rw [List.foldl_cons, List.foldl_nil]
        split
        case isTrue hskipped => exact hskipped.resolve_left (not_not.mpr hdate)
        case isFalse => simp [toHistoryRecord]
      obtain ⟨record, hrecord, hid⟩ := List.mem_map.mp hadded
      exact List.mem_map.mpr ⟨record, subset_addImportPage _ page hrecord, hid⟩

/-- No ID is collected twice. -/
theorem nodup_addImportPage {records : List HistoryRecord} (page : List HistoryRecordResponse)
    (h : (records.map (·.id)).Nodup) :
    ((addImportPage cfg since upgraded records page).map (·.id)).Nodup := by
  induction page generalizing records with
  | nil => exact h
  | cons first page ih =>
    unfold addImportPage
    rw [List.foldl_cons]
    apply ih
    split
    case isTrue => exact h
    case isFalse hnew =>
      have hid : first.id ∉ records.map (·.id) := fun hseen ↦ hnew (Or.inr hseen)
      rw [List.map_append, List.nodup_append]
      refine ⟨h, List.nodup_singleton _, fun id hold other hother heq ↦ hid ?_⟩
      rw [List.map_singleton, List.mem_singleton] at hother
      rw [heq, hother] at hold
      exact hold

end AddImportPage

section NewestPerItem

instance : Std.Total newestFirst where
  total first second := by
    unfold newestFirst
    grind

instance : IsTrans HistoryRecord newestFirst where
  trans first second third := by
    unfold newestFirst
    grind

theorem newestPerItem_sublist (seenItems : List ℤ) (records : List HistoryRecord) :
    (newestPerItem seenItems records).Sublist records := by
  induction records generalizing seenItems with
  | nil => exact List.Sublist.refl _
  | cons record records ih =>
    unfold newestPerItem
    split
    · exact (ih _).cons_cons record
    · split
      · exact (ih _).cons record
      · exact (ih _).cons_cons record

/-- Of a list sorted newest first every item keeps its newest record, unless it was seen before. -/
theorem exists_mem_newestPerItem {seenItems : List ℤ} {records : List HistoryRecord}
    (hsorted : records.Pairwise newestFirst) {record : HistoryRecord} (hmem : record ∈ records)
    (hseen : record.itemID ∉ seenItems ∨ record.itemID = 0) :
    ∃ newest ∈ newestPerItem seenItems records,
      newest.itemID = record.itemID ∧ record.date ≤ newest.date := by
  induction records generalizing seenItems with
  | nil => exact absurd hmem List.not_mem_nil
  | cons first records ih =>
    rw [List.pairwise_cons] at hsorted
    have hdate : record.date ≤ first.date := by
      cases List.mem_cons.mp hmem with
      | inl hhere => rw [hhere]
      | inr hlater => exact (hsorted.1 record hlater).elim le_of_lt fun hsame ↦ hsame.1.le
    by_cases hsame : record.itemID = first.itemID ∧ first ∈ newestPerItem seenItems (first :: records)
    · -- The first record of an item answers for all later ones of it.
      exact ⟨first, hsame.2, hsame.1.symm, hdate⟩
    unfold newestPerItem at hsame ⊢
    split at hsame
    case isTrue hzero =>
      rw [if_pos hzero]
      have hrest : record ∈ records := by
        refine (List.mem_cons.mp hmem).resolve_left fun hhere ↦ hsame ⟨by rw [hhere], ?_⟩
        exact List.mem_cons_self
      obtain ⟨newest, hnewest, hitem⟩ := ih hsorted.2 hrest hseen
      exact ⟨newest, List.mem_cons_of_mem first hnewest, hitem⟩
    case isFalse hnonzero =>
      rw [if_neg hnonzero]
      split at hsame
      case isTrue hold =>
        rw [if_pos hold]
        have hrest : record ∈ records := by
          refine (List.mem_cons.mp hmem).resolve_left fun hhere ↦ ?_
          rw [hhere] at hseen
          exact hseen.elim (fun hnew ↦ hnew hold) hnonzero
        exact ih hsorted.2 hrest hseen
      case isFalse hnew =>
        rw [if_neg hnew]
        have hother : record.itemID ≠ first.itemID :=
          fun hitem ↦ hsame ⟨hitem, List.mem_cons_self⟩
        have hrest : record ∈ records :=
          (List.mem_cons.mp hmem).resolve_left fun hhere ↦ hother (by rw [hhere])
        have hseen' : record.itemID ∉ first.itemID :: seenItems ∨ record.itemID = 0 :=
          hseen.imp_left fun hnot hmem ↦ (List.mem_cons.mp hmem).elim hother hnot
        obtain ⟨newest, hnewest, hitem⟩ := ih hsorted.2 hrest hseen'
        exact ⟨newest, List.mem_cons_of_mem first hnewest, hitem⟩

/-- What is returned of the collected imports has a record for each of their items that is at least
as new. -/
theorem exists_mem_finishImports (files : FileLookups)
    {records : List HistoryRecord} {record : HistoryRecord} (hmem : record ∈ records) :
    ∃ newest ∈ finishImports files records,
      newest.itemID = record.itemID ∧ record.date ≤ newest.date := by
  have hsorted := List.pairwise_insertionSort newestFirst records
  obtain ⟨newest, hnewest, hitem, hdate⟩ := exists_mem_newestPerItem hsorted
    ((List.mem_insertionSort newestFirst).mpr hmem) (Or.inl List.not_mem_nil)
  exact ⟨addFileDetails (files newest.id) newest, List.mem_map_of_mem hnewest,
    (addFileDetails_itemID _ newest).trans hitem, by rw [addFileDetails_date]; exact hdate⟩

/-- What is returned of the collected imports are some of them, but for the file details. -/
theorem mem_finishImports {files : FileLookups} {records : List HistoryRecord}
    {record : HistoryRecord} (h : record ∈ finishImports files records) :
    ∃ collected ∈ records, record = addFileDetails (files collected.id) collected := by
  obtain ⟨collected, hmem, rfl⟩ := List.mem_map.mp h
  have hsorted := (newestPerItem_sublist [] _).subset hmem
  exact ⟨collected, (List.mem_insertionSort newestFirst).mp hsorted, rfl⟩

theorem nodup_finishImports (files : FileLookups) {records : List HistoryRecord}
    (h : (records.map (·.id)).Nodup) : ((finishImports files records).map (·.id)).Nodup := by
  have hids : (finishImports files records).map (·.id) =
      (newestPerItem [] (records.insertionSort newestFirst)).map (·.id) := by
    unfold finishImports
    rw [List.map_map]
    exact List.map_congr_left fun record _ ↦ addFileDetails_id _ record
  rw [hids]
  have hsorted := ((List.perm_insertionSort newestFirst records).map (·.id)).nodup_iff.mpr h
  exact hsorted.sublist ((newestPerItem_sublist [] _).map _)

end NewestPerItem

end Huntarr2.Arr
