import Huntarr2.Arr.History
import Huntarr2.Foundation.KeyedList

/-!
# What a poll of the import history returns

Of the import records dated after the poll's start time a poll keeps the newest of every item and
all those without an item, newest first. That list does not depend on the order in which the pages
or their records came, and neither the deletions nor the file lookups change which records it holds.
-/

namespace Huntarr2.Arr

open GoStd

/-! ## The specification -/

/-- `response` is newer than `other`, by date and then by ID. -/
def Newer (response other : HistoryRecordResponse) : Prop :=
  other.date < response.date ∨ other.date = response.date ∧ other.id < response.id

instance : Std.Asymm Newer where
  asymm first second := by
    unfold Newer
    grind

instance : Std.Irrefl Newer where
  irrefl response := by
    unfold Newer
    grind

/-- The import records dated after `since` on all pages. -/
def importsAfter (since : Time) (pages : List (ℤ × List HistoryRecordResponse)) :
    List HistoryRecordResponse :=
  (pages.flatMap fun page ↦ page.2).filter fun record ↦ since < record.date

/-- The responses to the page requests when none of them failed. -/
def answered (pages : List (ℤ × List HistoryRecordResponse)) : List (ℤ × Page) :=
  pages.map fun (eventType, records) ↦ (eventType, .ok records)

/-- `kept` are the newest records of every item and the records without an item, newest first. -/
structure KeepsNewest (field : ItemIDField) (imports kept : List HistoryRecordResponse) : Prop where
  sorted : kept.Pairwise Newer
  mem_iff : ∀ response, response ∈ kept ↔ response ∈ imports ∧
    (response.itemID field ≠ 0 → ∀ other ∈ imports, other.itemID field = response.itemID field →
      other = response ∨ Newer response other)
  existsUnique : ∀ itemID ≠ 0, (∃ response ∈ imports, response.itemID field = itemID) →
    ∃! response, response ∈ kept ∧ response.itemID field = itemID

/-- A deletion after `since` that made room for an upgrade of the item. -/
def IsUpgradeOf (cfg : HistoryConfig) (since : Time) (itemID : ℤ)
    (deletion : HistoryRecordResponse) : Prop :=
  deletion.itemID cfg.itemIDField = itemID ∧
    equalFold (deletion.dataValue "reason") "upgrade" = true ∧ since < deletion.date

instance (cfg : HistoryConfig) (since : Time) (itemID : ℤ) :
    DecidablePred (IsUpgradeOf cfg since itemID) :=
  fun _ ↦ inferInstanceAs (Decidable (_ ∧ _ ∧ _))

/-- The deletions a poll knows; a failed page counts as none. -/
def deletions (deletePage : Page) : List HistoryRecordResponse :=
  match deletePage with
  | .ok records => records
  | .error _ => []

/-- `record` is what a poll reports of the import record `response`. -/
structure Reports (cfg : HistoryConfig) (since : Time) (deletePage : Page) (files : FileLookups)
    (response : HistoryRecordResponse) (record : HistoryRecord) : Prop where
  id : record.id = response.id
  itemID : record.itemID = response.itemID cfg.itemIDField
  date : record.date = response.date
  itemLabel : record.itemLabel = response.itemLabel
  releaseTitle : record.releaseTitle = response.sourceTitle
  detailPath : record.detailPath = response.detailPath
  mediaCoverPath : record.mediaCoverPath = response.mediaCoverPath
  quality : record.quality = response.quality
  fileID : record.fileID = response.dataInt "fileId"
  isUpgrade : record.isUpgrade = true ↔
    ∃ deletion ∈ deletions deletePage, IsUpgradeOf cfg since record.itemID deletion
  /-- An upgrade carries the data of the first deletion of its item. -/
  carried : ∀ deletion,
    (deletions deletePage).find? (IsUpgradeOf cfg since record.itemID ·) = some deletion →
    record.previousQuality = deletion.quality ∧ record.previousSize = deletion.dataInt "size" ∧
      record.previousCustomFormatScore = deletion.customFormatScore
  uncarried : record.isUpgrade = false → record.previousQuality = "" ∧ record.previousSize = 0 ∧
    record.previousCustomFormatScore = none
  /-- A file lookup fills gaps only. -/
  size : record.size = response.dataInt "size" ∨ response.dataInt "size" = 0
  customFormatScore :
    record.customFormatScore = response.customFormatScore ∨ response.customFormatScore = none
  releaseGroup : record.releaseGroup = String.ofList (response.dataValue "releaseGroup") ∨
    response.dataValue "releaseGroup" = []
  /-- Without an answer, and for a plain import, nothing is filled. -/
  unfilled : (record.isUpgrade = false ∨ ∀ file, files record.id record.fileID ≠ .ok file) →
    record.size = response.dataInt "size" ∧
      record.customFormatScore = response.customFormatScore ∧
      record.releaseGroup = String.ofList (response.dataValue "releaseGroup") ∧
      record.mediaInfo = none

/-- The same pages in another order, each with its records in another order. -/
def SamePages (pages pages' : List (ℤ × List HistoryRecordResponse)) : Prop :=
  ∃ middle, pages.Perm middle ∧
    List.Forall₂ (fun page page' ↦ page.1 = page'.1 ∧ page.2.Perm page'.2) middle pages'

/-- The specification leaves no choice. -/
theorem KeepsNewest.unique {field : ItemIDField} {imports kept kept' : List HistoryRecordResponse}
    (h : KeepsNewest field imports kept) (h' : KeepsNewest field imports kept') : kept = kept' :=
  h.sorted.eq_of_mem_iff h'.sorted fun response ↦
    (h.mem_iff response).trans (h'.mem_iff response).symm

/-- The specification does not depend on the order of the import records. -/
theorem KeepsNewest.perm {field : ItemIDField} {imports imports' kept : List HistoryRecordResponse}
    (h : KeepsNewest field imports kept) (hperm : imports.Perm imports') :
    KeepsNewest field imports' kept where
  sorted := h.sorted
  mem_iff response := by
    rw [h.mem_iff response, hperm.mem_iff]
    simp only [hperm.mem_iff]
  existsUnique itemID hitem hsome := by
    obtain ⟨response, hmem, hresponse⟩ := hsome
    exact h.existsUnique itemID hitem ⟨response, hperm.mem_iff.mpr hmem, hresponse⟩

theorem importsAfter_perm (since : Time) {pages pages' : List (ℤ × List HistoryRecordResponse)}
    (h : SamePages pages pages') : (importsAfter since pages).Perm (importsAfter since pages') := by
  obtain ⟨middle, hperm, hrecords⟩ := h
  refine List.Perm.filter _ ((hperm.flatMap_right _).trans ?_)
  clear hperm
  induction hrecords with
  | nil => exact List.Perm.refl _
  | cons hpage _ ih =>
    rw [List.flatMap_cons, List.flatMap_cons]
    exact hpage.2.append ih

/-! ## The passes of a poll -/

/-- The key under which a poll keeps one record: its item, if it has one. -/
def itemKey (record : HistoryRecord) : Option ℤ :=
  if record.itemID = 0 then none else some record.itemID

theorem newestPerItem_eq_firstPerKey (seenItems : List ℤ) (records : List HistoryRecord) :
    newestPerItem seenItems records = firstPerKey itemKey seenItems records := by
  fun_induction newestPerItem seenItems records with
  | case1 => rfl
  | case2 seenItems record records hzero ih =>
    have hkey : itemKey record = none := if_pos hzero
    rw [firstPerKey_cons_none hkey, ih]
  | case3 seenItems record records hitem hseen ih =>
    have hkey : itemKey record = some record.itemID := if_neg hitem
    rw [firstPerKey_cons_seen hkey hseen, ih]
  | case4 seenItems record records hitem hseen ih =>
    have hkey : itemKey record = some record.itemID := if_neg hitem
    rw [firstPerKey_cons_fresh hkey hseen, ih]

section Passes

variable (cfg : HistoryConfig) (since : Time) (upgraded : KeyedTable ℤ DeletedFile)

/-- A page adds its records dated after `since` whose IDs are new. -/
theorem addImportPage_eq_append {seen : List ℤ} {records : List HistoryRecord}
    (hseen : ∀ id, id ∈ seen ↔ id ∈ records.map (·.id)) (page : List HistoryRecordResponse) :
    addImportPage cfg since upgraded records page = records ++
      (firstPerKey (some ∘ (·.id)) seen (page.filter fun record ↦ since < record.date)).map
        (toHistoryRecord cfg upgraded) := by
  induction page generalizing seen records with
  | nil => exact (List.append_nil records).symm
  | cons first page ih =>
    unfold addImportPage
    rw [List.foldl_cons]
    by_cases hdate : since < first.date
    · have hkey : (some ∘ fun record : HistoryRecordResponse ↦ record.id) first = some first.id := rfl
      rw [List.filter_cons_of_pos (by simpa using hdate)]
      by_cases hold : first.id ∈ seen
      · rw [if_pos (Or.inr ((hseen _).mp hold)), firstPerKey_cons_seen hkey hold]
        exact ih hseen
      · have hnew : ¬(¬since < first.date ∨ first.id ∈ records.map (·.id)) := by
          rw [not_or, not_not, ← hseen]
          exact ⟨hdate, hold⟩
        rw [if_neg hnew, firstPerKey_cons_fresh hkey hold, List.map_cons]
        refine (ih fun id ↦ ?_).trans (List.append_cons _ _ _).symm
        rw [List.mem_cons, hseen, List.map_append, List.mem_append, List.map_singleton,
          List.mem_singleton, or_comm]
        rfl
    · rw [List.filter_cons_of_neg (by simpa using hdate), if_pos (Or.inl hdate)]
      exact ih hseen

/-- The pages one after the other add what all their records together add. -/
theorem collectImports_answered (records : List HistoryRecord)
    (pages : List (ℤ × List HistoryRecordResponse)) :
    collectImports cfg since upgraded records (answered pages) =
      .ok (addImportPage cfg since upgraded records (pages.flatMap fun page ↦ page.2)) := by
  induction pages generalizing records with
  | nil => rfl
  | cons page pages ih =>
    calc
      collectImports cfg since upgraded records (answered (page :: pages)) =
          collectImports cfg since upgraded
            (addImportPage cfg since upgraded records page.2) (answered pages) := rfl
      _ = .ok (addImportPage cfg since upgraded
            (addImportPage cfg since upgraded records page.2)
            (pages.flatMap fun page ↦ page.2)) := ih _
      _ = _ := by
        rw [List.flatMap_cons]
        unfold addImportPage
        rw [List.foldl_append]

/-- A failed page ends the loop with an error. -/
theorem collectImports_failed (records : List HistoryRecord) {pages : List (ℤ × Page)}
    {eventType : ℤ} {err : String} (hmem : (eventType, .error err) ∈ pages) :
    ∃ err, collectImports cfg since upgraded records pages = .error err := by
  induction pages generalizing records with
  | nil => exact absurd hmem List.not_mem_nil
  | cons page pages ih =>
    obtain ⟨pageType, page⟩ := page
    cases page with
    | error pageErr => exact ⟨_, rfl⟩
    | ok importRecords =>
      have hrest : (eventType, .error err) ∈ pages := by
        refine (List.mem_cons.mp hmem).resolve_left fun hhere ↦ ?_
        cases congrArg Prod.snd hhere
      exact ih _ hrest

/-- `newestFirst` of the records built from two responses. -/
def NewestFirst (first second : HistoryRecordResponse) : Prop :=
  second.date < first.date ∨ second.date = first.date ∧ second.id ≤ first.id

instance : DecidableRel NewestFirst :=
  fun _ _ ↦ inferInstanceAs (Decidable (_ ∨ _))

instance : Std.Total NewestFirst where
  total first second := by
    unfold NewestFirst
    grind

instance : IsTrans HistoryRecordResponse NewestFirst where
  trans first second third := by
    unfold NewestFirst
    grind

/-- `itemKey` of the record built from a response. -/
def responseKey (field : ItemIDField) (response : HistoryRecordResponse) : Option ℤ :=
  if response.itemID field = 0 then none else some (response.itemID field)

theorem responseKey_eq_some {field : ItemIDField} {response : HistoryRecordResponse} {itemID : ℤ} :
    responseKey field response = some itemID ↔ itemID ≠ 0 ∧ response.itemID field = itemID := by
  unfold responseKey
  split_ifs with hzero
  · constructor
    · exact fun h ↦ nomatch h
    · rintro ⟨hitem, rfl⟩
      exact absurd hzero hitem
  · rw [Option.some.injEq]
    exact ⟨fun h ↦ ⟨h ▸ hzero, h⟩, fun h ↦ h.2⟩

/-- The passes over the import records: no ID twice, newest first, one record an item. -/
def keptImports (field : ItemIDField) (imports : List HistoryRecordResponse) :
    List HistoryRecordResponse :=
  firstPerKey (responseKey field) []
    ((firstPerKey (some ∘ (·.id)) [] imports).insertionSort NewestFirst)

/-- Records of different IDs that are sorted are sorted strictly. -/
theorem pairwise_newer {records : List HistoryRecordResponse} (hsorted : records.Pairwise NewestFirst)
    (hids : (records.map (·.id)).Nodup) : records.Pairwise Newer := by
  have hne : records.Pairwise fun first second ↦ first.id ≠ second.id :=
    List.pairwise_map.mp hids
  refine (hsorted.and hne).imp fun {first second} h ↦ h.1.imp_right fun hsame ↦ ?_
  exact ⟨hsame.1, lt_of_le_of_ne hsame.2 h.2.symm⟩

/-- When equal IDs mean equal records, the passes keep what they should. -/
theorem keptImports_keepsNewest (field : ItemIDField) {imports : List HistoryRecordResponse}
    (hids : ∀ first ∈ imports, ∀ second ∈ imports, first.id = second.id → first = second) :
    KeepsNewest field imports (keptImports field imports) := by
  let sorted := (firstPerKey (some ∘ fun record : HistoryRecordResponse ↦ record.id) [] imports)
    |>.insertionSort NewestFirst
  have hmem (response : HistoryRecordResponse) : response ∈ sorted ↔ response ∈ imports :=
    (List.mem_insertionSort NewestFirst).trans (mem_firstPerKey_of_injective hids)
  have hsorted : sorted.Pairwise Newer := by
    refine pairwise_newer (List.pairwise_insertionSort NewestFirst _) ?_
    exact ((List.perm_insertionSort NewestFirst _).map _).nodup_iff.mpr (nodup_map_firstPerKey _ _)
  have hkept : (keptImports field imports).Pairwise Newer :=
    hsorted.sublist (firstPerKey_sublist sorted)
  refine ⟨hkept, fun response ↦ ?_, fun itemID hitem hsome ↦ ?_⟩
  · have hkeptMem : response ∈ keptImports field imports ↔ _ := mem_firstPerKey_of_pairwise hsorted
    simp only [hkeptMem, hmem, responseKey_eq_some]
    refine and_congr_right fun _ ↦ ⟨fun h hnonzero other hother hsame ↦ ?_, ?_⟩
    · exact h _ ⟨hnonzero, rfl⟩ other hother ⟨hnonzero, hsame⟩
    · rintro h _ ⟨hnonzero, rfl⟩ other hother ⟨-, hsame⟩
      exact h hnonzero other hother hsame
  · obtain ⟨response, hresponse, hresponseItem⟩ := hsome
    have hunique := existsUnique_mem_firstPerKey hsorted ((hmem response).mpr hresponse)
      (responseKey_eq_some.mpr ⟨hitem, hresponseItem⟩)
    simp only [responseKey_eq_some, ne_eq, hitem, not_false_eq_true, true_and] at hunique
    exact hunique

/-- The passes commute with building the records. -/
theorem finishImports_map (files : FileLookups) (imports : List HistoryRecordResponse) :
    finishImports files ((firstPerKey (some ∘ (·.id)) [] imports).map (toHistoryRecord cfg upgraded)) =
      (keptImports cfg.itemIDField imports).map fun response ↦
        addFileDetails (files response.id) (toHistoryRecord cfg upgraded response) := by
  unfold finishImports keptImports
  rw [← List.map_insertionSort (r := NewestFirst) newestFirst (toHistoryRecord cfg upgraded) _
      fun _ _ _ _ ↦ Iff.rfl, newestPerItem_eq_firstPerKey, firstPerKey_map, List.map_map]
  rfl

end Passes

/-! ## The deletions -/

/-- The deletions of a page in the order of the loop: what was known before comes first. -/
theorem lookup_foldl_deletions (cfg : HistoryConfig) (since : Time) (itemID : ℤ)
    (records : List HistoryRecordResponse) (upgraded : KeyedTable ℤ DeletedFile) :
    (records.foldl (fun upgraded record ↦
        let itemID := record.itemID cfg.itemIDField
        if !equalFold (record.dataValue "reason") "upgrade" ∨ ¬since < record.date then upgraded
        else if itemID ∈ upgraded then upgraded
        else upgraded.insert itemID
          ⟨record.quality, record.dataInt "size", record.customFormatScore⟩) upgraded).lookup itemID =
      (upgraded.lookup itemID).or ((records.find? (IsUpgradeOf cfg since itemID ·)).map fun deletion ↦
        ⟨deletion.quality, deletion.dataInt "size", deletion.customFormatScore⟩) := by
  induction records generalizing upgraded with
  | nil => exact (Option.or_none).symm
  | cons record records ih =>
    rw [List.foldl_cons, ih]
    by_cases hdeletion : equalFold (record.dataValue "reason") "upgrade" = true ∧ since < record.date
    · have hused : ¬((!equalFold (record.dataValue "reason") "upgrade") = true ∨
          ¬since < record.date) := by
        rw [not_or, not_not, Bool.not_eq_true', Bool.not_eq_false]
        exact hdeletion
      dsimp only
      rw [if_neg hused]
      by_cases hitem : record.itemID cfg.itemIDField = itemID
      · have hfound : IsUpgradeOf cfg since itemID record := ⟨hitem, hdeletion⟩
        rw [List.find?_cons_of_pos (by simpa using hfound), hitem]
        by_cases hknown : itemID ∈ upgraded
        · obtain ⟨deleted, hdeleted⟩ := Option.isSome_iff_exists.mp (AList.lookup_isSome.mpr hknown)
          rw [if_pos hknown, hdeleted]
          rfl
        · rw [if_neg hknown, AList.lookup_insert, AList.lookup_eq_none.mpr hknown]
          rfl
      · have hother : ¬IsUpgradeOf cfg since itemID record := fun h ↦ hitem h.1
        rw [List.find?_cons_of_neg (by simpa using hother)]
        split
        · rfl
        · rw [AList.lookup_insert_ne (Ne.symm hitem)]
    · have hskipped : (!equalFold (record.dataValue "reason") "upgrade") = true ∨
          ¬since < record.date := by
        rw [Bool.not_eq_true', ← Bool.not_eq_true]
        exact not_and_or.mp hdeletion
      have hother : ¬IsUpgradeOf cfg since itemID record := fun h ↦ hdeletion h.2
      rw [if_pos hskipped, List.find?_cons_of_neg (by simpa using hother)]

/-- The upgraded item is that of its first deletion. -/
theorem lookup_upgradedItems (cfg : HistoryConfig) (since : Time) (deletePage : Page) (itemID : ℤ) :
    (upgradedItems cfg since deletePage).lookup itemID =
      ((deletions deletePage).find? (IsUpgradeOf cfg since itemID ·)).map fun deletion ↦
        ⟨deletion.quality, deletion.dataInt "size", deletion.customFormatScore⟩ := by
  cases deletePage with
  | error err => rfl
  | ok records =>
    refine (lookup_foldl_deletions cfg since itemID records ∅).trans ?_
    rw [AList.lookup_empty, Option.none_or]
    rfl

/-! ## A whole poll -/

/-- A lookup either changes nothing or fills the gaps of an upgrade from its answer. -/
theorem addFileDetails_cases (file : ℤ → Except String FileResponse) (record : HistoryRecord) :
    addFileDetails file record = record ∨
      ∃ details, record.isUpgrade = true ∧ file record.fileID = .ok details ∧
        addFileDetails file record =
          { record with
            mediaInfo := details.usableMediaInfo
            size := if record.size = 0 then details.size else record.size
            customFormatScore := if record.customFormatScore = none then details.customFormatScore
              else record.customFormatScore
            releaseGroup :=
              if record.releaseGroup = "" then details.releaseGroup else record.releaseGroup } := by
  unfold addFileDetails
  split
  case isTrue => exact Or.inl rfl
  case isFalse hlooked =>
    rw [not_or, Bool.not_eq_true', Bool.not_eq_false] at hlooked
    cases hfile : file record.fileID with
    | error err => exact Or.inl rfl
    | ok details => exact Or.inr ⟨details, hlooked.1, rfl, rfl⟩

section Reports

variable (cfg : HistoryConfig) (since : Time) (deletePage : Page) (files : FileLookups)
  (response : HistoryRecordResponse)

/-- What is reported of an import record before its file is looked up. -/
theorem reports_toHistoryRecord : Reports cfg since deletePage files response
    (toHistoryRecord cfg (upgradedItems cfg since deletePage) response) := by
  have hlookup := lookup_upgradedItems cfg since deletePage (response.itemID cfg.itemIDField)
  refine ⟨rfl, rfl, rfl, rfl, rfl, rfl, rfl, rfl, rfl, ?_, ?_, ?_, Or.inl rfl, Or.inl rfl,
    Or.inl rfl, fun _ ↦ ⟨rfl, rfl, rfl, rfl⟩⟩
  · change ((upgradedItems cfg since deletePage).lookup (response.itemID cfg.itemIDField)).isSome =
      true ↔ _
    rw [hlookup, Option.isSome_map, List.find?_isSome]
    simp only [decide_eq_true_eq]
    rfl
  · intro deletion hdeletion
    change (deletions deletePage).find?
      (IsUpgradeOf cfg since (response.itemID cfg.itemIDField) ·) = some deletion at hdeletion
    rw [hdeletion] at hlookup
    dsimp only [toHistoryRecord]
    rw [hlookup]
    exact ⟨rfl, rfl, rfl⟩
  · intro hplain
    have hnone : (upgradedItems cfg since deletePage).lookup (response.itemID cfg.itemIDField) = none :=
      Option.not_isSome_iff_eq_none.mp (Bool.eq_false_iff.mp hplain)
    dsimp only [toHistoryRecord]
    rw [hnone]
    exact ⟨rfl, rfl, rfl⟩

/-- What is reported of an import record after its file was looked up. -/
theorem reports_addFileDetails : Reports cfg since deletePage files response
    (addFileDetails (files response.id)
      (toHistoryRecord cfg (upgradedItems cfg since deletePage) response)) := by
  have hbare := reports_toHistoryRecord cfg since deletePage files response
  have hsize : (toHistoryRecord cfg (upgradedItems cfg since deletePage) response).size =
    response.dataInt "size" := rfl
  have hscore : (toHistoryRecord cfg (upgradedItems cfg since deletePage) response).customFormatScore =
    response.customFormatScore := rfl
  have hgroup : (toHistoryRecord cfg (upgradedItems cfg since deletePage) response).releaseGroup =
    String.ofList (response.dataValue "releaseGroup") := rfl
  generalize toHistoryRecord cfg (upgradedItems cfg since deletePage) response = record at *
  rcases addFileDetails_cases (files response.id) record with hsame | ⟨details, hupgrade, hfile, heq⟩
  · rw [hsame]
    exact hbare
  · rw [heq]
    refine { hbare with size := ?_, customFormatScore := ?_, releaseGroup := ?_, unfilled := ?_ }
    · dsimp only
      split
      case isTrue hzero => exact Or.inr (hsize ▸ hzero)
      case isFalse => exact Or.inl hsize
    · dsimp only
      split
      case isTrue hnone => exact Or.inr (hscore ▸ hnone)
      case isFalse => exact Or.inl hscore
    · dsimp only
      split
      case isTrue hempty =>
        rw [hgroup, String.ofList_eq_empty_iff] at hempty
        exact Or.inr hempty
      case isFalse => exact Or.inl hgroup
    · rintro (hplain | hfailed)
      · exact absurd hupgrade (Bool.eq_false_iff.mp hplain)
      · exact absurd (hbare.id ▸ hfile) (hfailed details)

end Reports

/-- A poll whose import pages are all answered returns what its passes keep. -/
theorem fetchArrHistory_answered (cfg : HistoryConfig) (since : Time) (deletePage : Page)
    (pages : List (ℤ × List HistoryRecordResponse)) (files : FileLookups) :
    fetchArrHistory cfg since deletePage (answered pages) files =
      .ok ((keptImports cfg.itemIDField (importsAfter since pages)).map fun response ↦
        addFileDetails (files response.id)
          (toHistoryRecord cfg (upgradedItems cfg since deletePage) response)) := by
  unfold fetchArrHistory
  rw [collectImports_answered, addImportPage_eq_append cfg since _ (fun _ ↦ Iff.rfl),
    List.nil_append]
  exact congrArg Except.ok
    (finishImports_map cfg (upgradedItems cfg since deletePage) files (importsAfter since pages))

/-- A poll that does not fail had an answer from every import page. -/
theorem exists_answered {cfg : HistoryConfig} {since : Time} {deletePage : Page}
    {pages : List (ℤ × Page)} {files : FileLookups} {records : List HistoryRecord}
    (hpoll : fetchArrHistory cfg since deletePage pages files = .ok records) :
    ∃ answers, pages = answered answers := by
  have hfailed : ∀ eventType err, (eventType, .error err) ∉ pages := by
    intro eventType err hmem
    obtain ⟨err', herr⟩ :=
      collectImports_failed cfg since (upgradedItems cfg since deletePage) [] hmem
    unfold fetchArrHistory at hpoll
    rw [herr] at hpoll
    cases hpoll
  clear hpoll
  induction pages with
  | nil => exact ⟨[], rfl⟩
  | cons page pages ih =>
    obtain ⟨answers, rfl⟩ := ih fun eventType err hmem ↦
      hfailed eventType err (List.mem_cons_of_mem _ hmem)
    obtain ⟨eventType, page⟩ := page
    cases page with
    | error err => exact absurd List.mem_cons_self (hfailed eventType err)
    | ok responses => exact ⟨(eventType, responses) :: answers, rfl⟩

/-- Every record of a poll reports a response on one of its pages. -/
theorem exists_reported {cfg : HistoryConfig} {since : Time} {deletePage : Page}
    {pages : List (ℤ × Page)} {files : FileLookups} {records : List HistoryRecord}
    (hpoll : fetchArrHistory cfg since deletePage pages files = .ok records) {record : HistoryRecord}
    (hrecord : record ∈ records) :
    ∃ page ∈ pages, ∃ responses, page.2 = .ok responses ∧ ∃ response ∈ responses,
      Reports cfg since deletePage files response record := by
  obtain ⟨answers, rfl⟩ := exists_answered hpoll
  rw [fetchArrHistory_answered] at hpoll
  obtain rfl := Except.ok.inj hpoll
  obtain ⟨response, hkept, rfl⟩ := List.mem_map.mp hrecord
  have hmem : response ∈ importsAfter since answers :=
    (firstPerKey_sublist _).subset
      ((List.mem_insertionSort NewestFirst).mp ((firstPerKey_sublist _).subset hkept))
  obtain ⟨page, hpage, hresponse⟩ := List.mem_flatMap.mp (List.mem_filter.mp hmem).1
  exact ⟨_, List.mem_map.mpr ⟨page, hpage, rfl⟩, page.2, rfl, response, hresponse,
    reports_addFileDetails cfg since deletePage files response⟩

/-- The poll computes its specification: its result holds, newest first, what is reported of the
newest import record of every item and of the import records without an item, whatever the order of
the pages and of their records; and a failed import page makes it fail. -/
theorem fetchArrHistory_meets_specification (cfg : HistoryConfig) (since : Time) (deletePage : Page) :
    (∀ pages, (∀ first ∈ importsAfter since pages, ∀ second ∈ importsAfter since pages,
        first.id = second.id → first = second) →
      (∃ kept, KeepsNewest cfg.itemIDField (importsAfter since pages) kept ∧
        ∀ files, ∃ result,
          fetchArrHistory cfg since deletePage (answered pages) files = .ok result ∧
          List.Forall₂ (Reports cfg since deletePage files) kept result) ∧
      ∀ pages', SamePages pages pages' → ∀ files,
        fetchArrHistory cfg since deletePage (answered pages') files =
          fetchArrHistory cfg since deletePage (answered pages) files) ∧
    ∀ importPages files, (∃ eventType err, (eventType, .error err) ∈ importPages) →
      ∃ err, fetchArrHistory cfg since deletePage importPages files = .error err := by
  refine ⟨fun pages hids ↦ ⟨?_, fun pages' hsame files ↦ ?_⟩, fun importPages files hfailed ↦ ?_⟩
  · refine ⟨_, keptImports_keepsNewest cfg.itemIDField hids, fun files ↦
      ⟨_, fetchArrHistory_answered cfg since deletePage pages files, ?_⟩⟩
    exact List.forall₂_map_right_iff.mpr (List.forall₂_same.mpr fun response _ ↦
      reports_addFileDetails cfg since deletePage files response)
  · have hperm := importsAfter_perm since hsame
    have hids' : ∀ first ∈ importsAfter since pages', ∀ second ∈ importsAfter since pages',
        first.id = second.id → first = second := by
      simp only [← hperm.mem_iff]
      exact hids
    have hkept : keptImports cfg.itemIDField (importsAfter since pages') =
        keptImports cfg.itemIDField (importsAfter since pages) :=
      (keptImports_keepsNewest cfg.itemIDField hids').unique
        ((keptImports_keepsNewest cfg.itemIDField hids).perm hperm)
    rw [fetchArrHistory_answered, fetchArrHistory_answered, hkept]
  · obtain ⟨eventType, err, hmem⟩ := hfailed
    obtain ⟨err', herr⟩ :=
      collectImports_failed cfg since (upgradedItems cfg since deletePage) [] hmem
    unfold fetchArrHistory
    rw [herr]
    exact ⟨err', rfl⟩

/-- An import of a movie. -/
def sampleImport (id movieID : ℤ) (date : Time) : HistoryRecordResponse :=
  ⟨id, date, "", ∅, "", "", none, 0, movieID, 0, none, none, none, none, none⟩

/-- Two pages that share a record and hold two imports of one movie. -/
theorem fetchArrHistory_of_overlapping_pages :
    let pages := [(3, [sampleImport 9 1 20, sampleImport 7 2 15]),
      (10, [sampleImport 7 2 15, sampleImport 4 1 12])]
    ∃ kept, KeepsNewest .movieId (importsAfter 10 pages) kept ∧
      ∀ files, ∃ result,
        fetchArrHistory whisparrV3History 10 (.error "") (answered pages) files = .ok result ∧
        List.Forall₂ (Reports whisparrV3History 10 (.error "") files) kept result := by
  intro pages
  have himports : importsAfter 10 pages = [sampleImport 9 1 20, sampleImport 7 2 15,
    sampleImport 7 2 15, sampleImport 4 1 12] := rfl
  refine ((fetchArrHistory_meets_specification whisparrV3History 10 (.error "")).1 pages ?_).1
  rw [himports]
  simp [sampleImport]

end Huntarr2.Arr
