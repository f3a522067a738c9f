import Huntarr2.Arr.Service
import Huntarr2.Scheduler.Effects

/-!
# The batch of a search cycle

A search cycle as the sequence of its calls to the other components, for arbitrary answers. The world
a cycle leaves is what these calls make of it. The batch is the beginning of the candidates that are
not cooling down; it is cut after the cooling ones were taken out.
-/

namespace Huntarr2.Scheduling

open Activity Arr Cooldown GoStd Settings

/-! ## The calls -/

/-- A call of a search cycle to another component. A search is the command that reaches the instance. -/
inductive Call
  | upgradeable (instanceID : UUID)
  | filterCoolingDown (instanceID : UUID) (itemIDs : List ℤ) (period : Duration)
  | search (instanceID : UUID) (itemIDs : List ℤ)
  | recordSearches (instanceID : UUID) (itemIDs : List ℤ)
  | log (entry : Entry)

/-- What the components answer, the instance to a search command. The cycle goes on the same way whatever
`RecordSearches` answers. -/
structure Answers where
  upgradeable : Except String UpgradeResult
  filterCoolingDown : Except String (List ℤ)
  adapterName : String
  search : Except String Unit

/-- `runInstanceCycle`: its calls, and the pair it returns unless the batch slice panics. -/
def cycleCalls (inst : Instance) (resolved : Resolved) (cancelled : Bool) (answers : Answers) :
    List Call × Option (ℕ × ℕ) :=
  if cancelled then ([], some (0, 0))
  else match answers.upgradeable with
    | .error err => ([.upgradeable inst.id, .log (fetchFailedEntry inst err)], some (0, 0))
    | .ok result =>
      let items := candidates result resolved.searchMissing
      let totalItems := items.length
      if totalItems = 0 then
        ([.upgradeable inst.id, .log (noItemsEntry inst result.stats resolved.searchMissing)],
          some (0, 0))
      else
        let itemIDs := items.map (·.id)
        let asked : List Call := [.upgradeable inst.id,
          .filterCoolingDown inst.id itemIDs resolved.cooldownPeriod]
        match answers.filterCoolingDown with
        | .error _ => (asked, some (0, totalItems))
        | .ok coolingDown =>
          let searchIDs := excludeIDs itemIDs coolingDown
          if searchIDs.length = 0 then
            (asked ++ [.log (allCoolingEntry inst totalItems coolingDown.length)],
              some (0, totalItems))
          else match if resolved.batchSize < searchIDs.length then
              sliceTo searchIDs resolved.batchSize else some searchIDs with
            | none => (asked, none)
            | some searchIDs =>
              let (sent, answer) := adapterSearch answers.adapterName answers.search searchIDs
              let searches := sent.map (.search inst.id)
              match answer with
              | .error err =>
                (asked ++ searches ++
                  [.log (searchFailedEntry inst err (searchedItems items searchIDs))],
                  some (0, totalItems))
              | .ok _ =>
                (asked ++ searches ++ [.recordSearches inst.id searchIDs,
                  .log (searchedEntry inst result resolved.batchSize searchIDs.length
                    coolingDown.length totalItems (searchedItems items searchIDs))],
                  some (searchIDs.length, totalItems))

/-- A slice that is cut only when it is too long is the batch, unless the bound is negative. -/
theorem batch_eq_selectBatch (itemIDs coolingDown : List ℤ) {batchSize : ℤ} (hbatch : 0 ≤ batchSize) :
    (if batchSize < (excludeIDs itemIDs coolingDown).length then
      sliceTo (excludeIDs itemIDs coolingDown) batchSize else some (excludeIDs itemIDs coolingDown)) =
      some (selectBatch itemIDs coolingDown batchSize) := by
  unfold selectBatch sliceTo
  dsimp only
  split_ifs with hlong hbound
  · rfl
  · exact absurd ⟨hbatch, hlong.le⟩ hbound
  · rfl

/-- With a negative bound the slice is taken and panics. -/
theorem slice_panics_of_neg {batchSize : ℤ} (hbatch : batchSize < 0) (searchIDs : List ℤ) :
    (if batchSize < searchIDs.length then sliceTo searchIDs batchSize else some searchIDs) =
      none := by
  unfold sliceTo
  rw [if_pos (by omega), if_neg (by omega)]

/-! ## The calls of a cycle in the world -/

/-- The candidates the cooldown filter is asked about. -/
def CycleIO.candidateIDs (io : CycleIO) (resolved : Resolved) : List ℤ :=
  match io.upgradeable with
  | .error _ => []
  | .ok result => Scheduling.candidateIDs result resolved

/-- The answers of the components in the world, through an adapter with this name. -/
def CycleIO.answers (io : CycleIO) (world : World) (inst : Instance) (resolved : Resolved)
    (adapterName : String) : Answers where
  upgradeable := io.upgradeable
  filterCoolingDown := Cooldown.filterCoolingDown world.cooldowns inst.id (io.candidateIDs resolved)
    resolved.cooldownPeriod io.filterAt io.filterFailure
  adapterName := adapterName
  search := match io.searchFailure with
    | some err => .error err
    | none => .ok ()

/-- What a call does to the world. -/
def performCall (resolved : Resolved) (io : CycleIO) (world : World) : Call → World
  | .upgradeable _ => world
  | .filterCoolingDown instanceID _ _ => world.emit (.filtered instanceID io.filterAt)
  | .search instanceID itemIDs =>
    match io.searchFailure with
    | some _ => world
    | none => world.emit (.searched ⟨instanceID, itemIDs, io.searchAt, resolved.cooldownPeriod⟩)
  | .recordSearches instanceID itemIDs =>
    { world.emit (.recorded instanceID itemIDs io.recordAt) with
      cooldowns := (recordSearches world.cooldowns instanceID itemIDs io.recordAt
        io.recordFailure).2 }
  | .log entry => world.log entry

/-- A batch is empty only when nothing is left to search. -/
theorem selectBatch_ne_nil {itemIDs coolingDown : List ℤ} {batchSize : ℤ} (hbatch : 1 ≤ batchSize)
    (hleft : (excludeIDs itemIDs coolingDown).length ≠ 0) :
    selectBatch itemIDs coolingDown batchSize ≠ [] := by
  rw [selectBatch_eq_take _ _ (by omega), ← List.length_pos_iff, List.length_take]
  omega

/-- A cycle does to the world what its calls do, and returns the pair they lead to. -/
theorem runInstanceCycle_eq_performCalls (world : World) (inst : Instance) {resolved : Resolved}
    (hbatch : 1 ≤ resolved.batchSize) (cancelled : Bool) (io : CycleIO) (adapterName : String) :
    (cycleCalls inst resolved cancelled (io.answers world inst resolved adapterName)).2 =
        some (runInstanceCycle world inst resolved cancelled io).2 ∧
      (runInstanceCycle world inst resolved cancelled io).1 =
        (cycleCalls inst resolved cancelled (io.answers world inst resolved adapterName)).1.foldl
          (performCall resolved io) world := by
  unfold cycleCalls runInstanceCycle
  cases cancelled with
  | true => exact ⟨rfl, rfl⟩
  | false =>
    rw [if_neg Bool.false_ne_true, if_neg Bool.false_ne_true]
    cases hfetched : io.upgradeable with
    | error err =>
      have hanswer : (io.answers world inst resolved adapterName).upgradeable = .error err := hfetched
      rw [hanswer]
      exact ⟨rfl, rfl⟩
    | ok result =>
      have hanswer : (io.answers world inst resolved adapterName).upgradeable = .ok result := hfetched
      have hfilter : (io.answers world inst resolved adapterName).filterCoolingDown =
          Cooldown.filterCoolingDown world.cooldowns inst.id
            ((candidates result resolved.searchMissing).map (·.id)) resolved.cooldownPeriod
            io.filterAt io.filterFailure := by
        unfold CycleIO.answers CycleIO.candidateIDs
        rw [hfetched]
        rfl
      rw [hanswer]
      dsimp only
      by_cases hnone : (candidates result resolved.searchMissing).length = 0
      · rw [if_pos hnone, if_pos hnone]
        exact ⟨rfl, rfl⟩
      · rw [if_neg hnone, if_neg hnone, hfilter]
        dsimp only [World.emit]
        cases hfiltered : Cooldown.filterCoolingDown world.cooldowns inst.id
            ((candidates result resolved.searchMissing).map (·.id)) resolved.cooldownPeriod
            io.filterAt io.filterFailure with
        | error err => exact ⟨rfl, rfl⟩
        | ok coolingDown =>
          dsimp only
          rw [batch_eq_selectBatch _ _ (by omega)]
          by_cases hleft : (excludeIDs ((candidates result resolved.searchMissing).map (·.id))
              coolingDown).length = 0
          · rw [if_pos hleft, if_pos (by simpa using hleft)]
            exact ⟨rfl, rfl⟩
          · rw [if_neg hleft, if_neg (by simpa using hleft)]
            dsimp only [ CycleIO.answers]
            rw [adapterSearch_of_ne_nil _ _ (selectBatch_ne_nil hbatch hleft)]
            cases haccepted : io.searchFailure with
            | some err => simp [performCall, haccepted, World.log, World.emit]
            | none => simp [performCall, haccepted, World.log, World.emit]

/-! ## What is sent -/

/-- The items of a batch: the first candidates that are not cooling down. -/
def batchItems (result : UpgradeResult) (resolved : Resolved) (coolingDown : List ℤ) :
    List UpgradeItem :=
  ((candidates result resolved.searchMissing).filter fun item ↦ item.id ∉ coolingDown).take
    resolved.batchSize.toNat

theorem excludeIDs_map (items : List UpgradeItem) (coolingDown : List ℤ) :
    excludeIDs (items.map (·.id)) coolingDown =
      (items.filter fun item ↦ item.id ∉ coolingDown).map (·.id) := by
  unfold excludeIDs
  rw [List.filter_map]
  rfl

theorem length_excludeIDs_eq_zero_iff (items : List UpgradeItem) (coolingDown : List ℤ) :
    (excludeIDs (items.map (·.id)) coolingDown).length = 0 ↔
      ∀ item ∈ items, item.id ∈ coolingDown := by
  rw [excludeIDs_map, List.length_map, List.length_eq_zero_iff, List.filter_eq_nil_iff]
  exact forall₂_congr fun item _ ↦ by simp

theorem batchItems_eq_nil (result : UpgradeResult) {resolved : Resolved}
    (hbatch : resolved.batchSize = 0) (coolingDown : List ℤ) :
    batchItems result resolved coolingDown = [] := by
  unfold batchItems
  rw [hbatch]
  rfl

theorem selectBatch_eq_map (result : UpgradeResult) {resolved : Resolved}
    (hbatch : 0 ≤ resolved.batchSize) (coolingDown : List ℤ) :
    selectBatch ((candidates result resolved.searchMissing).map (·.id)) coolingDown
        resolved.batchSize = (batchItems result resolved coolingDown).map (·.id) := by
  unfold batchItems
  rw [selectBatch_eq_take _ _ hbatch, excludeIDs_map, List.map_take]

/-- How a cycle in a live context ends. -/
theorem cycleCalls_cases {motive : List Call × Option (ℕ × ℕ) → Prop} (inst : Instance)
    {resolved : Resolved} (hbatch : 0 ≤ resolved.batchSize) (answers : Answers)
    (failed : ∀ err, answers.upgradeable = .error err →
      motive ([.upgradeable inst.id, .log (fetchFailedEntry inst err)], some (0, 0)))
    (empty : ∀ result, answers.upgradeable = .ok result →
      candidates result resolved.searchMissing = [] →
      motive ([.upgradeable inst.id,
        .log (noItemsEntry inst result.stats resolved.searchMissing)], some (0, 0)))
    (unfiltered : ∀ result err, answers.upgradeable = .ok result →
      answers.filterCoolingDown = .error err → candidates result resolved.searchMissing ≠ [] →
      motive ([.upgradeable inst.id,
        .filterCoolingDown inst.id (candidateIDs result resolved) resolved.cooldownPeriod],
        some (0, (candidates result resolved.searchMissing).length)))
    (cooling : ∀ result coolingDown, answers.upgradeable = .ok result →
      answers.filterCoolingDown = .ok coolingDown → candidates result resolved.searchMissing ≠ [] →
      (∀ item ∈ candidates result resolved.searchMissing, item.id ∈ coolingDown) →
      motive ([.upgradeable inst.id,
        .filterCoolingDown inst.id (candidateIDs result resolved) resolved.cooldownPeriod,
        .log (allCoolingEntry inst (candidates result resolved.searchMissing).length
          coolingDown.length)], some (0, (candidates result resolved.searchMissing).length)))
    (unsent : ∀ result coolingDown, answers.upgradeable = .ok result →
      answers.filterCoolingDown = .ok coolingDown → resolved.batchSize = 0 →
      motive ([.upgradeable inst.id,
        .filterCoolingDown inst.id (candidateIDs result resolved) resolved.cooldownPeriod,
        .log (searchFailedEntry inst s!"{answers.adapterName} search: no item IDs provided" [])],
        some (0, (candidates result resolved.searchMissing).length)))
    (refused : ∀ result coolingDown err, answers.upgradeable = .ok result →
      answers.filterCoolingDown = .ok coolingDown → answers.search = .error err →
      1 ≤ resolved.batchSize →
      (∃ item ∈ candidates result resolved.searchMissing, item.id ∉ coolingDown) →
      motive ([.upgradeable inst.id,
        .filterCoolingDown inst.id (candidateIDs result resolved) resolved.cooldownPeriod,
        .search inst.id ((batchItems result resolved coolingDown).map (·.id)),
        .log (searchFailedEntry inst err (searchedItems (candidates result resolved.searchMissing)
          ((batchItems result resolved coolingDown).map (·.id))))],
        some (0, (candidates result resolved.searchMissing).length)))
    (sent : ∀ result coolingDown, answers.upgradeable = .ok result →
      answers.filterCoolingDown = .ok coolingDown → answers.search = .ok () →
      1 ≤ resolved.batchSize →
      (∃ item ∈ candidates result resolved.searchMissing, item.id ∉ coolingDown) →
      motive ([.upgradeable inst.id,
        .filterCoolingDown inst.id (candidateIDs result resolved) resolved.cooldownPeriod,
        .search inst.id ((batchItems result resolved coolingDown).map (·.id)),
        .recordSearches inst.id ((batchItems result resolved coolingDown).map (·.id)),
        .log (searchedEntry inst result resolved.batchSize
          (batchItems result resolved coolingDown).length coolingDown.length
          (candidates result resolved.searchMissing).length
          (searchedItems (candidates result resolved.searchMissing)
            ((batchItems result resolved coolingDown).map (·.id))))],
        some ((batchItems result resolved coolingDown).length,
          (candidates result resolved.searchMissing).length))) :
    motive (cycleCalls inst resolved false answers) := by
  unfold cycleCalls
  rw [if_neg Bool.false_ne_true]
  cases hfetched : answers.upgradeable with
  | error err => exact failed err hfetched
  | ok result =>
    dsimp only
    by_cases hnone : (candidates result resolved.searchMissing).length = 0
    · rw [if_pos hnone]
      exact empty result hfetched (List.length_eq_zero_iff.mp hnone)
    · have hsome : candidates result resolved.searchMissing ≠ [] :=
        fun hempty ↦ hnone (List.length_eq_zero_iff.mpr hempty)
      rw [if_neg hnone]
      cases hfiltered : answers.filterCoolingDown with
      | error err => exact unfiltered result err hfetched hfiltered hsome
      | ok coolingDown =>
        dsimp only
        rw [batch_eq_selectBatch _ _ hbatch]
        by_cases hleft : (excludeIDs ((candidates result resolved.searchMissing).map (·.id))
            coolingDown).length = 0
        · rw [if_pos hleft]
          exact cooling result coolingDown hfetched hfiltered hsome
            ((length_excludeIDs_eq_zero_iff _ _).mp hleft)
        · rw [if_neg hleft]
          have hawake : ∃ item ∈ candidates result resolved.searchMissing, item.id ∉ coolingDown := by
            rw [length_excludeIDs_eq_zero_iff] at hleft
            push Not at hleft
            exact hleft
          dsimp only
          rcases hbatch.lt_or_eq with hpos | hzero
          · rw [adapterSearch_of_ne_nil _ _ (selectBatch_ne_nil hpos hleft),
              selectBatch_eq_map result hbatch, List.length_map]
            cases haccepted : answers.search with
            | error err => exact refused result coolingDown err hfetched hfiltered haccepted hpos hawake
            | ok _ => exact sent result coolingDown hfetched hfiltered haccepted hpos hawake
          · -- A batch of no item is refused by the adapter.
            rw [selectBatch_eq_map result hbatch, batchItems_eq_nil result hzero.symm]
            exact unsent result coolingDown hfetched hfiltered hzero.symm

/-- A value of an entry's details. -/
def detail (entry : Entry) (key : String) : Option DetailValue :=
  entry.details.bind fun details ↦ details.lookup key

/-- The labels and paths of items, as they are logged. -/
def labelled (items : List UpgradeItem) : List (String × String) :=
  items.map fun item ↦ (item.label, item.detailPath)

/-- What a cycle sends, records, returns and logs, for every answer it may get. -/
structure SelectsBatch (inst : Instance) (resolved : Resolved) (answers : Answers)
    (run : List Call × Option (ℕ × ℕ)) : Prop where
  /-- A command is sent when both queries succeed and some candidate is not cooling down. -/
  sends_iff : (∃ ids, .search inst.id ids ∈ run.1) ↔
    ∃ result coolingDown, answers.upgradeable = .ok result ∧
      answers.filterCoolingDown = .ok coolingDown ∧
      ∃ item ∈ candidates result resolved.searchMissing, item.id ∉ coolingDown
  batch : ∀ ids result coolingDown, answers.upgradeable = .ok result →
    answers.filterCoolingDown = .ok coolingDown → .search inst.id ids ∈ run.1 →
    ids = (batchItems result resolved coolingDown).map (·.id)
  upgradesFirst : ∀ ids result coolingDown, answers.upgradeable = .ok result →
    answers.filterCoolingDown = .ok coolingDown → .search inst.id ids ∈ run.1 →
    resolved.searchMissing = true → (∃ missing ∈ result.missingItems, missing.id ∈ ids) →
    ∀ item ∈ result.items, item.id ∉ coolingDown → item.id ∈ ids
  /-- Searches are recorded after a successful command, with its IDs. -/
  recorded : ∀ instanceID ids, .recordSearches instanceID ids ∈ run.1 ↔
    [.search instanceID ids, .recordSearches instanceID ids].Sublist run.1 ∧ answers.search = .ok ()
  fetchFailed : ∀ err, answers.upgradeable = .error err → run.2 = some (0, 0)
  unsuccessful : ∀ result, answers.upgradeable = .ok result →
    ¬((∃ ids, .search inst.id ids ∈ run.1) ∧ answers.search = .ok ()) →
    run.2 = some (0, (candidates result resolved.searchMissing).length)
  successful : ∀ result ids, answers.upgradeable = .ok result → .search inst.id ids ∈ run.1 →
    answers.search = .ok () →
    run.2 = some (ids.length, (candidates result resolved.searchMissing).length) ∧
      .recordSearches inst.id ids ∈ run.1
  logged : ∀ ids result coolingDown, answers.upgradeable = .ok result →
    answers.filterCoolingDown = .ok coolingDown → .search inst.id ids ∈ run.1 →
    ∃ entry, .log entry ∈ run.1 ∧
      detail entry "searchedItems" = some (.items (labelled (batchItems result resolved coolingDown)))
  skipped : ∀ entry count, .log entry ∈ run.1 → detail entry "skipped" = some (.int count) →
    0 ≤ count

/-- The label and the path of a searched item are looked up by its ID. -/
theorem searchedItems_eq_labelled {items sent : List UpgradeItem}
    (hdistinct : (items.map (·.id)).Nodup) (hsent : sent ⊆ items) :
    searchedItems items (sent.map (·.id)) = labelled sent := by
  unfold searchedItems labelled
  rw [List.map_map]
  refine List.map_congr_left fun item hitem ↦ ?_
  have hfind : items.reverse.find? (fun other ↦ other.id = item.id) = some item := by
    obtain ⟨found, hfound⟩ := Option.isSome_iff_exists.mp (List.find?_isSome.mpr
      ⟨item, List.mem_reverse.mpr (hsent hitem), by simp⟩ :
        (items.reverse.find? fun other ↦ other.id = item.id).isSome = true)
    have hid : found.id = item.id := by simpa using List.find?_some hfound
    have hmem : found ∈ items := List.mem_reverse.mp (List.mem_of_find?_eq_some hfound)
    rw [hfound, List.inj_on_of_nodup_map hdistinct hmem (hsent hitem) hid]
  dsimp only [Function.comp_apply]
  rw [hfind]

/-- A missing item is in the batch only behind all upgradeable items that are not cooling down. -/
theorem upgrades_before_missing {result : UpgradeResult} {resolved : Resolved}
    (hmissing : resolved.searchMissing = true)
    (hdistinct : (candidateIDs result resolved).Nodup) {coolingDown : List ℤ}
    {missing : UpgradeItem} (hmem : missing ∈ result.missingItems)
    (hsent : missing.id ∈ (batchItems result resolved coolingDown).map (·.id)) {item : UpgradeItem}
    (hitem : item ∈ result.items) (hawake : item.id ∉ coolingDown) :
    item ∈ batchItems result resolved coolingDown := by
  have hcandidates : candidates result resolved.searchMissing =
      result.items ++ result.missingItems := by
    unfold candidates
    rw [if_pos hmissing]
  obtain ⟨sent, hsentMem, hsentID⟩ := List.mem_map.mp hsent
  unfold candidateIDs at hdistinct
  unfold batchItems at hsentMem ⊢
  rw [hcandidates] at hdistinct hsentMem ⊢
  have hsame : sent = missing := by
    have hsentCandidate := List.mem_of_mem_filter (List.mem_of_mem_take hsentMem)
    exact List.inj_on_of_nodup_map hdistinct hsentCandidate (List.mem_append_right _ hmem) hsentID
  have hnotUpgrade : missing ∉ result.items := by
    rw [List.map_append] at hdistinct
    exact fun hupgrade ↦ (List.disjoint_of_nodup_append hdistinct) (List.mem_map_of_mem hupgrade)
      (List.mem_map_of_mem hmem)
  rw [hsame, List.filter_append] at hsentMem
  rw [List.filter_append]
  by_cases hshort : resolved.batchSize.toNat ≤
      (result.items.filter fun item ↦ item.id ∉ coolingDown).length
  · rw [List.take_append_of_le_length hshort] at hsentMem
    exact absurd (List.mem_of_mem_filter (List.mem_of_mem_take hsentMem)) hnotUpgrade
  · rw [List.take_append, List.take_of_length_le (not_le.mp hshort).le]
    exact List.mem_append_left _ (List.mem_filter.mpr ⟨hitem, by simpa using hawake⟩)

/-- A batch is no longer than the batch size and the candidate list. -/
theorem length_batchItems_le (result : UpgradeResult) {resolved : Resolved}
    (hbatch : 0 ≤ resolved.batchSize) (coolingDown : List ℤ) :
    ((batchItems result resolved coolingDown).length : ℤ) ≤
      min ((candidates result resolved.searchMissing).length : ℤ) resolved.batchSize := by
  unfold batchItems
  have hfilter := List.length_filter_le (fun item : UpgradeItem ↦ decide (item.id ∉ coolingDown))
    (candidates result resolved.searchMissing)
  rw [List.length_take]
  omega

theorem batchItems_subset (result : UpgradeResult) (resolved : Resolved) (coolingDown : List ℤ) :
    batchItems result resolved coolingDown ⊆ candidates result resolved.searchMissing :=
  fun _ h ↦ List.mem_of_mem_filter (List.mem_of_mem_take h)

/-- A cycle that sends no command selects nothing. -/
theorem selectsBatch_of_not_sent {inst : Instance} {resolved : Resolved} {answers : Answers}
    {calls : List Call} {totalItems : ℕ}
    (hsearch : ∀ instanceID ids, .search instanceID ids ∉ calls)
    (hrecord : ∀ instanceID ids, .recordSearches instanceID ids ∉ calls)
    (hskipped : ∀ entry, .log entry ∈ calls → detail entry "skipped" = none)
    (hnone : ∀ result coolingDown, answers.upgradeable = .ok result →
      answers.filterCoolingDown = .ok coolingDown →
      ∀ item ∈ candidates result resolved.searchMissing, item.id ∈ coolingDown)
    (hfailed : ∀ err, answers.upgradeable = .error err → totalItems = 0)
    (htotal : ∀ result, answers.upgradeable = .ok result →
      totalItems = (candidates result resolved.searchMissing).length) :
    SelectsBatch inst resolved answers (calls, some (0, totalItems)) where
  sends_iff := by
    constructor
    · rintro ⟨ids, h⟩
      exact absurd h (hsearch _ _)
    · rintro ⟨result, coolingDown, hfetched, hfiltered, item, hitem, hawake⟩
      exact absurd (hnone result coolingDown hfetched hfiltered item hitem) hawake
  batch _ _ _ _ _ h := absurd h (hsearch _ _)
  upgradesFirst _ _ _ _ _ h := absurd h (hsearch _ _)
  recorded _ _ := ⟨fun h ↦ absurd h (hrecord _ _),
    fun h ↦ absurd (h.1.subset List.mem_cons_self) (hsearch _ _)⟩
  fetchFailed err h := by rw [hfailed err h]
  unsuccessful result h _ := by rw [htotal result h]
  successful _ _ _ h := absurd h (hsearch _ _)
  logged _ _ _ _ _ h := absurd h (hsearch _ _)
  skipped entry _ h hcount := by
    rw [hskipped entry h] at hcount
    cases hcount

/-- A cycle that fetched its candidates and sends no command returns their number. -/
theorem selectsBatch_of_fetched {inst : Instance} {resolved : Resolved} {answers : Answers}
    {result : UpgradeResult} {calls : List Call} (hfetched : answers.upgradeable = .ok result)
    (hsearch : ∀ instanceID ids, .search instanceID ids ∉ calls)
    (hrecord : ∀ instanceID ids, .recordSearches instanceID ids ∉ calls)
    (hskipped : ∀ entry, .log entry ∈ calls → detail entry "skipped" = none)
    (hnone : ∀ coolingDown, answers.filterCoolingDown = .ok coolingDown →
      ∀ item ∈ candidates result resolved.searchMissing, item.id ∈ coolingDown) :
    SelectsBatch inst resolved answers
      (calls, some (0, (candidates result resolved.searchMissing).length)) := by
  refine selectsBatch_of_not_sent hsearch hrecord hskipped
    (fun fetched coolingDown h hfiltered ↦ ?_) (fun err h ↦ ?_) (fun fetched h ↦ ?_)
  · obtain rfl : result = fetched := Except.ok.inj (hfetched.symm.trans h)
    exact hnone coolingDown hfiltered
  · rw [hfetched] at h
    cases h
  · obtain rfl : result = fetched := Except.ok.inj (hfetched.symm.trans h)
    rfl

/-- A cycle that sends its batch selects it, whether or not the instance accepts the command. -/
theorem selectsBatch_of_sent {inst : Instance} {resolved : Resolved} {answers : Answers}
    {result : UpgradeResult} {coolingDown : List ℤ} {calls : List Call} {pair : ℕ × ℕ}
    (hdistinct : (candidateIDs result resolved).Nodup)
    (hfetched : answers.upgradeable = .ok result)
    (hfiltered : answers.filterCoolingDown = .ok coolingDown)
    (hawake : ∃ item ∈ candidates result resolved.searchMissing, item.id ∉ coolingDown)
    (hsearch : ∀ ids, .search inst.id ids ∈ calls ↔
      ids = (batchItems result resolved coolingDown).map (·.id))
    (hrecorded : ∀ instanceID ids, .recordSearches instanceID ids ∈ calls ↔
      [.search instanceID ids, .recordSearches instanceID ids].Sublist calls ∧ answers.search = .ok ())
    (hrefused : answers.search ≠ .ok () →
      pair = (0, (candidates result resolved.searchMissing).length))
    (haccepted : answers.search = .ok () →
      pair = ((batchItems result resolved coolingDown).length,
        (candidates result resolved.searchMissing).length) ∧
      .recordSearches inst.id ((batchItems result resolved coolingDown).map (·.id)) ∈ calls)
    (hlogged : ∃ entry, .log entry ∈ calls ∧ detail entry "searchedItems" =
      some (.items (searchedItems (candidates result resolved.searchMissing)
        ((batchItems result resolved coolingDown).map (·.id)))))
    (hskipped : ∀ entry count, .log entry ∈ calls → detail entry "skipped" = some (.int count) →
      0 ≤ count) :
    SelectsBatch inst resolved answers (calls, some pair) := by
  have honly {result' : UpgradeResult} (h : answers.upgradeable = .ok result') : result' = result :=
    Except.ok.inj (h.symm.trans hfetched)
  have honlyCooling {coolingDown' : List ℤ} (h : answers.filterCoolingDown = .ok coolingDown') :
      coolingDown' = coolingDown := Except.ok.inj (h.symm.trans hfiltered)
  refine ⟨⟨fun _ ↦ ⟨result, coolingDown, hfetched, hfiltered, hawake⟩,
    fun _ ↦ ⟨_, (hsearch _).mpr rfl⟩⟩, fun ids result' coolingDown' h h' hids ↦ ?_,
    fun ids result' coolingDown' h h' hids hmissing hsent item hitem hitemAwake ↦ ?_, hrecorded,
    fun err h ↦ ?_, fun result' h hnot ↦ ?_, fun result' ids h hids hok ↦ ?_,
    fun ids result' coolingDown' h h' _ ↦ ?_, hskipped⟩
  · rw [honly h, honlyCooling h']
    exact (hsearch ids).mp hids
  · rw [honly h] at hsent hitem
    rw [honlyCooling h'] at hitemAwake
    obtain ⟨missing, hmem, hmissingSent⟩ := hsent
    rw [(hsearch ids).mp hids] at hmissingSent ⊢
    exact List.mem_map_of_mem
      (upgrades_before_missing hmissing hdistinct hmem hmissingSent hitem hitemAwake)
  · rw [hfetched] at h
    cases h
  · rw [honly h]
    exact congrArg some (hrefused fun hok ↦ hnot ⟨⟨_, (hsearch _).mpr rfl⟩, hok⟩)
  · rw [honly h, (hsearch ids).mp hids, List.length_map]
    exact ⟨congrArg some (haccepted hok).1, (haccepted hok).2⟩
  · rw [honly h, honlyCooling h', ← searchedItems_eq_labelled hdistinct
      (batchItems_subset result resolved coolingDown)]
    exact hlogged

theorem detail_searchFailedEntry (inst : Instance) (err : String) (pairs : List (String × String)) :
    detail (searchFailedEntry inst err pairs) "searchedItems" = some (.items pairs) ∧
      detail (searchFailedEntry inst err pairs) "skipped" = none := by
  unfold detail searchFailedEntry
  exact ⟨(KeyedTable.lookup_ofPairs _ _).trans rfl, (KeyedTable.lookup_ofPairs _ _).trans rfl⟩

theorem detail_searchedEntry (inst : Instance) (result : UpgradeResult) (batchSize : ℤ)
    (searched coolingDown totalItems : ℕ) (pairs : List (String × String)) :
    detail (searchedEntry inst result batchSize searched coolingDown totalItems pairs)
        "searchedItems" = some (.items pairs) ∧
      detail (searchedEntry inst result batchSize searched coolingDown totalItems pairs) "skipped" =
        some (.int (min (totalItems : ℤ) batchSize - searched)) := by
  unfold detail searchedEntry
  exact ⟨(KeyedTable.lookup_ofPairs _ _).trans rfl, (KeyedTable.lookup_ofPairs _ _).trans rfl⟩

/-- A cycle in a live context selects its batch. -/
theorem cycleCalls_selectsBatch (inst : Instance) {resolved : Resolved}
    (hbatch : 1 ≤ resolved.batchSize) (answers : Answers)
    (hdistinct : ∀ result, answers.upgradeable = .ok result →
      (candidateIDs result resolved).Nodup) :
    SelectsBatch inst resolved answers (cycleCalls inst resolved false answers) := by
  refine cycleCalls_cases inst (by omega) answers (fun err hfetched ↦ ?_)
    (fun result hfetched hnone ↦ ?_) (fun result err hfetched hfiltered hsome ↦ ?_)
    (fun result coolingDown hfetched hfiltered hsome hcooling ↦ ?_)
    (fun _ _ _ _ hzero ↦ absurd hzero (by omega))
    (fun result coolingDown err hfetched hfiltered hrefused _ hawake ↦ ?_)
    (fun result coolingDown hfetched hfiltered haccepted _ hawake ↦ ?_)
  · refine selectsBatch_of_not_sent (by simp) (by simp) (fun entry hentry ↦ ?_)
      (fun result _ h ↦ ?_) (fun _ _ ↦ rfl) (fun result h ↦ ?_)
    · obtain rfl : entry = fetchFailedEntry inst err := by simpa using hentry
      rfl
    · rw [hfetched] at h
      cases h
    · rw [hfetched] at h
      cases h
  · have hpair : (0, 0) = (0, (candidates result resolved.searchMissing).length) := by
      rw [hnone, List.length_nil]
    rw [hpair]
    refine selectsBatch_of_fetched hfetched (by simp) (by simp) (fun entry hentry ↦ ?_)
      (fun coolingDown _ item hitem ↦ ?_)
    · obtain rfl : entry = noItemsEntry inst result.stats resolved.searchMissing := by
        simpa using hentry
      rfl
    · rw [hnone] at hitem
      exact absurd hitem List.not_mem_nil
  · refine selectsBatch_of_fetched hfetched (by simp) (by simp) (by simp)
      (fun coolingDown h ↦ ?_)
    rw [hfiltered] at h
    cases h
  · refine selectsBatch_of_fetched hfetched (by simp) (by simp) (fun entry hentry ↦ ?_)
      (fun cooling h ↦ ?_)
    · obtain rfl : entry = allCoolingEntry inst _ _ := by simpa using hentry
      rfl
    · obtain rfl : coolingDown = cooling := Except.ok.inj (hfiltered.symm.trans h)
      exact hcooling
  · refine selectsBatch_of_sent (hdistinct result hfetched) hfetched hfiltered hawake ?_ ?_ ?_ ?_ ?_ ?_
    · simp
    · simp [hrefused]
    · exact fun _ ↦ rfl
    · simp [hrefused]
    · exact ⟨_, List.mem_cons_of_mem _ (List.mem_cons_of_mem _ (List.mem_cons_of_mem _
        List.mem_cons_self)), (detail_searchFailedEntry inst err _).1⟩
    · intro entry count hmem hcount
      obtain rfl : entry = _ := by simpa using hmem
      rw [(detail_searchFailedEntry inst err _).2] at hcount
      cases hcount
  · have hlength := length_batchItems_le result (by omega : 0 ≤ resolved.batchSize) coolingDown
    refine selectsBatch_of_sent (hdistinct result hfetched) hfetched hfiltered hawake ?_ ?_ ?_ ?_ ?_ ?_
    · simp
    · simp only [haccepted, and_true, List.mem_cons, List.not_mem_nil, or_false, reduceCtorEq,
        false_or, Call.recordSearches.injEq]
      rintro instanceID ids
      constructor
      · rintro ⟨rfl, rfl⟩
        exact .cons _ (.cons _ (.cons_cons _ (.cons_cons _ (List.nil_sublist _))))
      · intro h
        simpa using h.subset (List.mem_cons_of_mem _ List.mem_cons_self)
    · exact fun hrefused ↦ absurd haccepted hrefused
    · simp
    · exact ⟨_, List.mem_cons_of_mem _ (List.mem_cons_of_mem _ (List.mem_cons_of_mem _
        (List.mem_cons_of_mem _ List.mem_cons_self))),
        (detail_searchedEntry inst result _ _ _ _ _).1⟩
    · intro entry count hmem hcount
      obtain rfl : entry = _ := by simpa using hmem
      rw [(detail_searchedEntry inst result _ _ _ _ _).2] at hcount
      obtain rfl := DetailValue.int.inj (Option.some.inj hcount)
      omega

/-- Three upgradeable items, the second of which is cooling down, and a missing one. -/
def sampleAnswers : Answers where
  upgradeable := .ok
    ⟨[⟨7, "First", "/movie/first"⟩, ⟨8, "Second", "/movie/second"⟩, ⟨9, "Third", "/movie/third"⟩],
      [⟨4, "Missing", "/movie/missing"⟩], ⟨4, 1, 0, 0, 0, 0, 0, 3⟩⟩
  filterCoolingDown := .ok [8]
  adapterName := "radarr"
  search := .ok ()

/-- The batch steps over the cooling item. -/
theorem cycleCalls_sampleAnswers :
    let run := cycleCalls ⟨1, "Radarr", ""⟩
      { Settings.defaults with batchSize := 2, searchMissing := true } false sampleAnswers
    .search 1 [7, 9] ∈ run.1 ∧ run.2 = some (2, 4) := by
  intro run
  have h : SelectsBatch ⟨1, "Radarr", ""⟩ _ sampleAnswers run :=
    cycleCalls_selectsBatch _ (by decide) sampleAnswers (by rintro _ ⟨⟩; decide)
  obtain ⟨ids, hids⟩ := h.sends_iff.mpr
    ⟨_, _, rfl, rfl, ⟨7, "First", "/movie/first"⟩, by decide, by decide⟩
  obtain rfl : ids = [7, 9] := h.batch ids _ _ rfl rfl hids
  exact ⟨hids, (h.successful _ _ rfl hids rfl).1⟩

/-! ## No item twice in a command -/

/-- Without a positive batch size a cycle sends nothing: the adapter refuses an empty batch, and a
negative bound panics. -/
theorem not_mem_search_of_nonpos {inst : Instance} {resolved : Resolved}
    (hbatch : resolved.batchSize ≤ 0) (answers : Answers) (instanceID : UUID) (ids : List ℤ) :
    .search instanceID ids ∉ (cycleCalls inst resolved false answers).1 := by
  rcases hbatch.lt_or_eq with hneg | hzero
  · unfold cycleCalls
    simp only [slice_panics_of_neg hneg]
    rw [if_neg Bool.false_ne_true]
    cases answers.upgradeable with
    | error err => simp
    | ok result =>
      dsimp only
      split
      · simp
      · cases answers.filterCoolingDown with
        | error err => simp
        | ok coolingDown =>
          dsimp only
          split <;> simp
  · have hpositive : ¬1 ≤ resolved.batchSize := by omega
    exact cycleCalls_cases (motive := fun run ↦ Call.search instanceID ids ∉ run.1) inst hzero.ge
      answers (by simp) (by simp) (by simp) (by simp) (by simp)
      (fun _ _ _ _ _ _ hbatch ↦ absurd hbatch hpositive)
      (fun _ _ _ _ _ hbatch ↦ absurd hbatch hpositive)

theorem candidates_sublist (result : UpgradeResult) (searchMissing : Bool) :
    (candidates result searchMissing).Sublist (result.items ++ result.missingItems) := by
  unfold candidates
  split
  · exact List.Sublist.refl _
  · exact List.sublist_append_left _ _

/-- A command lists candidates in their order. -/
theorem sublist_of_mem_cycleCalls {inst : Instance} {resolved : Resolved} {cancelled : Bool}
    {answers : Answers} {instanceID : UUID} {ids : List ℤ}
    (h : .search instanceID ids ∈ (cycleCalls inst resolved cancelled answers).1) :
    ∃ result, answers.upgradeable = .ok result ∧
      ids.Sublist ((result.items ++ result.missingItems).map (·.id)) := by
  cases cancelled with
  | true => exact absurd h List.not_mem_nil
  | false =>
    have hbatch : 1 ≤ resolved.batchSize := by
      by_contra hnonpos
      exact not_mem_search_of_nonpos (by omega) answers _ _ h
    have hsublist (result : UpgradeResult) (coolingDown : List ℤ) :
        ((batchItems result resolved coolingDown).map (·.id)).Sublist
          ((result.items ++ result.missingItems).map (·.id)) :=
      ((List.take_sublist _ _).trans
        (List.filter_sublist.trans (candidates_sublist result _))).map _
    revert h
    refine cycleCalls_cases (motive := fun run ↦ Call.search instanceID ids ∈ run.1 → _) inst
      (by omega) answers (fun err _ h ↦ ?_) (fun result _ _ h ↦ ?_) (fun result err _ _ _ h ↦ ?_)
      (fun result coolingDown _ _ _ _ h ↦ ?_) (fun _ _ _ _ hzero ↦ absurd hzero (by omega))
      (fun result coolingDown err hfetched _ _ _ _ h ↦ ⟨result, hfetched, ?_⟩)
      (fun result coolingDown hfetched _ _ _ _ h ↦ ⟨result, hfetched, ?_⟩)
    · simp at h
    · simp at h
    · simp at h
    · simp at h
    · obtain ⟨-, rfl⟩ : instanceID = inst.id ∧ ids = (batchItems result resolved coolingDown).map
          (·.id) := by simpa using h
      exact hsublist result coolingDown
    · obtain ⟨-, rfl⟩ : instanceID = inst.id ∧ ids = (batchItems result resolved coolingDown).map
          (·.id) := by simpa using h
      exact hsublist result coolingDown

/-- Every item of a library falls into one bucket, the upgradeable and the missing candidates come
from different items, and no command repeats an ID of a library that lists each ID once. -/
theorem buckets_partition_and_commands_nodup :
    (∀ items profiles,
      let stats := (filterUpgradeable items profiles).2
      stats.libraryTotal = items.length ∧
      stats.libraryTotal = stats.noFile + stats.unmonitored + stats.noProfile +
        stats.upgradeBlocked + stats.unknownQuality + stats.atOrAbove + stats.upgradeable ∧
      (∀ reason, stats.counter reason = items.countP fun item ↦ bucket profiles item = reason) ∧
      (∀ item reason, bucket profiles item = reason ↔ FirstReason profiles item reason) ∧
      ∃ upgrades missing : List LibraryItem, upgrades.Sublist items ∧ missing.Sublist items ∧
        upgrades.Disjoint missing ∧
        (filterUpgradeable items profiles).1 = upgrades.map LibraryItem.toUpgradeItem ∧
        filterMissing items = missing.map LibraryItem.toUpgradeItem) ∧
    ∀ app items, app.libraryItems = .ok items → (items.map (·.id)).Nodup →
      let Sound (ids : List ℤ) := ids.Nodup ∧ ∀ id ∈ ids, ∃ item ∈ items,
        item.monitored = true ∧ item.id = id
      (∀ batchSize, ∀ ids ∈ (searchCycle (.ok app) batchSize).1, Sound ids) ∧
      ∀ inst resolved cancelled answers, answers.upgradeable = upgradeable (.ok app) →
        ∀ instanceID ids, .search instanceID ids ∈ (cycleCalls inst resolved cancelled answers).1 →
          Sound ids := by
  refine ⟨fun items profiles ↦ ?_, fun app items hitems hdistinct ↦ ?_⟩
  · intro stats
    have htotal : stats.libraryTotal = items.length := libraryTotal_filterUpgradeable items profiles
    have hcounter : ∀ reason, stats.counter reason = (items.map (bucket profiles)).count reason :=
      counter_filterUpgradeable items profiles
    refine ⟨htotal, ?_, fun reason ↦ ?_, fun item reason ↦ bucket_eq_iff, ?_⟩
    · have hsum := length_eq_sum_count (items.map (bucket profiles))
      rw [List.length_map] at hsum
      calc
        stats.libraryTotal = stats.counter .noFile + stats.counter .unmonitored +
            stats.counter .noProfile + stats.counter .upgradeBlocked +
            stats.counter .unknownQuality + stats.counter .atOrAbove +
            stats.counter .upgradeable := by
          simp only [hcounter, htotal, hsum]
          push_cast
          rfl
        _ = _ := rfl
    · refine (hcounter reason).trans ?_
      rw [List.count, List.countP_map]
      exact congrArg _ (List.countP_congr fun item _ ↦ by simp)
    · obtain ⟨upgrades, missing, hupgrades, hmissing, hfirst, hsecond, hfile, hnoFile⟩ :=
        exists_disjoint_sublists items profiles
      refine ⟨upgrades, missing, hupgrades, hmissing, fun item hupgrade hmiss ↦ ?_, hfirst, hsecond⟩
      have hwith := (hfile item hupgrade).1
      rw [(hnoFile item hmiss).1] at hwith
      cases hwith
  · intro Sound
    have hsound {result : UpgradeResult} (h : upgradeableWith app = .ok result) {ids : List ℤ}
        (hids : ids.Sublist ((result.items ++ result.missingItems).map (·.id))) : Sound ids := by
      obtain ⟨hnodup, hmonitored⟩ := candidates_of_library hdistinct hitems h
      exact ⟨hnodup.sublist hids, fun id hid ↦ hmonitored id (hids.subset hid)⟩
    refine ⟨fun batchSize ids hmem ↦ ?_, fun inst resolved cancelled answers hanswer id ids hmem ↦ ?_⟩
    · obtain ⟨result, hresult, hids⟩ := sublist_of_mem_searchCycle hmem
      exact hsound hresult hids
    · obtain ⟨result, hresult, hids⟩ := sublist_of_mem_cycleCalls hmem
      exact hsound (hanswer.symm.trans hresult) hids

/-- Both callers search an upgradeable item of a library and a missing one in one command, each once,
and not the item at the cutoff. -/
theorem commands_sampleLibrary :
    let items := [sampleItem [9], { sampleItem [7] with id := 6 },
      { sampleItem [] with id := 8, hasFile := false }]
    let app : App := ⟨.ok [sampleProfile], .ok items, "radarr", fun _ ↦ .ok ()⟩
    let answers : Answers := ⟨upgradeable (.ok app), .ok [], "radarr", .ok ()⟩
    let cycle := cycleCalls ⟨1, "Radarr", ""⟩ { Settings.defaults with searchMissing := true } false
      answers
    let Sound (ids : List ℤ) := ids.Nodup ∧ ∀ id ∈ ids, ∃ item ∈ items,
      item.monitored = true ∧ item.id = id
    (searchCycle (.ok app) 4).1 = [[5, 8]] ∧ (.search 1 [5, 8] : Call) ∈ cycle.1 ∧
      (∀ ids ∈ (searchCycle (.ok app) 4).1, Sound ids) ∧
      ∀ ids, .search 1 ids ∈ cycle.1 → Sound ids := by
  intro items app answers cycle Sound
  obtain ⟨hservice, hcycle⟩ :=
    buckets_partition_and_commands_nodup.2 app items rfl (by decide)
  exact ⟨rfl, .tail _ (.tail _ (.head _)), hservice 4, hcycle _ _ _ answers rfl 1⟩

/-! ## Large libraries -/

/-- Some candidate is not cooling down: it has no row later than the cutoff. -/
def Awake (world : World) (inst : Instance) (resolved : Resolved) (io : CycleIO)
    (result : UpgradeResult) : Prop :=
  ∃ item ∈ candidates result resolved.searchMissing,
    ∀ searchedAt ∈ world.cooldowns.lookup (inst.id, item.id),
      searchedAt ≤ cutoff io.filterAt resolved.cooldownPeriod

/-- A command is sent when the filter answers and leaves something, and the batch takes an item. -/
theorem exists_search_iff (inst : Instance) (resolved : Resolved) (answers : Answers) :
    (∃ ids, .search inst.id ids ∈ (cycleCalls inst resolved false answers).1) ↔
      1 ≤ resolved.batchSize ∧ ∃ result coolingDown, answers.upgradeable = .ok result ∧
        answers.filterCoolingDown = .ok coolingDown ∧
        ∃ item ∈ candidates result resolved.searchMissing, item.id ∉ coolingDown := by
  by_cases hbatch : 1 ≤ resolved.batchSize
  · refine cycleCalls_cases (motive := fun run ↦ (∃ ids, Call.search inst.id ids ∈ run.1) ↔ _) inst
      (by omega) answers (fun err hfetched ↦ ?_) (fun result hfetched hnone ↦ ?_)
      (fun result err hfetched hfiltered hsome ↦ ?_)
      (fun result coolingDown hfetched hfiltered hsome hcooling ↦ ?_)
      (fun _ _ _ _ hzero ↦ absurd hzero (by omega))
      (fun result coolingDown err hfetched hfiltered hrefused _ hawake ↦ ?_)
      (fun result coolingDown hfetched hfiltered haccepted _ hawake ↦ ?_)
    · simp [hfetched]
    · simp [hfetched, hnone]
    · simp [hfetched, hfiltered]
    · simp only [hfetched, hfiltered]
      constructor
      · rintro ⟨ids, h⟩
        simp at h
      · rintro ⟨-, _, _, ⟨⟩, ⟨⟩, item, hitem, hawake⟩
        exact absurd (hcooling item hitem) hawake
    · exact ⟨fun _ ↦ ⟨hbatch, result, coolingDown, hfetched, hfiltered, hawake⟩,
        fun _ ↦ ⟨(batchItems result resolved coolingDown).map (·.id), by simp⟩⟩
    · exact ⟨fun _ ↦ ⟨hbatch, result, coolingDown, hfetched, hfiltered, hawake⟩,
        fun _ ↦ ⟨(batchItems result resolved coolingDown).map (·.id), by simp⟩⟩
  · constructor
    · rintro ⟨ids, h⟩
      exact absurd h (not_mem_search_of_nonpos (by omega) answers _ ids)
    · exact fun h ↦ absurd h.1 hbatch

/-- With healthy queries and a candidate that is not cooling down, a cycle sends a command exactly
when SQLite accepts the statement of the filter and the batch takes an item. -/
theorem exists_search_iff_accepted {world : World} {inst : Instance} {resolved : Resolved}
    {io : CycleIO} {result : UpgradeResult} (hfetched : io.upgradeable = .ok result)
    (hhealthy : io.filterFailure = none) (hawake : Awake world inst resolved io result)
    (adapterName : String) :
    (∃ ids, .search inst.id ids ∈
        (cycleCalls inst resolved false (io.answers world inst resolved adapterName)).1) ↔
      1 ≤ resolved.batchSize ∧
        (filterStatement inst.id (candidateIDs result resolved) resolved.cooldownPeriod).Accepted := by
  obtain ⟨item, hitem, hold⟩ := hawake
  have hanswer : (io.answers world inst resolved adapterName).filterCoolingDown =
      Cooldown.filterCoolingDown world.cooldowns inst.id (candidateIDs result resolved)
        resolved.cooldownPeriod io.filterAt none := by
    unfold CycleIO.answers CycleIO.candidateIDs
    rw [hfetched, hhealthy]
  have hqueried : candidateIDs result resolved ≠ [] :=
    List.ne_nil_of_mem (List.mem_map_of_mem hitem)
  rw [exists_search_iff, ← filterCoolingDown_ok_iff world.cooldowns inst.id hqueried
    resolved.cooldownPeriod io.filterAt]
  refine and_congr_right fun _ ↦ ⟨?_, ?_⟩
  · rintro ⟨_, coolingDown, -, hfiltered, -⟩
    exact ⟨coolingDown, hanswer ▸ hfiltered⟩
  · rintro ⟨coolingDown, hfiltered⟩
    refine ⟨result, coolingDown, hfetched, hanswer.trans hfiltered, item, hitem, fun hcooling ↦ ?_⟩
    obtain ⟨-, searchedAt, hrow, hrecent⟩ := (mem_filterCoolingDown hfiltered item.id).mp hcooling
    exact absurd (hold searchedAt hrow) (by omega)

/-- The filter works up to 32764 candidates: SQLite accepts its statement, and with healthy queries
and a candidate that is not cooling down the cycle sends a command, exactly when there are no more (and
the batch takes an item: the adapter refuses an empty one, and a negative size panics). -/
theorem filter_works_iff (world : World) (inst : Instance) (resolved : Resolved)
    (itemIDs : List ℤ) :
    ((filterStatement inst.id itemIDs resolved.cooldownPeriod).Accepted ↔
      itemIDs.length ≤ 32764) ∧
    ∀ (io : CycleIO) adapterName result, io.upgradeable = .ok result → io.filterFailure = none →
      Awake world inst resolved io result →
      ((∃ ids, .search inst.id ids ∈
          (cycleCalls inst resolved false (io.answers world inst resolved adapterName)).1) ↔
        (candidates result resolved.searchMissing).length ≤ 32764 ∧ 1 ≤ resolved.batchSize) := by
  have haccepted (itemIDs : List ℤ) :
      (filterStatement inst.id itemIDs resolved.cooldownPeriod).Accepted ↔
        itemIDs.length ≤ 32764 := by
    rw [filterStatement_accepted_iff]
    unfold maxVariableNumber
    omega
  refine ⟨haccepted itemIDs, fun io adapterName result hfetched hhealthy hawake ↦ ?_⟩
  rw [exists_search_iff_accepted hfetched hhealthy hawake, haccepted, and_comm]
  unfold candidateIDs
  rw [List.length_map]

/-- An instance with `n` upgradeable items. -/
def backlog (n : ℕ) : UpgradeResult where
  items := (List.range n).map fun index : ℕ ↦ ⟨index, "", ""⟩
  missingItems := []
  stats := ⟨n, 0, 0, 0, 0, 0, 0, n⟩

theorem candidates_backlog (n : ℕ) (searchMissing : Bool) :
    candidates (backlog n) searchMissing =
      (List.range n).map fun index : ℕ ↦ ⟨index, "", ""⟩ := by
  cases searchMissing with
  | false => rfl
  | true => exact List.append_nil _

/-- Healthy queries over a backlog of `n` items. -/
def healthyBacklog (n : ℕ) : CycleIO := ⟨.ok (backlog n), 0, none, 0, none, 0, none⟩

theorem awake_backlog {n : ℕ} (hn : 0 < n) {world : World} (hrows : world.cooldowns = ∅)
    (inst : Instance) (resolved : Resolved) :
    Awake world inst resolved (healthyBacklog n) (backlog n) := by
  refine ⟨⟨0, "", ""⟩, ?_, fun searchedAt hrow ↦ ?_⟩
  · rw [candidates_backlog]
    exact List.mem_map.mpr ⟨0, List.mem_range.mpr hn, rfl⟩
  · rw [hrows] at hrow
    cases hrow

/-- An instance with 32765 upgradeable items, none of which was ever searched: the statement of the
filter is refused and nothing is ever searched. -/
theorem largeBacklog_never_searched :
    let world := World.start ⟨false, ∅, 0, 0, 0, 0, 0⟩ ∅ ∅ Zone.utc 0
    let inst : Instance := ⟨1, "Sonarr", ""⟩
    let resolved := Settings.defaults
    Awake world inst resolved (healthyBacklog 32765) (backlog 32765) ∧
      ¬(filterStatement inst.id (candidateIDs (backlog 32765) resolved)
        resolved.cooldownPeriod).Accepted ∧
      ¬∃ ids, .search inst.id ids ∈
        (cycleCalls inst resolved false
          ((healthyBacklog 32765).answers world inst resolved "sonarr")).1 := by
  intro world inst resolved
  have hawake : Awake world inst resolved (healthyBacklog 32765) (backlog 32765) :=
    awake_backlog (by omega) rfl inst resolved
  have hrefused : ¬(filterStatement inst.id (candidateIDs (backlog 32765) resolved)
      resolved.cooldownPeriod).Accepted := by
    rw [filterStatement_accepted_iff]
    unfold candidateIDs maxVariableNumber
    rw [candidates_backlog, List.length_map, List.length_map, List.length_range]
    omega
  exact ⟨hawake, hrefused, fun h ↦
    hrefused ((exists_search_iff_accepted rfl rfl hawake "sonarr").mp h).2⟩

end Huntarr2.Scheduling
