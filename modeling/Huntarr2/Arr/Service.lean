import Huntarr2.Arr.Quality

/-!
# Candidates of an instance

Every item of a library falls into one bucket: it is excluded for the first reason that applies, or
it is upgradeable. The missing items are among those without a file, so no item is a candidate twice,
and neither is an ID of a library that lists each ID once.
-/

namespace Huntarr2.GoStd

/-- The slice `items[:n]`; `none` when its bound is out of range and Go panics. -/
def sliceTo {α : Type*} (items : List α) (n : ℤ) : Option (List α) :=
  if 0 ≤ n ∧ n ≤ items.length then some (items.take n.toNat) else none

theorem sublist_of_sliceTo {α : Type*} {items slice : List α} {n : ℤ}
    (h : sliceTo items n = some slice) : slice.Sublist items := by
  unfold sliceTo at h
  split_ifs at h
  rw [← Option.some.inj h]
  exact List.take_sublist _ _

end Huntarr2.GoStd

namespace Huntarr2.Arr

open GoStd

/-! ## The service -/

/-- What an instance answers to the requests for its candidates, and to a search command. The errors of
its adapter begin with the name. -/
structure App where
  qualityProfiles : Except String (List QualityProfile)
  libraryItems : Except String (List LibraryItem)
  name : String
  command : List ℤ → Except String Unit

/-- `Search` of the adapter, given the answer to the command: the commands it sends, and what it
returns. It refuses an empty list before any request. -/
def adapterSearch (name : String) (answer : Except String Unit) (itemIDs : List ℤ) :
    List (List ℤ) × Except String Unit :=
  if itemIDs.length = 0 then ([], .error s!"{name} search: no item IDs provided")
  else ([itemIDs], answer)

theorem adapterSearch_of_ne_nil (name : String) (answer : Except String Unit) {itemIDs : List ℤ}
    (h : itemIDs ≠ []) : adapterSearch name answer itemIDs = ([itemIDs], answer) :=
  if_neg (List.length_eq_zero_iff.not.mpr h)

/-- The only command is the one with the given IDs. -/
theorem eq_of_mem_adapterSearch {name : String} {answer : Except String Unit}
    {itemIDs sent : List ℤ} (h : sent ∈ (adapterSearch name answer itemIDs).1) : sent = itemIDs := by
  unfold adapterSearch at h
  split_ifs at h
  · exact absurd h List.not_mem_nil
  · exact List.mem_singleton.mp h

/-- The profiles by ID; a later profile of an ID replaces an earlier one. -/
def profileMap (profiles : List QualityProfile) : KeyedTable ℤ QualityProfile :=
  profiles.foldl (fun profileMap profile ↦ profileMap.insert profile.id profile) ∅

/-- `upgradeableWith`. -/
def upgradeableWith (app : App) : Except String UpgradeResult :=
  match app.qualityProfiles with
  | .error err => .error s!"fetching quality profiles: {err}"
  | .ok profiles =>
    match app.libraryItems with
    | .error err => .error s!"fetching library items: {err}"
    | .ok items =>
      let (upgradeItems, stats) := filterUpgradeable items (profileMap profiles)
      .ok ⟨upgradeItems, filterMissing items, stats⟩

/-- `Upgradeable`, where building the client may fail. -/
def upgradeable (app : Except String App) : Except String UpgradeResult :=
  match app with
  | .error err => .error err
  | .ok app => upgradeableWith app

/-- `SearchCycle`: the search commands it sends, and what it returns unless it panics. -/
def searchCycle (app : Except String App) (batchSize : ℤ) :
    List (List ℤ) × Option (Except String ℕ) :=
  match app with
  | .error err => ([], some (.error s!"building app client: {err}"))
  | .ok app =>
    match upgradeableWith app with
    | .error err => ([], some (.error s!"fetching upgradeable items: {err}"))
    | .ok result =>
      let items := result.items ++ result.missingItems
      if items.length = 0 then ([], some (.ok 0))
      else match if batchSize < items.length then sliceTo items batchSize else some items with
        | none => ([], none)
        | some items =>
          let ids := items.map (·.id)
          let (sent, answer) := adapterSearch app.name (app.command ids) ids
          match answer with
          | .error err => (sent, some (.error s!"searching items: {err}"))
          | .ok _ => (sent, some (.ok ids.length))

/-! ## The reasons -/

/-- The reason applies to the item, whether or not an earlier one does. -/
def Bucket.Applies (profiles : KeyedTable ℤ QualityProfile) (item : LibraryItem) : Bucket → Prop
  | .noFile => item.hasFile = false
  | .unmonitored => item.monitored = false
  | .noProfile => profiles.lookup item.qualityProfileID = none
  | .upgradeBlocked => ∃ profile ∈ profiles.lookup item.qualityProfileID,
    profile.upgradeAllowed = false
  | .unknownQuality => ∃ profile ∈ profiles.lookup item.qualityProfileID,
    ∀ qid ∈ item.currentQualityIDs, (qualityRank profile).lookup qid = none
  | .atOrAbove => ∃ profile ∈ profiles.lookup item.qualityProfileID,
    ∀ qid ∈ item.currentQualityIDs, ∀ rank : ℕ, (qualityRank profile).lookup qid = some rank →
      cutoffRank profile (qualityRank profile) ≤ rank
  | .upgradeable => True

/-- The order in which the reasons are tried. -/
def Bucket.order : Bucket → ℕ
  | .noFile => 0
  | .unmonitored => 1
  | .noProfile => 2
  | .upgradeBlocked => 3
  | .unknownQuality => 4
  | .atOrAbove => 5
  | .upgradeable => 6

/-- The reason is the first one that applies. -/
def FirstReason (profiles : KeyedTable ℤ QualityProfile) (item : LibraryItem) (reason : Bucket) :
    Prop :=
  reason.Applies profiles item ∧
    ∀ earlier : Bucket, earlier.order < reason.order → ¬earlier.Applies profiles item

/-- The counter of a reason. -/
def FilterStats.counter (stats : FilterStats) : Bucket → ℤ
  | .noFile => stats.noFile
  | .unmonitored => stats.unmonitored
  | .noProfile => stats.noProfile
  | .upgradeBlocked => stats.upgradeBlocked
  | .unknownQuality => stats.unknownQuality
  | .atOrAbove => stats.atOrAbove
  | .upgradeable => stats.upgradeable

theorem Bucket.order_injective : Function.Injective Bucket.order := by
  intro first second h
  cases first <;> cases second <;> first | rfl | exact absurd h (by decide)

/-- When no reason up to this one applies, none applies before the next. -/
theorem Bucket.not_applies_before_next {profiles : KeyedTable ℤ QualityProfile}
    {item : LibraryItem} (reason : Bucket)
    (hbefore : ∀ earlier : Bucket, earlier.order < reason.order → ¬earlier.Applies profiles item)
    (hreason : ¬reason.Applies profiles item) (earlier : Bucket)
    (h : earlier.order < reason.order + 1) : ¬earlier.Applies profiles item := by
  rcases Nat.lt_succ_iff_lt_or_eq.mp h with hlt | heq
  · exact hbefore earlier hlt
  · rw [Bucket.order_injective heq]
    exact hreason

/-- The reasons that look at the profile of a monitored item with a file. -/
theorem firstReason_of_profile {profiles : KeyedTable ℤ QualityProfile} {item : LibraryItem}
    (hfile : item.hasFile = true) (hmonitored : item.monitored = true) {profile : QualityProfile}
    (hprofile : profiles.lookup item.qualityProfileID = some profile)
    (hearly : ∀ earlier : Bucket, earlier.order < Bucket.upgradeBlocked.order →
      ¬earlier.Applies profiles item) : FirstReason profiles item (bucket profiles item) := by
  cases hallowed : profile.upgradeAllowed with
  | false =>
    have hbucket : bucket profiles item = .upgradeBlocked := by
      simp [bucket, hfile, hmonitored, hprofile, hallowed]
    rw [hbucket]
    exact ⟨⟨profile, hprofile, hallowed⟩, hearly⟩
  | true =>
    have hblocked : ¬Bucket.upgradeBlocked.Applies profiles item := by
      simp [Bucket.Applies, hprofile, hallowed]
    have hunknown : Bucket.unknownQuality.Applies profiles item ↔
        lowestRank (qualityRank profile) item.currentQualityIDs < 0 := by
      simp [Bucket.Applies, hprofile, lowestRank_neg_iff]
    have hallowedToUpgrade := Bucket.not_applies_before_next _ hearly hblocked
    by_cases hneg : lowestRank (qualityRank profile) item.currentQualityIDs < 0
    · have hbucket : bucket profiles item = .unknownQuality := by
        simp [bucket, hfile, hmonitored, hprofile, hallowed, hneg]
      rw [hbucket]
      exact ⟨hunknown.mpr hneg, hallowedToUpgrade⟩
    · have hbelow : Bucket.atOrAbove.Applies profiles item ↔
          ¬lowestRank (qualityRank profile) item.currentQualityIDs <
            cutoffRank profile (qualityRank profile) := by
        rw [lowestRank_lt_iff hneg]
        simp [Bucket.Applies, hprofile]
      have hknown := Bucket.not_applies_before_next .unknownQuality hallowedToUpgrade
        (mt hunknown.mp hneg)
      by_cases hlt : lowestRank (qualityRank profile) item.currentQualityIDs <
          cutoffRank profile (qualityRank profile)
      · have hbucket : bucket profiles item = .upgradeable := by
          simp [bucket, hfile, hmonitored, hprofile, hallowed, hneg, hlt]
        rw [hbucket]
        exact ⟨trivial, Bucket.not_applies_before_next .atOrAbove hknown
          fun h ↦ hbelow.mp h hlt⟩
      · have hbucket : bucket profiles item = .atOrAbove := by
          simp [bucket, hfile, hmonitored, hprofile, hallowed, hneg, hlt]
        rw [hbucket]
        exact ⟨hbelow.mpr hlt, hknown⟩

/-- An item's bucket is the first reason that applies to it. -/
theorem firstReason_bucket (profiles : KeyedTable ℤ QualityProfile) (item : LibraryItem) :
    FirstReason profiles item (bucket profiles item) := by
  have hnone (earlier : Bucket) (h : earlier.order < Bucket.noFile.order) :
      ¬earlier.Applies profiles item := absurd h (Nat.not_lt_zero _)
  cases hfile : item.hasFile with
  | false =>
    have hbucket : bucket profiles item = .noFile := by simp [bucket, hfile]
    rw [hbucket]
    exact ⟨hfile, hnone⟩
  | true =>
    have hpresent := Bucket.not_applies_before_next _ hnone (by simp [Bucket.Applies, hfile])
    cases hmonitored : item.monitored with
    | false =>
      have hbucket : bucket profiles item = .unmonitored := by simp [bucket, hfile, hmonitored]
      rw [hbucket]
      exact ⟨hmonitored, hpresent⟩
    | true =>
      have hwatched := Bucket.not_applies_before_next .unmonitored hpresent
        (by simp [Bucket.Applies, hmonitored])
      cases hprofile : profiles.lookup item.qualityProfileID with
      | none =>
        have hbucket : bucket profiles item = .noProfile := by
          simp [bucket, hfile, hmonitored, hprofile]
        rw [hbucket]
        exact ⟨hprofile, hwatched⟩
      | some profile =>
        exact firstReason_of_profile hfile hmonitored hprofile
          (Bucket.not_applies_before_next .noProfile hwatched
            (by simp [Bucket.Applies, hprofile]))

theorem bucket_eq_iff {profiles : KeyedTable ℤ QualityProfile} {item : LibraryItem} {reason : Bucket} :
    bucket profiles item = reason ↔ FirstReason profiles item reason := by
  have hfirst := firstReason_bucket profiles item
  constructor
  · rintro rfl
    exact hfirst
  · intro h
    rcases lt_trichotomy (bucket profiles item).order reason.order with hlt | heq | hgt
    · exact absurd hfirst.1 (h.2 _ hlt)
    · exact Bucket.order_injective heq
    · exact absurd h.1 (hfirst.2 _ hgt)

theorem counter_count (stats : FilterStats) (counted reason : Bucket)
    (hreason : reason ≠ .upgradeable) : (stats.count counted).counter reason =
      stats.counter reason + if counted = reason then 1 else 0 := by
  cases counted <;> cases reason <;> first | rfl | simp [FilterStats.count, FilterStats.counter] at *

theorem counter_foldl_count (buckets : List Bucket) (stats : FilterStats) {reason : Bucket}
    (hreason : reason ≠ .upgradeable) :
    (buckets.foldl FilterStats.count stats).counter reason =
      stats.counter reason + buckets.count reason := by
  induction buckets generalizing stats with
  | nil => simp
  | cons counted buckets ih =>
    rw [List.foldl_cons, ih, counter_count stats counted reason hreason, List.count_cons]
    by_cases hsame : counted = reason
    · simp [hsame]
      ring
    · simp [hsame]

theorem libraryTotal_foldl_count (buckets : List Bucket) (stats : FilterStats) :
    (buckets.foldl FilterStats.count stats).libraryTotal = stats.libraryTotal := by
  induction buckets generalizing stats with
  | nil => rfl
  | cons counted buckets ih =>
    rw [List.foldl_cons, ih]
    cases counted <;> rfl

theorem libraryTotal_filterUpgradeable (items : List LibraryItem)
    (profiles : KeyedTable ℤ QualityProfile) :
    (filterUpgradeable items profiles).2.libraryTotal = items.length := by
  unfold filterUpgradeable
  rw [foldl_filterItem]
  exact libraryTotal_foldl_count _ _

/-- Every counter is the number of items in its bucket. -/
theorem counter_filterUpgradeable (items : List LibraryItem)
    (profiles : KeyedTable ℤ QualityProfile) (reason : Bucket) :
    (filterUpgradeable items profiles).2.counter reason =
      (items.map (bucket profiles)).count reason := by
  by_cases hreason : reason = .upgradeable
  · have hlength : (filterUpgradeable items profiles).2.upgradeable =
        (filterUpgradeable items profiles).1.length := by
      unfold filterUpgradeable
      rfl
    rw [hreason]
    refine hlength.trans ?_
    rw [filterUpgradeable_fst, List.length_map, ← List.countP_eq_length_filter, List.count,
      List.countP_map]
    rfl
  · have hcounter : (filterUpgradeable items profiles).2.counter reason =
        ((items.map (bucket profiles)).foldl FilterStats.count
          ⟨items.length, 0, 0, 0, 0, 0, 0, 0⟩).counter reason := by
      unfold filterUpgradeable
      rw [foldl_filterItem]
      cases reason <;> first | rfl | exact absurd rfl hreason
    rw [hcounter, counter_foldl_count _ _ hreason]
    cases reason <;> simp [FilterStats.counter]

/-- Every item is in one bucket. -/
theorem length_eq_sum_count (buckets : List Bucket) :
    buckets.length = buckets.count .noFile + buckets.count .unmonitored + buckets.count .noProfile +
      buckets.count .upgradeBlocked + buckets.count .unknownQuality + buckets.count .atOrAbove +
      buckets.count .upgradeable := by
  induction buckets with
  | nil => rfl
  | cons counted buckets ih =>
    rw [List.length_cons, ih]
    cases counted <;>
      simp only [List.count_cons, beq_iff_eq, reduceCtorEq, if_true, if_false] <;> omega

/-! ## The candidates -/

section Candidates

variable {app : App} {result : UpgradeResult}

theorem upgradeableWith_eq_ok (h : upgradeableWith app = .ok result) :
    ∃ profiles items, app.qualityProfiles = .ok profiles ∧ app.libraryItems = .ok items ∧
      result = ⟨(filterUpgradeable items (profileMap profiles)).1, filterMissing items,
        (filterUpgradeable items (profileMap profiles)).2⟩ := by
  unfold upgradeableWith at h
  cases hprofiles : app.qualityProfiles with
  | error err =>
    rw [hprofiles] at h
    cases h
  | ok profiles =>
    cases hitems : app.libraryItems with
    | error err =>
      rw [hprofiles, hitems] at h
      cases h
    | ok items =>
      rw [hprofiles, hitems] at h
      exact ⟨profiles, items, rfl, rfl, (Except.ok.inj h).symm⟩

/-- An upgradeable item has a file and is monitored. -/
theorem of_bucket_eq_upgradeable {profiles : KeyedTable ℤ QualityProfile} {item : LibraryItem}
    (h : bucket profiles item = .upgradeable) : item.hasFile = true ∧ item.monitored = true := by
  have hfirst := firstReason_bucket profiles item
  rw [h] at hfirst
  exact ⟨Bool.eq_true_of_not_eq_false (hfirst.2 .noFile (by decide)),
    Bool.eq_true_of_not_eq_false (hfirst.2 .unmonitored (by decide))⟩

/-- The upgradeable and the missing candidates come from different items of the library. -/
theorem exists_disjoint_sublists (items : List LibraryItem) (profiles : KeyedTable ℤ QualityProfile) :
    ∃ upgrades missing : List LibraryItem, upgrades.Sublist items ∧ missing.Sublist items ∧
      (filterUpgradeable items profiles).1 = upgrades.map LibraryItem.toUpgradeItem ∧
      filterMissing items = missing.map LibraryItem.toUpgradeItem ∧
      (∀ item ∈ upgrades, item.hasFile = true ∧ item.monitored = true) ∧
      ∀ item ∈ missing, item.hasFile = false ∧ item.monitored = true := by
  refine ⟨items.filter fun item ↦ bucket profiles item = .upgradeable,
    items.filter fun item ↦ !item.hasFile && item.monitored, List.filter_sublist, List.filter_sublist,
    filterUpgradeable_fst items profiles, filterMissing_eq items, fun item hitem ↦ ?_,
    fun item hitem ↦ ?_⟩
  · exact of_bucket_eq_upgradeable (by simpa using (List.mem_filter.mp hitem).2)
  · simpa using (List.mem_filter.mp hitem).2

/-- No candidate of a library without repeated IDs is listed twice, and all are monitored. -/
theorem candidates_of_library {items : List LibraryItem} (hdistinct : (items.map (·.id)).Nodup)
    (hitems : app.libraryItems = .ok items) (h : upgradeableWith app = .ok result) :
    ((result.items ++ result.missingItems).map (·.id)).Nodup ∧
      ∀ id ∈ (result.items ++ result.missingItems).map (·.id),
        ∃ item ∈ items, item.monitored = true ∧ item.id = id := by
  obtain ⟨profiles, library, -, hlibrary, rfl⟩ := upgradeableWith_eq_ok h
  obtain rfl : items = library := Except.ok.inj (hitems.symm.trans hlibrary)
  obtain ⟨upgrades, missing, hupgrades, hmissing, hfirst, hsecond, hfile, hnoFile⟩ :=
    exists_disjoint_sublists items (profileMap profiles)
  have hids : (upgrades.map LibraryItem.toUpgradeItem ++ missing.map LibraryItem.toUpgradeItem).map
      (·.id) = upgrades.map (·.id) ++ missing.map (·.id) := by
    rw [List.map_append, List.map_map, List.map_map]
    rfl
  dsimp only
  rw [hfirst, hsecond, hids]
  constructor
  · refine List.nodup_append.mpr ⟨hdistinct.sublist (hupgrades.map _),
      hdistinct.sublist (hmissing.map _), fun id hid other hother hsame ↦ ?_⟩
    obtain ⟨first, hfirstMem, rfl⟩ := List.mem_map.mp hid
    obtain ⟨second, hsecondMem, rfl⟩ := List.mem_map.mp hother
    -- The same item would have a file and have none.
    have heq : first = second := List.inj_on_of_nodup_map hdistinct (hupgrades.subset hfirstMem)
      (hmissing.subset hsecondMem) hsame
    have hwith := (hfile first hfirstMem).1
    rw [heq, (hnoFile second hsecondMem).1] at hwith
    cases hwith
  · intro id hid
    rcases List.mem_append.mp hid with hid | hid
    · obtain ⟨item, hitem, rfl⟩ := List.mem_map.mp hid
      exact ⟨item, hupgrades.subset hitem, (hfile item hitem).2, rfl⟩
    · obtain ⟨item, hitem, rfl⟩ := List.mem_map.mp hid
      exact ⟨item, hmissing.subset hitem, (hnoFile item hitem).2, rfl⟩

/-- A command of `SearchCycle` lists candidates in their order. -/
theorem sublist_of_mem_searchCycle {batchSize : ℤ} {ids : List ℤ}
    (h : ids ∈ (searchCycle (.ok app) batchSize).1) :
    ∃ result, upgradeableWith app = .ok result ∧
      ids.Sublist ((result.items ++ result.missingItems).map (·.id)) := by
  unfold searchCycle at h
  dsimp only at h
  cases hresult : upgradeableWith app with
  | error err =>
    rw [hresult] at h
    exact absurd h List.not_mem_nil
  | ok result =>
    rw [hresult] at h
    refine ⟨result, rfl, ?_⟩
    dsimp only at h
    split at h
    case isTrue => exact absurd h List.not_mem_nil
    case isFalse =>
      split at h
      case h_1 => exact absurd h List.not_mem_nil
      case h_2 items hitems =>
        have hids : ids = items.map (·.id) := by
          split at h <;> exact eq_of_mem_adapterSearch h
        have hsublist : items.Sublist (result.items ++ result.missingItems) := by
          split_ifs at hitems
          · exact sublist_of_sliceTo hitems
          · exact Option.some.inj hitems ▸ List.Sublist.refl _
        exact hids ▸ hsublist.map _

end Candidates

end Huntarr2.Arr
