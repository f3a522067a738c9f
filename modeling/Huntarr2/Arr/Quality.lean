import Huntarr2.Arr.Arr
import Huntarr2.Foundation.KeyedTable
import Huntarr2.Foundation.Positions

/-!
# Upgrade decision

An item is upgradeable when its file ranks below the cutoff of its quality profile. The rank of a
quality is the index of its entry among all entries of the profile, but only the order of the allowed
entries counts for the decision.
-/

namespace Huntarr2.Arr

/-- A single quality tier. -/
structure QualityLevel where
  id : ℤ
  name : String
  deriving DecidableEq, Repr

/-- One row of a quality profile: a single quality, or a group of nested entries. -/
structure ProfileEntry where
  id : ℤ
  quality : Option QualityLevel
  name : String
  items : List ProfileEntry
  allowed : Bool

/-- A quality profile; its entries are ordered from lowest to highest. -/
structure QualityProfile where
  id : ℤ
  name : String
  upgradeAllowed : Bool
  cutoff : ℤ
  items : List ProfileEntry

/-- A media item, with one quality ID for each of its files. -/
structure LibraryItem where
  id : ℤ
  label : String
  detailPath : String
  qualityProfileID : ℤ
  currentQualityIDs : List ℤ
  hasFile : Bool
  monitored : Bool
  deriving DecidableEq, Repr

/-- The item as a search candidate. -/
def LibraryItem.toUpgradeItem (item : LibraryItem) : UpgradeItem :=
  ⟨item.id, item.label, item.detailPath⟩

/-! ## Ranks -/

/-- The loop over the direct members of a group. -/
def rankMembers (ranks : KeyedTable ℤ ℕ) (members : List ProfileEntry) (i : ℕ) : KeyedTable ℤ ℕ :=
  members.foldl
    (fun ranks child ↦
      match child.quality with
      | some quality => ranks.insert quality.id i
      | none => ranks)
    ranks

/-- One turn of the loop over the entries of a profile. -/
def rankEntry (ranks : KeyedTable ℤ ℕ) (entry : ProfileEntry × ℕ) : KeyedTable ℤ ℕ :=
  if !entry.1.allowed then ranks
  else match entry.1.quality with
    | some quality => ranks.insert quality.id entry.2
    | none =>
      rankMembers (if entry.1.id ≠ 0 then ranks.insert entry.1.id entry.2 else ranks) entry.1.items
        entry.2

/-- `qualityRank`: the index of the entry of each allowed quality and group. -/
def qualityRank (profile : QualityProfile) : KeyedTable ℤ ℕ :=
  profile.items.zipIdx.foldl rankEntry ∅

/-- `cutoffRank`: `-1` when the cutoff is not among the allowed entries. -/
def cutoffRank (profile : QualityProfile) (ranks : KeyedTable ℤ ℕ) : ℤ :=
  match ranks.lookup profile.cutoff with
  | some rank => rank
  | none => -1

/-- The loop over an item's files: the lowest rank, `-1` when no file is ranked. -/
def lowestRank (ranks : KeyedTable ℤ ℕ) (qualityIDs : List ℤ) : ℤ :=
  qualityIDs.foldl
    (fun lowest qid ↦
      match ranks.lookup qid with
      | none => lowest
      | some rank => if lowest < 0 ∨ (rank : ℤ) < lowest then (rank : ℤ) else lowest)
    (-1)

/-! ## The filters -/

/-- What is computed once for each profile. -/
structure ProfileCache where
  ranks : KeyedTable ℤ ℕ
  cutoff : ℤ
  upgradeAllowed : Bool

def profileCache (profile : QualityProfile) : ProfileCache where
  ranks := qualityRank profile
  cutoff := cutoffRank profile (qualityRank profile)
  upgradeAllowed := profile.upgradeAllowed

/-- One turn of the loop over the library. -/
def filterItem (profiles : KeyedTable ℤ QualityProfile)
    (state : List UpgradeItem × FilterStats) (item : LibraryItem) : List UpgradeItem × FilterStats :=
  let (result, stats) := state
  if !item.hasFile then (result, { stats with noFile := stats.noFile + 1 })
  else if !item.monitored then (result, { stats with unmonitored := stats.unmonitored + 1 })
  else match (profiles.lookup item.qualityProfileID).map profileCache with
    | none => (result, { stats with noProfile := stats.noProfile + 1 })
    | some cache =>
      if !cache.upgradeAllowed then
        (result, { stats with upgradeBlocked := stats.upgradeBlocked + 1 })
      else
        let lowest := lowestRank cache.ranks item.currentQualityIDs
        if lowest < 0 then (result, { stats with unknownQuality := stats.unknownQuality + 1 })
        else if lowest < cache.cutoff then (result ++ [item.toUpgradeItem], stats)
        else (result, { stats with atOrAbove := stats.atOrAbove + 1 })

/-- `filterUpgradeable`: the items whose lowest rank is below the cutoff of their profile. -/
def filterUpgradeable (items : List LibraryItem) (profiles : KeyedTable ℤ QualityProfile) :
    List UpgradeItem × FilterStats :=
  let (result, stats) := items.foldl (filterItem profiles)
    ([], { libraryTotal := items.length, noFile := 0, unmonitored := 0, noProfile := 0,
           upgradeBlocked := 0, unknownQuality := 0, atOrAbove := 0, upgradeable := 0 })
  (result, { stats with upgradeable := result.length })

/-- `filterMissing`: the monitored items without a file. -/
def filterMissing (items : List LibraryItem) : List UpgradeItem :=
  items.foldl
    (fun result item ↦
      if item.hasFile ∨ !item.monitored then result else result ++ [item.toUpgradeItem])
    []

/-! ## Which entry an ID belongs to -/

def ProfileEntry.qualityID (entry : ProfileEntry) : Option ℤ := entry.quality.map (·.id)

/-- The ID is that of the entry's quality; for a group, its own ID or that of a direct member. -/
def ProfileEntry.Holds (id : ℤ) (entry : ProfileEntry) : Prop :=
  entry.qualityID = some id ∨ entry.quality = none ∧
    (entry.id ≠ 0 ∧ entry.id = id ∨ ∃ child ∈ entry.items, child.qualityID = some id)

instance (id : ℤ) : DecidablePred (ProfileEntry.Holds id) :=
  fun entry ↦ inferInstanceAs (Decidable (entry.qualityID = some id ∨ entry.quality = none ∧
    (entry.id ≠ 0 ∧ entry.id = id ∨ ∃ child ∈ entry.items, child.qualityID = some id)))

/-- The allowed entries of a profile, in their order. -/
def QualityProfile.allowedEntries (profile : QualityProfile) : List ProfileEntry :=
  profile.items.filter (·.allowed)

/-- No ID belongs to two allowed entries. -/
def QualityProfile.Unambiguous (profile : QualityProfile) : Prop :=
  profile.allowedEntries.Pairwise fun first second ↦ ∀ id, ¬(first.Holds id ∧ second.Holds id)

/-- The IDs that belong to an entry. -/
def ProfileEntry.heldIDs (entry : ProfileEntry) : List ℤ :=
  match entry.quality with
  | some quality => [quality.id]
  | none => (if entry.id = 0 then [] else [entry.id]) ++ entry.items.filterMap ProfileEntry.qualityID

theorem ProfileEntry.mem_heldIDs {entry : ProfileEntry} {id : ℤ} :
    id ∈ entry.heldIDs ↔ entry.Holds id := by
  unfold heldIDs Holds
  cases hquality : entry.quality with
  | some quality => simp [qualityID, hquality, eq_comm]
  | none =>
    rw [List.mem_append, List.mem_filterMap]
    split_ifs with hzero <;> simp [qualityID, hquality, hzero, eq_comm]

instance : DecidablePred QualityProfile.Unambiguous := fun profile ↦
  decidable_of_iff
    (profile.allowedEntries.Pairwise fun first second ↦ ∀ id ∈ first.heldIDs, id ∉ second.heldIDs)
    (by simp only [QualityProfile.Unambiguous, ProfileEntry.mem_heldIDs, not_and])

theorem lookup_rankMembers (ranks : KeyedTable ℤ ℕ) (members : List ProfileEntry) (i : ℕ) (id : ℤ) :
    (rankMembers ranks members i).lookup id =
      if ∃ child ∈ members, child.qualityID = some id then some i else ranks.lookup id := by
  induction members generalizing ranks with
  | nil => exact (if_neg (by simp)).symm
  | cons child members ih =>
    unfold rankMembers at ih ⊢
    rw [List.foldl_cons, ih]
    simp only [List.exists_mem_cons_iff]
    cases hquality : child.quality with
    | none => simp [ProfileEntry.qualityID, hquality]
    | some quality =>
      have hid : child.qualityID = some id ↔ quality.id = id := by
        simp [ProfileEntry.qualityID, hquality]
      dsimp only
      by_cases hrest : ∃ child ∈ members, child.qualityID = some id
      · rw [if_pos hrest, if_pos (Or.inr hrest)]
      · rw [if_neg hrest, KeyedTable.lookup_insert_eq]
        exact if_congr (eq_comm.trans (hid.symm.trans (or_iff_left hrest).symm)) rfl rfl

/-- One turn of the loop ranks the IDs of an allowed entry and no others. -/
theorem lookup_rankEntry (id : ℤ) (ranks : KeyedTable ℤ ℕ) (entry : ProfileEntry × ℕ) :
    (rankEntry ranks entry).lookup id =
      if entry.1.allowed = true ∧ entry.1.Holds id then some entry.2 else ranks.lookup id := by
  unfold rankEntry
  cases hallowed : entry.1.allowed with
  | false => simp
  | true =>
    simp only [Bool.not_true, Bool.false_eq_true, if_false, true_and]
    cases hquality : entry.1.quality with
    | some quality =>
      have hholds : entry.1.Holds id ↔ quality.id = id := by
        simp [ProfileEntry.Holds, ProfileEntry.qualityID, hquality]
      dsimp only
      rw [KeyedTable.lookup_insert_eq]
      exact if_congr (eq_comm.trans hholds.symm) rfl rfl
    | none =>
      have hholds : entry.1.Holds id ↔ entry.1.id ≠ 0 ∧ entry.1.id = id ∨
          ∃ child ∈ entry.1.items, child.qualityID = some id := by
        simp [ProfileEntry.Holds, ProfileEntry.qualityID, hquality]
      dsimp only
      rw [lookup_rankMembers, if_congr hholds rfl rfl]
      by_cases hmember : ∃ child ∈ entry.1.items, child.qualityID = some id
      · rw [if_pos hmember, if_pos (Or.inr hmember)]
      · by_cases hgroup : entry.1.id ≠ 0
        · rw [if_neg hmember, if_pos hgroup, KeyedTable.lookup_insert_eq]
          exact if_congr ⟨fun h ↦ Or.inl ⟨hgroup, h.symm⟩, fun h ↦ (h.resolve_right hmember).2.symm⟩
            rfl rfl
        · rw [if_neg hmember, if_neg hgroup,
            if_neg fun h ↦ h.elim (fun hown ↦ hgroup hown.1) hmember]

/-- Only the IDs of allowed entries are ranked. -/
theorem exists_of_lookup_qualityRank {profile : QualityProfile} {id : ℤ} {i : ℕ}
    (h : (qualityRank profile).lookup id = some i) :
    ∃ entry ∈ profile.items, entry.allowed = true ∧ entry.Holds id := by
  let get (ranks : KeyedTable ℤ ℕ) : Option ℕ := ranks.lookup id
  have hlast : (∃ j entry, profile.items[j]? = some entry ∧ (entry.allowed = true ∧ entry.Holds id) ∧
      get (qualityRank profile) = some (0 + j)) ∨
      (∀ entry ∈ profile.items, ¬(entry.allowed = true ∧ entry.Holds id)) ∧
        get (qualityRank profile) = get ∅ :=
    get_foldl_zipIdx (lookup_rankEntry id) profile.items 0 ∅
  rcases hlast with ⟨j, entry, hentry, hheld, -⟩ | ⟨-, hget⟩
  · exact ⟨entry, List.mem_of_getElem? hentry, hheld⟩
  · exact absurd (h.symm.trans (hget.trans (AList.lookup_empty id))) (by simp)

/-- In an unambiguous profile the rank of an ID is the index of the allowed entry it belongs to. -/
theorem lookup_qualityRank {profile : QualityProfile} (h : profile.Unambiguous) {id : ℤ} {i : ℕ} :
    (qualityRank profile).lookup id = some i ↔
      ∃ entry, profile.items[i]? = some entry ∧ entry.allowed = true ∧ entry.Holds id := by
  refine get_foldl_zipIdx_eq_some_iff (lookup_rankEntry id)
    (fun j k first second hj hk hfirst hsecond ↦ ?_) (AList.lookup_empty id)
  exact index_unique (h.imp fun hpair ↦ hpair id) hj hk hfirst hsecond

/-- The loop over an item's files finds the lowest of their ranks, if they have any. -/
theorem lowestRank_cases (ranks : KeyedTable ℤ ℕ) (qualityIDs : List ℤ) :
    lowestRank ranks qualityIDs = -1 ∧ (∀ qid ∈ qualityIDs, ranks.lookup qid = none) ∨
      ∃ rank : ℕ, lowestRank ranks qualityIDs = rank ∧
        (∃ qid ∈ qualityIDs, ranks.lookup qid = some rank) ∧
        ∀ qid ∈ qualityIDs, ∀ other, ranks.lookup qid = some other → rank ≤ other := by
  induction qualityIDs using List.reverseRecOn with
  | nil => exact Or.inl ⟨rfl, fun qid hqid ↦ absurd hqid List.not_mem_nil⟩
  | append_singleton qualityIDs last ih =>
    have hstep : lowestRank ranks (qualityIDs ++ [last]) =
        match ranks.lookup last with
        | none => lowestRank ranks qualityIDs
        | some rank =>
          if lowestRank ranks qualityIDs < 0 ∨ (rank : ℤ) < lowestRank ranks qualityIDs then (rank : ℤ)
          else lowestRank ranks qualityIDs := by
      unfold lowestRank
      rw [List.foldl_append, List.foldl_cons, List.foldl_nil]
    rw [hstep]
    simp only [List.mem_append, List.mem_singleton, or_imp, forall_and, forall_eq]
    cases hlast : ranks.lookup last with
    | none =>
      rcases ih with ⟨hlowest, hnone⟩ | ⟨rank, hlowest, ⟨qid, hqid, hrank⟩, hleast⟩
      · exact Or.inl ⟨hlowest, hnone, rfl⟩
      · refine Or.inr ⟨rank, hlowest, ⟨qid, Or.inl hqid, hrank⟩, hleast, fun other h ↦ ?_⟩
        cases h
    | some new =>
      refine Or.inr ?_
      rcases ih with ⟨hlowest, hnone⟩ | ⟨rank, hlowest, ⟨qid, hqid, hrank⟩, hleast⟩
      · refine ⟨new, if_pos (Or.inl (by omega)), ⟨last, Or.inr rfl, hlast⟩, fun qid hqid other h ↦ ?_,
          fun other h ↦ (Option.some.inj h).le⟩
        rw [hnone qid hqid] at h
        cases h
      · by_cases hless : new < rank
        · refine ⟨new, if_pos (Or.inr (by omega)), ⟨last, Or.inr rfl, hlast⟩, fun qid hqid other h ↦ ?_,
            fun other h ↦ (Option.some.inj h).le⟩
          exact hless.le.trans (hleast qid hqid other h)
        · refine ⟨rank, (if_neg (by omega)).trans hlowest, ⟨qid, Or.inl hqid, hrank⟩, hleast,
            fun other h ↦ ?_⟩
          exact (Nat.not_lt.mp hless).trans (Option.some.inj h).le

/-- No file is ranked when the loop leaves the sentinel. -/
theorem lowestRank_neg_iff (ranks : KeyedTable ℤ ℕ) (qualityIDs : List ℤ) :
    lowestRank ranks qualityIDs < 0 ↔ ∀ qid ∈ qualityIDs, ranks.lookup qid = none := by
  rcases lowestRank_cases ranks qualityIDs with
    ⟨hlowest, hnone⟩ | ⟨rank, hlowest, ⟨qid, hqid, hrank⟩, -⟩
  · exact ⟨fun _ ↦ hnone, fun _ ↦ by omega⟩
  · refine ⟨fun hneg ↦ by omega, fun hnone ↦ ?_⟩
    rw [hnone qid hqid] at hrank
    cases hrank

/-- Of the ranked files the lowest decides. -/
theorem lowestRank_lt_iff {ranks : KeyedTable ℤ ℕ} {qualityIDs : List ℤ}
    (hranked : ¬lowestRank ranks qualityIDs < 0) (cutoff : ℤ) :
    lowestRank ranks qualityIDs < cutoff ↔
      ∃ qid ∈ qualityIDs, ∃ rank : ℕ, ranks.lookup qid = some rank ∧ (rank : ℤ) < cutoff := by
  rcases lowestRank_cases ranks qualityIDs with
    ⟨hlowest, -⟩ | ⟨rank, hlowest, ⟨qid, hqid, hrank⟩, hleast⟩
  · omega
  · rw [hlowest]
    constructor
    · exact fun hlt ↦ ⟨qid, hqid, rank, hrank, hlt⟩
    · rintro ⟨other, hother, otherRank, hotherRank, hlt⟩
      have hle := hleast other hother otherRank hotherRank
      omega

/-- An item is below the cutoff when one of its files has a rank below the rank of the cutoff. -/
theorem lowestRank_lt_cutoffRank_iff (profile : QualityProfile) (qualityIDs : List ℤ) :
    ¬lowestRank (qualityRank profile) qualityIDs < 0 ∧
        lowestRank (qualityRank profile) qualityIDs < cutoffRank profile (qualityRank profile) ↔
      ∃ qid ∈ qualityIDs, ∃ rank cutoff, rank < cutoff ∧
        (qualityRank profile).lookup qid = some rank ∧
        (qualityRank profile).lookup profile.cutoff = some cutoff := by
  generalize qualityRank profile = ranks
  unfold cutoffRank
  constructor
  · rintro ⟨hranked, hlt⟩
    obtain ⟨qid, hqid, rank, hrank, hbelow⟩ := (lowestRank_lt_iff hranked _).mp hlt
    cases hcutoff : ranks.lookup profile.cutoff with
    | none =>
      rw [hcutoff] at hbelow
      dsimp only at hbelow
      omega
    | some cutoff =>
      rw [hcutoff] at hbelow
      exact ⟨qid, hqid, rank, cutoff, Int.ofNat_lt.mp hbelow, hrank, rfl⟩
  · rintro ⟨qid, hqid, rank, cutoff, hlt, hrank, hcutoff⟩
    have hranked : ¬lowestRank ranks qualityIDs < 0 := fun hneg ↦ by
      rw [(lowestRank_neg_iff ranks qualityIDs).mp hneg qid hqid] at hrank
      cases hrank
    rw [hcutoff]
    exact ⟨hranked, (lowestRank_lt_iff hranked _).mpr ⟨qid, hqid, rank, hrank, Int.ofNat_lt.mpr hlt⟩⟩

/-! ## What becomes of an item -/

/-- Why an item is not upgradeable, or that it is. -/
inductive Bucket
  | noFile
  | unmonitored
  | noProfile
  | upgradeBlocked
  | unknownQuality
  | atOrAbove
  | upgradeable
  deriving DecidableEq, Repr

/-- The bucket the loop over the library puts an item into. -/
def bucket (profiles : KeyedTable ℤ QualityProfile) (item : LibraryItem) : Bucket :=
  if !item.hasFile then .noFile
  else if !item.monitored then .unmonitored
  else match profiles.lookup item.qualityProfileID with
    | none => .noProfile
    | some profile =>
      let lowest := lowestRank (qualityRank profile) item.currentQualityIDs
      if !profile.upgradeAllowed then .upgradeBlocked
      else if lowest < 0 then .unknownQuality
      else if lowest < cutoffRank profile (qualityRank profile) then .upgradeable
      else .atOrAbove

/-- Counts an item that was put into a bucket; the upgradeable ones are counted at the end. -/
def FilterStats.count (stats : FilterStats) : Bucket → FilterStats
  | .noFile => { stats with noFile := stats.noFile + 1 }
  | .unmonitored => { stats with unmonitored := stats.unmonitored + 1 }
  | .noProfile => { stats with noProfile := stats.noProfile + 1 }
  | .upgradeBlocked => { stats with upgradeBlocked := stats.upgradeBlocked + 1 }
  | .unknownQuality => { stats with unknownQuality := stats.unknownQuality + 1 }
  | .atOrAbove => { stats with atOrAbove := stats.atOrAbove + 1 }
  | .upgradeable => stats

/-- One turn of the loop counts the item and keeps it if it is upgradeable. -/
theorem filterItem_eq (profiles : KeyedTable ℤ QualityProfile) (result : List UpgradeItem)
    (stats : FilterStats) (item : LibraryItem) :
    filterItem profiles (result, stats) item =
      (if bucket profiles item = .upgradeable then result ++ [item.toUpgradeItem] else result,
        stats.count (bucket profiles item)) := by
  unfold filterItem bucket
  cases item.hasFile with
  | false => rfl
  | true =>
    cases item.monitored with
    | false => rfl
    | true =>
      cases profiles.lookup item.qualityProfileID with
      | none => rfl
      | some profile =>
        simp only [Option.map_some, profileCache]
        cases profile.upgradeAllowed with
        | false => rfl
        | true => split_ifs <;> first | rfl | contradiction

theorem foldl_filterItem (profiles : KeyedTable ℤ QualityProfile) (items : List LibraryItem)
    (result : List UpgradeItem) (stats : FilterStats) :
    items.foldl (filterItem profiles) (result, stats) =
      (result ++ (items.filter fun item ↦ bucket profiles item = .upgradeable).map
          LibraryItem.toUpgradeItem,
        (items.map (bucket profiles)).foldl FilterStats.count stats) := by
  induction items generalizing result stats with
  | nil => simp
  | cons item items ih =>
    rw [List.foldl_cons, filterItem_eq, ih, List.map_cons, List.foldl_cons]
    by_cases hbucket : bucket profiles item = .upgradeable
    · rw [if_pos hbucket, List.filter_cons_of_pos (by simpa using hbucket), List.map_cons,
        ← List.append_cons]
    · rw [if_neg hbucket, List.filter_cons_of_neg (by simpa using hbucket)]

/-- The result are the upgradeable items in the order of the library. -/
theorem filterUpgradeable_fst (items : List LibraryItem) (profiles : KeyedTable ℤ QualityProfile) :
    (filterUpgradeable items profiles).1 =
      (items.filter fun item ↦ bucket profiles item = .upgradeable).map LibraryItem.toUpgradeItem := by
  unfold filterUpgradeable
  rw [foldl_filterItem]
  rfl

/-- The missing items in the order of the library. -/
theorem filterMissing_eq (items : List LibraryItem) :
    filterMissing items =
      (items.filter fun item ↦ !item.hasFile && item.monitored).map LibraryItem.toUpgradeItem := by
  have hloop (result : List UpgradeItem) : items.foldl
      (fun result item ↦
        if item.hasFile ∨ !item.monitored then result else result ++ [item.toUpgradeItem]) result =
      result ++
        (items.filter fun item ↦ !item.hasFile && item.monitored).map LibraryItem.toUpgradeItem := by
    induction items generalizing result with
    | nil => simp
    | cons item items ih =>
      rw [List.foldl_cons, ih]
      cases hfile : item.hasFile <;> cases hmonitored : item.monitored <;> simp [hfile, hmonitored]
  exact (hloop []).trans (List.nil_append _)

/-! ## The reference -/

/-- The item has a file below the cutoff of its profile: an allowed entry that holds the quality of
the file stands before the one that holds the cutoff. -/
def UpgradeDue (profiles : KeyedTable ℤ QualityProfile) (item : LibraryItem) : Prop :=
  item.hasFile = true ∧ item.monitored = true ∧
    ∃ profile ∈ profiles.lookup item.qualityProfileID, profile.upgradeAllowed = true ∧
      ∃ qid ∈ item.currentQualityIDs,
        Precedes profile.allowedEntries (ProfileEntry.Holds qid) (ProfileEntry.Holds profile.cutoff)

instance (profiles : KeyedTable ℤ QualityProfile) : DecidablePred (UpgradeDue profiles) :=
  fun item ↦ inferInstanceAs (Decidable (item.hasFile = true ∧ item.monitored = true ∧
    ∃ profile ∈ profiles.lookup item.qualityProfileID, profile.upgradeAllowed = true ∧
      ∃ qid ∈ item.currentQualityIDs, Precedes profile.allowedEntries (ProfileEntry.Holds qid)
        (ProfileEntry.Holds profile.cutoff)))

/-- A file is ranked below the cutoff when an allowed entry that holds its quality stands before the
one that holds the cutoff: leaving out the disallowed entries changes the ranks but not their order. -/
theorem below_iff_precedes {profile : QualityProfile} (h : profile.Unambiguous)
    (qualityIDs : List ℤ) :
    ¬lowestRank (qualityRank profile) qualityIDs < 0 ∧
        lowestRank (qualityRank profile) qualityIDs < cutoffRank profile (qualityRank profile) ↔
      ∃ qid ∈ qualityIDs,
        Precedes profile.allowedEntries (ProfileEntry.Holds qid)
          (ProfileEntry.Holds profile.cutoff) := by
  rw [lowestRank_lt_cutoffRank_iff]
  refine exists_congr fun qid ↦ and_congr_right fun _ ↦ ?_
  unfold QualityProfile.allowedEntries
  rw [precedes_filter]
  simp only [lookup_qualityRank h]
  rfl

/-- The loop keeps an item when the reference says so. -/
theorem bucket_eq_upgradeable_iff {profiles : KeyedTable ℤ QualityProfile}
    (h : ∀ id, ∀ profile ∈ profiles.lookup id, profile.Unambiguous) (item : LibraryItem) :
    bucket profiles item = .upgradeable ↔ UpgradeDue profiles item := by
  unfold bucket UpgradeDue
  cases item.hasFile with
  | false => simp
  | true =>
    cases item.monitored with
    | false => simp
    | true =>
      cases hprofile : profiles.lookup item.qualityProfileID with
      | none => simp
      | some profile =>
        have hbelow := below_iff_precedes (h _ profile hprofile) item.currentQualityIDs
        simp only [Option.mem_def, Option.some.injEq, exists_eq_left', true_and, ← hbelow]
        cases profile.upgradeAllowed with
        | false => simp
        | true => split_ifs <;> simp_all

/-- What two sets of profiles may differ in without consequence: names and disallowed entries. -/
def SameAllowed (profiles profiles' : KeyedTable ℤ QualityProfile) : Prop :=
  ∀ id, Option.Rel
    (fun profile profile' ↦ profile'.upgradeAllowed = profile.upgradeAllowed ∧
      profile'.cutoff = profile.cutoff ∧ profile'.allowedEntries = profile.allowedEntries)
    (profiles.lookup id) (profiles'.lookup id)

/-- The items differ in file quality IDs that belong to no allowed entry of their profile. -/
def SameKnownQualities (profiles : KeyedTable ℤ QualityProfile) (item item' : LibraryItem) : Prop :=
  item' = { item with currentQualityIDs := item'.currentQualityIDs } ∧
    ∀ profile ∈ profiles.lookup item.qualityProfileID, ∀ qid,
      (∃ entry ∈ profile.allowedEntries, entry.Holds qid) →
        (qid ∈ item'.currentQualityIDs ↔ qid ∈ item.currentQualityIDs)

theorem SameAllowed.lookup_cases {profiles profiles' : KeyedTable ℤ QualityProfile}
    (h : SameAllowed profiles profiles') (id : ℤ) :
    profiles.lookup id = none ∧ profiles'.lookup id = none ∨
      ∃ profile profile', profiles.lookup id = some profile ∧ profiles'.lookup id = some profile' ∧
        profile'.upgradeAllowed = profile.upgradeAllowed ∧ profile'.cutoff = profile.cutoff ∧
        profile'.allowedEntries = profile.allowedEntries := by
  have hid := h id
  generalize profiles.lookup id = before at hid
  generalize profiles'.lookup id = after at hid
  cases hid with
  | none => exact Or.inl ⟨rfl, rfl⟩
  | some hsame => exact Or.inr ⟨_, _, rfl, rfl, hsame⟩

/-- The reference looks at the allowed entries, and at the quality IDs they hold. -/
theorem upgradeDue_congr {profiles profiles' : KeyedTable ℤ QualityProfile}
    (hprofiles : SameAllowed profiles profiles') {item item' : LibraryItem}
    (hitem : SameKnownQualities profiles item item') :
    UpgradeDue profiles' item' ↔ UpgradeDue profiles item := by
  obtain ⟨hsame, hqualities⟩ := hitem
  have hfile : item'.hasFile = item.hasFile := by rw [hsame]
  have hmonitored : item'.monitored = item.monitored := by rw [hsame]
  have hprofileID : item'.qualityProfileID = item.qualityProfileID := by rw [hsame]
  unfold UpgradeDue
  rw [hfile, hmonitored, hprofileID]
  refine and_congr_right fun _ ↦ and_congr_right fun _ ↦ ?_
  rcases hprofiles.lookup_cases item.qualityProfileID with ⟨hnone, hnone'⟩ |
    ⟨profile, profile', hprofile, hprofile', hupgrade, hcutoff, hentries⟩
  · rw [hnone, hnone']
    simp
  · have hknown (qid : ℤ) (h : Precedes profile.allowedEntries (ProfileEntry.Holds qid)
        (ProfileEntry.Holds profile.cutoff)) :
        qid ∈ item'.currentQualityIDs ↔ qid ∈ item.currentQualityIDs := by
      obtain ⟨i, j, -, ⟨entry, hentry, hholds⟩, -⟩ := h
      exact hqualities profile hprofile qid ⟨entry, List.mem_of_getElem? hentry, hholds⟩
    rw [hprofile, hprofile']
    simp only [Option.mem_def, Option.some.injEq, exists_eq_left', hupgrade, hcutoff, hentries]
    exact and_congr_right fun _ ↦ exists_congr fun qid ↦ and_congr_left fun h ↦ hknown qid h

/-- The decision is that of the reference, which looks at the allowed entries only; so it does not
change with the disallowed entries of the profiles, nor with quality IDs no allowed entry holds. -/
theorem filterUpgradeable_eq_reference (items : List LibraryItem)
    (profiles : KeyedTable ℤ QualityProfile)
    (h : ∀ id, ∀ profile ∈ profiles.lookup id, profile.Unambiguous) :
    (filterUpgradeable items profiles).1 =
        (items.filter fun item ↦ UpgradeDue profiles item).map LibraryItem.toUpgradeItem ∧
      ∀ items' profiles', SameAllowed profiles profiles' →
        List.Forall₂ (SameKnownQualities profiles) items items' →
        (filterUpgradeable items' profiles').1 = (filterUpgradeable items profiles).1 := by
  have hreference (items : List LibraryItem) {profiles : KeyedTable ℤ QualityProfile}
      (h : ∀ id, ∀ profile ∈ profiles.lookup id, profile.Unambiguous) :
      (filterUpgradeable items profiles).1 =
        (items.filter fun item ↦ UpgradeDue profiles item).map LibraryItem.toUpgradeItem := by
    rw [filterUpgradeable_fst]
    exact congrArg (List.map LibraryItem.toUpgradeItem) (List.filter_congr fun item _ ↦
      decide_eq_decide.mpr (bucket_eq_upgradeable_iff h item))
  refine ⟨hreference items h, fun items' profiles' hprofiles hitems ↦ ?_⟩
  have h' : ∀ id, ∀ profile ∈ profiles'.lookup id, profile.Unambiguous := by
    intro id profile' hprofile'
    rcases hprofiles.lookup_cases id with ⟨-, hnone⟩ |
      ⟨profile, other, hprofile, hother, -, -, hentries⟩
    · rw [hnone] at hprofile'
      cases hprofile'
    · obtain rfl : other = profile' := Option.some.inj (hother.symm.trans hprofile')
      unfold QualityProfile.Unambiguous
      rw [hentries]
      exact h id profile hprofile
  rw [hreference items h, hreference items' h']
  induction hitems with
  | nil => rfl
  | @cons item item' items items' hitem _ ih =>
    have hdue := upgradeDue_congr hprofiles hitem
    have hcandidate : item'.toUpgradeItem = item.toUpgradeItem := by
      rw [hitem.1]
      rfl
    by_cases hitemDue : UpgradeDue profiles item
    · rw [List.filter_cons_of_pos (by simpa using hdue.mpr hitemDue),
        List.filter_cons_of_pos (by simpa using hitemDue), List.map_cons, List.map_cons,
        hcandidate, ih]
    · rw [List.filter_cons_of_neg (by simpa using mt hdue.mp hitemDue),
        List.filter_cons_of_neg (by simpa using hitemDue), ih]

/-- A profile with a group of two qualities and a disallowed entry below the cutoff. -/
def sampleProfile : QualityProfile where
  id := 1
  name := "Any"
  upgradeAllowed := true
  cutoff := 7
  items :=
    [⟨0, some ⟨1, "SDTV"⟩, "", [], true⟩,
      ⟨1000, none, "HD", [⟨0, some ⟨4, "HDTV-720p"⟩, "", [], false⟩,
        ⟨0, some ⟨9, "HDTV-1080p"⟩, "", [], false⟩], true⟩,
      ⟨0, some ⟨2, "DVD"⟩, "", [], false⟩,
      ⟨0, some ⟨7, "Bluray-1080p"⟩, "", [], true⟩]

def sampleItem (qualityIDs : List ℤ) : LibraryItem :=
  ⟨5, "Film", "/movie/film", 1, qualityIDs, true, true⟩

def sampleProfiles : KeyedTable ℤ QualityProfile := AList.insert 1 sampleProfile ∅

theorem lookup_sampleProfiles (id : ℤ) :
    sampleProfiles.lookup id = if id = 1 then some sampleProfile else none := by
  unfold sampleProfiles
  split_ifs with hid
  · rw [hid, AList.lookup_insert]
  · rw [AList.lookup_insert_ne hid, AList.lookup_empty]

/-- A file of a member of the group is below the cutoff, whatever other qualities it has. -/
theorem filterUpgradeable_sampleProfiles :
    (filterUpgradeable [sampleItem [9]] sampleProfiles).1 = [⟨5, "Film", "/movie/film"⟩] ∧
      (filterUpgradeable [sampleItem [2, 9, 3]] sampleProfiles).1 = [⟨5, "Film", "/movie/film"⟩] := by
  have honly {id : ℤ} {profile : QualityProfile} (h : profile ∈ sampleProfiles.lookup id) :
      profile = sampleProfile := by
    rw [lookup_sampleProfiles] at h
    split_ifs at h
    · exact (Option.some.inj h).symm
    · cases h
  have hunambiguous : ∀ id, ∀ profile ∈ sampleProfiles.lookup id, profile.Unambiguous := by
    intro id profile hprofile
    rw [honly hprofile]
    decide
  obtain ⟨hreference, hsame⟩ :=
    filterUpgradeable_eq_reference [sampleItem [9]] sampleProfiles hunambiguous
  have hfirst : (filterUpgradeable [sampleItem [9]] sampleProfiles).1 =
      [⟨5, "Film", "/movie/film"⟩] := hreference.trans (by decide +kernel)
  refine ⟨hfirst, (hsame _ _ (fun id ↦ ?_) (List.Forall₂.cons ⟨rfl, ?_⟩ .nil)).trans hfirst⟩
  · cases sampleProfiles.lookup id with
    | none => exact Option.Rel.none
    | some profile => exact Option.Rel.some ⟨rfl, rfl, rfl⟩
  · intro profile hprofile qid hknown
    rw [honly hprofile] at hknown
    have hqid : qid ≠ 2 ∧ qid ≠ 3 := by
      constructor <;> rintro rfl <;> revert hknown <;> decide
    simp [sampleItem, hqid]

end Huntarr2.Arr
