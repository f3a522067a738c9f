import Huntarr2.Activity.Search
import Huntarr2.Foundation.SortedBy
import Huntarr2.Foundation.Tally
import Huntarr2.Instance.Store
import Mathlib.Data.Prod.Lex
import Mathlib.Data.Set.List
import Mathlib.Data.String.Basic

/-!
# The counts of the dashboard

The dashboard shows how often each action was logged, over all instances and for each of them. One loop
keeps both, the totals in four variables and the rest in a map whose accumulators are created on the
way. The map is read in any order and sorted with a sort that is not stable.
-/

namespace Huntarr2.Pages

open Activity
open Instances (FullInstance appTypeLabel)

/-! ## Counts -/

/-- The sum of no counts is zero, and their order does not matter, also where a sum wraps around. -/
instance instAddCommMonoidInt64 : AddCommMonoid Int64 where
  add_assoc := Int64.add_assoc
  zero_add := Int64.zero_add
  add_zero := Int64.add_zero
  add_comm := Int64.add_comm
  nsmul := nsmulRec

/-- `activity.ActionStats`, with any text for its action and any `int` for its count. -/
structure StatsRow where
  instanceID : Option UUID
  instanceName : String
  action : Text
  count : Int64
  deriving DecidableEq

/-- `activityTotals`. -/
structure ActivityTotals where
  searches : Int64
  skipped : Int64
  upgrades : Int64
  downloads : Int64
  deriving DecidableEq

/-- The counters of the dashboard. -/
inductive Counter
  | searches
  | skipped
  | upgrades
  | downloads
  deriving DecidableEq, Repr

/-- The action that a counter counts. -/
def Counter.action : Counter → Text
  | searches => Action.searchCycle.text
  | skipped => Action.searchSkip.text
  | upgrades => Action.upgradeDetected.text
  | downloads => Action.downloadDetected.text

namespace ActivityTotals

def zero : ActivityTotals := ⟨0, 0, 0, 0⟩

def get (totals : ActivityTotals) : Counter → Int64
  | .searches => totals.searches
  | .skipped => totals.skipped
  | .upgrades => totals.upgrades
  | .downloads => totals.downloads

/-- The switch over the action of a row. -/
def add (totals : ActivityTotals) (row : StatsRow) : ActivityTotals :=
  if row.action = Action.searchCycle.text then
    { totals with searches := totals.searches + row.count }
  else if row.action = Action.searchSkip.text then
    { totals with skipped := totals.skipped + row.count }
  else if row.action = Action.upgradeDetected.text then
    { totals with upgrades := totals.upgrades + row.count }
  else if row.action = Action.downloadDetected.text then
    { totals with downloads := totals.downloads + row.count }
  else totals

end ActivityTotals

/-- `instAcc`. -/
structure InstAcc extends ActivityTotals where
  name : String
  appType : String

/-- `pages.HomeInstanceStats`. -/
structure HomeInstanceStats where
  instanceID : String
  instanceName : String
  appType : String
  searchCount : Int64
  skipCount : Int64
  upgradeCount : Int64
  downloadCount : Int64
  deriving DecidableEq

def HomeInstanceStats.get (shown : HomeInstanceStats) : Counter → Int64
  | .searches => shown.searchCount
  | .skipped => shown.skipCount
  | .upgrades => shown.upgradeCount
  | .downloads => shown.downloadCount

/-! ## The loop -/

/-- The key of a row: the text of its instance ID, or nothing. -/
def statsKey (row : StatsRow) : String := (row.instanceID.map uuidText).getD ""

/-- The accumulator that is created from a row. -/
def newInstAcc (instMap : KeyedTable String FullInstance) (row : StatsRow) : InstAcc :=
  let known := row.instanceID.bind fun id ↦ instMap.lookup (uuidText id)
  { ActivityTotals.zero with
    name := if row.instanceName = "" then (known.map fun inst ↦ String.ofList inst.name).getD ""
      else row.instanceName
    appType := (known.map fun inst ↦ appTypeLabel inst.appType).getD "" }

def InstAcc.add (acc : InstAcc) (row : StatsRow) : InstAcc :=
  { acc with toActivityTotals := acc.toActivityTotals.add row }

/-- The body of the loop over the rows. -/
def aggregateRow (instMap : KeyedTable String FullInstance)
    (state : ActivityTotals × KeyedTable String InstAcc) (row : StatsRow) :
    ActivityTotals × KeyedTable String InstAcc :=
  (state.1.add row, accumulate statsKey (newInstAcc instMap) InstAcc.add state.2 row)

/-- The totals and the map after the loop. -/
def aggregateRows (stats : List StatsRow) (instMap : KeyedTable String FullInstance) :
    ActivityTotals × KeyedTable String InstAcc :=
  stats.foldl (aggregateRow instMap) (ActivityTotals.zero, ∅)

/-! ## The rows shown -/

/-- The rows made from the map, in the order in which it is visited. -/
def homeRows (visited : List (Sigma fun _ : String ↦ InstAcc)) : List HomeInstanceStats :=
  (visited.filter fun entry ↦ entry.1 ≠ "").map fun entry ↦
    { instanceID := entry.1
      instanceName := entry.2.name
      appType := entry.2.appType
      searchCount := entry.2.searches
      skipCount := entry.2.skipped
      upgradeCount := entry.2.upgrades
      downloadCount := entry.2.downloads }

/-- The comparison of the sort looks at the instance name and then at the app type. -/
def HomeInstanceStats.sortKey (shown : HomeInstanceStats) : String ×ₗ String :=
  toLex (shown.instanceName, shown.appType)

/-- `aggregateStats` may return the totals and the rows. -/
def AggregatesTo (stats : List StatsRow) (instMap : KeyedTable String FullInstance)
    (totals : ActivityTotals) (perInstance : List HomeInstanceStats) : Prop :=
  totals = (aggregateRows stats instMap).1 ∧
    ∃ visited : List (Sigma fun _ : String ↦ InstAcc),
      visited.Perm (aggregateRows stats instMap).2.entries ∧
        SortsTo HomeInstanceStats.sortKey (homeRows visited) perInstance

/-- `aggregateStats`, with a stable sort. -/
def aggregateStats (stats : List StatsRow) (instMap : KeyedTable String FullInstance) :
    ActivityTotals × List HomeInstanceStats :=
  let (totals, byInst) := aggregateRows stats instMap
  (totals, (homeRows byInst.entries).insertionSort fun first second ↦ first.sortKey ≤ second.sortKey)

theorem aggregatesTo_aggregateStats (stats : List StatsRow)
    (instMap : KeyedTable String FullInstance) :
    AggregatesTo stats instMap (aggregateStats stats instMap).1 (aggregateStats stats instMap).2 :=
  ⟨rfl, _, List.Perm.refl _, sortsTo_insertionSort _ _⟩

/-! ## What the loop keeps -/

/-- A row counts under its action only. -/
theorem ActivityTotals.get_add (totals : ActivityTotals) (row : StatsRow) (counter : Counter) :
    (totals.add row).get counter =
      totals.get counter + if row.action = counter.action then row.count else 0 := by
  have htext (first second : Action) : first.text = second.text ↔ first = second :=
    Action.text_injective.eq_iff
  unfold ActivityTotals.add
  split
  case isTrue h => cases counter <;> simp [ActivityTotals.get, Counter.action, h, htext]
  case isFalse hsearch =>
    split
    case isTrue h => cases counter <;> simp [ActivityTotals.get, Counter.action, h, htext]
    case isFalse hskip =>
      split
      case isTrue h => cases counter <;> simp [ActivityTotals.get, Counter.action, h, htext]
      case isFalse hupgrade =>
        split
        case isTrue h => cases counter <;> simp [ActivityTotals.get, Counter.action, h, htext]
        case isFalse hdownload =>
          have hnone : row.action ≠ counter.action := by
            cases counter with
            | searches => exact hsearch
            | skipped => exact hskip
            | upgrades => exact hupgrade
            | downloads => exact hdownload
          rw [if_neg hnone, add_zero]

theorem ActivityTotals.get_foldl_add (rows : List StatsRow) (totals : ActivityTotals)
    (counter : Counter) :
    (rows.foldl ActivityTotals.add totals).get counter =
      totals.get counter + sumWhere StatsRow.count (fun row ↦ row.action = counter.action) rows :=
  foldl_eq_add_sumWhere (fun totals : ActivityTotals ↦ totals.get counter)
    (fun totals row ↦ by simpa only [decide_eq_true_eq] using totals.get_add row counter) rows totals

/-- The accumulator keeps the totals of its own rows. -/
theorem InstAcc.get_foldl_add (rows : List StatsRow) (acc : InstAcc) (counter : Counter) :
    (rows.foldl InstAcc.add acc).get counter =
      acc.get counter + sumWhere StatsRow.count (fun row ↦ row.action = counter.action) rows :=
  foldl_eq_add_sumWhere (fun acc : InstAcc ↦ acc.get counter)
    (fun acc row ↦ by
      simp only [decide_eq_true_eq]
      exact acc.toActivityTotals.get_add row counter) rows acc

/-- The loop keeps the totals and the map independently of each other. -/
theorem aggregateRows_eq (stats : List StatsRow) (instMap : KeyedTable String FullInstance) :
    aggregateRows stats instMap =
      (stats.foldl ActivityTotals.add ActivityTotals.zero,
        stats.foldl (accumulate statsKey (newInstAcc instMap) InstAcc.add) ∅) := by
  have hfold (state : ActivityTotals × KeyedTable String InstAcc) :
      stats.foldl (aggregateRow instMap) state =
        (stats.foldl ActivityTotals.add state.1,
          stats.foldl (accumulate statsKey (newInstAcc instMap) InstAcc.add) state.2) := by
    induction stats generalizing state with
    | nil => rfl
    | cons row stats ih => exact ih (aggregateRow instMap state row)
  exact hfold (ActivityTotals.zero, ∅)

/-- The counts of the rows with a key and an action. -/
def keyCount (stats : List StatsRow) (key : String) (counter : Counter) : Int64 :=
  sumWhere StatsRow.count (fun row ↦ statsKey row = key && row.action = counter.action) stats

theorem get_of_lookup {stats : List StatsRow} {instMap : KeyedTable String FullInstance}
    {key : String} {acc : InstAcc} (h : (aggregateRows stats instMap).2.lookup key = some acc)
    (counter : Counter) : acc.get counter = keyCount stats key counter := by
  rw [aggregateRows_eq, lookup_accumulated, Option.map_eq_some_iff] at h
  obtain ⟨first, -, rfl⟩ := h
  have hzero : (newInstAcc instMap first).get counter = 0 := by cases counter <;> rfl
  rw [InstAcc.get_foldl_add, hzero, zero_add, sumWhere_filter]
  refine sumWhere_congr fun row _ ↦ ?_
  exact Bool.and_comm _ _

theorem mem_aggregateRows (stats : List StatsRow) (instMap : KeyedTable String FullInstance)
    (key : String) : key ∈ (aggregateRows stats instMap).2 ↔ ∃ row ∈ stats, statsKey row = key := by
  rw [aggregateRows_eq]
  exact mem_accumulated _ _ _

/-! ## What is shown -/

theorem uuidText_ne_empty (id : UUID) : uuidText id ≠ "" := by
  intro h
  have hdigits := filter_uuidText id
  rw [h] at hdigits
  have hlength := congrArg List.length hdigits
  rw [List.length_map, List.length_range] at hlength
  exact absurd hlength (by decide)

theorem statsKey_eq_empty_iff (row : StatsRow) : statsKey row = "" ↔ row.instanceID = none := by
  unfold statsKey
  cases row.instanceID with
  | none => simp
  | some id => simpa using uuidText_ne_empty id

theorem statsKey_eq_uuidText_iff (row : StatsRow) (id : UUID) :
    statsKey row = uuidText id ↔ row.instanceID = some id := by
  unfold statsKey
  cases row.instanceID with
  | none => simpa using (uuidText_ne_empty id).symm
  | some other => simpa using uuidText_injective.eq_iff

namespace AggregatesTo

variable {stats : List StatsRow} {instMap : KeyedTable String FullInstance}
  {totals : ActivityTotals} {perInstance : List HomeInstanceStats}

theorem perm (h : AggregatesTo stats instMap totals perInstance) :
    perInstance.Perm (homeRows (aggregateRows stats instMap).2.entries) := by
  obtain ⟨-, visited, hvisited, hsorted⟩ := h
  exact hsorted.perm.trans ((hvisited.filter _).map _)

theorem get_totals (h : AggregatesTo stats instMap totals perInstance) (counter : Counter) :
    totals.get counter =
      sumWhere StatsRow.count (fun row ↦ row.action = counter.action) stats := by
  have hzero : ActivityTotals.zero.get counter = 0 := by cases counter <;> rfl
  rw [h.1, aggregateRows_eq, ActivityTotals.get_foldl_add, hzero, zero_add]

/-- A row shown has the counts of its key. -/
theorem get_shown (h : AggregatesTo stats instMap totals perInstance) {shown : HomeInstanceStats}
    (hshown : shown ∈ perInstance) (counter : Counter) :
    shown.get counter = keyCount stats shown.instanceID counter := by
  obtain ⟨entry, hentry, rfl⟩ := List.mem_map.mp (h.perm.mem_iff.mp hshown)
  have hlookup := AList.mem_lookup_iff.mpr (List.mem_filter.mp hentry).1
  have hget := get_of_lookup hlookup counter
  cases counter <;> exact hget

/-- The keys shown are those of the accumulators with an instance. -/
theorem keys_perm (h : AggregatesTo stats instMap totals perInstance) :
    (perInstance.map (·.instanceID)).Perm
      ((aggregateRows stats instMap).2.keys.filter (· ≠ "")) := by
  have hkeys := h.perm.map (·.instanceID)
  unfold homeRows at hkeys
  rw [List.map_map] at hkeys
  unfold AList.keys List.keys
  rw [List.filter_map]
  exact hkeys

theorem keys_nodup (h : AggregatesTo stats instMap totals perInstance) :
    (perInstance.map (·.instanceID)).Nodup :=
  h.keys_perm.nodup_iff.mpr ((aggregateRows stats instMap).2.nodupKeys.filter _)

theorem mem_keys (h : AggregatesTo stats instMap totals perInstance) (key : String) :
    key ∈ perInstance.map (·.instanceID) ↔ key ≠ "" ∧ ∃ row ∈ stats, statsKey row = key := by
  rw [h.keys_perm.mem_iff, List.mem_filter, ← mem_aggregateRows stats instMap, AList.mem_keys]
  simp [and_comm]

end AggregatesTo

/-! ## Conservation -/

/-- The count shown for an instance, zero where it has no row. -/
def shownCount (perInstance : List HomeInstanceStats) (key : String) (counter : Counter) : Int64 :=
  sumWhere (fun shown : HomeInstanceStats ↦ shown.get counter)
    (fun shown ↦ shown.instanceID = key) perInstance

/-- Each instance of the statistics has one row with the sums of its counts. The totals are the sums
over all instances and over the statistics without one. -/
structure Accounts (stats : List StatsRow) (totals : ActivityTotals)
    (perInstance : List HomeInstanceStats) : Prop where
  once : ∃ ids : List UUID, ids.Nodup ∧
    (∀ id, id ∈ ids ↔ ∃ row ∈ stats, row.instanceID = some id) ∧
    perInstance.map (·.instanceID) = ids.map uuidText
  counts : ∀ shown ∈ perInstance, ∀ id, shown.instanceID = uuidText id → ∀ counter,
    shown.get counter = sumWhere StatsRow.count
      (fun row ↦ row.instanceID = some id && row.action = counter.action) stats
  overall : ∀ counter, totals.get counter =
    sumWhere StatsRow.count (fun row ↦ row.action = counter.action) stats
  split : ∀ counter, totals.get counter =
    (perInstance.map fun shown ↦ shown.get counter).sum + sumWhere StatsRow.count
      (fun row ↦ row.instanceID = none && row.action = counter.action) stats

/-- The totals and the counts of every instance are the same. -/
def SameCounts (first second : ActivityTotals × List HomeInstanceStats) : Prop :=
  first.1 = second.1 ∧
    ∀ key counter, shownCount first.2 key counter = shownCount second.2 key counter

/-- A row of an action that the dashboard counts. -/
def StatsRow.displayed (row : StatsRow) : Bool :=
  [Counter.searches, .skipped, .upgrades, .downloads].any fun counter ↦ row.action = counter.action

/-- The dashboard accounts for the statistics. Rows of other actions change no count, and neither does
the order of the rows. -/
structure Conserved (stats : List StatsRow) (instMap : KeyedTable String FullInstance) : Prop where
  accounts : ∀ totals perInstance, AggregatesTo stats instMap totals perInstance →
    Accounts stats totals perInstance
  others : ∀ other : List StatsRow,
    other.filter StatsRow.displayed = stats.filter StatsRow.displayed →
      ∀ first second, AggregatesTo stats instMap first.1 first.2 →
        AggregatesTo other instMap second.1 second.2 → SameCounts first second
  order : ∀ other : List StatsRow, other.Perm stats →
    ∀ first second, AggregatesTo stats instMap first.1 first.2 →
      AggregatesTo other instMap second.1 second.2 →
        SameCounts first second ∧
          (first.2.map (·.instanceID)).Perm (second.2.map (·.instanceID))

namespace AggregatesTo

variable {stats : List StatsRow} {instMap : KeyedTable String FullInstance}
  {totals : ActivityTotals} {perInstance : List HomeInstanceStats}

theorem shownCount_eq (h : AggregatesTo stats instMap totals perInstance) (key : String)
    (counter : Counter) :
    shownCount perInstance key counter = if key = "" then 0 else keyCount stats key counter := by
  unfold shownCount
  by_cases hkey : key ∈ perInstance.map (·.instanceID)
  · have hne := ((h.mem_keys key).mp hkey).1
    obtain ⟨shown, hshown, rfl⟩ := List.mem_map.mp hkey
    rw [if_neg hne, ← h.get_shown hshown counter]
    exact sumWhere_key h.keys_nodup hshown
  · have hnone : sumWhere (fun shown : HomeInstanceStats ↦ shown.get counter)
        (fun shown ↦ shown.instanceID = key) perInstance = 0 := by
      refine sumWhere_eq_zero fun shown hshown ↦ decide_eq_false fun hsame ↦ hkey ?_
      exact List.mem_map.mpr ⟨shown, hshown, hsame⟩
    rw [hnone]
    split
    case isTrue => rfl
    case isFalse hne =>
      refine (sumWhere_eq_zero fun row hrow ↦ ?_).symm
      have hother : statsKey row ≠ key :=
        fun hsame ↦ hkey ((h.mem_keys key).mpr ⟨hne, row, hrow, hsame⟩)
      rw [decide_eq_false hother, Bool.false_and]

theorem accounts (h : AggregatesTo stats instMap totals perInstance) :
    Accounts stats totals perInstance where
  once := by
    have htext : ∀ key ∈ perInstance.map (·.instanceID), key ∈ Set.range uuidText := by
      intro key hkey
      obtain ⟨hne, row, -, rfl⟩ := (h.mem_keys key).mp hkey
      cases hid : row.instanceID with
      | none => exact absurd ((statsKey_eq_empty_iff row).mpr hid) hne
      | some id => exact ⟨id, ((statsKey_eq_uuidText_iff row id).mpr hid).symm⟩
    obtain ⟨ids, hids⟩ : perInstance.map (·.instanceID) ∈ Set.range (List.map uuidText) := by
      rw [Set.range_list_map]
      exact htext
    refine ⟨ids, (hids ▸ h.keys_nodup).of_map, fun id ↦ ?_, hids.symm⟩
    rw [← List.mem_map_of_injective uuidText_injective, hids, h.mem_keys,
      and_iff_right (uuidText_ne_empty id)]
    exact exists_congr fun row ↦ and_congr_right fun _ ↦ statsKey_eq_uuidText_iff row id
  counts := by
    intro shown hshown id hid counter
    rw [h.get_shown hshown counter, hid]
    refine sumWhere_congr fun row _ ↦ congrArg (· && _) ?_
    exact decide_eq_decide.mpr (statsKey_eq_uuidText_iff row id)
  overall := h.get_totals
  split := by
    intro counter
    have hnodup : ("" :: perInstance.map (·.instanceID)).Nodup :=
      List.nodup_cons.mpr ⟨fun hmem ↦ ((h.mem_keys "").mp hmem).1 rfl, h.keys_nodup⟩
    have hkeys : ∀ row ∈ stats, statsKey row ∈ "" :: perInstance.map (·.instanceID) := by
      intro row hrow
      rw [List.mem_cons, h.mem_keys]
      exact (em _).imp_right fun hne ↦ ⟨hne, row, hrow, rfl⟩
    have hnone : keyCount stats "" counter = sumWhere StatsRow.count
        (fun row ↦ row.instanceID = none && row.action = counter.action) stats :=
      sumWhere_congr fun row _ ↦
        congrArg (· && _) (decide_eq_decide.mpr (statsKey_eq_empty_iff row))
    calc
      totals.get counter =
          sumWhere StatsRow.count (fun row ↦ row.action = counter.action) stats := h.get_totals counter
      _ = (("" :: perInstance.map (·.instanceID)).map (keyCount stats · counter)).sum :=
        sumWhere_eq_sum_keys statsKey hnodup hkeys
      _ = (perInstance.map fun shown ↦ keyCount stats shown.instanceID counter).sum +
          keyCount stats "" counter := by
        rw [List.map_cons, List.sum_cons, add_comm, List.map_map]
        rfl
      _ = _ := by
        rw [hnone, List.map_congr_left fun shown hshown ↦ (h.get_shown hshown counter).symm]

end AggregatesTo

theorem ActivityTotals.eq_of_get {first second : ActivityTotals}
    (h : ∀ counter, first.get counter = second.get counter) : first = second := by
  obtain ⟨_, _, _, _⟩ := first
  obtain ⟨_, _, _, _⟩ := second
  rw [ActivityTotals.mk.injEq]
  exact ⟨h .searches, h .skipped, h .upgrades, h .downloads⟩

/-- Statistics with the same sums are shown with the same counts. -/
theorem sameCounts_of_sums {stats other : List StatsRow} {instMap : KeyedTable String FullInstance}
    {first second : ActivityTotals × List HomeInstanceStats}
    (hfirst : AggregatesTo stats instMap first.1 first.2)
    (hsecond : AggregatesTo other instMap second.1 second.2)
    (hsums : ∀ (p : StatsRow → Bool) (counter : Counter),
      sumWhere StatsRow.count (fun row ↦ p row && row.action = counter.action) stats =
        sumWhere StatsRow.count (fun row ↦ p row && row.action = counter.action) other) :
    SameCounts first second := by
  constructor
  · refine ActivityTotals.eq_of_get fun counter ↦ ?_
    rw [hfirst.get_totals, hsecond.get_totals]
    exact hsums (fun _ ↦ true) counter
  · intro key counter
    rw [hfirst.shownCount_eq, hsecond.shownCount_eq]
    exact if_congr Iff.rfl rfl (hsums (fun row ↦ statsKey row = key) counter)

/-- A row that adds to a counter is displayed. -/
theorem StatsRow.displayed_of_action {row : StatsRow} {counter : Counter}
    (h : row.action = counter.action) : row.displayed = true := by
  refine List.any_eq_true.mpr ⟨counter, ?_, decide_eq_true h⟩
  cases counter <;> decide

/-- The dashboard conserves the counts of the statistics. -/
theorem aggregateStats_conserved (stats : List StatsRow)
    (instMap : KeyedTable String FullInstance) : Conserved stats instMap where
  accounts := fun _ _ h ↦ h.accounts
  others := by
    intro other hother first second hfirst hsecond
    refine sameCounts_of_sums hfirst hsecond fun p counter ↦ ?_
    have hcounted (rows : List StatsRow) :
        sumWhere StatsRow.count (fun row ↦ p row && row.action = counter.action)
            (rows.filter StatsRow.displayed) =
          sumWhere StatsRow.count (fun row ↦ p row && row.action = counter.action) rows :=
      sumWhere_filter_of_imp fun row _ hrow ↦
        StatsRow.displayed_of_action (of_decide_eq_true (Bool.and_elim_right hrow))
    rw [← hcounted stats, ← hcounted other, hother]
  order := by
    intro other hperm first second hfirst hsecond
    refine ⟨sameCounts_of_sums hfirst hsecond fun p counter ↦ (sumWhere_perm hperm).symm, ?_⟩
    refine (List.perm_ext_iff_of_nodup hfirst.keys_nodup hsecond.keys_nodup).mpr fun key ↦ ?_
    rw [hfirst.mem_keys, hsecond.mem_keys]
    exact and_congr_right fun _ ↦ exists_congr fun row ↦ and_congr_left fun _ ↦ hperm.mem_iff.symm

/-- As integers the sums wrap around where they leave the range of an `int`, and are exact elsewhere. -/
theorem toInt_sumWhere (p : StatsRow → Bool) (stats : List StatsRow) :
    (sumWhere StatsRow.count p stats).toInt =
      GoStd.wrap64 (sumWhere (fun row ↦ row.count.toInt) p stats) := by
  induction stats with
  | nil => rfl
  | cons row stats ih =>
    rw [sumWhere_cons, sumWhere_cons, Int64.toInt_add, ih]
    unfold GoStd.wrap64
    rw [Int.add_bmod_bmod]
    split <;> rfl

/-! ## The counts of the log -/

/-- A row of `Stats`, whose count is a `COUNT(*)`. -/
def StatsRow.ofStats (row : ActionStats) : StatsRow where
  instanceID := row.instanceID
  instanceName := row.instanceName
  action := row.action.text
  count := Int64.ofNat row.count

theorem ofNat_countP (p : Row → Bool) (log : List Row) :
    Int64.ofNat (log.countP p) = sumWhere (fun _ ↦ 1) p log := by
  induction log with
  | nil => rfl
  | cons row log ih =>
    rw [List.countP_cons, sumWhere_cons, ← ih, Int64.ofNat_add, add_comm]
    split <;> rfl

/-- The totals of the dashboard count the entries of the log. -/
theorem get_totals_of_log {log : List Row} {names : UUID → Option String}
    {since : Option Clock.Timestamp} {instMap : KeyedTable String FullInstance}
    {totals : ActivityTotals} {perInstance : List HomeInstanceStats}
    (h : AggregatesTo ((stats log names since).map StatsRow.ofStats) instMap totals perInstance)
    (counter : Counter) :
    totals.get counter = Int64.ofNat
      ((statsRows log since).countP fun row ↦ row.action.text = counter.action) := by
  let group (row : Row) := (row.instanceID, row.action)
  have hgroups : ∀ row ∈ statsRows log since, group row ∈ ((statsRows log since).map group).dedup :=
    fun row hrow ↦ List.mem_dedup.mpr (List.mem_map_of_mem hrow)
  have hgroup (row : Row) (key : Option UUID × Action) :
      (decide (group row = key) && decide (row.action.text = counter.action)) =
        (decide (group row = key) && decide (key.2.text = counter.action)) := by
    by_cases hrow : group row = key
    · rw [← hrow]
    · rw [decide_eq_false hrow, Bool.false_and, Bool.false_and]
  calc
    totals.get counter = sumWhere StatsRow.count (fun row ↦ row.action = counter.action)
        ((stats log names since).map StatsRow.ofStats) := h.get_totals counter
    -- the statistics have one row per group, and its count is that of the group
    _ = (((statsRows log since).map group).dedup.map fun key ↦
          if key.2.text = counter.action then
            Int64.ofNat ((statsRows log since).countP fun row ↦ group row = key) else 0).sum := by
      unfold stats
      refine (sumWhere_perm ((List.perm_insertionSort _ _).map StatsRow.ofStats)).trans ?_
      rw [List.map_map, sumWhere_map, sumWhere_eq_sum_ite]
      simp only [Function.comp_apply, decide_eq_true_eq]
      rfl
    _ = (((statsRows log since).map group).dedup.map fun key ↦ sumWhere (fun _ ↦ 1)
          (fun row ↦ group row = key && row.action.text = counter.action)
          (statsRows log since)).sum := by
      refine congrArg List.sum (List.map_congr_left fun key _ ↦ ?_)
      rw [ofNat_countP, sumWhere_congr fun row _ ↦ hgroup row key]
      by_cases haction : key.2.text = counter.action
      · simp only [haction, if_true, decide_true, Bool.and_true]
      · rw [if_neg haction, decide_eq_false haction]
        exact (sumWhere_eq_zero fun row _ ↦ Bool.and_false _).symm
    _ = sumWhere (fun _ ↦ 1) (fun row ↦ row.action.text = counter.action) (statsRows log since) :=
      (sumWhere_eq_sum_keys group (List.nodup_dedup _) hgroups).symm
    _ = _ := (ofNat_countP _ _).symm

end Huntarr2.Pages
