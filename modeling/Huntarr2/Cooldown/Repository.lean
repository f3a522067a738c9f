import Huntarr2.Clock.Strftime
import Huntarr2.Foundation.KeyedTable
import Huntarr2.GoStd.Duration
import Huntarr2.Instance.Instance

/-!
# Search cooldowns

SQLite stores the time of an item's last search with `strftime` at millisecond resolution and
compares the stored texts. These texts have a fixed width, so comparing them is comparing the
milliseconds, and the table keeps the milliseconds. Periods reach SQLite in whole seconds.
-/

namespace Huntarr2.Cooldown

open Clock GoStd

/-! ## Stored times -/

/-- The milliseconds of a point in time. -/
def millis (time : Time) : ℤ := time / 1000000

theorem millis_le {first second : Time} (h : first ≤ second) : millis first ≤ millis second :=
  Int.ediv_le_ediv (by norm_num) h

/-! ## The repository -/

/-- `search_cooldowns`: the milliseconds of the last search by instance and item. -/
abbrev Table := KeyedTable (UUID × ℤ) ℤ

/-- `int64(period.Seconds())`. -/
def wholeSeconds (period : Duration) : ℤ := period.tdiv second

/-- The time a number of whole seconds before now, in milliseconds. -/
def cutoff (now : Time) (period : Duration) : ℤ := millis now - wholeSeconds period * 1000

/-- The largest number of parameters SQLite binds in one statement. -/
def maxVariableNumber : ℕ := 32766

/-- `FilterCoolingDown`, where SQLite's clock shows `now`. The order of the rows is left open by the
query; here it is that of the queried IDs. -/
def filterCoolingDown (table : Table) (instanceID : UUID) (itemIDs : List ℤ) (period : Duration)
    (now : Time) (failure : Option String) : Except String (List ℤ) :=
  if itemIDs.isEmpty then .ok []
  else match failure with
    | some err => .error s!"querying items on cooldown: {err}"
    | none =>
      if maxVariableNumber < itemIDs.length + 2 then
        .error "querying items on cooldown: too many SQL variables"
      else .ok (itemIDs.dedup.filter fun itemID ↦
        (table.lookup (instanceID, itemID)).any fun searchedAt ↦ cutoff now period < searchedAt)

/-- `RecordSearches`, where SQLite's clock shows `now`. A failed transaction leaves the table as it
was. -/
def recordSearches (table : Table) (instanceID : UUID) (itemIDs : List ℤ) (now : Time)
    (failure : Option String) : Except String Unit × Table :=
  if itemIDs.isEmpty then (.ok (), table)
  else match failure with
    | some err => (.error s!"recording search cooldown: {err}", table)
    | none => (.ok (), table.upsertAll (itemIDs.map fun itemID ↦ (instanceID, itemID)) (millis now))

/-- `DeleteExpired`, where SQLite's clock shows `now`: the result is the number of rows removed. -/
def deleteExpired (table : Table) (olderThan : Duration) (now : Time) (failure : Option String) :
    Except String ℕ × Table :=
  match failure with
  | some err => (.error s!"deleting expired cooldowns: {err}", table)
  | none =>
    let expired (_ : UUID × ℤ) (searchedAt : ℤ) : Bool := searchedAt < cutoff now olderThan
    (.ok ((table.entries.filter fun row ↦ expired row.1 row.2).length), table.deleteWhere expired)

/-! ## What the operations do to a row -/

theorem mem_filterCoolingDown {table : Table} {instanceID : UUID} {itemIDs coolingDown : List ℤ}
    {period : Duration} {now : Time} {failure : Option String}
    (h : filterCoolingDown table instanceID itemIDs period now failure = .ok coolingDown)
    (itemID : ℤ) : itemID ∈ coolingDown ↔ itemID ∈ itemIDs ∧
      ∃ searchedAt ∈ table.lookup (instanceID, itemID), cutoff now period < searchedAt := by
  unfold filterCoolingDown at h
  split at h
  case isTrue hempty =>
    rw [← Except.ok.inj h, List.isEmpty_iff.mp hempty]
    simp
  case isFalse =>
    split at h
    · cases h
    · split at h
      · cases h
      · rw [← Except.ok.inj h]
        simp [Option.any_eq_true]

/-- The filter reads only the rows of the queried instance. -/
theorem filterCoolingDown_congr {first second : Table} {instanceID : UUID}
    (h : ∀ itemID, first.lookup (instanceID, itemID) = second.lookup (instanceID, itemID))
    (itemIDs : List ℤ) (period : Duration) (now : Time) (failure : Option String) :
    filterCoolingDown first instanceID itemIDs period now failure =
      filterCoolingDown second instanceID itemIDs period now failure := by
  unfold filterCoolingDown
  simp only [h]

theorem lookup_recordSearches (table : Table) (instanceID : UUID) (itemIDs : List ℤ) (now : Time)
    (key : UUID × ℤ) :
    (recordSearches table instanceID itemIDs now none).2.lookup key =
      if key.1 = instanceID ∧ key.2 ∈ itemIDs then some (millis now) else table.lookup key := by
  unfold recordSearches
  split
  case isTrue hempty =>
    rw [List.isEmpty_iff.mp hempty]
    simp
  case isFalse =>
    dsimp only
    rw [KeyedTable.lookup_upsertAll]
    congr 1
    rw [List.mem_map]
    exact propext ⟨fun ⟨itemID, hmem, hkey⟩ ↦ by rw [← hkey]; exact ⟨rfl, hmem⟩,
      fun ⟨hinstance, hmem⟩ ↦ ⟨key.2, hmem, by rw [← hinstance]⟩⟩

/-- Searches of one instance leave the rows of the others alone. -/
theorem lookup_recordSearches_of_ne {table : Table} {instanceID other : UUID}
    (hother : other ≠ instanceID) (itemIDs : List ℤ) (now : Time) (failure : Option String)
    (itemID : ℤ) :
    (recordSearches table instanceID itemIDs now failure).2.lookup (other, itemID) =
      table.lookup (other, itemID) := by
  cases failure with
  | some err =>
    unfold recordSearches
    split <;> rfl
  | none => rw [lookup_recordSearches, if_neg fun h ↦ hother h.1]

theorem recordSearches_error {table : Table} {instanceID : UUID} {itemIDs : List ℤ} {now : Time}
    (err : String) : (recordSearches table instanceID itemIDs now (some err)).2 = table := by
  unfold recordSearches
  split <;> rfl

theorem lookup_deleteExpired (table : Table) (olderThan : Duration) (now : Time) (key : UUID × ℤ) :
    (deleteExpired table olderThan now none).2.lookup key =
      (table.lookup key).filter fun searchedAt ↦ !decide (searchedAt < cutoff now olderThan) :=
  KeyedTable.lookup_deleteWhere table _ key

/-! ## Pruning and later filters -/

theorem wholeSeconds_mono {first second : Duration} (h : first ≤ second) :
    wholeSeconds first ≤ wholeSeconds second := by
  unfold wholeSeconds
  exact Int.tdiv_le_tdiv (by decide) h

/-- Rows removed with a retention no shorter than a period are not missed by any later filter that
uses this period. -/
theorem filterCoolingDown_deleteExpired (table : Table) (instanceID : UUID) (itemIDs : List ℤ)
    {period olderThan : Duration} {prunedAt now : Time} (pruneFailure failure : Option String)
    (hperiod : period ≤ olderThan) (hnow : prunedAt ≤ now) :
    filterCoolingDown (deleteExpired table olderThan prunedAt pruneFailure).2 instanceID itemIDs
        period now failure =
      filterCoolingDown table instanceID itemIDs period now failure := by
  cases pruneFailure with
  | some err => rfl
  | none =>
    have hcutoff : cutoff prunedAt olderThan ≤ cutoff now period := by
      have hmillis := millis_le hnow
      have hseconds := wholeSeconds_mono hperiod
      unfold cutoff
      omega
    have hrow (itemID : ℤ) :
        (((deleteExpired table olderThan prunedAt none).2.lookup (instanceID, itemID)).any
            fun searchedAt ↦ decide (cutoff now period < searchedAt)) =
          (table.lookup (instanceID, itemID)).any
            fun searchedAt ↦ decide (cutoff now period < searchedAt) := by
      rw [lookup_deleteExpired]
      cases table.lookup (instanceID, itemID) with
      | none => rfl
      | some searchedAt =>
        by_cases hexpired : searchedAt < cutoff prunedAt olderThan
        · have hold : ¬cutoff now period < searchedAt := by omega
          simp [hexpired, hold]
        · simp [hexpired]
    unfold filterCoolingDown
    simp only [hrow]

/-! ## The statement of the filter -/

/-- A value bound to a parameter. -/
inductive Argument
  | text (value : String)
  | int (value : ℤ)
  deriving DecidableEq, Repr

/-- A query with its bound values. -/
structure Statement where
  query : Text
  args : List Argument

/-- `strings.Join` of the placeholders of the queried IDs. -/
def placeholders (itemIDs : List ℤ) : Text :=
  List.intercalate (", " : Text) (itemIDs.map fun _ ↦ ("?" : Text))

/-- The statement of `FilterCoolingDown`: a parameter for every queried ID, one for the instance and
one for the period. -/
def filterStatement (instanceID : UUID) (itemIDs : List ℤ) (period : Duration) : Statement where
  query := "SELECT item_id FROM search_cooldowns WHERE instance_id = ? AND item_id IN (" ++
    placeholders itemIDs ++ (") AND searched_at > strftime('%Y-%m-%dT%H:%M:%fZ', 'now', " ++
      "'-' || CAST(? AS TEXT) || ' seconds')" : String)
  args := .text (uuidText instanceID) :: itemIDs.map .int ++ [.int (wholeSeconds period)]

/-- SQLite prepares and binds the statement. -/
def Statement.Accepted (statement : Statement) : Prop :=
  statement.query.count '?' ≤ maxVariableNumber ∧
    statement.args.length = statement.query.count '?'

instance : DecidablePred Statement.Accepted :=
  fun _ ↦ inferInstanceAs (Decidable (_ ∧ _))

theorem count_placeholders (itemIDs : List ℤ) : (placeholders itemIDs).count '?' = itemIDs.length := by
  have hones : (itemIDs.map fun _ ↦ ("?" : Text)).map (List.count '?') =
      List.replicate itemIDs.length 1 := by
    rw [List.map_map]
    exact List.map_const'
  unfold placeholders
  rw [count_intercalate (by decide), hones, List.sum_replicate, smul_eq_mul, mul_one]

theorem length_args (instanceID : UUID) (itemIDs : List ℤ) (period : Duration) :
    (filterStatement instanceID itemIDs period).args.length = itemIDs.length + 2 := by
  unfold filterStatement
  simp

theorem count_query (instanceID : UUID) (itemIDs : List ℤ) (period : Duration) :
    (filterStatement instanceID itemIDs period).query.count '?' = itemIDs.length + 2 := by
  unfold filterStatement
  dsimp only
  rw [List.count_append, List.count_append, count_placeholders]
  have hbefore : ("SELECT item_id FROM search_cooldowns WHERE instance_id = ? AND item_id IN (" :
    Text).count '?' = 1 := by decide
  have hafter : (((") AND searched_at > strftime('%Y-%m-%dT%H:%M:%fZ', 'now', " ++
    "'-' || CAST(? AS TEXT) || ' seconds')" : String)) : Text).count '?' = 1 := by decide
  rw [hbefore, hafter]
  omega

/-- The statement has two parameters more than queried IDs. -/
theorem filterStatement_accepted_iff (instanceID : UUID) (itemIDs : List ℤ) (period : Duration) :
    (filterStatement instanceID itemIDs period).Accepted ↔ itemIDs.length + 2 ≤ maxVariableNumber := by
  unfold Statement.Accepted
  rw [count_query, length_args]
  exact and_iff_left rfl

/-- The healthy filter answers when SQLite accepts its statement. -/
theorem filterCoolingDown_ok_iff (table : Table) (instanceID : UUID) {itemIDs : List ℤ}
    (hqueried : itemIDs ≠ []) (period : Duration) (now : Time) :
    (∃ coolingDown, filterCoolingDown table instanceID itemIDs period now none = .ok coolingDown) ↔
      (filterStatement instanceID itemIDs period).Accepted := by
  rw [filterStatement_accepted_iff]
  unfold filterCoolingDown
  rw [if_neg (by simpa using hqueried)]
  dsimp only
  split_ifs with hmany
  · exact ⟨fun ⟨_, h⟩ ↦ (nomatch h), fun h ↦ absurd hmany (by omega)⟩
  · exact ⟨fun _ ↦ by omega, fun _ ↦ ⟨_, rfl⟩⟩

end Huntarr2.Cooldown
