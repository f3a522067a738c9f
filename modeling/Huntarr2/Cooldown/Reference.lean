import Huntarr2.Cooldown.Repository
import Huntarr2.GoStd.DurationText
import Huntarr2.Settings.Settings

/-!
# The cooldown filter and an exact reference

The package's in-memory repository keeps points in time and compares exact durations. The SQLite
repository keeps texts of milliseconds, cuts every duration down to whole seconds, and its rows belong
to stored instances. Both are replayed here over the same calls: what a replay holds of an item is
determined by the last search of the item and by the deletions since, so that the two filters are
compared on these alone.
-/

namespace Huntarr2.Cooldown

open Clock GoStd Settings

/-! ## Calls -/

/-- What the clock shows between 1970 and the end of year 9999, in milliseconds since the Unix
epoch. -/
abbrev Reading := { millis : ℕ // epochWall + millis / 1000 < maxWall }

def Reading.time (reading : Reading) : Time := reading.1 * 1000000

def Reading.since (later earlier : Reading) : Duration := later.time - earlier.time

/-- The age beyond which records are deleted: any `time.Duration`. -/
abbrev Retention := { olderThan : Duration // minInt64 ≤ olderThan ∧ olderThan ≤ maxInt64 }

/-- The calls that change the records. -/
inductive Operation
  | recordSearches (instanceID : UUID) (itemIDs : List ℤ)
  | deleteExpired (olderThan : Retention)

/-- A call and the time at which it is made. -/
structure Call where
  now : Reading
  operation : Operation

/-- Every call is made no earlier than the one before it. -/
def InOrder (calls : List Call) : Prop := calls.Pairwise fun first second ↦ first.now ≤ second.now

/-! ## The reference -/

namespace Reference

/-- The records of `fakeRepository`: the time of the last search by instance and item. -/
abbrev Records := KeyedTable (UUID × ℤ) Time

/-- `now.Add(-duration)`; the negation is that of a 64-bit integer. -/
def cutoff (now : Time) (duration : Duration) : Time := now + wrap64 (-duration)

/-- `fakeRepository.RecordSearches`. -/
def recordSearches (records : Records) (instanceID : UUID) (itemIDs : List ℤ) (now : Time) :
    Records :=
  if itemIDs.isEmpty then records
  else records.upsertAll (itemIDs.map fun itemID ↦ (instanceID, itemID)) now

/-- `fakeRepository.DeleteExpired`. -/
def deleteExpired (records : Records) (olderThan : Duration) (now : Time) : Records :=
  records.deleteWhere fun _ searchedAt ↦ searchedAt < cutoff now olderThan

/-- `fakeRepository.FilterCoolingDown`. -/
def filterCoolingDown (records : Records) (instanceID : UUID) (itemIDs : List ℤ) (period : Duration)
    (now : Time) : List ℤ :=
  itemIDs.filter fun itemID ↦
    (records.lookup (instanceID, itemID)).any fun searchedAt ↦ cutoff now period < searchedAt

def apply (records : Records) (call : Call) : Records :=
  match call.operation with
  | .recordSearches instanceID itemIDs => recordSearches records instanceID itemIDs call.now.time
  | .deleteExpired olderThan => deleteExpired records olderThan call.now.time

/-- The records after the calls. -/
def run (calls : List Call) : Records := calls.foldl apply ∅

end Reference

/-! ## The stored texts -/

/-- `strftime('%Y-%m-%dT%H:%M:%fZ')` of milliseconds since the Unix epoch. -/
def written (millis : ℤ) : Text := strftime (epochWall * 1000 + millis).toNat

/-- Milliseconds in the years 0 to 9999. -/
def Writable (millis : ℤ) : Prop :=
  0 ≤ epochWall * 1000 + millis ∧ epochWall * 1000 + millis < maxWall * 1000

theorem written_lt_iff {first second : ℤ} (hfirst : Writable first) (hsecond : Writable second) :
    written first < written second ↔ first < second := by
  unfold Writable at hfirst hsecond
  unfold written
  rw [strftime_lt_iff (by omega) (by omega)]
  omega

theorem Reading.writable (reading : Reading) : Writable reading.1 := by
  have hrange := reading.2
  unfold Writable
  omega

/-- `int64(duration.Seconds())`. -/
def boundSeconds (duration : Duration) : ℤ := int64OfFloat (inUnits second duration)

namespace Stored

/-- `search_cooldowns` as SQLite keeps it. -/
abbrev Rows := KeyedTable (UUID × ℤ) Text

/-- `strftime('%Y-%m-%dT%H:%M:%fZ', 'now', '-' || CAST(? AS TEXT) || ' seconds')`. The text for a
negative number of seconds begins with two signs, which is no modifier: the result is NULL. -/
def cutoff (now : Reading) (period : Duration) : Option Text :=
  if boundSeconds period < 0 then none else some (written (now.1 - boundSeconds period * 1000))

/-- What SQLite answers to a row of an instance that is not stored. -/
def foreignKeyFailed : String := "constraint failed: FOREIGN KEY constraint failed (787)"

/-- `RecordSearches`, with the instances that are stored. The transaction whose first upsert fails
leaves the rows as they were. -/
def recordSearches (stored : UUID → Bool) (rows : Rows) (instanceID : UUID) (itemIDs : List ℤ)
    (now : Reading) : Except String Unit × Rows :=
  if itemIDs.isEmpty then (.ok (), rows)
  else if stored instanceID then
    (.ok (), rows.upsertAll (itemIDs.map fun itemID ↦ (instanceID, itemID)) (written now.1))
  else (.error s!"recording search cooldown: {foreignKeyFailed}", rows)

/-- The statement of `DeleteExpired`. No row compares with NULL. -/
def deleteExpired (rows : Rows) (olderThan : Duration) (now : Reading) : Rows :=
  rows.deleteWhere fun _ searchedAt ↦ (cutoff now olderThan).any fun cut ↦ searchedAt < cut

/-- `FilterCoolingDown` with the texts its statement compares. -/
def filterCoolingDown (rows : Rows) (instanceID : UUID) (itemIDs : List ℤ) (period : Duration)
    (now : Reading) : Except String (List ℤ) :=
  if itemIDs.isEmpty then .ok []
  else if maxVariableNumber < itemIDs.length + 2 then
    .error "querying items on cooldown: too many SQL variables"
  else .ok (itemIDs.dedup.filter fun itemID ↦
    (rows.lookup (instanceID, itemID)).any fun searchedAt ↦
      (cutoff now period).any fun cut ↦ cut < searchedAt)

def apply (stored : UUID → Bool) (rows : Rows) (call : Call) : Rows :=
  match call.operation with
  | .recordSearches instanceID itemIDs =>
    (recordSearches stored rows instanceID itemIDs call.now).2
  | .deleteExpired olderThan => deleteExpired rows olderThan call.now

/-- The rows after the calls. -/
def run (stored : UUID → Bool) (calls : List Call) : Rows := calls.foldl (apply stored) ∅

end Stored

/-- The table of milliseconds after a call. -/
def Table.apply (stored : UUID → Bool) (table : Table) (call : Call) : Table :=
  match call.operation with
  | .recordSearches instanceID itemIDs =>
    (recordSearches table instanceID itemIDs call.now.time
      (if stored instanceID then none else some Stored.foreignKeyFailed)).2
  | .deleteExpired olderThan => (deleteExpired table olderThan call.now.time none).2

def Table.run (stored : UUID → Bool) (calls : List Call) : Table :=
  calls.foldl (Table.apply stored) ∅

/-! ## What a replay depends on -/

/-- A search of an item with the deletions made since. -/
structure Search where
  searchedAt : Reading
  deletions : List (Reading × Retention)

/-- The last search of an item after a call. -/
def Call.lastSearch (key : UUID × ℤ) (last : Option Search) (call : Call) : Option Search :=
  match call.operation with
  | .recordSearches instanceID itemIDs =>
    if key ∈ itemIDs.map (fun itemID ↦ (instanceID, itemID)) then some ⟨call.now, []⟩ else last
  | .deleteExpired olderThan =>
    last.map fun search ↦ { search with deletions := search.deletions ++ [(call.now, olderThan)] }

/-- The last call that searches an item, whether or not it is recorded. -/
def lastSearch (calls : List Call) (key : UUID × ℤ) : Option Search :=
  calls.foldl (Call.lastSearch key) none

theorem lastSearch_append (calls : List Call) (call : Call) (key : UUID × ℤ) :
    lastSearch (calls ++ [call]) key = call.lastSearch key (lastSearch calls key) :=
  List.foldl_concat ..

/-- The deletions since the last search are among the calls. -/
theorem deletion_mem_calls {calls : List Call} {key : UUID × ℤ} {search : Search}
    (hlast : search ∈ lastSearch calls key) {deletion : Reading × Retention}
    (h : deletion ∈ search.deletions) :
    (⟨deletion.1, .deleteExpired deletion.2⟩ : Call) ∈ calls := by
  induction calls using List.reverseRecOn generalizing search with
  | nil => cases hlast
  | append_singleton calls call ih =>
    rw [lastSearch_append] at hlast
    unfold Call.lastSearch at hlast
    cases hoperation : call.operation with
    | recordSearches instanceID itemIDs =>
      rw [hoperation] at hlast
      dsimp only at hlast
      split at hlast
      · rw [← Option.some.inj hlast] at h
        cases h
      · exact List.mem_append_left _ (ih hlast h)
    | deleteExpired olderThan =>
      rw [hoperation] at hlast
      obtain ⟨before, hbefore, rfl⟩ := Option.map_eq_some_iff.mp hlast
      rcases List.mem_append.mp h with hold | hnew
      · exact List.mem_append_left _ (ih hbefore hold)
      · rw [List.mem_singleton.mp hnew, ← hoperation]
        exact List.mem_append_right _ (List.mem_singleton_self call)

/-- A store that stamps the searches of some instances with their reading and deletes the stamps a
deletion does not spare. -/
structure Store (τ : Type) where
  stamp : Reading → τ
  records : UUID → Bool
  spares : Reading → Retention → τ → Bool

namespace Store

variable {τ : Type} (store : Store τ)

def apply (table : KeyedTable (UUID × ℤ) τ) (call : Call) : KeyedTable (UUID × ℤ) τ :=
  match call.operation with
  | .recordSearches instanceID itemIDs =>
    if store.records instanceID then
      table.upsertAll (itemIDs.map fun itemID ↦ (instanceID, itemID)) (store.stamp call.now)
    else table
  | .deleteExpired olderThan =>
    table.deleteWhere fun _ searchedAt ↦ !store.spares call.now olderThan searchedAt

def run (calls : List Call) : KeyedTable (UUID × ℤ) τ := calls.foldl store.apply ∅

/-- The search is recorded, and no deletion since has removed it. -/
def Keeps (instanceID : UUID) (search : Search) : Prop :=
  store.records instanceID ∧ ∀ deletion ∈ search.deletions,
    store.spares deletion.1 deletion.2 (store.stamp search.searchedAt)

instance (instanceID : UUID) : DecidablePred (store.Keeps instanceID) :=
  fun _ ↦ inferInstanceAs (Decidable (_ ∧ ∀ _ ∈ _, _))

theorem keeps_new (instanceID : UUID) (now : Reading) :
    store.Keeps instanceID ⟨now, []⟩ ↔ store.records instanceID :=
  and_iff_left fun _ h ↦ (nomatch h)

theorem keeps_deletion (instanceID : UUID) (search : Search) (deletion : Reading × Retention) :
    store.Keeps instanceID { search with deletions := search.deletions ++ [deletion] } ↔
      store.Keeps instanceID search ∧
        store.spares deletion.1 deletion.2 (store.stamp search.searchedAt) := by
  unfold Keeps
  rw [List.forall_mem_append, List.forall_mem_singleton, and_assoc]

/-- What a replay holds of an item: its last search, unless this was never recorded or some deletion
removed it. -/
theorem lookup_run (calls : List Call) (key : UUID × ℤ) :
    (store.run calls).lookup key =
      ((lastSearch calls key).filter fun search ↦ decide (store.Keeps key.1 search)).map
        fun search ↦ store.stamp search.searchedAt := by
  induction calls using List.reverseRecOn with
  | nil => rfl
  | append_singleton calls call ih =>
    have hrun : store.run (calls ++ [call]) = store.apply (store.run calls) call :=
      List.foldl_concat ..
    rw [hrun, lastSearch_append]
    unfold apply Call.lastSearch
    cases call.operation with
    | recordSearches instanceID itemIDs =>
      dsimp only
      by_cases hkey : key ∈ itemIDs.map fun itemID ↦ (instanceID, itemID)
      · have hinstance : key.1 = instanceID := by
          obtain ⟨itemID, -, rfl⟩ := List.mem_map.mp hkey
          rfl
        rw [if_pos hkey, Option.filter_some]
        by_cases hrecords : store.records instanceID
        · rw [if_pos hrecords, KeyedTable.lookup_upsertAll, if_pos hkey,
            if_pos (decide_eq_true ((store.keeps_new _ _).mpr (hinstance ▸ hrecords))),
            Option.map_some]
        · have hnever (search : Search) : ¬store.Keeps key.1 search :=
            fun hkeeps ↦ hrecords (hinstance ▸ hkeeps.1)
          rw [if_neg hrecords, ih, if_neg (by simpa using hnever _)]
          cases lastSearch calls key with
          | none => rfl
          | some search => rw [Option.filter_some, if_neg (by simpa using hnever search)]
      · rw [if_neg hkey, ← ih]
        split
        · rw [KeyedTable.lookup_upsertAll, if_neg hkey]
        · rfl
    | deleteExpired olderThan =>
      dsimp only
      rw [KeyedTable.lookup_deleteWhere, ih, Option.filter_map]
      cases lastSearch calls key with
      | none => rfl
      | some search =>
        rw [Option.map_some, Option.filter_filter, Option.filter_some, Option.filter_some]
        simp only [store.keeps_deletion, Bool.not_not, Function.comp_apply, Bool.decide_and,
          Bool.decide_eq_true]
        split <;> rfl

/-- A test of the row of an item is a test of its last search. -/
theorem any_lookup_run (calls : List Call) (key : UUID × ℤ) (test : τ → Bool) :
    ((store.run calls).lookup key).any test ↔ ∃ search ∈ lastSearch calls key,
      store.Keeps key.1 search ∧ test (store.stamp search.searchedAt) := by
  rw [store.lookup_run]
  cases lastSearch calls key with
  | none => simp
  | some search =>
    rw [Option.filter_some]
    by_cases hkeeps : store.Keeps key.1 search <;> simp [hkeeps]

end Store

/-! ## Whole seconds -/

/-- A duration in the whole seconds that reach SQLite. -/
def cutToSeconds (duration : Duration) : Duration := boundSeconds duration * second

/-- The seconds that reach SQLite are exact up to the longest cooldown period. -/
theorem boundSeconds_eq {duration : Duration} (hpos : 0 ≤ duration)
    (hmax : duration ≤ maxCooldownPeriod) : boundSeconds duration = wholeSeconds duration := by
  have hlimit : maxCooldownPeriod + second < 2 ^ 53 := by decide
  have hseconds : wholeSeconds duration = duration / second := Int.tdiv_eq_ediv_of_nonneg hpos
  unfold boundSeconds
  rw [hseconds]
  exact int64OfFloat_inUnits (by decide) hpos (lt_of_le_of_lt (Int.add_le_add_right hmax _) hlimit)

theorem cutToSeconds_nonneg {duration : Duration} (hpos : 0 ≤ duration)
    (hmax : duration ≤ maxCooldownPeriod) : 0 ≤ cutToSeconds duration := by
  unfold cutToSeconds
  rw [boundSeconds_eq hpos hmax]
  exact mul_nonneg (Int.tdiv_nonneg hpos (by decide)) (by decide)

/-- Durations of whole seconds reach SQLite as they are. -/
theorem cutToSeconds_of_dvd {duration : Retention} (h : second ∣ duration.1) :
    cutToSeconds duration = duration := by
  have hsmall : |duration.1.tdiv second| ≤ 2 ^ 53 :=
    (abs_tdiv_second_le duration.2.1 duration.2.2).trans (by decide)
  have hrest : duration.1.tmod second = 0 := Int.tmod_eq_zero_of_dvd h
  unfold cutToSeconds boundSeconds inUnits
  rw [hrest, Int.cast_zero, float64_zero, zero_div, float64_zero, add_zero,
    float64_intCast hsmall, float64_intCast hsmall, int64OfFloat_intCast hsmall]
  exact Int.tdiv_mul_cancel h

/-- The whole seconds of a duration can be taken from any reading. -/
theorem writable_cutoff (now : Reading) (duration : Retention)
    (hpos : 0 ≤ boundSeconds duration) : Writable (now.1 - boundSeconds duration * 1000) := by
  have hnow := now.writable
  have hmax : boundSeconds duration ≤ 20000000000 :=
    int64OfFloat_inUnits_second_le duration.2.1 duration.2.2
  have hepoch : (epochWall : ℤ) * 1000 = 62167219200000 := by decide
  unfold Writable at hnow ⊢
  omega

/-! ## The three stores -/

/-- The reference keeps the time itself. -/
def exactStore : Store Time where
  stamp := Reading.time
  records _ := true
  spares now olderThan searchedAt := !decide (searchedAt < Reference.cutoff now.time olderThan)

/-- SQLite keeps a text. -/
def textStore (stored : UUID → Bool) : Store Text where
  stamp searchedAt := written searchedAt.1
  records := stored
  spares now olderThan searchedAt :=
    !(Stored.cutoff now olderThan).any fun cut ↦ decide (searchedAt < cut)

/-- The table keeps the milliseconds. -/
def millisStore (stored : UUID → Bool) : Store ℤ where
  stamp searchedAt := searchedAt.1
  records := stored
  spares now olderThan searchedAt := !decide (searchedAt < cutoff now.time olderThan)

theorem millis_time (reading : Reading) : millis reading.time = reading.1 :=
  Int.mul_ediv_cancel _ (by decide)

theorem cutoff_time (now : Reading) (period : Duration) :
    cutoff now.time period = now.1 - wholeSeconds period * 1000 := by
  unfold cutoff
  rw [millis_time]

/-- Recording no item writes nothing either way. -/
theorem upsertAll_eq_ite {τ : Type} (table : KeyedTable (UUID × ℤ) τ) (instanceID : UUID)
    (itemIDs : List ℤ) (value : τ) :
    (if itemIDs.isEmpty then table
      else table.upsertAll (itemIDs.map fun itemID ↦ (instanceID, itemID)) value) =
      table.upsertAll (itemIDs.map fun itemID ↦ (instanceID, itemID)) value := by
  cases itemIDs <;> rfl

theorem Reference.run_eq (calls : List Call) : Reference.run calls = exactStore.run calls := by
  have happly : Reference.apply = exactStore.apply := by
    funext records call
    unfold Reference.apply Store.apply
    cases call.operation with
    | recordSearches instanceID itemIDs => exact upsertAll_eq_ite records instanceID itemIDs _
    | deleteExpired olderThan =>
      unfold Reference.deleteExpired exactStore
      simp only [Bool.not_not]
  unfold Reference.run Store.run
  rw [happly]

theorem Stored.run_eq (stored : UUID → Bool) (calls : List Call) :
    Stored.run stored calls = (textStore stored).run calls := by
  have happly : Stored.apply stored = (textStore stored).apply := by
    funext rows call
    unfold Stored.apply Store.apply
    cases call.operation with
    | recordSearches instanceID itemIDs =>
      dsimp only [textStore]
      rw [← upsertAll_eq_ite]
      unfold recordSearches
      split_ifs <;> rfl
    | deleteExpired olderThan =>
      unfold Stored.deleteExpired textStore
      simp only [Bool.not_not]
  unfold Stored.run Store.run
  rw [happly]

theorem Table.run_eq (stored : UUID → Bool) (calls : List Call) :
    Table.run stored calls = (millisStore stored).run calls := by
  have happly : Table.apply stored = (millisStore stored).apply := by
    funext table call
    unfold Table.apply Store.apply
    cases call.operation with
    | recordSearches instanceID itemIDs =>
      dsimp only [millisStore]
      rw [← upsertAll_eq_ite, ← millis_time]
      unfold recordSearches
      by_cases hstored : stored instanceID
      · simp only [hstored, if_true]
        split <;> rfl
      · simp only [hstored, if_false, Bool.false_eq_true]
        split <;> rfl
    | deleteExpired olderThan =>
      unfold deleteExpired millisStore
      simp only [Bool.not_not]
  unfold Table.run Store.run
  rw [happly]

/-! ## The filters by the history of the calls -/

/-- A duration that is not negative has a negative in 64 bits. -/
theorem wrap64_neg {duration : ℤ} (hpos : 0 ≤ duration) (hmax : duration ≤ maxInt64) :
    wrap64 (-duration) = -duration := by
  unfold maxInt64 at hmax
  exact wrap64_of_bounds (by unfold minInt64; omega) (by unfold maxInt64; omega)

/-- The largest age a deletion spares in the reference: the retention itself, but for the least one,
which is its own negative. -/
def Retention.limit (olderThan : Retention) : Duration := -wrap64 (-olderThan)

theorem Retention.limit_of_nonneg {olderThan : Retention} (h : 0 ≤ olderThan.1) :
    olderThan.limit = olderThan := by
  unfold limit
  rw [wrap64_neg h olderThan.2.2, neg_neg]

namespace Search

variable (search : Search)

/-- By the durations themselves: the search lies less than the period back, and no deletion since has
found it older than its retention. -/
def CoolsDown (period : Duration) (now : Reading) : Prop :=
  now.since search.searchedAt < period ∧
    ∀ deletion ∈ search.deletions, deletion.1.since search.searchedAt ≤ deletion.2.limit

/-- By the durations in whole seconds; a deletion by a negative number of them spares everything. -/
def CoolsDownInSeconds (period : Duration) (now : Reading) : Prop :=
  now.since search.searchedAt < cutToSeconds period ∧
    ∀ deletion ∈ search.deletions, 0 ≤ cutToSeconds deletion.2 →
      deletion.1.since search.searchedAt ≤ cutToSeconds deletion.2

instance (period : Duration) (now : Reading) : Decidable (search.CoolsDown period now) :=
  inferInstanceAs (Decidable (_ ∧ ∀ _ ∈ _, _))

instance (period : Duration) (now : Reading) : Decidable (search.CoolsDownInSeconds period now) :=
  inferInstanceAs (Decidable (_ ∧ ∀ _ ∈ _, _ → _))

end Search

/-- The reference filter by the history of the calls. -/
theorem Reference.mem_filterCoolingDown_run (calls : List Call) (instanceID : UUID)
    (itemIDs : List ℤ) {period : Duration} (hpos : 0 ≤ period) (hmax : period ≤ maxCooldownPeriod)
    (now : Reading) (itemID : ℤ) :
    itemID ∈ filterCoolingDown (run calls) instanceID itemIDs period now.time ↔
      itemID ∈ itemIDs ∧ ∃ search ∈ lastSearch calls (instanceID, itemID),
        search.CoolsDown period now := by
  have hkeeps (search : Search) : exactStore.Keeps instanceID search ↔
      ∀ deletion ∈ search.deletions, deletion.1.since search.searchedAt ≤ deletion.2.limit := by
    refine (and_iff_right rfl).trans (forall₂_congr fun deletion _ ↦ ?_)
    simp only [exactStore, Bool.not_eq_true', decide_eq_false_iff_not, not_lt]
    exact ⟨fun h ↦ by unfold cutoff at h; unfold Retention.limit Reading.since; linarith,
      fun h ↦ by unfold Retention.limit Reading.since at h; unfold cutoff; linarith⟩
  have hrecent (search : Search) : cutoff now.time period < search.searchedAt.time ↔
      now.since search.searchedAt < period := by
    unfold cutoff
    rw [wrap64_neg hpos (hmax.trans (by decide))]
    exact sub_lt_comm
  unfold filterCoolingDown Search.CoolsDown
  rw [List.mem_filter, run_eq, exactStore.any_lookup_run]
  refine and_congr_right fun _ ↦ exists_congr fun search ↦ and_congr_right fun _ ↦ ?_
  rw [hkeeps, ← hrecent, and_comm]
  exact and_congr_left' decide_eq_true_iff

/-- Comparing milliseconds is comparing durations. -/
theorem millis_lt_iff (now searchedAt : Reading) (duration : Duration) :
    (now.since searchedAt < cutToSeconds duration ↔
      (now.1 - boundSeconds duration * 1000 : ℤ) < searchedAt.1) ∧
    (cutToSeconds duration < now.since searchedAt ↔
      (searchedAt.1 : ℤ) < now.1 - boundSeconds duration * 1000) := by
  change ((now.1 * 1000000 - searchedAt.1 * 1000000 : ℤ) < boundSeconds duration * 1000000000 ↔ _) ∧
    ((boundSeconds duration * 1000000000 : ℤ) < now.1 * 1000000 - searchedAt.1 * 1000000 ↔ _)
  omega

/-- Comparing the texts is comparing the durations in whole seconds. -/
theorem Stored.cutoff_lt_iff (now searchedAt : Reading) (duration : Retention) :
    ((cutoff now duration).any (fun cut ↦ decide (cut < written searchedAt.1)) ↔
      0 ≤ cutToSeconds duration ∧ now.since searchedAt < cutToSeconds duration) ∧
    ((cutoff now duration).any (fun cut ↦ decide (written searchedAt.1 < cut)) ↔
      0 ≤ cutToSeconds duration ∧ cutToSeconds duration < now.since searchedAt) := by
  have hsign : 0 ≤ cutToSeconds duration ↔ 0 ≤ boundSeconds duration :=
    mul_nonneg_iff_of_pos_right (by decide)
  obtain ⟨hwithin, hbeyond⟩ := millis_lt_iff now searchedAt duration.1
  unfold cutoff
  rw [hsign, hwithin, hbeyond]
  by_cases hnegative : boundSeconds duration < 0
  · rw [if_pos hnegative]
    simp [hnegative]
  · have hcut := writable_cutoff now duration (not_lt.mp hnegative)
    rw [if_neg hnegative, Option.any_some, Option.any_some, decide_eq_true_iff, decide_eq_true_iff,
      written_lt_iff hcut searchedAt.writable, written_lt_iff searchedAt.writable hcut]
    omega

/-- What the filter reports, by the age of the search. -/
theorem Stored.recent_iff {period : Duration} (hpos : 0 ≤ period) (hmax : period ≤ maxCooldownPeriod)
    (now searchedAt : Reading) :
    (cutoff now period).any (fun cut ↦ decide (cut < written searchedAt.1)) ↔
      now.since searchedAt < cutToSeconds period := by
  have hbounds : minInt64 ≤ period ∧ period ≤ maxInt64 :=
    ⟨le_trans (by decide) hpos, hmax.trans (by decide)⟩
  exact (cutoff_lt_iff now searchedAt ⟨period, hbounds⟩).1.trans
    (and_iff_right (cutToSeconds_nonneg hpos hmax))

/-- The SQLite filter by the history of the calls. -/
theorem Stored.mem_filterCoolingDown_run {stored : UUID → Bool} {calls : List Call}
    {instanceID : UUID} {itemIDs coolingDown : List ℤ} {period : Duration} (hpos : 0 ≤ period)
    (hmax : period ≤ maxCooldownPeriod) {now : Reading}
    (h : filterCoolingDown (run stored calls) instanceID itemIDs period now = .ok coolingDown)
    (itemID : ℤ) : itemID ∈ coolingDown ↔
      itemID ∈ itemIDs ∧ ∃ search ∈ lastSearch calls (instanceID, itemID),
        stored instanceID ∧ search.CoolsDownInSeconds period now := by
  have hkeeps (search : Search) : (textStore stored).Keeps instanceID search ↔
      stored instanceID ∧ ∀ deletion ∈ search.deletions, 0 ≤ cutToSeconds deletion.2 →
        deletion.1.since search.searchedAt ≤ cutToSeconds deletion.2 := by
    refine and_congr_right fun _ ↦ forall₂_congr fun deletion _ ↦ ?_
    dsimp only [textStore]
    rw [Bool.not_eq_true', Bool.eq_false_iff, ne_eq,
      (cutoff_lt_iff deletion.1 search.searchedAt deletion.2).2, not_and, not_lt]
  have hlist : itemID ∈ coolingDown ↔ itemID ∈ itemIDs ∧
      ((run stored calls).lookup (instanceID, itemID)).any fun searchedAt ↦
        (cutoff now period).any fun cut ↦ decide (cut < searchedAt) := by
    unfold filterCoolingDown at h
    split_ifs at h with hempty hmany
    · rw [← Except.ok.inj h, List.isEmpty_iff.mp hempty]
      simp
    · rw [← Except.ok.inj h, List.mem_filter, List.mem_dedup]
  rw [hlist, run_eq, (textStore stored).any_lookup_run]
  refine and_congr_right fun _ ↦ exists_congr fun search ↦ and_congr_right fun _ ↦ ?_
  rw [hkeeps, and_assoc]
  exact and_congr_right fun _ ↦
    and_comm.trans (and_congr_left' (recent_iff hpos hmax now search.searchedAt))

/-- Where deletions use retentions of up to 90 days, as the scheduler's do, comparing the texts is
comparing the milliseconds of the table. -/
theorem Stored.filterCoolingDown_run {stored : UUID → Bool} {calls : List Call}
    (hretention : ∀ now olderThan, (⟨now, .deleteExpired olderThan⟩ : Call) ∈ calls →
      0 ≤ olderThan.1 ∧ olderThan.1 ≤ maxCooldownPeriod)
    (instanceID : UUID) (itemIDs : List ℤ) {period : Duration} (hpos : 0 ≤ period)
    (hmax : period ≤ maxCooldownPeriod) (now : Reading) :
    filterCoolingDown (run stored calls) instanceID itemIDs period now =
      Cooldown.filterCoolingDown (Table.run stored calls) instanceID itemIDs period now.time none := by
  have hmillis (later searchedAt : Reading) {duration : Duration} (hpos : 0 ≤ duration)
      (hmax : duration ≤ maxCooldownPeriod) :
      (Cooldown.cutoff later.time duration < searchedAt.1 ↔
        later.since searchedAt < cutToSeconds duration) ∧
      (searchedAt.1 < Cooldown.cutoff later.time duration ↔
        cutToSeconds duration < later.since searchedAt) := by
    obtain ⟨hwithin, hbeyond⟩ := millis_lt_iff later searchedAt duration
    rw [cutoff_time, ← boundSeconds_eq hpos hmax]
    exact ⟨hwithin.symm, hbeyond.symm⟩
  have hkeeps (itemID : ℤ) {search : Search} (hlast : search ∈ lastSearch calls (instanceID, itemID)) :
      (textStore stored).Keeps instanceID search ↔ (millisStore stored).Keeps instanceID search := by
    refine and_congr_right fun _ ↦ forall₂_congr fun deletion hdeletion ↦ ?_
    obtain ⟨hnonneg, hle⟩ := hretention _ _ (deletion_mem_calls hlast hdeletion)
    dsimp only [textStore, millisStore]
    rw [Bool.not_eq_true', Bool.eq_false_iff, ne_eq,
      (cutoff_lt_iff deletion.1 search.searchedAt deletion.2).2,
      and_iff_right (cutToSeconds_nonneg hnonneg hle), Bool.not_eq_true', decide_eq_false_iff_not,
      (hmillis deletion.1 search.searchedAt hnonneg hle).2]
  have hrecent (searchedAt : Reading) :
      (cutoff now period).any (fun cut ↦ decide (cut < written searchedAt.1)) ↔
        Cooldown.cutoff now.time period < searchedAt.1 :=
    (recent_iff hpos hmax now searchedAt).trans (hmillis now searchedAt hpos hmax).1.symm
  have htest (itemID : ℤ) :
      (((run stored calls).lookup (instanceID, itemID)).any fun searchedAt ↦
          (cutoff now period).any fun cut ↦ decide (cut < searchedAt)) =
        ((Table.run stored calls).lookup (instanceID, itemID)).any fun searchedAt ↦
          decide (Cooldown.cutoff now.time period < searchedAt) := by
    rw [Bool.eq_iff_iff, run_eq, Table.run_eq, (textStore stored).any_lookup_run,
      (millisStore stored).any_lookup_run]
    refine exists_congr fun search ↦ and_congr_right fun hlast ↦ ?_
    exact and_congr (hkeeps itemID hlast)
      ((hrecent search.searchedAt).trans decide_eq_true_iff.symm)
  unfold filterCoolingDown Cooldown.filterCoolingDown
  simp only [htest]

/-! ## Agreement -/

/-- The filter answers, and with the same IDs as the reference. -/
def Agrees (stored : UUID → Bool) (calls : List Call) (instanceID : UUID) (itemIDs : List ℤ)
    (period : Duration) (now : Reading) : Prop :=
  ∃ coolingDown,
    Stored.filterCoolingDown (Stored.run stored calls) instanceID itemIDs period now =
        .ok coolingDown ∧
      ∀ itemID, itemID ∈ coolingDown ↔
        itemID ∈ Reference.filterCoolingDown (Reference.run calls) instanceID itemIDs period now.time

theorem Stored.filterCoolingDown_ok_iff (rows : Rows) (instanceID : UUID) (itemIDs : List ℤ)
    (period : Duration) (now : Reading) :
    (∃ coolingDown, filterCoolingDown rows instanceID itemIDs period now = .ok coolingDown) ↔
      itemIDs.length + 2 ≤ maxVariableNumber := by
  unfold filterCoolingDown
  split_ifs with hempty hmany
  · rw [List.isEmpty_iff.mp hempty]
    exact ⟨fun _ ↦ by decide, fun _ ↦ ⟨[], rfl⟩⟩
  · exact ⟨fun ⟨_, h⟩ ↦ (nomatch h), fun h ↦ absurd hmany (not_lt.mpr h)⟩
  · exact ⟨fun _ ↦ not_lt.mp hmany, fun _ ↦ ⟨_, rfl⟩⟩

/-- The filter agrees with the reference exactly when its statement fits SQLite and the last search of
every queried item cools down by the full durations as it does, recorded, by the whole seconds. -/
theorem agrees_iff (stored : UUID → Bool) (calls : List Call) (instanceID : UUID)
    (itemIDs : List ℤ) {period : Duration} (hpos : 0 ≤ period) (hmax : period ≤ maxCooldownPeriod)
    (now : Reading) :
    Agrees stored calls instanceID itemIDs period now ↔
      itemIDs.length + 2 ≤ maxVariableNumber ∧
        ∀ itemID ∈ itemIDs, ∀ search ∈ lastSearch calls (instanceID, itemID),
          (search.CoolsDown period now ↔
            stored instanceID ∧ search.CoolsDownInSeconds period now) := by
  have hfits :=
    Stored.filterCoolingDown_ok_iff (Stored.run stored calls) instanceID itemIDs period now
  have hreference := Reference.mem_filterCoolingDown_run calls instanceID itemIDs hpos hmax now
  constructor
  · rintro ⟨coolingDown, hfiltered, hsame⟩
    refine ⟨hfits.mp ⟨coolingDown, hfiltered⟩, fun itemID hitem search hlast ↦ ?_⟩
    have hlists := hsame itemID
    rw [Stored.mem_filterCoolingDown_run hpos hmax hfiltered, hreference, and_iff_right hitem,
      and_iff_right hitem, Option.mem_def.mp hlast] at hlists
    simpa using hlists.symm
  · rintro ⟨hlength, hsame⟩
    obtain ⟨coolingDown, hfiltered⟩ := hfits.mpr hlength
    refine ⟨coolingDown, hfiltered, fun itemID ↦ ?_⟩
    rw [Stored.mem_filterCoolingDown_run hpos hmax hfiltered, hreference]
    refine and_congr_right fun hitem ↦ exists_congr fun search ↦ and_congr_right fun hlast ↦ ?_
    exact (hsame itemID hitem search hlast).symm

/-- Deletions that spare everything younger than the period do not show in the reference. -/
theorem Search.coolsDown_iff {calls : List Call} {period : Duration} (hpos : 0 ≤ period)
    {now : Reading} (hnow : ∀ call ∈ calls, call.now ≤ now)
    (hretention : ∀ time olderThan, (⟨time, .deleteExpired olderThan⟩ : Call) ∈ calls →
      period ≤ olderThan.1) {key : UUID × ℤ} {search : Search}
    (hlast : search ∈ lastSearch calls key) :
    search.CoolsDown period now ↔ now.since search.searchedAt < period := by
  refine ⟨fun h ↦ h.1, fun h ↦ ⟨h, fun deletion hdeletion ↦ ?_⟩⟩
  have hcall := deletion_mem_calls hlast hdeletion
  have hperiod := hretention _ _ hcall
  have hle : deletion.1.time ≤ now.time :=
    mul_le_mul_of_nonneg_right (Int.ofNat_le.mpr (hnow _ hcall)) (by decide)
  calc deletion.1.since search.searchedAt ≤ now.since search.searchedAt := sub_le_sub_right hle _
    _ ≤ period := h.le
    _ ≤ deletion.2 := hperiod
    _ = deletion.2.limit := (Retention.limit_of_nonneg (hpos.trans hperiod)).symm

/-- For a stored instance, with a period and retentions of whole seconds, the filter is exact. -/
theorem agrees_of_wholeSeconds {stored : UUID → Bool} {calls : List Call} {instanceID : UUID}
    (hstored : stored instanceID) {itemIDs : List ℤ} {period : Duration} (hpos : 0 ≤ period)
    (hmax : period ≤ maxCooldownPeriod) {now : Reading}
    (hfits : itemIDs.length + 2 ≤ maxVariableNumber) (hwhole : second ∣ period)
    (hretention : ∀ time olderThan, (⟨time, .deleteExpired olderThan⟩ : Call) ∈ calls →
      0 ≤ olderThan.1 ∧ second ∣ olderThan.1) :
    Agrees stored calls instanceID itemIDs period now := by
  have hbounds : minInt64 ≤ period ∧ period ≤ maxInt64 :=
    ⟨le_trans (by decide) hpos, hmax.trans (by decide)⟩
  have hperiod : cutToSeconds (⟨period, hbounds⟩ : Retention).1 = period :=
    cutToSeconds_of_dvd hwhole
  refine (agrees_iff stored calls instanceID itemIDs hpos hmax now).mpr
    ⟨hfits, fun itemID _ search hlast ↦ ?_⟩
  unfold Search.CoolsDown Search.CoolsDownInSeconds
  rw [hperiod, and_iff_right hstored]
  refine and_congr_right fun _ ↦ forall₂_congr fun deletion hdeletion ↦ ?_
  obtain ⟨hnonneg, hdvd⟩ := hretention _ _ (deletion_mem_calls hlast hdeletion)
  rw [Retention.limit_of_nonneg hnonneg, cutToSeconds_of_dvd hdvd]
  exact (imp_iff_right hnonneg).symm

/-- The validator accepts positive periods of at most 90 days. -/
theorem period_of_accepted {value : Text}
    (haccepted : validateValue Key.cooldownPeriod.name value = .ok ()) {period : Duration}
    (hperiod : parseDuration value = some period) : 0 < period ∧ period ≤ maxCooldownPeriod := by
  have hdecided := accepted_of_validateValue haccepted
  simp only [Key.ofName_name] at hdecided
  obtain ⟨hread, hpos, hmax⟩ := readDuration_of_accepted 0 hdecided
  rw [hperiod] at hread
  rw [Option.some.inj hread]
  exact ⟨hpos, hmax⟩

/-- For every accepted period and every sequence of calls, the filter agrees with the reference exactly
when its statement fits SQLite and the last search of every queried item cools down by the full
durations if and only if its instance is stored and it cools down by the durations in whole seconds. -/
theorem filter_refines_reference_iff {value : Text}
    (haccepted : validateValue Key.cooldownPeriod.name value = .ok ()) {period : Duration}
    (hperiod : parseDuration value = some period) (stored : UUID → Bool) (calls : List Call)
    (instanceID : UUID) (itemIDs : List ℤ) (now : Reading) :
    Agrees stored calls instanceID itemIDs period now ↔
      itemIDs.length + 2 ≤ maxVariableNumber ∧
        ∀ itemID ∈ itemIDs, ∀ search ∈ lastSearch calls (instanceID, itemID),
          (search.CoolsDown period now ↔
            stored instanceID ∧ search.CoolsDownInSeconds period now) := by
  obtain ⟨hpos, hmax⟩ := period_of_accepted haccepted hperiod
  exact agrees_iff stored calls instanceID itemIDs hpos.le hmax now

/-- A search of two items and, 1.1 seconds later, the deletion of what is older than a day. -/
def searchAndPrune : List Call :=
  [⟨⟨1775000000000, by decide⟩, .recordSearches 7 [101, 102]⟩,
    ⟨⟨1775000001100, by decide⟩, .deleteExpired ⟨86400000000000, by decide⟩⟩]

/-- 1.2 seconds after the search. -/
def shortlyAfter : Reading := ⟨1775000001200, by decide⟩

theorem searchAndPrune_inOrder : InOrder searchAndPrune := by
  unfold InOrder searchAndPrune
  decide

theorem filter_refines_reference_day :
    Agrees (· == 7) searchAndPrune 7 [101, 103] (24 * hour) shortlyAfter := by
  have haccepted : validateValue Key.cooldownPeriod.name "24h" = .ok () := by decide
  have hperiod : parseDuration "24h" = some (24 * hour) := by decide
  exact (filter_refines_reference_iff haccepted hperiod (· == 7) searchAndPrune 7 [101, 103]
    shortlyAfter).mpr (by decide +kernel)

/-- With a period of 1.5 seconds SQLite forgets an item searched 1.2 seconds ago, of an instance that
is stored. -/
theorem filter_forgets_fraction :
    validateValue Key.cooldownPeriod.name "1.5s" = .ok () ∧
      parseDuration "1.5s" = some 1500000000 ∧ InOrder searchAndPrune ∧
      Stored.filterCoolingDown (Stored.run (· == 7) searchAndPrune) 7 [101] 1500000000 shortlyAfter =
        .ok [] ∧
      Reference.filterCoolingDown (Reference.run searchAndPrune) 7 [101] 1500000000
        shortlyAfter.time = [101] ∧
      ¬Agrees (· == 7) searchAndPrune 7 [101] 1500000000 shortlyAfter := by
  have hstored : Stored.filterCoolingDown (Stored.run (· == 7) searchAndPrune) 7 [101] 1500000000
      shortlyAfter = .ok [] := by decide +kernel
  have hreference : Reference.filterCoolingDown (Reference.run searchAndPrune) 7 [101] 1500000000
      shortlyAfter.time = [101] := by decide +kernel
  refine ⟨by decide +kernel, by decide +kernel, searchAndPrune_inOrder, hstored, hreference, ?_⟩
  rintro ⟨coolingDown, hfiltered, hsame⟩
  rw [hstored] at hfiltered
  have hmem := (hsame 101).mpr (by rw [hreference]; exact List.mem_singleton.mpr rfl)
  rw [← Except.ok.inj hfiltered] at hmem
  cases hmem

end Huntarr2.Cooldown
