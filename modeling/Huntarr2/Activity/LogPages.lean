import Huntarr2.Activity.TimeBounds
import Huntarr2.Foundation.Paging

/-!
# Pages of the activity log

A reader that lists the log page by page gets every matching entry once, unless the search text is
longer than SQLite takes. The pages are cut from the order of the creation texts, which is the order of
creation unless two entries of the same second have fractions of which one begins with the other.
-/

namespace Huntarr2.Activity

open Clock

/-- The entry a row is returned as. -/
def Row.recorded (row : Row) : Recorded :=
  { row.toEntry with
    details := row.details.map (·.mapValues DetailValue.decoded)
    id := row.id
    createdAt := row.creation }

theorem mapM_scanEntry (rows : List Row) : rows.mapM scanEntry = .ok (rows.map Row.recorded) := by
  induction rows with
  | nil => rfl
  | cons row rows ih =>
    rw [List.mapM_cons, ih, scanEntry_ok]
    rfl

/-- The matching rows in the order of `List`, that of their creation texts from the greatest down. -/
def newestFirst (log : List Row) (params : ListParams) : List Row :=
  (selected log params).insertionSort fun first second ↦ second.createdAt ≤ first.createdAt

/-- Page number `k` of the given size. -/
def listPage (plan : Plan) (log : List Row) (params : ListParams) (size k : ℕ) :
    Except String (List Recorded) :=
  list plan log { params with limit := size, offset := k * size }

theorem listPage_eq {plan : Plan} {log : List Row} {params : ListParams} {size : ℕ}
    (hsearch : searchFails plan log params = false) (hsize : 0 < size) (k : ℕ) :
    listPage plan log params size k =
      .ok ((((newestFirst log params).map Row.recorded).drop (k * size)).take size) := by
  have hlimit : ¬(size : ℤ) ≤ 0 := by omega
  have hoffset : ((k : ℤ) * size).toNat = k * size := by
    rw [← Nat.cast_mul, Int.toNat_natCast]
  have hsearch' : ¬searchFails plan log { params with limit := size, offset := k * size } = true :=
    Bool.eq_false_iff.mp hsearch
  unfold listPage list
  dsimp only
  rw [if_neg fun h ↦ hlimit h.1, if_neg hsearch', if_neg hlimit, mapM_scanEntry, List.map_take,
    List.map_drop, hoffset, Int.toNat_natCast]
  rfl

/-- A page is refused when the search is. -/
theorem listPage_error {plan : Plan} {log : List Row} {params : ListParams} {size : ℕ}
    (hsearch : searchFails plan log params = true) (hsize : 0 < size) (k : ℕ) :
    ∃ err, listPage plan log params size k = .error err := by
  have hlimit : ¬(size : ℤ) ≤ 0 := by omega
  have hsearch' : searchFails plan log { params with limit := size, offset := k * size } = true :=
    hsearch
  unfold listPage list
  dsimp only
  rw [if_neg fun h ↦ hlimit h.1, if_pos hsearch']
  exact ⟨_, rfl⟩

theorem count_eq {plan : Plan} {log : List Row} {params : ListParams}
    (hsearch : searchFails plan log params = false) :
    count plan log params = .ok (selected log params).length :=
  if_neg (Bool.eq_false_iff.mp hsearch)

/-- The rows that satisfy the conditions of a filter without time bounds. -/
def matching (log : List Row) (params : ListParams) : List Row := log.filter (filtersMatch params)

section Unbounded

variable {params : ListParams} (hsince : params.since = none) (huntil : params.untilTime = none)

include hsince huntil

theorem boundsMatch_of_unbounded (row : Row) : boundsMatch params row = true := by
  unfold boundsMatch
  rw [hsince, huntil]
  rfl

theorem selected_eq_matching (log : List Row) : selected log params = matching log params := by
  refine List.filter_congr fun row _ ↦ ?_
  unfold buildListQuery
  rw [boundsMatch_of_unbounded hsince huntil, Bool.and_true]

/-- Without time bounds a search works when its text has at most 49998 bytes, or when no row satisfies
the other conditions. -/
theorem searchFails_eq_false_iff (plan : Plan) (log : List Row) :
    searchFails plan log params = false ↔
      params.search.utf8ByteSize ≤ 49998 ∨ ∀ row ∈ log, fieldsMatch params row = false := by
  have hreaches (row : Row) : plan.reaches params row = fieldsMatch params row := by
    unfold Plan.reaches
    rw [boundsMatch_of_unbounded hsince huntil]
    cases plan <;> exact Bool.and_true _
  have hlong : patternTooLong params = false ↔ params.search.utf8ByteSize ≤ 49998 := by
    unfold patternTooLong maxPatternLength
    rw [Bool.and_eq_false_iff, Bool.not_eq_false', String.isEmpty_iff, decide_eq_false_iff_not]
    constructor
    · rintro (hempty | hshort)
      · rw [hempty]
        exact Nat.zero_le _
      · omega
    · exact fun hshort ↦ Or.inr (by omega)
  unfold searchFails
  rw [Bool.and_eq_false_iff, hlong, List.any_eq_false]
  simp only [hreaches, Bool.not_eq_true]

end Unbounded

/-- Rows with the same text were created at the same instant. -/
theorem creation_eq_of_createdAt {first second : Row} (h : first.createdAt = second.createdAt) :
    first.creation = second.creation := by
  have hfirst := first.parse_createdAt
  rw [h, second.parse_createdAt] at hfirst
  exact (Option.some.inj hfirst).symm

/-- A row with the text of a time was created at that time. -/
theorem Row.creation_of_text {row : Row} (now : UTCTime)
    (htext : row.createdAt = now.1.formatRFC3339Nano) : row.creation = now.1 := by
  have hparse := parse_formatRFC3339Nano_utc now.1 now.2
  rw [← htext, row.parse_createdAt] at hparse
  exact Option.some.inj hparse

/-- The fraction of the first row is a proper beginning of that of the second, in the same second. -/
def Shortened (first second : Row) : Prop :=
  first.creation.wall = second.creation.wall ∧ first.creation.nanos ≠ second.creation.nanos ∧
    fractionText first.creation.nanos <+: fractionText second.creation.nanos

instance (first second : Row) : Decidable (Shortened first second) :=
  inferInstanceAs (Decidable (_ ∧ _ ∧ _))

/-- Two rows compare in time unless one of them is shortened against the other. -/
theorem comparesInTime_iff (first second : Row) :
    ComparesInTime first.creation second.creation ↔
      ¬Shortened first second ∧ ¬Shortened second first := by
  have hfirst := first.creation.nanos_lt
  have hsecond := second.creation.nanos_lt
  have hinstants : ¬first.creation.wall = second.creation.wall →
      ¬(first.creation.wall < second.creation.wall ∧
          second.creation.instant ≤ first.creation.instant) ∧
        ¬(second.creation.wall < first.creation.wall ∧
          first.creation.instant < second.creation.instant) := by
    unfold Timestamp.instant
    rw [first.creation_utc, second.creation_utc]
    omega
  have hfractions : fractionText first.creation.nanos = fractionText second.creation.nanos ↔
      first.creation.nanos = second.creation.nanos := by
    refine ⟨fun h ↦ ?_, fun h ↦ congrArg fractionText h⟩
    rcases lt_trichotomy first.creation.nanos second.creation.nanos with hlt | heq | hgt
    · exact absurd h (fractionText_lt hsecond hlt).ne
    · exact heq
    · exact absurd h (fractionText_lt hfirst hgt).ne'
  unfold ComparesInTime Shortened
  by_cases hwall : first.creation.wall = second.creation.wall
  · have hne : second.creation.nanos ≠ first.creation.nanos ↔
        first.creation.nanos ≠ second.creation.nanos := ne_comm
    rw [if_pos hwall, if_pos second.creation_utc, hfractions, and_iff_right hwall,
      and_iff_right hwall.symm, hne]
    tauto
  · rw [if_neg hwall]
    have hwall' : ¬second.creation.wall = first.creation.wall := fun h ↦ hwall h.symm
    simp only [hwall, hwall', false_and, not_false_eq_true, and_self, iff_true]
    exact hinstants hwall

theorem createdAt_lt_createdAt_iff (first second : Row) :
    (first.createdAt < second.createdAt ↔ first.creation.instant < second.creation.instant) ↔
      ¬Shortened first second ∧ ¬Shortened second first := by
  rw [← comparesInTime_iff, ← createdAt_lt_iff, second.format_creation]

/-- With distinct creation times the sorted rows fall strictly by their texts. -/
theorem pairwise_newestFirst {log : List Row}
    (hdistinct : (log.map fun row ↦ row.creation.instant).Nodup) (params : ListParams) :
    (newestFirst log params).Pairwise fun first second ↦ second.createdAt < first.createdAt := by
  have htotal : Std.Total fun first second : Row ↦ second.createdAt ≤ first.createdAt :=
    ⟨fun first second ↦ le_total second.createdAt first.createdAt⟩
  have htrans : IsTrans Row fun first second ↦ second.createdAt ≤ first.createdAt :=
    ⟨fun _ _ _ hfirst hsecond ↦ hsecond.trans hfirst⟩
  have hsorted := List.pairwise_insertionSort
    (fun first second : Row ↦ second.createdAt ≤ first.createdAt) (selected log params)
  have hinstants : ((newestFirst log params).map fun row ↦ row.creation.instant).Nodup :=
    (((List.perm_insertionSort _ _).map _).nodup_iff).mpr
      (hdistinct.sublist (List.filter_sublist.map _))
  rw [List.Nodup, List.pairwise_map] at hinstants
  exact (hsorted.and hinstants).imp fun {first second} h ↦ lt_of_le_of_ne h.1 fun htext ↦
    h.2 (congrArg Timestamp.instant (creation_eq_of_createdAt htext).symm)

/-! ## Tables that `Create` makes -/

/-- A call of `Create`: the entry, its ID, the clock it reads, and the error of the INSERT, if it has
one. -/
structure Creation where
  entry : Entry
  id : UUID
  now : UTCTime
  failure : Option String

/-- The table after the calls. -/
def createAll (calls : List Creation) : List Row :=
  calls.foldl
    (fun log call ↦
      match create log call.entry call.id call.now call.failure with
      | .ok log => log
      | .error _ => log)
    []

/-- The instants at which the calls that succeeded created their entries. -/
def creationInstants (calls : List Creation) : List ℤ :=
  (calls.filter fun call ↦ call.failure.isNone).map fun call ↦ call.now.1.instant

/-- The rows of the table were created at these instants. -/
theorem map_instant_createAll (calls : List Creation) :
    ((createAll calls).map fun row ↦ row.creation.instant) = creationInstants calls := by
  induction calls using List.reverseRecOn with
  | nil => rfl
  | append_singleton calls call ih =>
    unfold createAll creationInstants at ih ⊢
    rw [List.foldl_append, List.filter_append, List.map_append, ← ih, List.foldl_cons, List.foldl_nil]
    unfold create
    cases hfailure : call.failure with
    | some err => simp [hfailure]
    | none =>
      have hkept : [call].filter (fun call ↦ call.failure.isNone) = [call] :=
        List.filter_eq_self.mpr fun other hother ↦ by simp [List.mem_singleton.mp hother, hfailure]
      dsimp only
      rw [hkept, List.map_append, List.map_singleton, List.map_singleton,
        Row.creation_of_text call.now rfl]

/-! ## The pages -/

/-- Reading the log page by page yields every matching entry exactly once, newest first, and as many as
are counted. -/
def PagesNewestFirst (listPlan countPlan : Plan) (log : List Row) (params : ListParams) (size : ℕ) :
    Prop :=
  ∃ entries, (∀ fuel, log.length < fuel →
      readPages (listPage listPlan log params size) fuel 0 = .ok (some entries)) ∧
    entries.Perm ((matching log params).map Row.recorded) ∧ entries.Nodup ∧
    count countPlan log params = .ok entries.length ∧
    entries.Pairwise fun first second ↦ second.createdAt.instant < first.createdAt.instant

section Pages

variable {log : List Row} {params : ListParams} {size : ℕ}
  (hdistinct : (log.map fun row ↦ row.creation.instant).Nodup) (hsince : params.since = none)
  (huntil : params.untilTime = none) (hsize : 1 ≤ size)

include hdistinct hsince huntil hsize

/-- The pages of a table with distinct creation times, when the search works. -/
theorem exists_pages {listPlan countPlan : Plan} (hlist : searchFails listPlan log params = false)
    (hcount : searchFails countPlan log params = false) :
    ∃ entries, (∀ fuel, log.length < fuel →
        readPages (listPage listPlan log params size) fuel 0 = .ok (some entries)) ∧
      entries.Perm ((matching log params).map Row.recorded) ∧ entries.Nodup ∧
      count countPlan log params = .ok entries.length ∧
      ((entries.Pairwise fun first second ↦
          second.createdAt.instant < first.createdAt.instant) ↔
        ∀ first ∈ matching log params, ∀ second ∈ matching log params,
          ¬Shortened first second) := by
  have hselected : selected log params = matching log params :=
    selected_eq_matching hsince huntil log
  have hperm : (newestFirst log params).Perm (matching log params) :=
    hselected ▸ List.perm_insertionSort _ _
  have hsorted := pairwise_newestFirst hdistinct params
  have hlength : (newestFirst log params).length ≤ log.length := by
    rw [hperm.length_eq]
    exact List.length_filter_le _ log
  refine ⟨(newestFirst log params).map Row.recorded, fun fuel hfuel ↦ ?_, hperm.map _, ?_, ?_, ?_⟩
  · exact readPages_eq hsize (listPage_eq hlist hsize) (by rw [List.length_map]; omega)
  · refine List.pairwise_map.mpr (hsorted.imp fun {first second} hlt heq ↦ ?_)
    have hcreation : first.creation = second.creation := congrArg Recorded.createdAt heq
    rw [← first.format_creation, ← second.format_creation, hcreation] at hlt
    exact lt_irrefl _ hlt
  · rw [count_eq hcount, List.length_map, hperm.length_eq, ← hselected]
  · have hcompare (first second : Row) :
        (first.createdAt < second.createdAt ↔
          first.recorded.createdAt.instant < second.recorded.createdAt.instant) ↔
          ¬Shortened first second ∧ ¬Shortened second first :=
      createdAt_lt_createdAt_iff first second
    rw [List.pairwise_map]
    refine (pairwise_time_iff hsorted).trans ?_
    simp only [hcompare, hperm.mem_iff]
    exact ⟨fun h first hfirst second hsecond ↦ (h first hfirst second hsecond).1,
      fun h first hfirst second hsecond ↦
        ⟨h first hfirst second hsecond, h second hsecond first hfirst⟩⟩

theorem pagesNewestFirst_iff (listPlan countPlan : Plan) :
    PagesNewestFirst listPlan countPlan log params size ↔
      (params.search.utf8ByteSize ≤ 49998 ∨ ∀ row ∈ log, fieldsMatch params row = false) ∧
        ∀ first ∈ matching log params, ∀ second ∈ matching log params, ¬Shortened first second := by
  have hworks (plan : Plan) := searchFails_eq_false_iff hsince huntil plan log
  rw [← hworks listPlan]
  constructor
  · rintro ⟨entries, hread, -, -, -, horder⟩
    have hlist : searchFails listPlan log params = false := by
      refine Bool.eq_false_iff.mpr fun hfails ↦ ?_
      obtain ⟨err, herr⟩ := listPage_error hfails hsize 0
      have hfirst := hread (log.length + 1) (Nat.lt_succ_self _)
      rw [readPages, herr] at hfirst
      cases hfirst
    obtain ⟨others, hothers, -, -, -, hpairwise⟩ := exists_pages hdistinct hsince huntil hsize hlist
      ((hworks countPlan).mpr ((hworks listPlan).mp hlist))
    have hsame : others = entries := by
      have hfuel := Nat.lt_succ_self log.length
      exact Option.some.inj (Except.ok.inj ((hothers _ hfuel).symm.trans (hread _ hfuel)))
    exact ⟨hlist, hpairwise.mp (hsame ▸ horder)⟩
  · rintro ⟨hlist, hnone⟩
    obtain ⟨entries, hread, hperm, hnodup, hcount, horder⟩ := exists_pages hdistinct hsince huntil hsize
      hlist ((hworks countPlan).mpr ((hworks listPlan).mp hlist))
    exact ⟨entries, hread, hperm, hnodup, hcount, horder.mpr hnone⟩

end Pages

/-- Reading the log page by page yields every matching entry exactly once, newest first, and as many as
are counted, exactly when SQLite takes the search text, or no row gets as far as it, and no two matching
entries of one second have fractions of which one begins with the other. -/
theorem pages_newest_first_iff {calls : List Creation} {params : ListParams} {size : ℕ}
    (hdistinct : (creationInstants calls).Nodup) (hsince : params.since = none)
    (huntil : params.untilTime = none) (hsize : 1 ≤ size) (listPlan countPlan : Plan) :
    let log := createAll calls
    PagesNewestFirst listPlan countPlan log params size ↔
      (params.search.utf8ByteSize ≤ 49998 ∨ ∀ row ∈ log, fieldsMatch params row = false) ∧
        ∀ first ∈ matching log params, ∀ second ∈ matching log params, ¬Shortened first second :=
  pagesNewestFirst_iff ((map_instant_createAll calls).symm ▸ hdistinct) hsince huntil hsize listPlan
    countPlan

/-- Two entries of the second 10:30:00, with the given nanoseconds. -/
def sampleCalls (first second : ℕ) (hfirst : first < 1000000000) (hsecond : second < 1000000000) :
    List Creation :=
  let entry : Entry := ⟨none, .info, .rateLimit, "hourly search limit reached (100)", none⟩
  [⟨entry, 0, ⟨{ halfPastTen with nanos := first, nanos_lt := hfirst }, rfl⟩, none⟩,
    ⟨entry, 1, ⟨{ halfPastTen with nanos := second, nanos_lt := hsecond }, rfl⟩, none⟩]

/-- A filter without conditions. -/
def everything : ListParams := ⟨none, none, none, "", none, none, 0, 0⟩

/-- Half past ten and a quarter of a second, and half a second, in pages of one entry. -/
theorem pages_newest_first_sample :
    PagesNewestFirst .asWritten .asWritten
      (createAll (sampleCalls 250000000 500000000 (by decide) (by decide))) everything 1 := by
  have hdistinct : (creationInstants (sampleCalls 250000000 500000000 (by decide)
      (by decide))).Nodup := by decide
  exact (pages_newest_first_iff hdistinct (by rfl : everything.since = none) rfl le_rfl _ _).mpr
    ⟨Or.inl (by decide), by decide +kernel⟩

/-- An entry at half past ten and one half a second later: the later one is listed after the earlier
one. -/
theorem later_fraction_listed_last :
    let calls := sampleCalls 0 500000000 (by decide) (by decide)
    (creationInstants calls).Nodup ∧
      ¬PagesNewestFirst .asWritten .asWritten (createAll calls) everything 1 := by
  intro calls
  have hdistinct : (creationInstants calls).Nodup := by decide
  refine ⟨hdistinct, fun h ↦ ?_⟩
  have hnone := ((pagesNewestFirst_iff ((map_instant_createAll calls).symm ▸ hdistinct)
    (by rfl : everything.since = none) rfl le_rfl _ _).mp h).2
  revert hnone
  decide +kernel

end Huntarr2.Activity
