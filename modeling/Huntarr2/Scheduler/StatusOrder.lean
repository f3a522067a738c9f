import Huntarr2.Foundation.SortedBy
import Huntarr2.Scheduler.Status
import Mathlib.Data.String.Basic

/-!
# The order of the status snapshot

`Status` reads the schedule map in whatever order the runtime visits it, and sorts by name with a sort
that is not stable. What it may return is therefore a set of snapshots. Nothing keeps two instances from
having one name, and where they do, the set has more than one member.
-/

namespace Huntarr2.Scheduling

open Activity Arr Cooldown GoStd Settings

/-- A call of `Status` may return the snapshot: the loop visits the map in some order, and the sort
returns one of its results. -/
def Scheduler.Shows (sched : Scheduler) (snapshot : Status) : Prop :=
  ∃ visited sorted : List InstanceSchedule,
    visited.Perm (sched.schedules.entries.map fun row ↦ row.2) ∧
    SortsTo InstanceSchedule.instanceName visited sorted ∧
    snapshot =
      { running := sched.running
        searchesThisHour := sched.searchCount
        hourlyLimit := sched.hourlyLimit
        instances := sorted }

/-- The sort of the map's entries decides what is shown. -/
theorem shows_iff {sched : Scheduler} {snapshot : Status} :
    sched.Shows snapshot ↔
      snapshot = { sched.status with instances := snapshot.instances } ∧
        SortsTo InstanceSchedule.instanceName (sched.schedules.entries.map fun row ↦ row.2)
          snapshot.instances := by
  constructor
  · rintro ⟨visited, sorted, hvisited, hsorted, rfl⟩
    exact ⟨rfl, hsorted.of_perm hvisited⟩
  · rintro ⟨hfields, hsorted⟩
    exact ⟨_, _, List.Perm.refl _, hsorted, hfields⟩

/-- The snapshot of a stable sort is one of those that may be shown. -/
theorem shows_status (sched : Scheduler) : sched.Shows sched.status :=
  shows_iff.mpr ⟨rfl, sortsTo_insertionSort _ _⟩

/-- The instances of a snapshot are the entries of the map, each under its key once. -/
theorem Scheduler.Shows.once {sched : Scheduler} {snapshot : Status} (h : sched.Shows snapshot) :
    ∃ ids : List UUID, ids.Nodup ∧ (∀ id, id ∈ ids ↔ id ∈ sched.schedules) ∧
      snapshot.instances.map some = ids.map sched.schedules.lookup := by
  obtain ⟨-, hsorted⟩ := shows_iff.mp h
  obtain ⟨rows, hperm, hrows⟩ := exists_perm_map hsorted.perm
  have hkeys : (rows.map (·.1)).Perm sched.schedules.keys := hperm.map _
  refine ⟨rows.map (·.1), hkeys.nodup_iff.mpr sched.schedules.nodupKeys,
    fun id ↦ hkeys.mem_iff, ?_⟩
  rw [hrows, List.map_map, List.map_map]
  refine List.map_congr_left fun row hrow ↦ ?_
  exact (AList.mem_lookup_iff.mpr (hperm.mem_iff.mp hrow)).symm

/-- Every snapshot that may be shown has each scheduled instance once, sorted by name, and any two
calls on the state return the same snapshot. -/
structure Determined (sched : Scheduler) : Prop where
  once : ∀ snapshot, sched.Shows snapshot →
    ∃ ids : List UUID, ids.Nodup ∧ (∀ id, id ∈ ids ↔ id ∈ sched.schedules) ∧
      snapshot.instances.map some = ids.map sched.schedules.lookup
  sorted : ∀ snapshot, sched.Shows snapshot →
    snapshot.instances.Pairwise fun first second ↦ first.instanceName ≤ second.instanceName
  same : ∀ first second, sched.Shows first → sched.Shows second → first = second

/-- Different entries of the map have different names. -/
def NamesDiffer (sched : Scheduler) : Prop :=
  ∀ id other, ∀ entry ∈ sched.schedules.lookup id, ∀ found ∈ sched.schedules.lookup other,
    entry.instanceName = found.instanceName → entry = found

/-- In the map of a run the entries of different instances are different. -/
theorem namesDiffer_iff_of_keyed {world : World} (hkeyed : Keyed world) :
    NamesDiffer world.sched ↔
      ∀ id other, ∀ entry ∈ world.sched.schedules.lookup id,
        ∀ found ∈ world.sched.schedules.lookup other,
          entry.instanceName = found.instanceName → id = other := by
  refine forall₂_congr fun id other ↦ forall₂_congr fun entry hentry ↦
    forall₂_congr fun found hfound ↦ imp_congr_right fun _ ↦ ?_
  constructor
  · rintro rfl
    rw [← hkeyed id entry hentry, ← hkeyed other entry hfound]
  · rintro rfl
    exact Option.some.inj (hentry.symm.trans hfound)

/-- Two snapshots of one state are the same exactly if their instances are. -/
theorem same_iff (sched : Scheduler) :
    (∀ first second, sched.Shows first → sched.Shows second → first = second) ↔
      ∀ first second,
        SortsTo InstanceSchedule.instanceName (sched.schedules.entries.map fun row ↦ row.2) first →
        SortsTo InstanceSchedule.instanceName (sched.schedules.entries.map fun row ↦ row.2) second →
          first = second := by
  constructor
  · intro h first second hfirst hsecond
    have hsame := h { sched.status with instances := first }
      { sched.status with instances := second } (shows_iff.mpr ⟨rfl, hfirst⟩)
      (shows_iff.mpr ⟨rfl, hsecond⟩)
    exact congrArg Status.instances hsame
  · intro h first second hfirst hsecond
    obtain ⟨hfirst, hfirstSorted⟩ := shows_iff.mp hfirst
    obtain ⟨hsecond, hsecondSorted⟩ := shows_iff.mp hsecond
    rw [hfirst, hsecond, h _ _ hfirstSorted hsecondSorted]

theorem namesDiffer_iff (sched : Scheduler) :
    (∀ entry ∈ sched.schedules.entries.map fun row ↦ row.2,
      ∀ found ∈ sched.schedules.entries.map fun row ↦ row.2,
        entry.instanceName = found.instanceName → entry = found) ↔ NamesDiffer sched := by
  have hmem (entry : InstanceSchedule) :
      entry ∈ (sched.schedules.entries.map fun row ↦ row.2) ↔
        ∃ id, sched.schedules.lookup id = some entry :=
    (shows_iff.mp (shows_status sched)).2.mem_iff.symm.trans mem_status_instances
  constructor
  · intro h id other entry hentry found hfound
    exact h entry ((hmem entry).mpr ⟨id, hentry⟩) found ((hmem found).mpr ⟨other, hfound⟩)
  · intro h entry hentry found hfound
    obtain ⟨id, hentry⟩ := (hmem entry).mp hentry
    obtain ⟨other, hfound⟩ := (hmem found).mp hfound
    exact h id other entry hentry found hfound

/-- The snapshot is a function of the state exactly if different entries have different names. -/
theorem status_determined_iff (sched : Scheduler) : Determined sched ↔ NamesDiffer sched := by
  rw [← namesDiffer_iff, ← sortsTo_unique_iff, ← same_iff]
  constructor
  · exact Determined.same
  · intro hsame
    exact ⟨fun _ ↦ Scheduler.Shows.once, fun _ hshows ↦ (shows_iff.mp hshows).2.sorted, hsame⟩

/-- A list of two instances of one name. -/
def twinList : InstanceList where
  insts := [⟨1, "movies", "http://movies"⟩, ⟨2, "movies", "http://more-movies"⟩]
  nodup := by decide

/-- After one tick over two instances of one name, two calls of `Status` may return them in either
order. -/
theorem twins_shown_either_way :
    ∃ sched, new minute 0 = .ok sched ∧
      let world := [smoothTick minute ⟨defaults, defaults_valid⟩ twinList (library [1])].foldl tick
        (World.start sched ∅ ∅ Zone.utc 0)
      (∃ first second, world.sched.Shows first ∧ world.sched.Shows second ∧
        first.instances.map (·.instanceID) = [1, 2] ∧
        second.instances.map (·.instanceID) = [2, 1]) ∧
      ¬Determined world.sched := by
  refine ⟨_, rfl, ?_⟩
  intro world
  let entry (id : UUID) : InstanceSchedule := ⟨id, "movies", 31 * minute, 30 * minute, true⟩
  have hentries : world.sched.schedules.entries.map (fun row ↦ row.2) = [entry 2, entry 1] := by decide
  have hshown (instances : List InstanceSchedule) (hperm : instances.Perm [entry 2, entry 1])
      (hsorted : instances.Pairwise fun first second ↦ first.instanceName ≤ second.instanceName) :
      world.sched.Shows { world.sched.status with instances := instances } :=
    shows_iff.mpr ⟨rfl, hentries ▸ hperm, hsorted⟩
  have hfirst := hshown [entry 1, entry 2] (by decide) (by decide)
  have hsecond := hshown [entry 2, entry 1] (by decide) (by decide)
  refine ⟨⟨_, _, hfirst, hsecond, rfl, rfl⟩, fun h ↦ ?_⟩
  have hsame := congrArg Status.instances (h.same _ _ hfirst hsecond)
  exact absurd (List.cons.inj hsame).1 (by decide)

end Huntarr2.Scheduling
