import Huntarr2.Scheduler.Effects

/-!
# Which candidates are searched

Every cycle searches the first candidates in list order that are not cooling down. Once the cooldown
of an early candidate is over it is searched again, however many later ones were never searched.
-/

namespace Huntarr2.Scheduling

open Activity Arr Cooldown GoStd Settings

/-- A run of search cycles of one instance with constant settings. -/
def searchRun (inst : Instance) (resolved : Resolved) (world : World) (ios : List CycleIO) : World :=
  ios.foldl (fun world io ↦ (runInstanceCycle world inst resolved false io).1) world

theorem searchRun_append (inst : Instance) (resolved : Resolved) (world : World)
    (first second : List CycleIO) :
    searchRun inst resolved world (first ++ second) =
      searchRun inst resolved (searchRun inst resolved world first) second := List.foldl_append

/-- The item is in a command of the trace. -/
def SearchedIn (trace : List Event) (itemID : ℤ) : Prop :=
  ∃ command ∈ commands trace, itemID ∈ command.itemIDs

instance (trace : List Event) (itemID : ℤ) : Decidable (SearchedIn trace itemID) :=
  inferInstanceAs (Decidable (∃ command ∈ commands trace, itemID ∈ command.itemIDs))

/-- A batch takes from the front: what is left of the candidates stands behind it. -/
theorem sublist_of_selectBatch {itemIDs coolingDown : List ℤ} {batchSize first second : ℤ}
    (hfirst : first ∈ selectBatch itemIDs coolingDown batchSize) (hsecond : second ∈ itemIDs)
    (hawake : second ∉ coolingDown) (hleft : second ∉ selectBatch itemIDs coolingDown batchSize) :
    [first, second].Sublist itemIDs := by
  have hmem : second ∈ excludeIDs itemIDs coolingDown := mem_excludeIDs.mpr ⟨hsecond, hawake⟩
  unfold selectBatch at hfirst hleft
  dsimp only at hfirst hleft
  split at hfirst
  case isTrue hlong =>
    rw [if_pos hlong] at hleft
    have hbehind : second ∈ (excludeIDs itemIDs coolingDown).drop batchSize.toNat := by
      rw [← List.take_append_drop batchSize.toNat (excludeIDs itemIDs coolingDown)] at hmem
      exact (List.mem_append.mp hmem).resolve_left hleft
    have hboth := (List.singleton_sublist.mpr hfirst).append (List.singleton_sublist.mpr hbehind)
    rw [List.take_append_drop] at hboth
    exact hboth.trans (excludeIDs_sublist itemIDs coolingDown)
  case isFalse hshort =>
    rw [if_neg hshort] at hleft
    exact absurd hmem hleft

/-- The rows of the instance record its searches of the run, and are untouched otherwise. -/
def RowsRecord (inst : Instance) (ios : List CycleIO) (start world : World) : Prop :=
  ∀ itemID,
    (SearchedIn world.trace itemID → ∃ last ∈ ios,
      world.cooldowns.lookup (inst.id, itemID) = some (millis last.recordAt)) ∧
    (¬SearchedIn world.trace itemID →
      world.cooldowns.lookup (inst.id, itemID) = start.cooldowns.lookup (inst.id, itemID))

theorem rowsRecord_step {inst : Instance} {resolved : Resolved} {ios : List CycleIO}
    {start world : World} (h : RowsRecord inst ios start world) {io : CycleIO} (hmem : io ∈ ios)
    (hrecord : io.recordFailure = none) :
    RowsRecord inst ios start (runInstanceCycle world inst resolved false io).1 := by
  apply runInstanceCycle_cases (motive := fun out ↦ RowsRecord inst ios start out.1)
  case quiet =>
    intro events totalItems hquiet itemID
    unfold SearchedIn
    rw [commands_append_quiet world hquiet]
    exact h itemID
  case sent =>
    intro result coolingDown entry totalItems hsends _ itemID
    have hlookup : (afterCommand world inst io (sentCommand inst resolved io result coolingDown)
        entry).cooldowns.lookup (inst.id, itemID) =
          if itemID ∈ (sentCommand inst resolved io result coolingDown).itemIDs then
            some (millis io.recordAt)
          else world.cooldowns.lookup (inst.id, itemID) := by
      change (recordSearches world.cooldowns inst.id _ io.recordAt io.recordFailure).2.lookup _ = _
      rw [hrecord, lookup_recordSearches]
      simp
    unfold SearchedIn
    rw [commands_afterCommand, hlookup]
    simp only [List.mem_append, List.mem_singleton, or_and_right, exists_or, exists_eq_left]
    split
    case isTrue hsearched =>
      exact ⟨fun _ ↦ ⟨io, hmem, rfl⟩, fun hnone ↦ absurd (Or.inr hsearched) hnone⟩
    case isFalse hother =>
      exact ⟨fun hsearched ↦ (h itemID).1 (hsearched.resolve_right hother),
        fun hnone ↦ (h itemID).2 fun hsearched ↦ hnone (Or.inl hsearched)⟩

theorem rowsRecord_searchRun (inst : Instance) (resolved : Resolved) {world : World}
    (hfresh : commands world.trace = []) {ios : List CycleIO}
    (hrecord : ∀ io ∈ ios, io.recordFailure = none) :
    RowsRecord inst ios world (searchRun inst resolved world ios) := by
  have hstart : RowsRecord inst ios world world := by
    intro itemID
    have hnone : ¬SearchedIn world.trace itemID := by
      unfold SearchedIn
      rw [hfresh]
      exact fun ⟨_, hmem, _⟩ ↦ absurd hmem List.not_mem_nil
    exact ⟨fun hsearched ↦ absurd hsearched hnone, fun _ ↦ rfl⟩
  have hrun : Machine.Along (fun world io ↦ (runInstanceCycle world inst resolved false io).1)
      (fun _ io ↦ io ∈ ios ∧ io.recordFailure = none) world ios :=
    Machine.along_of_forall fun io hmem _ ↦ ⟨hmem, hrecord io hmem⟩
  exact Machine.invariant_of_along (motive := RowsRecord inst ios world)
    (fun _ _ h hguard ↦ rowsRecord_step h hguard.1 hguard.2) hrun hstart

/-- The cycle that sends the command: what it searches again has cooled down and stands in front. -/
theorem repeated_of_sends {inst : Instance} {resolved : Resolved} {ios : List CycleIO}
    {start during : World} (h : RowsRecord inst ios start during) {io : CycleIO}
    {result : UpgradeResult} {coolingDown : List ℤ}
    (hsends : Sends during.cooldowns inst resolved false io result coolingDown) {repeated : ℤ}
    (hrepeated : repeated ∈ (sentCommand inst resolved io result coolingDown).itemIDs)
    (hbefore : SearchedIn during.trace repeated) :
    (∃ last ∈ ios,
      during.cooldowns.lookup (inst.id, repeated) = some (millis last.recordAt) ∧
      millis last.recordAt + wholeSeconds resolved.cooldownPeriod * 1000 ≤ millis io.filterAt) ∧
    ∀ unsearched ∈ candidateIDs result resolved,
      start.cooldowns.lookup (inst.id, unsearched) = none → ¬SearchedIn during.trace unsearched →
      unsearched ∉ (sentCommand inst resolved io result coolingDown).itemIDs →
      [repeated, unsearched].Sublist (candidateIDs result resolved) := by
  have hcooling := mem_filterCoolingDown hsends.filtered
  constructor
  · obtain ⟨last, hlast, hrow⟩ := (h repeated).1 hbefore
    obtain ⟨hcandidate, hawake⟩ := mem_selectBatch hrepeated
    have hover : ¬cutoff io.filterAt resolved.cooldownPeriod < millis last.recordAt :=
      fun hlater ↦ hawake ((hcooling repeated).mpr ⟨hcandidate, _, hrow, hlater⟩)
    refine ⟨last, hlast, hrow, ?_⟩
    exact le_sub_iff_add_le.mp (not_lt.mp hover)
  · intro unsearched hcandidate hnone hunsearched hleft
    have hawake : unsearched ∉ coolingDown := by
      intro hmem
      obtain ⟨-, searchedAt, hrow, -⟩ := (hcooling unsearched).mp hmem
      rw [(h unsearched).2 hunsearched, hnone] at hrow
      exact absurd hrow (Option.not_mem_none _)
    exact sublist_of_selectBatch hrepeated hcandidate hawake hleft

/-- An item is searched again only when its cooldown since the last recorded search is over, and then
it stands before every candidate that was never recorded and is still not searched. -/
theorem repeated_search_before_unsearched {inst : Instance} {resolved : Resolved}
    {itemIDs : List ℤ} {world : World} (hfresh : commands world.trace = []) {ios : List CycleIO}
    {io : CycleIO}
    (hfixed : ∀ cycle ∈ ios ++ [io], ∀ result, cycle.upgradeable = .ok result →
      candidateIDs result resolved = itemIDs)
    (hrecord : ∀ cycle ∈ ios ++ [io], cycle.recordFailure = none) (command : Command)
    (hsent : commands (searchRun inst resolved world (ios ++ [io])).trace =
      commands (searchRun inst resolved world ios).trace ++ [command]) {repeated : ℤ}
    (hrepeated : repeated ∈ command.itemIDs)
    (hbefore : SearchedIn (searchRun inst resolved world ios).trace repeated) :
    (∃ last ∈ ios, (searchRun inst resolved world ios).cooldowns.lookup (inst.id, repeated) =
        some (millis last.recordAt) ∧
      millis last.recordAt + wholeSeconds resolved.cooldownPeriod * 1000 ≤ millis io.filterAt) ∧
    ∀ unsearched ∈ itemIDs, world.cooldowns.lookup (inst.id, unsearched) = none →
      ¬SearchedIn (searchRun inst resolved world (ios ++ [io])).trace unsearched →
      [repeated, unsearched].Sublist itemIDs := by
  rw [List.forall_mem_append, List.forall_mem_singleton] at hfixed hrecord
  have hrows := rowsRecord_searchRun inst resolved hfresh hrecord.1
  rw [searchRun_append] at hsent ⊢
  generalize searchRun inst resolved world ios = during at hrows hsent hbefore ⊢
  revert hsent
  apply runInstanceCycle_cases (motive := fun out ↦
    commands out.1.trace = commands during.trace ++ [command] →
    (∃ last ∈ ios, during.cooldowns.lookup (inst.id, repeated) = some (millis last.recordAt) ∧
      millis last.recordAt + wholeSeconds resolved.cooldownPeriod * 1000 ≤ millis io.filterAt) ∧
    ∀ unsearched ∈ itemIDs, world.cooldowns.lookup (inst.id, unsearched) = none →
      ¬SearchedIn out.1.trace unsearched → [repeated, unsearched].Sublist itemIDs)
  case quiet =>
    intro events totalItems hquiet hsent
    rw [commands_append_quiet during hquiet] at hsent
    exact absurd hsent (by simp)
  case sent =>
    intro result coolingDown entry totalItems hsends _ hsent
    have hcommands := commands_afterCommand during inst io
      (sentCommand inst resolved io result coolingDown) entry
    have hcommand : sentCommand inst resolved io result coolingDown = command :=
      List.singleton_injective (List.append_cancel_left (hcommands.symm.trans hsent))
    rw [← hcommand] at hrepeated
    have hitems : candidateIDs result resolved = itemIDs := hfixed.2 result hsends.fetched
    obtain ⟨helapsed, hbehind⟩ := repeated_of_sends hrows hsends hrepeated hbefore
    refine ⟨helapsed, fun unsearched hmem hnone hnever ↦ ?_⟩
    unfold SearchedIn at hnever
    rw [hcommands] at hnever
    rw [← hitems] at hmem ⊢
    exact hbehind unsearched hmem hnone
      (fun hsearched ↦ hnever (by
        obtain ⟨earlier, hearlier, hin⟩ := hsearched
        exact ⟨earlier, List.mem_append_left _ hearlier, hin⟩))
      (fun hin ↦ hnever ⟨_, List.mem_append_right _ (List.mem_singleton_self _), hin⟩)

/-- The default settings with batches of one item and a cooldown of an hour. -/
def singleBatch : Validated :=
  ⟨{ defaults with batchSize := 1, cooldownPeriod := hour }, by constructor <;> decide⟩

/-- Three cycles half an hour apart over three candidates: the first one is searched again while the
third one never was. -/
theorem third_candidate_starved :
    let world := World.start ⟨false, ∅, 0, 0, 0, 0, 0⟩ ∅ ∅ Zone.utc 0
    let cycleAt (now : Time) := smoothCycle now (library [1, 2, 3])
    (commands (searchRun ⟨1, "movies", "http://movies"⟩ singleBatch.1 world
      [cycleAt 0, cycleAt (30 * minute), cycleAt (60 * minute)]).trace).map (·.itemIDs) =
        [[1], [2], [1]] := by
  decide

/-- In the same run the repeated candidate has cooled down and stands before the third one. -/
theorem repeated_search_before_unsearched_third :
    let world := World.start ⟨false, ∅, 0, 0, 0, 0, 0⟩ ∅ ∅ Zone.utc 0
    let inst : Instance := ⟨1, "movies", "http://movies"⟩
    let cycleAt (now : Time) := smoothCycle now (library [1, 2, 3])
    let ios := [cycleAt 0, cycleAt (30 * minute)]
    (∃ last ∈ ios, (searchRun inst singleBatch.1 world ios).cooldowns.lookup (inst.id, 1) =
        some (millis last.recordAt) ∧
      millis last.recordAt + wholeSeconds singleBatch.1.cooldownPeriod * 1000 ≤
        millis (cycleAt (60 * minute)).filterAt) ∧
    ∀ unsearched ∈ [1, 2, 3], world.cooldowns.lookup (inst.id, unsearched) = none →
      ¬SearchedIn (searchRun inst singleBatch.1 world (ios ++ [cycleAt (60 * minute)])).trace
        unsearched →
      [1, unsearched].Sublist [1, 2, 3] := by
  intro world inst cycleAt ios
  have hfixed : ∀ cycle ∈ ios ++ [cycleAt (60 * minute)], ∀ result,
      cycle.upgradeable = .ok result → candidateIDs result singleBatch.1 = [1, 2, 3] := by
    simp only [ios, List.cons_append, List.nil_append, List.forall_mem_cons]
    exact ⟨fun _ h ↦ by cases h; rfl, fun _ h ↦ by cases h; rfl, fun _ h ↦ by cases h; rfl,
      fun _ h ↦ absurd h List.not_mem_nil⟩
  exact repeated_search_before_unsearched rfl hfixed (by decide) ⟨1, [1], 60 * minute, hour⟩
    (by decide) (by decide) (by decide)

end Huntarr2.Scheduling
