import Huntarr2.Scheduler.Fairness

/-!
# Sweeping a backlog

Over a fixed candidate list the cooldown table is a bookmark: its rows are the candidates searched so
far, the filter cuts exactly these off the front of the list, and the next batch starts where the last
one stopped.
-/

namespace Huntarr2.Scheduling

open Activity Arr Cooldown GoStd Settings

/-! ## Cutting off the front of a list -/

/-- Without the elements of a beginning of it, a list of distinct elements is the rest. -/
theorem filter_not_mem_take {list : List ℤ} (h : list.Nodup) (count : ℕ) :
    (list.filter fun id ↦ id ∉ list.take count) = list.drop count := by
  have hsplit := List.take_append_drop count list
  have hdisjoint : List.Disjoint (list.take count) (list.drop count) := by
    rw [← hsplit] at h
    exact List.disjoint_of_nodup_append h
  have hfront : ((list.take count).filter fun id ↦ id ∉ list.take count) = [] :=
    List.filter_eq_nil_iff.mpr fun id hid ↦ by simpa using hid
  have hrest : ((list.drop count).filter fun id ↦ id ∉ list.take count) = list.drop count :=
    List.filter_eq_self.mpr fun id hid ↦ by simpa using fun hfront ↦ hdisjoint hfront hid
  calc (list.filter fun id ↦ id ∉ list.take count)
      = ((list.take count ++ list.drop count).filter fun id ↦ id ∉ list.take count) := by rw [hsplit]
    _ = list.drop count := by rw [List.filter_append, hfront, hrest, List.nil_append]

/-! ## Runs of cycles -/

/-- A cycle with the settings it has. -/
abbrev ConfiguredCycle := Validated × CycleIO

/-- A search cycle of the instance. -/
def sweepStep (inst : Instance) (world : World) (cycle : ConfiguredCycle) : World :=
  (runInstanceCycle world inst cycle.1.1 false cycle.2).1

/-- A run of search cycles of the instance. -/
def sweep (inst : Instance) (world : World) (cycles : List ConfiguredCycle) : World :=
  cycles.foldl (sweepStep inst) world

/-- The sum of the batch sizes. -/
def batchTotal (cycles : List ConfiguredCycle) : ℕ :=
  (cycles.map fun cycle ↦ cycle.1.1.batchSize.toNat).sum

/-- Every call of the cycle succeeds, and its candidates are the given ones. -/
structure AllSucceed (inst : Instance) (itemIDs : List ℤ) (world : World) (cycle : ConfiguredCycle) :
    Prop where
  fetched : ∃ result, cycle.2.upgradeable = .ok result ∧ candidateIDs result cycle.1.1 = itemIDs
  filtered : ∃ coolingDown, filterCoolingDown world.cooldowns inst.id itemIDs
    cycle.1.1.cooldownPeriod cycle.2.filterAt cycle.2.filterFailure = .ok coolingDown
  searched : cycle.2.searchFailure = none
  recorded : cycle.2.recordFailure = none

/-- The searches of the cycle are recorded no earlier than the first ones, and its filter runs before
the cooldown of these is over. -/
structure InTime (firstRecord : Time) (cooldown : Duration) (cycle : ConfiguredCycle) : Prop where
  cooldown_le : cooldown ≤ cycle.1.1.cooldownPeriod
  recorded : firstRecord ≤ cycle.2.recordAt
  filtered : millis cycle.2.filterAt < millis firstRecord + wholeSeconds cooldown * 1000

/-- The first `count` candidates were sent since the start, and the rows record exactly these. -/
structure Swept (inst : Instance) (itemIDs : List ℤ) (firstRecord : Time) (start : World) (count : ℕ)
    (world : World) : Prop where
  sent : ∃ events, world.trace = start.trace ++ events ∧
    ((commands events).map (·.itemIDs)).flatten = itemIDs.take count
  recorded : ∀ itemID ∈ itemIDs.take count,
    ∃ searchedAt ∈ world.cooldowns.lookup (inst.id, itemID), millis firstRecord ≤ searchedAt
  unrecorded : ∀ itemID ∉ itemIDs.take count, world.cooldowns.lookup (inst.id, itemID) = none

namespace Swept

variable {inst : Instance} {itemIDs : List ℤ} {firstRecord : Time} {start : World} {count : ℕ}
  {world : World}

/-- The filter cuts off what was sent. -/
theorem excludeIDs_eq_drop (h : Swept inst itemIDs firstRecord start count world)
    (hdistinct : itemIDs.Nodup) {cooldown : Duration} {cycle : ConfiguredCycle}
    (hclock : InTime firstRecord cooldown cycle) {coolingDown : List ℤ}
    (hfiltered : filterCoolingDown world.cooldowns inst.id itemIDs cycle.1.1.cooldownPeriod
      cycle.2.filterAt cycle.2.filterFailure = .ok coolingDown) :
    excludeIDs itemIDs coolingDown = itemIDs.drop count := by
  have hmem (itemID : ℤ) : itemID ∈ coolingDown ↔ itemID ∈ itemIDs.take count := by
    rw [mem_filterCoolingDown hfiltered]
    constructor
    · rintro ⟨-, searchedAt, hrow, -⟩
      by_contra hnew
      rw [h.unrecorded itemID hnew] at hrow
      cases hrow
    · intro hold
      obtain ⟨searchedAt, hrow, hle⟩ := h.recorded itemID hold
      refine ⟨List.mem_of_mem_take hold, searchedAt, hrow, ?_⟩
      have hperiod := wholeSeconds_mono hclock.cooldown_le
      have hfilter := hclock.filtered
      unfold cutoff
      linarith
  rw [← filter_not_mem_take hdistinct count]
  exact List.filter_congr fun itemID _ ↦ by simp only [hmem]

/-- When the list is used up a cycle sends nothing. -/
theorem rest (h : Swept inst itemIDs firstRecord start count world) (hdistinct : itemIDs.Nodup)
    {cooldown : Duration} {cycle : ConfiguredCycle} (hcalls : AllSucceed inst itemIDs world cycle)
    (hclock : InTime firstRecord cooldown cycle) (hover : itemIDs.length ≤ count) :
    Swept inst itemIDs firstRecord start (count + cycle.1.1.batchSize.toNat)
        (sweepStep inst world cycle) ∧
      commands (sweepStep inst world cycle).trace = commands world.trace := by
  obtain ⟨result, hfetched, hitems⟩ := hcalls.fetched
  obtain ⟨coolingDown, hfiltered⟩ := hcalls.filtered
  have hleft := h.excludeIDs_eq_drop hdistinct hclock hfiltered
  have htake : itemIDs.take (count + cycle.1.1.batchSize.toNat) = itemIDs.take count := by
    rw [List.take_of_length_le hover, List.take_of_length_le (by omega)]
  obtain ⟨events, htrace, hsent⟩ := h.sent
  unfold sweepStep
  apply runInstanceCycle_cases (motive := fun out ↦
    Swept inst itemIDs firstRecord start (count + cycle.1.1.batchSize.toNat) out.1 ∧
      commands out.1.trace = commands world.trace)
  case quiet =>
    intro quietEvents totalItems hquiet
    refine ⟨⟨⟨events ++ quietEvents, ?_, ?_⟩, htake ▸ h.recorded, htake ▸ h.unrecorded⟩,
      commands_append_quiet world hquiet⟩
    · rw [← List.append_assoc, ← htrace]
      rfl
    · rw [commands_append, commands_of_quiet hquiet, List.append_nil, htake, hsent]
  case sent =>
    intro other otherCooling entry totalItems hsends _
    have hsame : other = result := Except.ok.inj (hsends.fetched.symm.trans hfetched)
    subst hsame
    rw [← hitems] at hfiltered
    have hcooling : otherCooling = coolingDown :=
      Except.ok.inj (hsends.filtered.symm.trans hfiltered)
    have hnonempty := hsends.left
    rw [hcooling, hitems, hleft] at hnonempty
    exact absurd (List.drop_of_length_le hover) hnonempty

/-- As long as candidates are left a cycle sends the next batch of them. -/
theorem send (h : Swept inst itemIDs firstRecord start count world) (hdistinct : itemIDs.Nodup)
    {cooldown : Duration} {cycle : ConfiguredCycle} (hcalls : AllSucceed inst itemIDs world cycle)
    (hclock : InTime firstRecord cooldown cycle) (hmore : count < itemIDs.length) :
    Swept inst itemIDs firstRecord start (count + cycle.1.1.batchSize.toNat)
      (sweepStep inst world cycle) := by
  obtain ⟨result, hfetched, hitems⟩ := hcalls.fetched
  obtain ⟨coolingDown, hfiltered⟩ := hcalls.filtered
  have hleft := h.excludeIDs_eq_drop hdistinct hclock hfiltered
  rw [← hitems] at hfiltered
  have hsends : Sends world.cooldowns inst cycle.1.1 false cycle.2 result coolingDown :=
    { live := rfl
      fetched := hfetched
      filtered := hfiltered
      left := by
        rw [hitems, hleft]
        exact fun hnone ↦ absurd hmore (not_lt.mpr (List.drop_eq_nil_iff.mp hnone))
      accepted := hcalls.searched }
  obtain ⟨entry, totalItems, hrun⟩ := runInstanceCycle_of_sends hsends
  have hafter : sweepStep inst world cycle = afterCommand world inst cycle.2
      (sentCommand inst cycle.1.1 cycle.2 result coolingDown) entry := by
    unfold sweepStep
    rw [hrun]
  have hids : (sentCommand inst cycle.1.1 cycle.2 result coolingDown).itemIDs =
      (itemIDs.drop count).take cycle.1.1.batchSize.toNat := by
    have hbatch : 0 ≤ cycle.1.1.batchSize := zero_le_one.trans cycle.1.2.batchSize_pos
    change selectBatch (candidateIDs result cycle.1.1) coolingDown cycle.1.1.batchSize = _
    rw [selectBatch_eq_take _ _ hbatch, hitems, hleft]
  generalize sentCommand inst cycle.1.1 cycle.2 result coolingDown = command at hafter hids
  have hlookup (itemID : ℤ) : (sweepStep inst world cycle).cooldowns.lookup (inst.id, itemID) =
      if itemID ∈ (itemIDs.drop count).take cycle.1.1.batchSize.toNat then
        some (millis cycle.2.recordAt)
      else world.cooldowns.lookup (inst.id, itemID) := by
    rw [hafter]
    change (recordSearches world.cooldowns inst.id command.itemIDs cycle.2.recordAt
      cycle.2.recordFailure).2.lookup _ = _
    rw [hcalls.recorded, lookup_recordSearches, hids]
    simp
  obtain ⟨events, htrace, hsent⟩ := h.sent
  refine ⟨⟨events ++ [.filtered inst.id cycle.2.filterAt, .searched command,
    .recorded inst.id command.itemIDs cycle.2.recordAt, .logged entry], ?_, ?_⟩, ?_, ?_⟩
  · rw [hafter, ← List.append_assoc, ← htrace]
    rfl
  · rw [commands_append, List.map_append, List.flatten_append, hsent, List.take_add, ← hids]
    congr 1
    exact List.append_nil _
  · intro itemID hmem
    rw [hlookup]
    split
    case isTrue => exact ⟨_, rfl, millis_le hclock.recorded⟩
    case isFalse hold =>
      rw [List.take_add, List.mem_append] at hmem
      exact h.recorded itemID (hmem.resolve_right hold)
  · intro itemID hnot
    rw [List.take_add, List.mem_append, not_or] at hnot
    rw [hlookup, if_neg hnot.2]
    exact h.unrecorded itemID hnot.1

/-- One more cycle sends the next batch, or nothing when the list is used up. -/
theorem step (h : Swept inst itemIDs firstRecord start count world) (hdistinct : itemIDs.Nodup)
    {cooldown : Duration} {cycle : ConfiguredCycle} (hcalls : AllSucceed inst itemIDs world cycle)
    (hclock : InTime firstRecord cooldown cycle) :
    Swept inst itemIDs firstRecord start (count + cycle.1.1.batchSize.toNat)
        (sweepStep inst world cycle) ∧
      (itemIDs.length ≤ count →
        commands (sweepStep inst world cycle).trace = commands world.trace) := by
  cases lt_or_ge count itemIDs.length with
  | inl hmore =>
    exact ⟨h.send hdistinct hcalls hclock hmore, fun hover ↦ absurd hmore (not_lt.mpr hover)⟩
  | inr hover =>
    obtain ⟨hnext, hnone⟩ := h.rest hdistinct hcalls hclock hover
    exact ⟨hnext, fun _ ↦ hnone⟩

theorem run (h : Swept inst itemIDs firstRecord start count world) (hdistinct : itemIDs.Nodup)
    {cooldown : Duration} {cycles : List ConfiguredCycle}
    (hcalls : Machine.Along (sweepStep inst) (AllSucceed inst itemIDs) world cycles)
    (hclock : ∀ cycle ∈ cycles, InTime firstRecord cooldown cycle) :
    Swept inst itemIDs firstRecord start (count + batchTotal cycles) (sweep inst world cycles) ∧
      (itemIDs.length ≤ count →
        commands (sweep inst world cycles).trace = commands world.trace) := by
  induction cycles generalizing world count with
  | nil => exact ⟨h, fun _ ↦ rfl⟩
  | cons cycle cycles ih =>
    rw [Machine.along_cons] at hcalls
    rw [List.forall_mem_cons] at hclock
    obtain ⟨hnext, hnone⟩ := h.step hdistinct hcalls.1 hclock.1
    obtain ⟨hlast, hnever⟩ := ih hnext hcalls.2 hclock.2
    have htotal : count + batchTotal (cycle :: cycles) =
        count + cycle.1.1.batchSize.toNat + batchTotal cycles := by
      unfold batchTotal
      rw [List.map_cons, List.sum_cons, Nat.add_assoc]
    rw [htotal]
    exact ⟨hlast, fun hover ↦ (hnever (hover.trans (Nat.le_add_right _ _))).trans (hnone hover)⟩

end Swept

/-- A backlog is swept in order: over a fixed list of distinct candidates the cycles send the first
candidates of the list, as many as their batch sizes add up to; once the list is used up nothing is
sent; and no candidate is sent twice. -/
theorem backlog_swept {inst : Instance} {itemIDs : List ℤ} (hdistinct : itemIDs.Nodup) {world : World}
    (hempty : ∀ itemID, world.cooldowns.lookup (inst.id, itemID) = none)
    {cycles : List ConfiguredCycle}
    (hcalls : Machine.Along (sweepStep inst) (AllSucceed inst itemIDs) world cycles)
    {firstRecord : Time} {cooldown : Duration}
    (hclock : ∀ cycle ∈ cycles, InTime firstRecord cooldown cycle) :
    let sentIDs := ((commands ((sweep inst world cycles).trace.drop world.trace.length)).map
      (·.itemIDs)).flatten
    sentIDs = itemIDs.take (min itemIDs.length (batchTotal cycles)) ∧
      (∀ before after, cycles = before ++ after → itemIDs.length ≤ batchTotal before →
        commands (sweep inst world cycles).trace = commands (sweep inst world before).trace) ∧
      sentIDs.Nodup := by
  have hstart : Swept inst itemIDs firstRecord world 0 world :=
    { sent := ⟨[], (List.append_nil _).symm, rfl⟩
      recorded := fun itemID hmem ↦ absurd hmem List.not_mem_nil
      unrecorded := fun itemID _ ↦ hempty itemID }
  have hrun := (hstart.run hdistinct hcalls hclock).1
  rw [Nat.zero_add] at hrun
  obtain ⟨events, htrace, hsent⟩ := hrun.sent
  intro sentIDs
  have hids : sentIDs = itemIDs.take (batchTotal cycles) := by
    change ((commands ((sweep inst world cycles).trace.drop _)).map _).flatten = _
    rw [htrace, List.drop_left, hsent]
  refine ⟨?_, ?_, ?_⟩
  · rw [hids, min_comm, ← List.take_eq_take_min]
  · rintro before after rfl hover
    rw [Machine.along_append] at hcalls
    rw [List.forall_mem_append] at hclock
    have hbefore := (hstart.run hdistinct hcalls.1 hclock.1).1
    rw [Nat.zero_add] at hbefore
    have hafter := (hbefore.run hdistinct hcalls.2 hclock.2).2 hover
    unfold sweep at hafter ⊢
    rw [List.foldl_append]
    exact hafter
  · rw [hids]
    exact hdistinct.sublist (List.take_sublist _ _)

/-- Batches of one, two and two over four candidates: the last cycle sends the one that is left. -/
theorem backlog_swept_three_batches :
    let inst : Instance := ⟨1, "movies", "http://movies"⟩
    let world := World.start ⟨false, ∅, 0, 0, 0, 0, 0⟩ ∅ ∅ Zone.utc 0
    let pairBatch : Validated := ⟨{ defaults with batchSize := 2, cooldownPeriod := hour },
      by constructor <;> decide⟩
    let cycles : List ConfiguredCycle := [(singleBatch, smoothCycle minute (library [7, 3, 9, 5])),
      (pairBatch, smoothCycle (2 * minute) (library [7, 3, 9, 5])),
      (pairBatch, smoothCycle (3 * minute) (library [7, 3, 9, 5]))]
    let sentIDs := ((commands ((sweep inst world cycles).trace.drop world.trace.length)).map
      (·.itemIDs)).flatten
    sentIDs = [7, 3, 9, 5] ∧ sentIDs = [7, 3, 9, 5].take (min 4 (batchTotal cycles)) := by
  intro inst world pairBatch cycles sentIDs
  have hcalls : Machine.Along (sweepStep inst) (AllSucceed inst [7, 3, 9, 5]) world cycles := by
    simp only [cycles, Machine.along_cons, Machine.along_nil, and_true]
    exact ⟨⟨⟨_, rfl, rfl⟩, ⟨_, rfl⟩, rfl, rfl⟩, ⟨⟨_, rfl, rfl⟩, ⟨_, rfl⟩, rfl, rfl⟩,
      ⟨_, rfl, rfl⟩, ⟨_, rfl⟩, rfl, rfl⟩
  have hclock : ∀ cycle ∈ cycles, InTime minute hour cycle := by
    simp only [cycles, List.forall_mem_cons]
    exact ⟨⟨by decide, by decide, by decide⟩, ⟨by decide, by decide, by decide⟩,
      ⟨by decide, by decide, by decide⟩, fun _ hmem ↦ absurd hmem List.not_mem_nil⟩
  exact ⟨by decide, (backlog_swept (by decide) (fun _ ↦ rfl) hcalls hclock).1⟩

end Huntarr2.Scheduling
