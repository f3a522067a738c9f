import Huntarr2.Scheduler.Effects

/-!
# No search during the cooldown

The cooldown table remembers every command: each searched item has a row as new as the command,
unless a clock reading lies the whole retention after it. Filtering by any permitted period therefore
keeps two commands for one item at least that period apart.
-/

namespace Huntarr2.Scheduling

open Activity Arr Cooldown GoStd Settings

/-- Two commands for one item are at least the second one's cooldown apart. -/
def Apart (first second : Command) : Prop :=
  first.instanceID = second.instanceID → ∀ itemID ∈ first.itemIDs, itemID ∈ second.itemIDs →
    wholeSeconds second.cooldown * 1000 ≤ millis second.sentAt - millis first.sentAt

/-- The search of an item is still recorded, or it is longer ago than any cooldown. -/
def Remembered (world : World) (command : Command) (itemID : ℤ) : Prop :=
  (∃ searchedAt ∈ world.cooldowns.lookup (command.instanceID, itemID),
    millis command.sentAt ≤ searchedAt) ∨
  ∃ time ∈ clock world.trace,
    millis command.sentAt + wholeSeconds cooldownRetention * 1000 ≤ millis time

structure CooldownInv (world : World) : Prop where
  apart : (commands world.trace).Pairwise Apart
  remembered : ∀ command ∈ commands world.trace, ∀ itemID ∈ command.itemIDs,
    Remembered world command itemID

theorem sentAt_mem_clock {trace : List Event} {command : Command} (h : command ∈ commands trace) :
    command.sentAt ∈ clock trace :=
  List.mem_filterMap.mpr ⟨.searched command, mem_commands.mp h, rfl⟩

namespace CooldownInv

variable {world : World}

/-- A step without a command that keeps the table keeps the invariant. -/
theorem frame (h : CooldownInv world) {after : World} {events : List Event}
    (hevents : commands events = []) (htrace : after.trace = world.trace ++ events)
    (hcooldowns : after.cooldowns = world.cooldowns) : CooldownInv after := by
  have hcommands : commands after.trace = commands world.trace := by
    rw [htrace, commands_append, hevents, List.append_nil]
  have hclock : clock after.trace = clock world.trace ++ clock events := by
    rw [htrace, clock_append]
  refine ⟨hcommands ▸ h.apart, fun command hmem itemID hitem ↦ ?_⟩
  rw [hcommands] at hmem
  cases h.remembered command hmem itemID hitem with
  | inl hrow => exact Or.inl (hcooldowns ▸ hrow)
  | inr hlong =>
    obtain ⟨time, htime, hpassed⟩ := hlong
    exact Or.inr ⟨time, hclock ▸ List.mem_append_left _ htime, hpassed⟩

/-- An expired row is older than any cooldown. -/
theorem prune (h : CooldownInv world) (now expireAt : Time) (failure : Option String) :
    CooldownInv { world.append [.expired expireAt] with
      cooldowns := (deleteExpired world.cooldowns cooldownRetention expireAt failure).2
      sched := { world.sched with lastPrunedAt := now } } := by
  have hexpired : CooldownInv (world.append [.expired expireAt]) := h.frame rfl rfl rfl
  refine ⟨hexpired.apart, fun command hmem itemID hitem ↦ ?_⟩
  cases hexpired.remembered command hmem itemID hitem with
  | inr hlong => exact Or.inr hlong
  | inl hrow =>
    obtain ⟨searchedAt, hsearched, hle⟩ := hrow
    cases failure with
    | some err => exact Or.inl ⟨searchedAt, hsearched, hle⟩
    | none =>
      by_cases hold : searchedAt < cutoff expireAt cooldownRetention
      · refine Or.inr ⟨expireAt, by simp [World.append, clock, Event.time?], ?_⟩
        unfold cutoff at hold
        linarith
      · refine Or.inl ⟨searchedAt, ?_, hle⟩
        rw [lookup_deleteExpired, Option.mem_filter_iff]
        exact ⟨hsearched, by simp [hold]⟩

/-- The filter keeps a new command apart from every earlier one. -/
theorem apart_of_sends (h : CooldownInv world) {inst : Instance} {resolved : Validated}
    {cancelled : Bool} {io : CycleIO} {result : UpgradeResult} {coolingDown : List ℤ}
    (hsends : Sends world.cooldowns inst resolved.1 cancelled io result coolingDown)
    (hfilter : io.filterAt ≤ io.searchAt) (hclock : ∀ time ∈ clock world.trace, time ≤ io.searchAt)
    {command : Command} (hmem : command ∈ commands world.trace) :
    Apart command (sentCommand inst resolved.1 io result coolingDown) := by
  intro hinstance itemID hfirst hsecond
  obtain ⟨hcandidate, hawake⟩ := mem_selectBatch hsecond
  change wholeSeconds resolved.1.cooldownPeriod * 1000 ≤ millis io.searchAt - millis command.sentAt
  cases h.remembered command hmem itemID hfirst with
  | inl hrow =>
    obtain ⟨searchedAt, hsearched, hle⟩ := hrow
    have hover : ¬cutoff io.filterAt resolved.1.cooldownPeriod < searchedAt := by
      intro hcooling
      rw [hinstance] at hsearched
      exact hawake ((mem_filterCoolingDown hsends.filtered itemID).mpr
        ⟨hcandidate, searchedAt, hsearched, hcooling⟩)
    unfold cutoff at hover
    calc wholeSeconds resolved.1.cooldownPeriod * 1000 ≤ millis io.filterAt - searchedAt := by linarith
      _ ≤ millis io.searchAt - searchedAt := sub_le_sub_right (millis_le hfilter) _
      _ ≤ millis io.searchAt - millis command.sentAt := sub_le_sub_left hle _
  | inr hlong =>
    obtain ⟨time, htime, hpassed⟩ := hlong
    have hperiod := wholeSeconds_mono resolved.2.cooldownPeriod_le
    calc wholeSeconds resolved.1.cooldownPeriod * 1000
        ≤ wholeSeconds cooldownRetention * 1000 := mul_le_mul_of_nonneg_right hperiod (by decide)
      _ ≤ millis time - millis command.sentAt := le_sub_iff_add_le'.mpr hpassed
      _ ≤ millis io.searchAt - millis command.sentAt :=
        sub_le_sub_right (millis_le (hclock time htime)) _

/-- A recorded command is remembered, and so are the commands before it. -/
theorem remembered_of_recorded (h : CooldownInv world) {after : World} {command : Command}
    {events : List Event} (recordAt : Time) (htrace : after.trace = world.trace ++ events)
    (hcooldowns : after.cooldowns =
      (recordSearches world.cooldowns command.instanceID command.itemIDs recordAt none).2)
    (hrecord : ∀ earlier ∈ commands world.trace ++ [command], earlier.sentAt ≤ recordAt)
    {earlier : Command} (hmem : earlier ∈ commands world.trace ++ [command]) {itemID : ℤ}
    (hitem : itemID ∈ earlier.itemIDs) : Remembered after earlier itemID := by
  by_cases hsearched : earlier.instanceID = command.instanceID ∧ itemID ∈ command.itemIDs
  · refine Or.inl ⟨millis recordAt, ?_, millis_le (hrecord earlier hmem)⟩
    rw [hcooldowns, lookup_recordSearches, if_pos hsearched]
    rfl
  · have hold : earlier ∈ commands world.trace := by
      cases List.mem_append.mp hmem with
      | inl hold => exact hold
      | inr hnew =>
        rw [List.mem_singleton] at hnew
        rw [hnew] at hsearched hitem
        exact absurd ⟨rfl, hitem⟩ hsearched
    cases h.remembered earlier hold itemID hitem with
    | inl hrow =>
      obtain ⟨searchedAt, hlookup, hle⟩ := hrow
      refine Or.inl ⟨searchedAt, ?_, hle⟩
      rw [hcooldowns, lookup_recordSearches, if_neg hsearched]
      exact hlookup
    | inr hlong =>
      obtain ⟨time, htime, hpassed⟩ := hlong
      refine Or.inr ⟨time, ?_, hpassed⟩
      rw [htrace, clock_append]
      exact List.mem_append_left _ htime

/-- A command whose searches are recorded keeps the invariant. -/
theorem send (h : CooldownInv world) {inst : Instance} {resolved : Validated} {cancelled : Bool}
    {io : CycleIO} {result : UpgradeResult} {coolingDown : List ℤ}
    (hsends : Sends world.cooldowns inst resolved.1 cancelled io result coolingDown) {after : World}
    {events : List Event} (htrace : after.trace = world.trace ++ events)
    (hsent : commands events = [sentCommand inst resolved.1 io result coolingDown])
    (hcooldowns : after.cooldowns = (recordSearches world.cooldowns inst.id
      (sentCommand inst resolved.1 io result coolingDown).itemIDs io.recordAt none).2)
    (hclock : ∀ time ∈ clock world.trace, time ≤ io.searchAt) (hfilter : io.filterAt ≤ io.searchAt)
    (hrecord : io.searchAt ≤ io.recordAt) : CooldownInv after := by
  have hcommands : commands after.trace =
      commands world.trace ++ [sentCommand inst resolved.1 io result coolingDown] := by
    rw [htrace, commands_append, hsent]
  constructor
  · rw [hcommands, List.pairwise_append]
    refine ⟨h.apart, List.pairwise_singleton _ _, fun command hmem _ hnew ↦ ?_⟩
    rw [List.mem_singleton.mp hnew]
    exact h.apart_of_sends hsends hfilter hclock hmem
  · rw [hcommands]
    intro command hmem itemID hitem
    refine h.remembered_of_recorded io.recordAt htrace hcooldowns ?_ hmem hitem
    intro earlier hearlier
    cases List.mem_append.mp hearlier with
    | inl hold => exact (hclock _ (sentAt_mem_clock hold)).trans hrecord
    | inr hnew =>
      rw [List.mem_singleton.mp hnew]
      exact hrecord

theorem takeTurn (h : CooldownInv world) {now : Time} {inst : Instance} {cancelled : Bool}
    {io : TurnIO} (hrecord : io.cycle.recordFailure = none) :
    Monotone (takeTurn world now inst cancelled io).trace →
      CooldownInv (takeTurn world now inst cancelled io) := by
  apply takeTurn_cases (motive := fun after ↦ Monotone after.trace → CooldownInv after)
  case idle => exact fun _ ↦ h
  case disabled => exact fun _ ↦ h.frame rfl rfl rfl
  case closed => exact fun _ _ _ ↦ h.frame rfl rfl rfl
  case quiet =>
    intro resolved events totalItems _ hquiet _
    refine h.frame ?_ (List.append_assoc _ _ _) rfl
    rw [commands_append]
    exact congrArg (· ++ []) (commands_of_quiet hquiet)
  case sent =>
    intro resolved result coolingDown entry totalItems _ hsends _ hclock
    have htrace := turnTrace_sent world inst io
      (sentCommand inst resolved.1 io.cycle result coolingDown) entry
      (world.turnCycle now inst resolved.1 totalItems io.cycleEnd)
      (sentCommand inst resolved.1 io.cycle result coolingDown).itemIDs.length
    rw [htrace] at hclock
    have hturn : [io.windowAt, io.cycle.filterAt, io.cycle.searchAt, io.cycle.recordAt,
        io.cycleEnd].Pairwise (· ≤ ·) := by
      unfold Monotone at hclock
      rw [clock_append] at hclock
      exact (List.pairwise_append.mp hclock).2.1
    simp only [List.pairwise_cons, List.forall_mem_cons] at hturn
    apply h.send hsends htrace
    case hsent => rfl
    case hcooldowns =>
      exact congrArg (fun failure ↦ (recordSearches world.cooldowns inst.id _ io.cycle.recordAt
        failure).2) hrecord
    case hclock => exact fun time htime ↦ hclock.le htime (by simp [clock, Event.time?, sentCommand])
    case hfilter => exact hturn.2.1.1
    case hrecord => exact hturn.2.2.1.1

/-- Every step whose cooldown write succeeds keeps the invariant. -/
theorem apply (h : CooldownInv world) {step : Step} (hclock : Monotone (step.apply world).trace)
    (hrecord : ∀ now inst cancelled io, step = .turn now inst cancelled io →
      io.cycle.recordFailure = none) : CooldownInv (step.apply world) := by
  revert hclock hrecord
  apply Step.apply_cases (motive := fun step after ↦ Monotone after.trace →
    (∀ now inst cancelled io, step = .turn now inst cancelled io → io.cycle.recordFailure = none) →
      CooldownInv after)
  case started =>
    intro now _ _
    obtain ⟨_, _, hstart⟩ := startTick_eq world now
    rw [hstart]
    exact h.frame rfl rfl rfl
  case limited => exact fun _ _ _ ↦ h.frame rfl (List.append_nil _).symm rfl
  case turned =>
    exact fun now inst cancelled io hclock hrecord ↦
      h.takeTurn (hrecord now inst cancelled io rfl) hclock
  case removed => exact fun _ _ _ ↦ h.frame rfl (List.append_nil _).symm rfl
  case pruned => exact fun now _ io _ _ ↦ h.prune now io.expireAt io.expireFailure
  case passed => exact fun _ _ _ _ hsilent _ _ ↦ h.frame (commands_eq_nil hsilent) rfl rfl

end CooldownInv

/-- No search during the cooldown: two commands for one item of an instance are at least as far apart
as the later one's cooldown in whole seconds, and no row that any permitted cooldown still needs is
ever expired. -/
theorem commands_apart_and_prune_harmless :
    (∀ (world : World) (ios : List TickIO), commands world.trace = [] →
      Monotone (ios.foldl tick world).trace →
      (∀ io ∈ ios, ∀ instanceID, (io.turn instanceID).cycle.recordFailure = none) →
      (commands (ios.foldl tick world).trace).Pairwise Apart) ∧
    ∀ (table : Cooldown.Table) (instanceID : UUID) (itemIDs : List ℤ) (resolved : Validated)
      (prunedAt now : Time) (pruneFailure failure : Option String), prunedAt ≤ now →
      filterCoolingDown (deleteExpired table cooldownRetention prunedAt pruneFailure).2 instanceID
          itemIDs resolved.1.cooldownPeriod now failure =
        filterCoolingDown table instanceID itemIDs resolved.1.cooldownPeriod now failure := by
  constructor
  · intro world ios hfresh hclock hrecord
    have hrecords : Machine.Along Step.apply (fun _ step ↦ ∀ now inst cancelled io,
        step = .turn now inst cancelled io → io.cycle.recordFailure = none) world
        (runSteps world ios) := by
      apply Machine.along_of_forall
      intro step hstep _ now inst cancelled turn hturn
      obtain ⟨io, hio, hof⟩ := runSteps_of hstep
      rw [hturn] at hof
      obtain ⟨-, rfl, -⟩ := hof
      exact hrecord io hio inst.id
    have hstart : CooldownInv world :=
      { apart := by rw [hfresh]; exact List.Pairwise.nil
        remembered := by rw [hfresh]; exact fun command hmem ↦ absurd hmem List.not_mem_nil }
    rw [foldl_tick] at hclock ⊢
    exact (Machine.invariant_of_along (motive := CooldownInv)
      (fun _ _ h ⟨hmonotone, hwritten⟩ ↦ h.apply hmonotone hwritten)
      ((along_monotone hclock).and hrecords) hstart).apart
  · intro table instanceID itemIDs resolved prunedAt now pruneFailure failure hnow
    exact filterCoolingDown_deleteExpired table instanceID itemIDs pruneFailure failure
      resolved.2.cooldownPeriod_le hnow

/-- With a cooldown of an hour an item is searched at the first minute and again two hours later. -/
theorem commands_apart_two_searches :
    let settings : Validated := ⟨{ defaults with cooldownPeriod := hour }, by constructor <;> decide⟩
    ∃ sched, new minute 0 = .ok sched ∧
      let start := World.start sched ∅ ∅ Zone.utc 0
      let ios := [smoothTick minute settings soloList (library [1]),
        smoothTick (2 * hour) settings soloList (library [1])]
      (commands (ios.foldl tick start).trace).length = 2 ∧
      (commands (ios.foldl tick start).trace).Pairwise Apart := by
  intro settings
  refine ⟨_, rfl, by decide, commands_apart_and_prune_harmless.1 _ _ rfl (by decide) ?_⟩
  simp only [List.forall_mem_cons]
  exact ⟨fun _ ↦ rfl, fun _ ↦ rfl, by simp⟩

end Huntarr2.Scheduling
