import Huntarr2.Scheduler.Ownership

/-!
# Accounting of searches

The counter, the cooldown rows and the commands are three effects of a search cycle that live in three
places. The counter shows the items of exactly the commands sent since it was last reset, a row is
written only for an item of a command, and no cycle starts with a counter at the limit.
-/

namespace Huntarr2.Scheduling

open Activity Arr Cooldown GoStd Settings

/-- The number of item IDs in some commands. -/
def itemCount (commands : List Command) : ℕ :=
  (commands.map fun command ↦ command.itemIDs.length).sum

@[simp]
theorem itemCount_append (first second : List Command) :
    itemCount (first ++ second) = itemCount first + itemCount second := by
  unfold itemCount
  rw [List.map_append, List.sum_append]

/-- The tick resets the counter. -/
def Resets (world : World) (io : TickIO) : Prop := world.sched.hourResetAt < io.now

instance (world : World) (io : TickIO) : Decidable (Resets world io) :=
  inferInstanceAs (Decidable (world.sched.hourResetAt < io.now))

/-- A tick, with the commands sent since the start of the tick that last reset the counter. -/
def countedTick (state : World × List Command) (io : TickIO) : World × List Command :=
  (tick state.1 io,
    (if Resets state.1 io then [] else state.2) ++ commands (newEvents state.1 io))

/-- The commands a run sent since the start of the tick that last reset the counter, or since its own
start. -/
def commandsSinceReset (world : World) (ios : List TickIO) : List Command :=
  (ios.foldl countedTick (world, [])).2

theorem foldl_countedTick_world (state : World × List Command) (ios : List TickIO) :
    (ios.foldl countedTick state).1 = ios.foldl tick state.1 := by
  induction ios generalizing state with
  | nil => rfl
  | cons io ios ih => exact ih (countedTick state io)

/-! ## The counter -/

/-- What the counter shows beyond the items of all commands of the trace. -/
def World.surplus (world : World) : ℤ :=
  world.sched.searchCount - itemCount (commands world.trace)

/-- Only the start of a tick changes the counter without a command. -/
theorem Step.apply_surplus (world : World) {step : Step} (hstep : ∀ now, step ≠ .start now) :
    (step.apply world).surplus = world.surplus := by
  revert hstep
  apply Step.apply_cases (motive := fun step after ↦
    (∀ now, step ≠ .start now) → after.surplus = world.surplus)
  case started => exact fun now hstep ↦ absurd rfl (hstep now)
  case limited => exact fun _ _ ↦ rfl
  case removed => exact fun _ _ ↦ rfl
  case pruned =>
    intro _ _ io _
    have hnone : commands [Event.expired io.expireAt] = [] := rfl
    simp only [World.surplus, World.append, commands_append, hnone, List.append_nil]
  case passed =>
    intro _ events _ _ hsilent _
    simp only [World.surplus, World.append, commands_append, commands_eq_nil hsilent, List.append_nil]
  case turned =>
    intro now inst cancelled io _
    apply takeTurn_cases (motive := fun after ↦ after.surplus = world.surplus)
    case idle => rfl
    case disabled =>
      have hnone : commands [Event.disabled inst.id] = [] := rfl
      simp only [World.surplus, afterDisabled, World.append, World.setSchedule, commands_append, hnone,
        List.append_nil]
    case closed =>
      intro entry _
      have hnone : commands [.windowChecked inst.id io.windowAt, .logged entry] = [] := rfl
      simp only [World.surplus, World.append, commands_append, hnone, List.append_nil]
    case quiet =>
      intro resolved events totalItems _ hquiet
      have hnone : commands (.windowChecked inst.id io.windowAt :: events) = [] :=
        commands_eq_nil (List.forall_mem_cons.mpr
          ⟨trivial, fun event hevent ↦ (hquiet event hevent).silent⟩)
      have hcycle (cycle : Cycle) : commands [Event.cycled cycle] = [] := rfl
      simp only [World.surplus, afterCycle, World.append, commands_append, hnone, hcycle,
        List.append_nil, Nat.cast_zero, add_zero]
    case sent =>
      intro resolved result coolingDown entry totalItems _ _ _
      have htrace := turnTrace_sent world inst io
        (sentCommand inst resolved.1 io.cycle result coolingDown) entry
        (world.turnCycle now inst resolved.1 totalItems io.cycleEnd)
        (sentCommand inst resolved.1 io.cycle result coolingDown).itemIDs.length
      generalize sentCommand inst resolved.1 io.cycle result coolingDown = command at htrace ⊢
      have hsent (cycle : Cycle) : commands [.windowChecked inst.id io.windowAt,
          .filtered inst.id io.cycle.filterAt, .searched command,
          .recorded inst.id command.itemIDs io.cycle.recordAt, .logged entry, .cycled cycle] =
          [command] := rfl
      unfold World.surplus
      rw [htrace, commands_append, hsent, itemCount_append]
      simp only [afterCycle, afterCommand, World.append, itemCount, List.map_cons, List.map_nil,
        List.sum_cons, List.sum_nil, Nat.cast_add, add_zero]
      ring

theorem foldl_apply_surplus {steps : List Step} (hsteps : ∀ step ∈ steps, ∀ now, step ≠ .start now)
    (world : World) : (steps.foldl Step.apply world).surplus = world.surplus := by
  induction steps generalizing world with
  | nil => rfl
  | cons step steps ih =>
    rw [List.forall_mem_cons] at hsteps
    rw [List.foldl_cons, ih hsteps.2, step.apply_surplus world hsteps.1]

/-- A tick starts once. -/
theorem exists_tickSteps_eq (world : World) (io : TickIO) :
    ∃ steps, tickSteps world io = .start io.now :: steps ∧
      ∀ step ∈ steps, ∀ now, step ≠ .start now := by
  refine ⟨_, rfl, ?_⟩
  split
  · exact fun step hstep ↦ absurd hstep List.not_mem_nil
  · rw [List.forall_mem_cons]
    refine ⟨fun _ ↦ Step.noConfusion, ?_⟩
    split
    · exact fun step hstep ↦ absurd hstep List.not_mem_nil
    · rw [List.forall_mem_append]
      constructor
      · intro step hstep now
        rcases mem_searchSteps hstep with ⟨inst, -, cancelled, rfl⟩ | rfl
        all_goals exact Step.noConfusion
      · split
        · exact fun step hstep ↦ absurd hstep List.not_mem_nil
        · intro step hstep now
          rcases mem_closingSteps hstep with rfl | rfl | ⟨inst, -, rfl⟩ | ⟨cancelled, rfl⟩
          all_goals exact Step.noConfusion

/-- A tick keeps the surplus of the counter, after the reset if it resets it. -/
theorem tick_searchCount (world : World) (io : TickIO) :
    (tick world io).sched.searchCount =
      (if Resets world io then 0 else world.sched.searchCount) +
        itemCount (commands (newEvents world io)) := by
  obtain ⟨steps, hsteps, hstart⟩ := exists_tickSteps_eq world io
  have hkept : (tick world io).surplus = (startTick world io.now).surplus := by
    rw [tick_eq_foldl, hsteps, List.foldl_cons]
    exact foldl_apply_surplus hstart _
  have hopened : (startTick world io.now).surplus =
      (if Resets world io then 0 else world.sched.searchCount) - itemCount (commands world.trace) := by
    have hnone : commands [Event.tickStarted io.now] = [] := rfl
    by_cases hover : Resets world io
    · have hreset : startTick world io.now = { world.emit (.tickStarted io.now) with
          sched := { world.sched with
            searchCount := 0, hourResetAt := nextHourBoundary io.now } } := if_pos hover
      rw [hreset, if_pos hover]
      simp only [World.surplus, World.emit, commands_append, hnone, List.append_nil]
    · have hkept : startTick world io.now = world.emit (.tickStarted io.now) := if_neg hover
      rw [hkept, if_neg hover]
      simp only [World.surplus, World.emit, commands_append, hnone, List.append_nil]
  have hsent : itemCount (commands (tick world io).trace) =
      itemCount (commands world.trace) + itemCount (commands (newEvents world io)) := by
    rw [tick_trace, commands_append, itemCount_append]
  calc (tick world io).sched.searchCount
      = (tick world io).surplus + itemCount (commands (tick world io).trace) :=
        (sub_add_cancel _ _).symm
    _ = (if Resets world io then 0 else world.sched.searchCount) - itemCount (commands world.trace) +
          (itemCount (commands world.trace) + itemCount (commands (newEvents world io)) : ℕ) := by
        rw [hkept, hopened, hsent]
    _ = (if Resets world io then 0 else world.sched.searchCount) +
          itemCount (commands (newEvents world io)) := by
        push_cast
        ring

theorem foldl_countedTick_count (state : World × List Command)
    (h : state.1.sched.searchCount = itemCount state.2) (ios : List TickIO) :
    (ios.foldl countedTick state).1.sched.searchCount = itemCount (ios.foldl countedTick state).2 := by
  induction ios generalizing state with
  | nil => exact h
  | cons io ios ih =>
    refine ih (countedTick state io) ?_
    unfold countedTick
    dsimp only
    rw [tick_searchCount, itemCount_append, Nat.cast_add, h]
    split <;> rfl

/-- At the end of every tick the counter shows the items sent since the last reset. -/
theorem searchCount_foldl_tick {world : World} (hstart : world.sched.searchCount = 0)
    (ios : List TickIO) :
    (ios.foldl tick world).sched.searchCount = itemCount (commandsSinceReset world ios) := by
  have hcount := foldl_countedTick_count (world, []) hstart ios
  rw [foldl_countedTick_world] at hcount
  exact hcount

/-! ## Cooldown rows -/

/-- A row that a step creates or refreshes is for an item of a command that the step sends to the
row's instance. -/
def WritesSearched (world : World) (step : Step) : Prop :=
  ∀ instanceID itemID, ∀ searchedAt ∈ (step.apply world).cooldowns.lookup (instanceID, itemID),
    searchedAt ∉ world.cooldowns.lookup (instanceID, itemID) →
    ∃ command ∈ commands ((step.apply world).trace.drop world.trace.length),
      command.instanceID = instanceID ∧ itemID ∈ command.itemIDs

theorem step_writesSearched (world : World) (step : Step) : WritesSearched world step := by
  intro instanceID itemID searchedAt
  apply Step.apply_cases (motive := fun _ after ↦
    searchedAt ∈ after.cooldowns.lookup (instanceID, itemID) →
    searchedAt ∉ world.cooldowns.lookup (instanceID, itemID) →
    ∃ command ∈ commands (after.trace.drop world.trace.length),
      command.instanceID = instanceID ∧ itemID ∈ command.itemIDs)
  case started =>
    intro now hafter hbefore
    obtain ⟨_, _, hstart⟩ := startTick_eq world now
    rw [hstart] at hafter
    exact absurd hafter hbefore
  case limited => exact fun _ hafter hbefore ↦ absurd hafter hbefore
  case removed => exact fun _ hafter hbefore ↦ absurd hafter hbefore
  case pruned =>
    intro _ _ io hafter hbefore
    cases hfailure : io.expireFailure with
    | some err =>
      rw [hfailure] at hafter
      exact absurd hafter hbefore
    | none =>
      rw [hfailure, lookup_deleteExpired, Option.mem_filter_iff] at hafter
      exact absurd hafter.1 hbefore
  case passed => exact fun _ _ _ _ _ hafter hbefore ↦ absurd hafter hbefore
  case turned =>
    intro now inst cancelled io
    apply takeTurn_cases (motive := fun after ↦
      searchedAt ∈ after.cooldowns.lookup (instanceID, itemID) →
      searchedAt ∉ world.cooldowns.lookup (instanceID, itemID) →
      ∃ command ∈ commands (after.trace.drop world.trace.length),
        command.instanceID = instanceID ∧ itemID ∈ command.itemIDs)
    case idle => exact fun hafter hbefore ↦ absurd hafter hbefore
    case disabled => exact fun hafter hbefore ↦ absurd hafter hbefore
    case closed => exact fun _ _ hafter hbefore ↦ absurd hafter hbefore
    case quiet => exact fun _ _ _ _ _ hafter hbefore ↦ absurd hafter hbefore
    case sent =>
      intro resolved result coolingDown entry totalItems _ _ _ hafter hbefore
      refine ⟨sentCommand inst resolved.1 io.cycle result coolingDown, ?_, ?_⟩
      · rw [turnTrace_sent, List.drop_left]
        exact List.mem_singleton_self _
      · change searchedAt ∈ (recordSearches world.cooldowns inst.id _ io.cycle.recordAt
          io.cycle.recordFailure).2.lookup (instanceID, itemID) at hafter
        cases hfailure : io.cycle.recordFailure with
        | some err =>
          rw [hfailure, recordSearches_error] at hafter
          exact absurd hafter hbefore
        | none =>
          rw [hfailure, lookup_recordSearches] at hafter
          split at hafter
          case isTrue hwritten => exact ⟨hwritten.1.symm, hwritten.2⟩
          case isFalse => exact absurd hafter hbefore

/-! ## The limit -/

/-- The step runs a search cycle. -/
def StartsCycle (world : World) : Step → Prop
  | .turn now inst _ io => ∃ resolved, Reaches world now inst io resolved
  | _ => False

/-- A cycle is run only below the limit. -/
def BelowLimit (limit : ℤ) (world : World) (step : Step) : Prop :=
  StartsCycle world step → world.sched.searchCount < limit

theorem belowLimit_of_turnOf_eq_none {limit : ℤ} {world : World} {step : Step}
    (h : step.turnOf = none) : BelowLimit limit world step := by
  intro hcycle
  cases step with
  | turn now inst cancelled io => cases h
  | _ => exact hcycle.elim

theorem searchSteps_belowLimit (io : TickIO) (limit : ℤ) (world : World) (index : ℕ)
    (insts : List Instance) :
    Machine.Along Step.apply (BelowLimit limit) world
      (searchSteps io limit world index insts).1 := by
  induction insts generalizing world index with
  | nil => exact Machine.along_nil
  | cons inst insts ih =>
    unfold searchSteps
    split
    case isTrue => exact Machine.along_nil
    case isFalse =>
      split
      case isTrue =>
        exact (Machine.along_cons _ _).mpr ⟨belowLimit_of_turnOf_eq_none rfl, Machine.along_nil⟩
      case isFalse hbelow =>
        exact (Machine.along_cons _ _).mpr ⟨fun _ ↦ not_le.mp hbelow, ih _ _⟩

theorem tickSteps_belowLimit (world : World) {io : TickIO} {settings : Validated}
    (hsettings : io.globalSettings = .ok settings) :
    Machine.Along Step.apply (BelowLimit settings.1.searchLimit) world (tickSteps world io) := by
  unfold tickSteps
  rw [hsettings, Machine.along_cons, Machine.along_cons]
  refine ⟨belowLimit_of_turnOf_eq_none rfl, belowLimit_of_turnOf_eq_none rfl, ?_⟩
  cases io.instances with
  | error err => exact Machine.along_nil
  | ok list =>
    refine (Machine.along_append _ _).mpr ⟨searchSteps_belowLimit io _ _ 0 _, ?_⟩
    split
    · exact Machine.along_nil
    · refine Machine.along_of_forall fun step hstep _ ↦ belowLimit_of_turnOf_eq_none ?_
      exact List.filterMap_eq_nil_iff.mp (closingSteps_turns io _ _) step hstep

/-- Exact accounting in every tick of every run: at its end the counter shows the items of the commands
sent since the last reset; its steps write cooldown rows for the items of their commands only; and its
cycles start below the limit that it resolved. -/
theorem searches_accounted {tickInterval : Duration} {created : Time} {sched : Scheduler}
    (hnew : new tickInterval created = .ok sched) (cooldowns : Cooldown.Table) (polls : PollTable)
    (zone : Zone) (ios : List TickIO) (io : TickIO) :
    let start := World.start sched cooldowns polls zone created
    let world := ios.foldl tick start
    (tick world io).sched.searchCount = itemCount (commandsSinceReset start (ios ++ [io])) ∧
      Machine.Along Step.apply WritesSearched world (tickSteps world io) ∧
      ∀ settings, io.globalSettings = .ok settings →
        Machine.Along Step.apply (BelowLimit settings.1.searchLimit) world (tickSteps world io) := by
  intro start world
  have hzero : start.sched.searchCount = 0 := by
    obtain rfl := eq_of_new hnew
    rfl
  have hcount := searchCount_foldl_tick hzero (ios ++ [io])
  rw [List.foldl_append] at hcount
  exact ⟨hcount, Machine.along_of_forall fun step _ during ↦ step_writesSearched during step,
    fun _ hsettings ↦ tickSteps_belowLimit world hsettings⟩

/-- Two batches of four in the first hour, and one after the reset. -/
theorem searches_accounted_three_batches :
    let settings : Validated := ⟨{ defaults with searchLimit := 8 }, by constructor <;> decide⟩
    let result := library [1, 2, 3, 4, 5, 6, 7, 8, 9, 10, 11, 12]
    let ios := [smoothTick minute settings soloList result,
      smoothTick (40 * minute) settings soloList result]
    let io := smoothTick (70 * minute) settings soloList result
    ∃ sched, new minute 0 = .ok sched ∧
      let start := World.start sched ∅ ∅ Zone.utc 0
      let world := ios.foldl tick start
      world.sched.searchCount = 8 ∧ (tick world io).sched.searchCount = 4 ∧
        (tick world io).sched.searchCount = itemCount (commandsSinceReset start (ios ++ [io])) := by
  intro settings result ios io
  have hnew : new minute 0 = .ok _ := rfl
  exact ⟨_, hnew, by decide, by decide, (searches_accounted hnew ∅ ∅ Zone.utc ios io).1⟩

end Huntarr2.Scheduling
