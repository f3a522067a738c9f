import Huntarr2.Scheduler.Effects

/-!
# Whose step it is

A turn and a history poll belong to one instance, the other steps to none. A step leaves events of
its owner only, and it leaves the rows, the schedule and the poll timestamp of every other instance
alone.
-/

namespace Huntarr2.Scheduling

open Activity Arr Cooldown GoStd Settings

def Step.owner : Step → Option UUID
  | .turn _ inst _ _ => some inst.id
  | .poll inst _ => some inst.id
  | _ => none

def Event.owner : Event → Option UUID
  | .disabled instanceID | .windowChecked instanceID _ | .filtered instanceID _ |
    .recorded instanceID _ _ | .pollStarted instanceID _ | .pollRecorded instanceID _ =>
    some instanceID
  | .searched command => some command.instanceID
  | .cycled cycle => some cycle.instanceID
  | .logged entry => entry.instanceID
  | .created _ | .tickStarted _ | .pollChecked _ | .expired _ => none

theorem Event.Quiet.owner {instanceID : UUID} {event : Event} (h : event.Quiet instanceID) :
    event.owner = some instanceID := by
  cases event with
  | filtered id now => exact congrArg some h
  | logged entry => exact h
  | _ => exact h.elim

theorem startEvents_owner {inst : Instance} {io : PollIO} {last : Time} :
    ∀ event ∈ startEvents inst io last, event.owner = some inst.id := by
  unfold startEvents
  split
  · exact List.forall_mem_singleton.mpr rfl
  · exact fun event hevent ↦ absurd hevent List.not_mem_nil

theorem pollEvents_owner {inst : Instance} {io : PollIO} {last : Time}
    {records : List HistoryRecord} :
    ∀ event ∈ pollEvents inst io last records, event.owner = some inst.id := by
  intro event hevent
  unfold pollEvents at hevent
  rw [List.mem_append, List.mem_append, List.mem_map, List.mem_singleton] at hevent
  rcases hevent with (hevent | ⟨record, _, rfl⟩) | rfl
  · exact startEvents_owner event hevent
  · rfl
  · rfl

/-- The trace grows by events that all have the given owner. -/
def GrowsBy (owner : Option UUID) (world after : World) : Prop :=
  ∃ events, after.trace = world.trace ++ events ∧ ∀ event ∈ events, event.owner = owner

theorem GrowsBy.refl (owner : Option UUID) (world : World) : GrowsBy owner world world :=
  ⟨[], (List.append_nil _).symm, fun _ hevent ↦ absurd hevent List.not_mem_nil⟩

theorem takeTurn_growsBy (world : World) (now : Time) (inst : Instance) (cancelled : Bool)
    (io : TurnIO) : GrowsBy (some inst.id) world (takeTurn world now inst cancelled io) := by
  apply takeTurn_cases (motive := GrowsBy (some inst.id) world)
  case idle => exact GrowsBy.refl _ _
  case disabled => exact ⟨[.disabled inst.id], rfl, List.forall_mem_singleton.mpr rfl⟩
  case closed =>
    exact fun entry hentry ↦ ⟨_, rfl,
      List.forall_mem_cons.mpr ⟨rfl, List.forall_mem_singleton.mpr hentry⟩⟩
  case quiet =>
    intro resolved events totalItems _ hquiet
    refine ⟨_, List.append_assoc _ _ _, ?_⟩
    rw [List.forall_mem_append, List.forall_mem_cons, List.forall_mem_singleton]
    exact ⟨⟨rfl, fun event hevent ↦ (hquiet event hevent).owner⟩, rfl⟩
  case sent =>
    intro resolved result coolingDown entry totalItems _ _ hentry
    refine ⟨_, turnTrace_sent .., ?_⟩
    simp only [List.forall_mem_cons]
    exact ⟨rfl, rfl, rfl, rfl, hentry, rfl, fun _ hevent ↦ absurd hevent List.not_mem_nil⟩

/-- A step leaves events of its owner only. -/
theorem Step.apply_growsBy (world : World) (step : Step) :
    GrowsBy step.owner world (step.apply world) := by
  cases step with
  | start now =>
    unfold Step.apply startTick
    dsimp only
    split <;> exact ⟨_, rfl, List.forall_mem_singleton.mpr rfl⟩
  | readLimit limit => exact GrowsBy.refl _ _
  | turn now inst cancelled io => exact takeTurn_growsBy world now inst cancelled io
  | rateLimited limit => exact ⟨_, rfl, List.forall_mem_singleton.mpr rfl⟩
  | removeUnlisted insts => exact GrowsBy.refl _ _
  | checkPoll now =>
    unfold Step.apply Scheduling.checkPoll
    dsimp only
    split <;> exact ⟨_, rfl, List.forall_mem_singleton.mpr rfl⟩
  | poll inst io =>
    apply pollInstanceHistory_cases (motive := GrowsBy (some inst.id) world)
    case unread => exact fun _ _ ↦ GrowsBy.refl _ _
    case unfetched => exact fun _ _ _ _ ↦ ⟨_, rfl, startEvents_owner⟩
    case polled => exact fun last records _ _ ↦ ⟨_, rfl, pollEvents_owner⟩
  | prune now cancelled io =>
    apply pruneActivityLog_cases (motive := GrowsBy none world)
    case idle => exact GrowsBy.refl _ _
    case pruned => exact ⟨_, rfl, List.forall_mem_singleton.mpr rfl⟩

/-- A turn leaves the schedules of the other instances alone. -/
theorem takeTurn_lookup_of_ne {world : World} {now : Time} {inst : Instance} {cancelled : Bool}
    {io : TurnIO} {instanceID : UUID} (h : instanceID ≠ inst.id) :
    (takeTurn world now inst cancelled io).sched.schedules.lookup instanceID =
      world.sched.schedules.lookup instanceID := by
  apply takeTurn_cases (motive := fun after ↦ after.sched.schedules.lookup instanceID =
    world.sched.schedules.lookup instanceID)
  case idle => rfl
  case disabled => exact AList.lookup_insert_ne h
  case closed => exact fun _ _ ↦ rfl
  case quiet => exact fun _ _ _ _ _ ↦ AList.lookup_insert_ne h
  case sent => exact fun _ _ _ _ _ _ _ _ ↦ AList.lookup_insert_ne h

/-- A step that is no turn of an instance keeps its schedule, unless it removes unlisted ones. -/
theorem Step.apply_lookup_schedule {world : World} {step : Step} {instanceID : UUID}
    (hturn : ∀ now inst cancelled io, step = .turn now inst cancelled io → instanceID ≠ inst.id)
    (hlisted : ∀ insts, step = .removeUnlisted insts → instanceID ∈ insts.map (·.id)) :
    (step.apply world).sched.schedules.lookup instanceID =
      world.sched.schedules.lookup instanceID := by
  revert hturn hlisted
  apply Step.apply_cases (motive := fun step after ↦
    (∀ now inst cancelled io, step = .turn now inst cancelled io → instanceID ≠ inst.id) →
    (∀ insts, step = .removeUnlisted insts → instanceID ∈ insts.map (·.id)) →
      after.sched.schedules.lookup instanceID = world.sched.schedules.lookup instanceID)
  case started =>
    intro now _ _
    obtain ⟨_, _, hstart⟩ := startTick_eq world now
    rw [hstart]
  case limited => exact fun _ _ _ ↦ rfl
  case turned =>
    exact fun now inst cancelled io hturn _ ↦ takeTurn_lookup_of_ne (hturn now inst cancelled io rfl)
  case removed =>
    intro insts _ hlisted
    have hmem : instanceID ∈ insts.map (·.id) := hlisted insts rfl
    unfold Scheduling.removeUnlisted
    rw [KeyedTable.lookup_deleteWhere]
    cases world.sched.schedules.lookup instanceID with
    | none => rfl
    | some sched => exact Option.filter_some_pos (by simpa using hmem)
  case pruned => exact fun _ _ _ _ _ ↦ rfl
  case passed => exact fun _ _ _ _ _ _ _ ↦ rfl

/-- The instance is in the list whenever the tick reads it. -/
def Listed (instanceID : UUID) (io : TickIO) : Prop :=
  ∀ settings list, io.globalSettings = .ok settings → io.instances = .ok list →
    instanceID ∈ list.insts.map (·.id)

/-! ## One turn per tick -/

/-- The instance whose turn a step is. -/
def Step.turnOf : Step → Option UUID
  | .turn _ inst _ _ => some inst.id
  | _ => none

theorem searchSteps_turns (io : TickIO) (limit : ℤ) (world : World) (index : ℕ)
    (insts : List Instance) :
    ((searchSteps io limit world index insts).1.filterMap Step.turnOf).Sublist
      (insts.map (·.id)) := by
  induction insts generalizing world index with
  | nil => exact List.Sublist.refl _
  | cons inst insts ih =>
    unfold searchSteps
    split
    · exact List.nil_sublist _
    · split
      · exact List.nil_sublist _
      · exact (ih _ _).cons_cons inst.id

theorem closingSteps_turns (io : TickIO) (world : World) (insts : List Instance) :
    (closingSteps io world insts).filterMap Step.turnOf = [] := by
  rw [List.filterMap_eq_nil_iff]
  intro step hstep
  rcases mem_closingSteps hstep with rfl | rfl | ⟨inst, -, rfl⟩ | ⟨cancelled, rfl⟩
  all_goals rfl

/-- No instance has two turns in one tick, since the listed IDs are distinct. -/
theorem tickSteps_turns_nodup (world : World) (io : TickIO) :
    ((tickSteps world io).filterMap Step.turnOf).Nodup := by
  unfold tickSteps
  rw [List.filterMap_cons_none rfl]
  split
  · exact List.nodup_nil
  · rw [List.filterMap_cons_none rfl]
    split
    · exact List.nodup_nil
    · rename_i list _
      dsimp only
      have hsearched (limit : ℤ) (world : World) :=
        list.nodup.sublist (searchSteps_turns io limit world 0 list.insts)
      split
      · rw [List.append_nil]
        exact hsearched _ _
      · rw [List.filterMap_append, closingSteps_turns, List.append_nil]
        exact hsearched _ _

/-- Around the turn of an instance no other step of the tick is a turn of it. -/
theorem tickSteps_split (world : World) (io : TickIO) (instanceID : UUID) :
    (∀ step ∈ tickSteps world io, step.turnOf ≠ some instanceID) ∨
    ∃ before step after, tickSteps world io = before ++ step :: after ∧
      step.turnOf = some instanceID ∧ (∀ step ∈ before, step.turnOf ≠ some instanceID) ∧
      ∀ step ∈ after, step.turnOf ≠ some instanceID := by
  by_cases hturn : ∃ step ∈ tickSteps world io, step.turnOf = some instanceID
  · obtain ⟨step, hmem, hstep⟩ := hturn
    obtain ⟨before, after, hsplit⟩ := List.append_of_mem hmem
    have hnodup := tickSteps_turns_nodup world io
    rw [hsplit, List.filterMap_append, List.filterMap_cons_some hstep, List.nodup_append,
      List.nodup_cons] at hnodup
    obtain ⟨-, ⟨hafter, -⟩, hbefore⟩ := hnodup
    refine Or.inr ⟨before, step, after, hsplit, hstep, fun other hother howner ↦ ?_,
      fun other hother howner ↦ ?_⟩
    · exact hbefore instanceID (List.mem_filterMap.mpr ⟨other, hother, howner⟩) instanceID
        List.mem_cons_self rfl
    · exact hafter (List.mem_filterMap.mpr ⟨other, hother, howner⟩)
  · exact Or.inl fun step hmem hstep ↦ hturn ⟨step, hmem, hstep⟩

/-! ## Ended cycles -/

/-- A step that is no turn only adds silent events. -/
theorem Step.apply_silent (world : World) {step : Step} (hturn : step.turnOf = none) :
    ∃ events, (step.apply world).trace = world.trace ++ events ∧ ∀ event ∈ events, event.Silent := by
  revert hturn
  apply Step.apply_cases (motive := fun step after ↦ step.turnOf = none → ∃ events,
    after.trace = world.trace ++ events ∧ ∀ event ∈ events, Event.Silent event)
  case started =>
    intro now _
    obtain ⟨_, _, hstart⟩ := startTick_eq world now
    rw [hstart]
    exact ⟨_, rfl, List.forall_mem_singleton.mpr trivial⟩
  case limited =>
    exact fun _ _ ↦ ⟨[], (List.append_nil _).symm, fun _ hevent ↦ absurd hevent List.not_mem_nil⟩
  case turned => exact fun _ _ _ _ hturn ↦ absurd hturn (Option.some_ne_none _)
  case removed =>
    exact fun _ _ ↦ ⟨[], (List.append_nil _).symm, fun _ hevent ↦ absurd hevent List.not_mem_nil⟩
  case pruned => exact fun _ _ _ _ ↦ ⟨_, rfl, List.forall_mem_singleton.mpr trivial⟩
  case passed => exact fun _ events _ _ hsilent _ ↦ ⟨events, rfl, hsilent⟩

/-- A cycle that a turn ends with permitted settings and the interval stored before. -/
def EndsCycle (world : World) (cycle : Cycle) : Prop :=
  ∃ now inst, ∃ resolved : Validated, ∃ totalItems cycleEnd,
    cycle = world.turnCycle now inst resolved.1 totalItems cycleEnd

theorem cycles_of_silent {world : World} {trace : List Event} (events : List Event)
    (hsilent : cycles events = []) (htrace : trace = world.trace ++ events) :
    cycles trace = cycles world.trace := by
  rw [htrace, cycles_append, hsilent, List.append_nil]

/-- A turn ends no cycle or its own. -/
theorem takeTurn_cycles (world : World) (now : Time) (inst : Instance) (cancelled : Bool)
    (io : TurnIO) : ∀ cycle ∈ cycles (takeTurn world now inst cancelled io).trace,
      cycle ∈ cycles world.trace ∨ EndsCycle world cycle := by
  have hended (events : List Event) (hsilent : cycles events = []) (resolved : Validated)
      (totalItems : ℕ) (trace : List Event) (htrace : trace = world.trace ++ events ++
        [.cycled (world.turnCycle now inst resolved.1 totalItems io.cycleEnd)]) :
      ∀ cycle ∈ cycles trace, cycle ∈ cycles world.trace ∨ EndsCycle world cycle := by
    intro cycle hcycle
    rw [htrace, cycles_append, cycles_append, hsilent, List.append_nil] at hcycle
    cases List.mem_append.mp hcycle with
    | inl hbefore => exact Or.inl hbefore
    | inr hnew =>
      exact Or.inr ⟨now, inst, resolved, totalItems, io.cycleEnd, List.mem_singleton.mp hnew⟩
  apply takeTurn_cases (motive := fun after ↦
    ∀ cycle ∈ cycles after.trace, cycle ∈ cycles world.trace ∨ EndsCycle world cycle)
  case idle => exact fun cycle hcycle ↦ Or.inl hcycle
  case disabled =>
    intro cycle hcycle
    exact Or.inl (cycles_of_silent [.disabled inst.id] rfl rfl ▸ hcycle)
  case closed =>
    intro entry _ cycle hcycle
    exact Or.inl (cycles_of_silent
      [.windowChecked inst.id io.windowAt, .logged entry] rfl rfl ▸ hcycle)
  case quiet =>
    intro resolved events totalItems _ hquiet
    refine hended _ (cycles_eq_nil ?_) resolved totalItems _ rfl
    exact List.forall_mem_cons.mpr ⟨trivial, fun event hevent ↦ (hquiet event hevent).silent⟩
  case sent =>
    intro resolved result coolingDown entry totalItems _ _ _
    let command := sentCommand inst resolved.1 io.cycle result coolingDown
    refine hended [.windowChecked inst.id io.windowAt, .filtered inst.id io.cycle.filterAt,
      .searched command, .recorded inst.id command.itemIDs io.cycle.recordAt, .logged entry] rfl
      resolved totalItems _ ?_
    rw [List.append_assoc]
    exact turnTrace_sent world inst io command entry _ _

/-- A step ends no cycle but that of a turn. -/
theorem Step.apply_cycles (world : World) (step : Step) :
    ∀ cycle ∈ cycles (step.apply world).trace,
      cycle ∈ cycles world.trace ∨ EndsCycle world cycle := by
  cases hof : step.turnOf with
  | none =>
    intro cycle hcycle
    obtain ⟨events, htrace, hsilent⟩ := Step.apply_silent world hof
    exact Or.inl (cycles_of_silent events (cycles_eq_nil hsilent) htrace ▸ hcycle)
  | some id =>
    cases step with
    | turn now inst cancelled io => exact takeTurn_cycles world now inst cancelled io
    | _ => cases hof

end Huntarr2.Scheduling
