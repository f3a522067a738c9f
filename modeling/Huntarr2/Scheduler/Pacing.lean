import Huntarr2.Scheduler.Ownership

/-!
# Pacing of one instance

What a tick decides for an instance is decided in its one turn: nothing, that it is disabled, or a
search cycle with at most one command. A cycle leaves the time of the next one in the schedule, and
only a further cycle, a disabled instance or a missing one takes it out again.
-/

namespace Huntarr2.Scheduling

open Activity Arr Cooldown GoStd Settings

/-- The event shows a decision about the instance. -/
def Event.Decides (instanceID : UUID) : Event → Bool
  | .disabled id => id = instanceID
  | .searched command => command.instanceID = instanceID
  | .cycled cycle => cycle.instanceID = instanceID
  | _ => false

/-- The decisions about an instance in a trace. -/
def decisions (instanceID : UUID) (trace : List Event) : List Event :=
  trace.filter fun event ↦ event.Decides instanceID

theorem decisions_append (instanceID : UUID) (first second : List Event) :
    decisions instanceID (first ++ second) =
      decisions instanceID first ++ decisions instanceID second := List.filter_append _ _

theorem decisions_silent {instanceID : UUID} {events : List Event}
    (h : ∀ event ∈ events, event.Silent) : decisions instanceID events = [] := by
  apply List.filter_eq_nil_iff.mpr
  intro event hevent
  cases event <;> first | exact Bool.false_ne_true | exact (h _ hevent).elim

theorem owner_of_decides {instanceID : UUID} {event : Event} (h : event.Decides instanceID = true) :
    event.owner = some instanceID := by
  cases event with
  | disabled id => exact congrArg some (of_decide_eq_true h)
  | searched command => exact congrArg some (of_decide_eq_true h)
  | cycled cycle => exact congrArg some (of_decide_eq_true h)
  | _ => exact absurd h Bool.false_ne_true

theorem decisions_of_owner_ne {instanceID : UUID} {owner : Option UUID} {events : List Event}
    (howner : owner ≠ some instanceID) (h : ∀ event ∈ events, event.owner = owner) :
    decisions instanceID events = [] := by
  apply List.filter_eq_nil_iff.mpr
  intro event hevent hdecides
  exact howner ((h event hevent).symm.trans (owner_of_decides hdecides))

/-! ## Steps that are no turn of the instance -/

theorem decisions_apply {world : World} {step : Step} {instanceID : UUID}
    (hturn : step.turnOf ≠ some instanceID) :
    decisions instanceID (step.apply world).trace = decisions instanceID world.trace := by
  cases hof : step.turnOf with
  | none =>
    obtain ⟨events, htrace, hsilent⟩ := Step.apply_silent world hof
    rw [htrace, decisions_append, decisions_silent hsilent, List.append_nil]
  | some id =>
    have howner : step.owner ≠ some instanceID := by
      cases step with
      | turn now inst cancelled io => exact hturn
      | _ => cases hof
    obtain ⟨events, htrace, hevents⟩ := step.apply_growsBy world
    rw [htrace, decisions_append, decisions_of_owner_ne howner hevents, List.append_nil]

/-- Listed: a removal of unlisted schedules keeps the instance's. -/
def Step.Keeps (instanceID : UUID) (step : Step) : Prop :=
  ∀ insts, step = .removeUnlisted insts → instanceID ∈ insts.map (·.id)

theorem foldl_no_turn {steps : List Step} {instanceID : UUID}
    (hturn : ∀ step ∈ steps, step.turnOf ≠ some instanceID) (world : World) :
    decisions instanceID (steps.foldl Step.apply world).trace = decisions instanceID world.trace ∧
    ((∀ step ∈ steps, step.Keeps instanceID) →
      (steps.foldl Step.apply world).sched.schedules.lookup instanceID =
        world.sched.schedules.lookup instanceID) := by
  induction steps generalizing world with
  | nil => exact ⟨rfl, fun _ ↦ rfl⟩
  | cons step steps ih =>
    obtain ⟨hhere, hlater⟩ := List.forall_mem_cons.mp hturn
    obtain ⟨hdecisions, hlookup⟩ := ih hlater (step.apply world)
    rw [List.foldl_cons]
    refine ⟨hdecisions.trans (decisions_apply hhere), fun hkeeps ↦ ?_⟩
    obtain ⟨hkeep, hkeeps⟩ := List.forall_mem_cons.mp hkeeps
    refine (hlookup hkeeps).trans (Step.apply_lookup_schedule ?_ hkeep)
    intro now inst cancelled io hstep hsame
    rw [hstep, hsame] at hhere
    exact hhere rfl

/-! ## The decision of a tick -/

theorem keeps_of_listed {instanceID : UUID} {world : World} {io : TickIO}
    (hlisted : Listed instanceID io) {step : Step} (hstep : step ∈ tickSteps world io) :
    step.Keeps instanceID := by
  intro insts hremove
  have hof := tickSteps_of hstep
  rw [hremove] at hof
  obtain ⟨⟨settings, hsettings⟩, list, hlist, rfl⟩ := hof
  exact hlisted settings list hsettings hlist

/-- What is decided for an instance, with its schedule before and after. -/
inductive Decision (instanceID : UUID) (now : Time) (listed : Prop)
    (before after : Option InstanceSchedule) : List Event → Prop
  | nothing (hkept : listed → after = before) : Decision instanceID now listed before after []
  | disabled : Decision instanceID now listed before after [.disabled instanceID]
  | cycle (sent : List Command) (cycle : Cycle) (hsent : sent.length ≤ 1)
      (hcycle : cycle.instanceID = instanceID) (hdue : ∀ sched ∈ before, sched.nextSearchAt ≤ now)
      (hnext : after.map (·.nextSearchAt) = some (cycle.endedAt + cycle.interval)) :
      Decision instanceID now listed before after (sent.map .searched ++ [.cycled cycle])

theorem takeTurn_decision (world : World) (now : Time) (inst : Instance) (cancelled : Bool)
    (io : TurnIO) :
    ∃ events, decisions inst.id (takeTurn world now inst cancelled io).trace =
        decisions inst.id world.trace ++ events ∧
      Decision inst.id now True (world.sched.schedules.lookup inst.id)
        ((takeTurn world now inst cancelled io).sched.schedules.lookup inst.id) events := by
  apply takeTurn_cases (motive := fun after ↦ ∃ events, decisions inst.id after.trace =
    decisions inst.id world.trace ++ events ∧ Decision inst.id now True
      (world.sched.schedules.lookup inst.id) (after.sched.schedules.lookup inst.id) events)
  case idle => exact ⟨[], (List.append_nil _).symm, .nothing fun _ ↦ rfl⟩
  case disabled =>
    refine ⟨[.disabled inst.id], ?_, .disabled⟩
    change decisions inst.id (world.trace ++ [.disabled inst.id]) = _
    rw [decisions_append]
    congr 1
    exact List.filter_cons_of_pos (decide_eq_true rfl)
  case closed =>
    intro entry _
    refine ⟨[], ?_, .nothing fun _ ↦ rfl⟩
    change decisions inst.id (world.trace ++ _) = _
    rw [decisions_append]
    rfl
  case quiet =>
    intro resolved events totalItems hreaches hquiet
    have hsilent : ∀ event ∈ .windowChecked inst.id io.windowAt :: events, event.Silent :=
      List.forall_mem_cons.mpr ⟨trivial, fun event hevent ↦ (hquiet event hevent).silent⟩
    refine ⟨_, ?_, .cycle [] (world.turnCycle now inst resolved.1 totalItems io.cycleEnd)
      (Nat.zero_le _) rfl hreaches.due (by rw [lookup_afterCycle]; rfl)⟩
    change decisions inst.id (world.trace ++ _ ++ [.cycled _]) = _
    rw [decisions_append, decisions_append, decisions_silent hsilent, List.append_nil]
    congr 1
    exact List.filter_cons_of_pos (decide_eq_true rfl)
  case sent =>
    intro resolved result coolingDown entry totalItems hreaches _ _
    refine ⟨_, ?_, .cycle [sentCommand inst resolved.1 io.cycle result coolingDown]
      (world.turnCycle now inst resolved.1 totalItems io.cycleEnd) le_rfl rfl hreaches.due
      (by rw [lookup_afterCycle]; rfl)⟩
    rw [turnTrace_sent, decisions_append]
    congr 1
    simp [decisions, Event.Decides, sentCommand, World.turnCycle, endedCycle]

theorem listed_of_turn {instanceID : UUID} {world : World} {io : TickIO} {step : Step}
    (hstep : step ∈ tickSteps world io) (hturn : step.turnOf = some instanceID) :
    Listed instanceID io := by
  have hof := tickSteps_of hstep
  cases step with
  | turn now inst cancelled turn =>
    cases Option.some.inj hturn
    obtain ⟨-, -, list, hlist, hmem⟩ := hof
    intro settings other _ hother
    rw [hlist] at hother
    cases Except.ok.inj hother
    exact List.mem_map_of_mem hmem
  | _ => cases hturn

/-- What a tick decides for an instance it decides in one turn; while the instance is listed, nothing
else touches its schedule. -/
theorem tick_decision (world : World) (io : TickIO) (instanceID : UUID) :
    ∃ events, decisions instanceID (tick world io).trace = decisions instanceID world.trace ++ events ∧
      Decision instanceID io.now (Listed instanceID io) (world.sched.schedules.lookup instanceID)
        ((tick world io).sched.schedules.lookup instanceID) events := by
  rw [tick_eq_foldl]
  cases tickSteps_split world io instanceID with
  | inl hnone =>
    obtain ⟨hdecisions, hlookup⟩ := foldl_no_turn hnone world
    exact ⟨[], by rw [hdecisions, List.append_nil],
      .nothing fun hlisted ↦ hlookup fun step hstep ↦ keeps_of_listed hlisted hstep⟩
  | inr hsplit =>
    obtain ⟨before, step, after, heq, hturn, hbefore, hafter⟩ := hsplit
    have hmem : step ∈ tickSteps world io := by
      rw [heq]
      exact List.mem_append_right _ List.mem_cons_self
    have hkeeps : ∀ step ∈ tickSteps world io, step.Keeps instanceID :=
      fun step hstep ↦ keeps_of_listed (listed_of_turn hmem hturn) hstep
    rw [heq, List.forall_mem_append, List.forall_mem_cons] at hkeeps
    obtain ⟨hkeepsBefore, -, hkeepsAfter⟩ := hkeeps
    have hof := tickSteps_of hmem
    cases step with
    | turn now inst cancelled turn =>
      cases Option.some.inj hturn
      obtain ⟨rfl, -, -⟩ := hof
      have hfirst := foldl_no_turn hbefore world
      obtain ⟨events, hdecisions, hdecision⟩ :=
        takeTurn_decision (before.foldl Step.apply world) io.now inst cancelled turn
      have hlast := foldl_no_turn hafter
        (takeTurn (before.foldl Step.apply world) io.now inst cancelled turn)
      rw [heq, List.foldl_append, List.foldl_cons]
      refine ⟨events, ?_, ?_⟩
      · exact hlast.1.trans (hdecisions.trans (by rw [hfirst.1]))
      · rw [hfirst.2 hkeepsBefore, ← hlast.2 hkeepsAfter] at hdecision
        cases hdecision with
        | nothing hkept => exact .nothing fun _ ↦ hkept trivial
        | disabled => exact .disabled
        | cycle sent cycle hsent hcycle hdue hnext => exact .cycle sent cycle hsent hcycle hdue hnext
    | _ => cases hturn

/-! ## Pacing -/

theorem newEvents_decision (world : World) (io : TickIO) (instanceID : UUID) :
    Decision instanceID io.now (Listed instanceID io) (world.sched.schedules.lookup instanceID)
      ((tick world io).sched.schedules.lookup instanceID)
      (decisions instanceID (newEvents world io)) := by
  obtain ⟨events, hdecisions, hdecision⟩ := tick_decision world io instanceID
  rw [tick_trace, decisions_append] at hdecisions
  rw [List.append_cancel_left hdecisions]
  exact hdecision

namespace Decision

variable {instanceID : UUID} {now : Time} {listed : Prop} {before after : Option InstanceSchedule}
  {events : List Event}

/-- The end of a cycle shows that it was due, and leaves the time of the next one. -/
theorem of_cycled (h : Decision instanceID now listed before after events) {cycle : Cycle}
    (hcycle : .cycled cycle ∈ events) : (∀ sched ∈ before, sched.nextSearchAt ≤ now) ∧
      after.map (·.nextSearchAt) = some (cycle.endedAt + cycle.interval) := by
  cases h with
  | nothing hkept => exact absurd hcycle List.not_mem_nil
  | disabled => exact absurd (List.mem_singleton.mp hcycle) Event.noConfusion
  | cycle sent ended hsent hended hdue hnext =>
    have heq : cycle = ended := by simpa using hcycle
    exact ⟨hdue, heq ▸ hnext⟩

/-- Without a cycle and without a disabled instance a listed instance keeps its schedule. -/
theorem kept (h : Decision instanceID now listed before after events) (hlisted : listed)
    (hdisabled : .disabled instanceID ∉ events)
    (hcycle : ∀ cycle, .cycled cycle ∈ events → cycle.instanceID ≠ instanceID) : after = before := by
  cases h with
  | nothing hkept => exact hkept hlisted
  | disabled => exact absurd (List.mem_singleton_self _) hdisabled
  | cycle sent ended hsent hended hdue hnext =>
    exact absurd hended (hcycle ended (List.mem_append_right _ (List.mem_singleton_self _)))

theorem commands_le_one (h : Decision instanceID now listed before after events) :
    (commands events).length ≤ 1 := by
  cases h with
  | nothing hkept => exact Nat.zero_le _
  | disabled => exact Nat.zero_le _
  | cycle sent ended hsent hended hdue hnext =>
    have hcommands : commands (sent.map .searched ++ [.cycled ended]) = sent := by
      rw [commands_append]
      unfold commands
      rw [List.filterMap_map]
      exact (List.append_nil _).trans (List.filterMap_some)
    rw [hcommands]
    exact hsent

end Decision

theorem mem_decisions {instanceID : UUID} {trace : List Event} {event : Event} :
    event ∈ decisions instanceID trace ↔ event ∈ trace ∧ event.Decides instanceID = true :=
  List.mem_filter

/-- The commands of an instance are among the decisions about it. -/
theorem commands_filter (instanceID : UUID) (trace : List Event) :
    ((commands trace).filter fun command ↦ command.instanceID = instanceID) =
      commands (decisions instanceID trace) := by
  unfold commands decisions
  rw [List.filter_filterMap, List.filterMap_filter]
  congr 1
  funext event
  cases event with
  | searched command =>
    by_cases h : command.instanceID = instanceID <;> simp [Event.command?, Event.Decides, h]
  | _ => simp [Event.command?, Event.Decides]

/-- Nothing happens to an instance's schedule: it is listed, not disabled, and no cycle of it ends. -/
def Undisturbed (instanceID : UUID) (world : World) (io : TickIO) : Prop :=
  Listed instanceID io ∧ .disabled instanceID ∉ newEvents world io ∧
    ∀ cycle ∈ cycles (newEvents world io), cycle.instanceID ≠ instanceID

theorem undisturbed_of_decisions_eq_nil {instanceID : UUID} {world : World} {io : TickIO}
    (hlisted : Listed instanceID io) (h : decisions instanceID (newEvents world io) = []) :
    Undisturbed instanceID world io := by
  have hnever (event : Event) (hevent : event ∈ newEvents world io) :
      event.Decides instanceID ≠ true := by
    intro hdecides
    have hmem := mem_decisions.mpr ⟨hevent, hdecides⟩
    rw [h] at hmem
    exact List.not_mem_nil hmem
  exact ⟨hlisted, fun hdisabled ↦ hnever _ hdisabled (decide_eq_true rfl),
    fun cycle hcycle hsame ↦ hnever _ (mem_cycles.mp hcycle) (decide_eq_true hsame)⟩

theorem lookup_of_undisturbed {instanceID : UUID} {world : World} {io : TickIO}
    (h : Undisturbed instanceID world io) :
    (tick world io).sched.schedules.lookup instanceID =
      world.sched.schedules.lookup instanceID := by
  obtain ⟨hlisted, hdisabled, hcycle⟩ := h
  exact (newEvents_decision world io instanceID).kept hlisted
    (fun hmem ↦ hdisabled (mem_decisions.mp hmem).1)
    (fun cycle hmem ↦ hcycle cycle (mem_cycles.mpr (mem_decisions.mp hmem).1))

end Huntarr2.Scheduling
