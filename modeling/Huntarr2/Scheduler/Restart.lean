import Huntarr2.Scheduler.CooldownSafety
import Huntarr2.Scheduler.Ownership

/-!
# Restarts

The process may end at any point of a tick. What it wrote stays, what the scheduler remembered does
not. An item whose search was recorded is not searched again during its cooldown, however often the
process ends and starts; every end leaves at most one search unrecorded.
-/

namespace Huntarr2.Scheduling

open Activity Arr Cooldown GoStd Settings

/-! ## Steps that are cut short -/

/-- The events of a step. -/
def Step.events (world : World) (step : Step) : List Event :=
  (step.apply world).trace.drop world.trace.length

/-- The event of a write to a table. -/
def Event.isWrite : Event → Bool
  | .recorded _ _ _ | .pollRecorded _ _ | .expired _ => true
  | _ => false

/-- The process ends in a step after `count` of its events. No step writes more than once, and a write
that has not happened by then is lost. -/
def Step.cut (world : World) (step : Step) (count : ℕ) : World :=
  let events := (step.events world).take count
  let written := events.any Event.isWrite
  { world with
    cooldowns := if written then (step.apply world).cooldowns else world.cooldowns
    polls := if written then (step.apply world).polls else world.polls
    trace := world.trace ++ events }

/-- A command, and whether its searches were recorded. -/
structure Sent where
  command : Command
  recorded : Bool
  deriving DecidableEq, Repr

/-- The write of a turn's searches succeeds. -/
def Step.records : Step → Bool
  | .turn _ _ _ io => io.cycle.recordFailure.isNone
  | _ => false

/-- The commands among the events of a step. -/
def Step.sent (step : Step) (events : List Event) : List Sent :=
  (commands events).map fun command ↦ ⟨command, events.any Event.isWrite && step.records⟩

/-! ## Lives of the process -/

/-- The world, and every command so far. -/
structure History where
  world : World
  sent : List Sent

inductive Move
  | begin (sched : Scheduler) (now : Time)
  | complete (step : Step)
  | cut (step : Step) (count : ℕ)

/-- The world of a process that has just started: the tables are what they were. -/
def World.restarted (world : World) (sched : Scheduler) (now : Time) : World :=
  { world with sched := sched, trace := world.trace ++ [.created now] }

def Move.apply (history : History) : Move → History
  | .begin sched now => { history with world := history.world.restarted sched now }
  | .complete step =>
    ⟨step.apply history.world, history.sent ++ step.sent (step.events history.world)⟩
  | .cut step count =>
    ⟨step.cut history.world count,
      history.sent ++ step.sent ((step.events history.world).take count)⟩

/-- One life of the process: the ticks it completes, and the tick it ends in, after `steps` of its
steps and `events` events of the next one. -/
structure Life where
  tickInterval : Duration
  startedAt : Time
  ticks : List TickIO
  last : TickIO
  steps : ℕ
  events : ℕ

/-- The steps that a life completes, and the step it ends in, from the world it started in. -/
def Life.steps? (started : World) (life : Life) : List Step × Option Step :=
  let last := tickSteps (life.ticks.foldl tick started) life.last
  (runSteps started life.ticks ++ last.take life.steps, last[life.steps]?)

/-- A process whose scheduler cannot be built ends before its first tick. -/
def Life.moves (world : World) (life : Life) : List Move :=
  match new life.tickInterval life.startedAt with
  | .error _ => []
  | .ok sched =>
    let steps := life.steps? (world.restarted sched life.startedAt)
    .begin sched life.startedAt ::
      (steps.1.map Move.complete ++ (steps.2.map fun step ↦ .cut step life.events).toList)

/-- A life of the process. -/
def Life.run (history : History) (life : Life) : History :=
  (life.moves history.world).foldl Move.apply history

/-- The lives of a process, one after the other. -/
def live (history : History) (lives : List Life) : History := lives.foldl Life.run history

/-- The lives of a process, each with the commands it sends. -/
def sentByLife (history : History) : List Life → List (Life × List Sent)
  | [] => []
  | life :: lives =>
    let after := life.run history
    (life, after.sent.drop history.sent.length) :: sentByLife after lives

/-- The searches of a life are written whenever it gets as far as that. -/
def Life.Writes (life : Life) : Prop :=
  ∀ io ∈ life.last :: life.ticks, ∀ instanceID, (io.turn instanceID).cycle.recordFailure = none

/-! ## What a step does, cut short or not -/

/-- What some events of a step did to the cooldowns, and which commands were among them. -/
inductive Effect (world : World) : List Event → Cooldown.Table → List Sent → Prop
  | silent {events : List Event} (h : commands events = []) : Effect world events world.cooldowns []
  | expired (now : Time) (failure : Option String) :
    Effect world [.expired now] (deleteExpired world.cooldowns cooldownRetention now failure).2 []
  | unrecorded {inst : Instance} {resolved : Validated} {cancelled : Bool} {io : CycleIO}
    {result : UpgradeResult} {coolingDown : List ℤ} {events : List Event}
    (hsends : Sends world.cooldowns inst resolved.1 cancelled io result coolingDown)
    (hsent : commands events = [sentCommand inst resolved.1 io result coolingDown])
    (hfilter : Monotone events → io.filterAt ≤ io.searchAt) :
    Effect world events world.cooldowns [⟨sentCommand inst resolved.1 io result coolingDown, false⟩]
  | recorded {inst : Instance} {resolved : Validated} {cancelled : Bool} {io : CycleIO}
    {result : UpgradeResult} {coolingDown : List ℤ} {events : List Event}
    (hsends : Sends world.cooldowns inst resolved.1 cancelled io result coolingDown)
    (hsent : commands events = [sentCommand inst resolved.1 io result coolingDown])
    (hfilter : Monotone events → io.filterAt ≤ io.searchAt ∧ io.searchAt ≤ io.recordAt) :
    Effect world events (recordSearches world.cooldowns inst.id
        (sentCommand inst resolved.1 io result coolingDown).itemIDs io.recordAt none).2
      [⟨sentCommand inst resolved.1 io result coolingDown, true⟩]

/-- A step's events, cut after `count`, have an effect. -/
def CutEffect (world : World) (step : Step) (after : World) (count : ℕ) : Prop :=
  let events := (after.trace.drop world.trace.length).take count
  Effect world events (if events.any Event.isWrite then after.cooldowns else world.cooldowns)
    (step.sent events)

section CutEffect

variable {world : World}

/-- A step that keeps the cooldowns and sends nothing. -/
theorem cutEffect_of_silent {after : World} {events : List Event} (step : Step) (count : ℕ)
    (htrace : after.trace = world.trace ++ events) (hsilent : commands events = [])
    (hcooldowns : after.cooldowns = world.cooldowns) : CutEffect world step after count := by
  have htaken : commands (events.take count) = [] := by
    have happend := commands_append (events.take count) (events.drop count)
    rw [List.take_append_drop, hsilent] at happend
    exact (List.append_eq_nil_iff.mp happend.symm).1
  unfold CutEffect
  dsimp only
  rw [htrace, List.drop_left, hcooldowns, ite_self]
  unfold Step.sent
  rw [htaken]
  exact .silent htaken

/-- The turn of a command: it is sent with the third event and recorded with the fourth. -/
theorem cutEffect_of_sends {now : Time} {inst : Instance} {resolved : Validated} {cancelled : Bool}
    {io : TurnIO} {result : UpgradeResult} {coolingDown : List ℤ}
    (hsends : Sends world.cooldowns inst resolved.1 cancelled io.cycle result coolingDown)
    {after : World} {entry : Entry} {cycle : Cycle} {command : Command}
    (hcommand : command = sentCommand inst resolved.1 io.cycle result coolingDown)
    (htrace : after.trace = world.trace ++ [.windowChecked inst.id io.windowAt,
      .filtered inst.id io.cycle.filterAt, .searched command,
      .recorded inst.id command.itemIDs io.cycle.recordAt, .logged entry, .cycled cycle])
    (hcooldowns : after.cooldowns = (recordSearches world.cooldowns inst.id command.itemIDs
      io.cycle.recordAt io.cycle.recordFailure).2) (count : ℕ) :
    CutEffect world (.turn now inst cancelled io) after count := by
  subst hcommand
  unfold CutEffect
  dsimp only
  rw [htrace, List.drop_left, hcooldowns]
  match count with
  | 0 => exact .silent rfl
  | 1 => exact .silent rfl
  | 2 => exact .silent rfl
  | 3 => exact .unrecorded hsends rfl fun hclock ↦ List.rel_of_pairwise_cons hclock.of_cons (.head _)
  | count + 4 =>
    have hturn (hclock : Monotone ([.windowChecked inst.id io.windowAt,
        .filtered inst.id io.cycle.filterAt,
        .searched (sentCommand inst resolved.1 io.cycle result coolingDown),
        .recorded inst.id (sentCommand inst resolved.1 io.cycle result coolingDown).itemIDs
          io.cycle.recordAt] ++ [.logged entry, .cycled cycle].take count)) :
        io.cycle.filterAt ≤ io.cycle.searchAt ∧ io.cycle.searchAt ≤ io.cycle.recordAt := by
      have htail := List.Pairwise.of_cons hclock.of_append
      exact ⟨List.rel_of_pairwise_cons htail (.head _),
        List.rel_of_pairwise_cons htail.of_cons (.head _)⟩
    have hsent : commands ([Event.windowChecked inst.id io.windowAt,
        .filtered inst.id io.cycle.filterAt,
        .searched (sentCommand inst resolved.1 io.cycle result coolingDown),
        .recorded inst.id (sentCommand inst resolved.1 io.cycle result coolingDown).itemIDs
          io.cycle.recordAt, .logged entry, .cycled cycle].take (count + 4)) =
        [sentCommand inst resolved.1 io.cycle result coolingDown] := by
      refine congrArg (_ :: ·) (List.filterMap_eq_nil_iff.mpr fun event hevent ↦ ?_)
      have hmem := List.mem_of_mem_take hevent
      simp only [List.mem_cons, List.not_mem_nil, or_false] at hmem
      rcases hmem with rfl | rfl | rfl <;> rfl
    unfold Step.sent
    rw [hsent]
    change Effect world _ (recordSearches world.cooldowns inst.id _ io.cycle.recordAt
      io.cycle.recordFailure).2 [⟨_, io.cycle.recordFailure.isNone⟩]
    cases io.cycle.recordFailure with
    | none => exact .recorded hsends hsent hturn
    | some err =>
      rw [recordSearches_error]
      exact .unrecorded hsends hsent fun hclock ↦ (hturn hclock).1

/-- Every step, cut short anywhere, has an effect. -/
theorem cutEffect_apply (step : Step) (count : ℕ) :
    CutEffect world step (step.apply world) count := by
  apply Step.apply_cases (motive := fun step after ↦ CutEffect world step after count)
  case started =>
    intro now
    obtain ⟨_, _, hstart⟩ := startTick_eq world now
    rw [hstart]
    exact cutEffect_of_silent _ count rfl rfl rfl
  case limited =>
    exact fun _ ↦ cutEffect_of_silent _ count (List.append_nil _).symm rfl rfl
  case removed =>
    exact fun _ ↦ cutEffect_of_silent _ count (List.append_nil _).symm rfl rfl
  case passed =>
    exact fun step events _ _ hsilent ↦
      cutEffect_of_silent step count rfl (commands_eq_nil hsilent) rfl
  case pruned =>
    intro now cancelled io
    unfold CutEffect
    dsimp only [World.append]
    rw [List.drop_left]
    match count with
    | 0 => exact .silent rfl
    | count + 1 =>
      rw [List.take_of_length_le (Nat.le_add_left 1 count)]
      exact .expired io.expireAt io.expireFailure
  case turned =>
    intro now inst cancelled io
    apply takeTurn_cases (motive := fun after ↦
      CutEffect world (.turn now inst cancelled io) after count)
    case idle => exact cutEffect_of_silent _ count (List.append_nil _).symm rfl rfl
    case disabled => exact cutEffect_of_silent _ count rfl rfl rfl
    case closed => exact fun _ _ ↦ cutEffect_of_silent _ count rfl rfl rfl
    case quiet =>
      intro resolved events totalItems _ hquiet
      refine cutEffect_of_silent _ count (List.append_assoc _ _ _) ?_ rfl
      rw [commands_append]
      exact congrArg (· ++ []) (commands_of_quiet hquiet)
    case sent =>
      intro resolved result coolingDown entry totalItems _ hsends _
      exact cutEffect_of_sends hsends rfl (turnTrace_sent ..) rfl count

theorem trace_append_events (step : Step) :
    (step.apply world).trace = world.trace ++ step.events world := by
  obtain ⟨events, htrace⟩ := step.apply_trace world
  unfold Step.events
  rw [htrace, List.drop_left]

/-- A step without the event of a write keeps the cooldowns. -/
theorem cooldowns_of_not_written (step : Step) :
    (step.events world).any Event.isWrite = false →
      (step.apply world).cooldowns = world.cooldowns := by
  unfold Step.events
  apply Step.apply_cases (motive := fun step after ↦
    (after.trace.drop world.trace.length).any Event.isWrite = false →
      after.cooldowns = world.cooldowns)
  case started =>
    intro now _
    obtain ⟨_, _, hstart⟩ := startTick_eq world now
    rw [hstart]
    rfl
  case limited => exact fun _ _ ↦ rfl
  case removed => exact fun _ _ ↦ rfl
  case passed => exact fun _ _ _ _ _ _ ↦ rfl
  case pruned =>
    intro now cancelled io hwritten
    rw [World.append, List.drop_left] at hwritten
    cases hwritten
  case turned =>
    intro now inst cancelled io
    apply takeTurn_cases (motive := fun after ↦
      (after.trace.drop world.trace.length).any Event.isWrite = false →
        after.cooldowns = world.cooldowns)
    case idle => exact fun _ ↦ rfl
    case disabled => exact fun _ ↦ rfl
    case closed => exact fun _ _ _ ↦ rfl
    case quiet => exact fun _ _ _ _ _ _ ↦ rfl
    case sent =>
      intro resolved result coolingDown entry totalItems _ _ _ hwritten
      rw [turnTrace_sent, List.drop_left] at hwritten
      cases hwritten

/-- A whole step has an effect. -/
theorem effect_apply (step : Step) :
    Effect world (step.events world) (step.apply world).cooldowns
      (step.sent (step.events world)) := by
  have hcut : CutEffect world step (step.apply world) (step.events world).length :=
    cutEffect_apply step _
  unfold CutEffect at hcut
  dsimp only at hcut
  rw [← Step.events, List.take_length] at hcut
  split at hcut
  case isTrue => exact hcut
  case isFalse hwritten =>
    rw [cooldowns_of_not_written step (Bool.not_eq_true _ ▸ hwritten)]
    exact hcut

/-- A step that is cut short sends at most one command. -/
theorem Effect.sent_length_le {events : List Event} {cooldowns : Cooldown.Table} {sent : List Sent}
    (h : Effect world events cooldowns sent) : sent.length ≤ 1 := by
  cases h with
  | silent | expired => exact Nat.zero_le 1
  | unrecorded | recorded => exact le_refl 1

/-- A turn that sends a command also reaches the write. -/
theorem written_of_command {now : Time} {inst : Instance} {cancelled : Bool} {io : TurnIO} :
    commands ((Step.turn now inst cancelled io).events world) ≠ [] →
      ((Step.turn now inst cancelled io).events world).any Event.isWrite = true := by
  unfold Step.events
  apply takeTurn_cases (motive := fun after ↦ commands (after.trace.drop world.trace.length) ≠ [] →
    (after.trace.drop world.trace.length).any Event.isWrite = true)
  case idle => exact fun hsent ↦ absurd (congrArg commands List.drop_length) hsent
  case disabled => exact fun hsent ↦ absurd (congrArg commands List.drop_left) hsent
  case closed => exact fun _ _ hsent ↦ absurd (congrArg commands List.drop_left) hsent
  case quiet =>
    intro resolved events totalItems _ hquiet hsent
    refine absurd ?_ hsent
    unfold afterCycle World.append
    rw [List.append_assoc, List.drop_left, commands_append]
    exact congrArg (· ++ []) (commands_of_quiet hquiet)
  case sent =>
    intro resolved result coolingDown entry totalItems _ _ _ _
    rw [turnTrace_sent, List.drop_left]
    rfl

/-- A whole step records what it sends, unless its write fails. -/
theorem recorded_of_complete {step : Step}
    (hrecord : ∀ now inst cancelled io, step = .turn now inst cancelled io →
      io.cycle.recordFailure = none) {sent : Sent} (hsent : sent ∈ step.sent (step.events world)) :
    sent.recorded = true := by
  obtain ⟨command, hcommand, rfl⟩ := List.mem_map.mp hsent
  cases hturn : step.turnOf with
  | none =>
    obtain ⟨events, htrace, hsilent⟩ := Step.apply_silent world hturn
    unfold Step.events at hcommand
    rw [htrace, List.drop_left, commands_eq_nil hsilent] at hcommand
    exact absurd hcommand List.not_mem_nil
  | some id =>
    cases step with
    | turn now inst cancelled io =>
      have hrecords : (Step.turn now inst cancelled io).records = true :=
        congrArg Option.isNone (hrecord now inst cancelled io rfl)
      rw [Bool.and_eq_true]
      exact ⟨written_of_command (List.ne_nil_of_mem hcommand), hrecords⟩
    | _ => cases hturn

end CutEffect

/-! ## The invariant -/

/-- Every command is apart from those that were recorded before it. -/
def SentApart (sent : List Sent) : Prop :=
  sent.Pairwise fun first second ↦ first.recorded = true → Apart first.command second.command

/-- The trace of the commands that were recorded keeps the cooldown invariant, although the others
are missing in it. -/
structure Guarded (history : History) (trace : List Event) : Prop where
  inv : CooldownInv { history.world with trace := trace }
  commands : commands trace = (history.sent.filter (·.recorded)).map (·.command)
  clock : ∀ time ∈ clock trace, time ∈ clock history.world.trace
  apart : SentApart history.sent
  sent : history.sent.map (·.command) = Scheduling.commands history.world.trace

namespace Guarded

variable {history : History} {trace : List Event}

/-- A new command is apart from those that were recorded. -/
theorem apart_append (h : Guarded history trace) {command : Command} (recorded : Bool)
    (hnew : ∀ earlier ∈ Scheduling.commands trace, Apart earlier command) :
    SentApart (history.sent ++ [⟨command, recorded⟩]) := by
  unfold SentApart
  rw [List.pairwise_append]
  refine ⟨h.apart, List.pairwise_singleton _ _, fun first hfirst second hsecond hrecorded ↦ ?_⟩
  rw [List.mem_singleton.mp hsecond]
  apply hnew
  rw [h.commands]
  exact List.mem_map_of_mem (List.mem_filter.mpr ⟨hfirst, hrecorded⟩)

/-- An effect keeps the invariant. -/
theorem effect (h : Guarded history trace) {events : List Event} {cooldowns : Cooldown.Table}
    {sent : List Sent} (heffect : Effect history.world events cooldowns sent) {after : World}
    (htrace : after.trace = history.world.trace ++ events) (hcooldowns : after.cooldowns = cooldowns)
    (hclock : Monotone after.trace) :
    ∃ trace, Guarded ⟨after, history.sent ++ sent⟩ trace := by
  rw [htrace] at hclock
  have hevents : Monotone events := by
    unfold Monotone at hclock ⊢
    rw [clock_append] at hclock
    exact (List.pairwise_append.mp hclock).2.1
  have hclocks : ∀ time ∈ Scheduling.clock (trace ++ events), time ∈ Scheduling.clock after.trace := by
    intro time htime
    rw [clock_append, List.mem_append] at htime
    rw [htrace, clock_append, List.mem_append]
    exact htime.imp_left (h.clock time)
  have hsent (sent : List Sent) (hsent : Scheduling.commands events = sent.map (·.command)) :
      (history.sent ++ sent).map (·.command) = Scheduling.commands after.trace := by
    rw [List.map_append, h.sent, htrace, commands_append, hsent]
  have hnew {command : Command} (hcommand : Scheduling.commands events = [command]) :
      ∀ time ∈ Scheduling.clock trace, time ≤ command.sentAt := by
    intro time htime
    refine hclock.le (h.clock time htime) (sentAt_mem_clock ?_)
    rw [hcommand]
    exact List.mem_singleton_self _
  cases heffect with
  | silent hsilent =>
    refine ⟨trace ++ events, ?_, ?_, hclocks, ?_, hsent [] hsilent⟩
    · exact h.inv.frame hsilent rfl hcooldowns
    · rw [commands_append, hsilent, h.commands, List.append_nil, List.append_nil]
    · rw [List.append_nil]
      exact h.apart
  | expired now failure =>
    refine ⟨trace ++ [.expired now], ?_, ?_, hclocks, ?_, hsent [] rfl⟩
    · exact (h.inv.prune now now failure).frame rfl (List.append_nil _).symm hcooldowns
    · rw [commands_append, h.commands, List.append_nil]
      exact List.append_nil _
    · rw [List.append_nil]
      exact h.apart
  | @unrecorded inst resolved cancelled io result coolingDown _ hsends hcommand hfilter =>
    refine ⟨trace, ?_, ?_, ?_, ?_, hsent _ hcommand⟩
    · exact h.inv.frame rfl (List.append_nil _).symm hcooldowns
    · rw [List.filter_append, h.commands]
      exact (congrArg _ (List.append_nil _)).symm
    · exact fun time htime ↦ hclocks time (by rw [clock_append]; exact List.mem_append_left _ htime)
    · exact h.apart_append _ fun earlier hearlier ↦
        h.inv.apart_of_sends hsends (hfilter hevents) (hnew hcommand) hearlier
  | @recorded inst resolved cancelled io result coolingDown _ hsends hcommand hfilter =>
    refine ⟨trace ++ events, ?_, ?_, hclocks, ?_, hsent _ hcommand⟩
    · exact h.inv.send hsends rfl hcommand hcooldowns (hnew hcommand) (hfilter hevents).1
        (hfilter hevents).2
    · rw [commands_append, h.commands, hcommand, List.filter_append, List.map_append]
      rfl
    · exact h.apart_append _ fun earlier hearlier ↦
        h.inv.apart_of_sends hsends (hfilter hevents).1 (hnew hcommand) hearlier

/-- A move that leaves the clock monotone keeps the invariant. -/
theorem move (h : Guarded history trace) (move : Move)
    (hclock : Monotone (move.apply history).world.trace) :
    ∃ trace, Guarded (move.apply history) trace := by
  cases move with
  | begin sched now =>
    have hstarted : ∃ trace, Guarded ⟨history.world.restarted sched now, history.sent ++ []⟩ trace :=
      h.effect (.silent rfl) rfl rfl hclock
    rwa [List.append_nil] at hstarted
  | complete step =>
    exact h.effect (effect_apply step) (trace_append_events step) rfl hclock
  | cut step count =>
    exact h.effect (cutEffect_apply step count) rfl rfl hclock

end Guarded

/-! ## Runs -/

theorem Move.apply_trace (history : History) (move : Move) :
    ∃ events, (move.apply history).world.trace = history.world.trace ++ events := by
  cases move with
  | begin sched now => exact ⟨_, rfl⟩
  | complete step => exact step.apply_trace history.world
  | cut step count => exact ⟨_, rfl⟩

theorem foldl_moves_trace (moves : List Move) (history : History) :
    ∃ events, (moves.foldl Move.apply history).world.trace = history.world.trace ++ events := by
  induction moves generalizing history with
  | nil => exact ⟨[], (List.append_nil _).symm⟩
  | cons move moves ih =>
    obtain ⟨first, hfirst⟩ := move.apply_trace history
    obtain ⟨rest, hrest⟩ := ih (move.apply history)
    exact ⟨first ++ rest, by rw [List.foldl_cons, hrest, hfirst, List.append_assoc]⟩

/-- A run of moves whose clock never goes back keeps the invariant. -/
theorem Guarded.foldl {moves : List Move} {history : History} {trace : List Event}
    (h : Guarded history trace)
    (hclock : Monotone (moves.foldl Move.apply history).world.trace) :
    ∃ trace, Guarded (moves.foldl Move.apply history) trace := by
  induction moves generalizing history trace with
  | nil => exact ⟨trace, h⟩
  | cons move moves ih =>
    rw [List.foldl_cons] at hclock ⊢
    obtain ⟨rest, hrest⟩ := foldl_moves_trace moves (move.apply history)
    obtain ⟨_, hmove⟩ := h.move move (Monotone.of_append (hrest ▸ hclock))
    exact ih hmove hclock

/-- The lives of a process are one run of moves. -/
theorem live_eq_foldl (lives : List Life) (history : History) :
    ∃ moves : List Move, live history lives = moves.foldl Move.apply history := by
  induction lives generalizing history with
  | nil => exact ⟨[], rfl⟩
  | cons life lives ih =>
    obtain ⟨moves, hmoves⟩ := ih (life.run history)
    refine ⟨life.moves history.world ++ moves, ?_⟩
    rw [List.foldl_append]
    exact hmoves

/-! ## Commands that were not recorded -/

/-- The commands whose searches were not recorded. -/
def lost (sent : List Sent) : List Sent := sent.filter fun entry ↦ !entry.recorded

theorem lost_append (first second : List Sent) : lost (first ++ second) = lost first ++ lost second :=
  List.filter_append ..

/-- Steps whose writes succeed lose nothing. -/
theorem lost_foldl_complete {steps : List Step} (hrecord : ∀ step ∈ steps,
    ∀ now inst cancelled io, step = .turn now inst cancelled io → io.cycle.recordFailure = none)
    (history : History) :
    lost ((steps.map Move.complete).foldl Move.apply history).sent = lost history.sent := by
  induction steps generalizing history with
  | nil => rfl
  | cons step steps ih =>
    obtain ⟨hstep, hsteps⟩ := List.forall_mem_cons.mp hrecord
    rw [List.map_cons, List.foldl_cons, ih hsteps]
    refine (lost_append _ _).trans ?_
    have hnone : lost (step.sent (step.events history.world)) = [] := by
      apply List.filter_eq_nil_iff.mpr
      intro sent hsent
      rw [recorded_of_complete hstep hsent]
      exact Bool.false_ne_true
    rw [hnone, List.append_nil]

/-- The steps of a life are steps of its ticks. -/
theorem Life.steps_of {started : World} {life : Life} {step : Step}
    (hstep : step ∈ (life.steps? started).1) : ∃ io ∈ life.last :: life.ticks, step.Of io := by
  cases List.mem_append.mp hstep with
  | inl hcompleted =>
    obtain ⟨io, hio, hof⟩ := runSteps_of hcompleted
    exact ⟨io, List.mem_cons_of_mem _ hio, hof⟩
  | inr hlast => exact ⟨life.last, List.mem_cons_self, tickSteps_of (List.mem_of_mem_take hlast)⟩

/-- A life whose writes succeed loses at most the command it ends in. -/
theorem lost_life {life : Life} (hwrites : life.Writes) (history : History) :
    (lost (life.run history).sent).length ≤ (lost history.sent).length + 1 := by
  unfold Life.run Life.moves
  cases new life.tickInterval life.startedAt with
  | error err => exact Nat.le_succ _
  | ok sched =>
    dsimp only
    have hrecords : ∀ step ∈ (life.steps? (history.world.restarted sched life.startedAt)).1,
        ∀ now inst cancelled io, step = .turn now inst cancelled io →
          io.cycle.recordFailure = none := by
      intro step hstep now inst cancelled turn hturn
      obtain ⟨io, hio, hof⟩ := Life.steps_of hstep
      rw [hturn] at hof
      obtain ⟨-, rfl, -⟩ := hof
      exact hwrites io hio inst.id
    rw [List.foldl_cons, List.foldl_append]
    have hcompleted := lost_foldl_complete hrecords
      (Move.apply history (.begin sched life.startedAt))
    cases (life.steps? (history.world.restarted sched life.startedAt)).2 with
    | none =>
      refine (congrArg List.length hcompleted).le.trans ?_
      exact Nat.le_succ _
    | some step =>
      refine (congrArg List.length (lost_append _ _)).le.trans ?_
      rw [List.length_append, hcompleted]
      refine Nat.add_le_add_left ((List.length_filter_le _ _).trans ?_) _
      exact (cutEffect_apply step life.events).sent_length_le

/-- Moves add to what was sent. -/
theorem sent_foldl (moves : List Move) (history : History) :
    ∃ sent, (moves.foldl Move.apply history).sent = history.sent ++ sent := by
  induction moves generalizing history with
  | nil => exact ⟨[], (List.append_nil _).symm⟩
  | cons move moves ih =>
    have hmove : ∃ sent, (move.apply history).sent = history.sent ++ sent := by
      cases move with
      | begin sched now => exact ⟨[], (List.append_nil _).symm⟩
      | complete step => exact ⟨_, rfl⟩
      | cut step count => exact ⟨_, rfl⟩
    obtain ⟨first, hfirst⟩ := hmove
    obtain ⟨rest, hrest⟩ := ih (move.apply history)
    exact ⟨first ++ rest, by rw [List.foldl_cons, hrest, hfirst, List.append_assoc]⟩

/-- What a life sends comes after what was sent before. -/
theorem Life.sent_run (history : History) (life : Life) :
    (life.run history).sent =
      history.sent ++ (life.run history).sent.drop history.sent.length := by
  obtain ⟨sent, hsent⟩ := sent_foldl (life.moves history.world) history
  unfold Life.run
  rw [hsent, List.drop_left]

/-- All commands are those of the lives, and a life whose writes succeed leaves at most one of its own
unrecorded. -/
theorem sentByLife_spec (history : History) (lives : List Life) :
    (live history lives).sent = history.sent ++ (sentByLife history lives).flatMap (·.2) ∧
      ∀ entry ∈ sentByLife history lives, entry.1.Writes → (lost entry.2).length ≤ 1 := by
  induction lives generalizing history with
  | nil => exact ⟨(List.append_nil _).symm, fun entry hentry ↦ absurd hentry List.not_mem_nil⟩
  | cons life lives ih =>
    obtain ⟨hsent, hlost⟩ := ih (life.run history)
    unfold sentByLife
    constructor
    · calc (live (life.run history) lives).sent
          = (life.run history).sent ++ (sentByLife (life.run history) lives).flatMap (·.2) := hsent
        _ = _ := by rw [Life.sent_run, List.append_assoc, List.flatMap_cons]
    · refine List.forall_mem_cons.mpr ⟨fun hwrites ↦ ?_, hlost⟩
      have hlife := lost_life hwrites history
      rw [Life.sent_run, lost_append, List.length_append] at hlife
      exact Nat.le_of_add_le_add_left hlife

end Huntarr2.Scheduling
