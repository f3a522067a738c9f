import Huntarr2.Scheduler.Steps

/-!
# What a step can do

Case principles for a search cycle and for an instance's turn: the few ways in which they can end,
each with the world afterwards. Every invariant of the scheduler is proved from these cases, and the
frame lemmas for the other steps say what these leave alone.
-/

namespace Huntarr2.Scheduling

open Activity Arr Cooldown GoStd Settings

/-! ## Traces -/

/-- The world after some events that change nothing else. -/
def World.append (world : World) (events : List Event) : World :=
  { world with trace := world.trace ++ events }

theorem World.append_nil (world : World) : world.append [] = world := by
  unfold World.append
  rw [List.append_nil]

theorem World.append_append (world : World) (first second : List Event) :
    (world.append first).append second = world.append (first ++ second) := by
  unfold World.append
  rw [List.append_assoc]

@[simp]
theorem clock_append (first second : List Event) :
    clock (first ++ second) = clock first ++ clock second := List.filterMap_append

@[simp]
theorem commands_append (first second : List Event) :
    commands (first ++ second) = commands first ++ commands second := List.filterMap_append

@[simp]
theorem cycles_append (first second : List Event) :
    cycles (first ++ second) = cycles first ++ cycles second := List.filterMap_append

theorem mem_commands {trace : List Event} {command : Command} :
    command ∈ commands trace ↔ .searched command ∈ trace := by
  unfold commands
  rw [List.mem_filterMap]
  constructor
  · rintro ⟨event, hmem, hevent⟩
    cases event <;> simp_all [Event.command?]
  · exact fun hmem ↦ ⟨_, hmem, rfl⟩

theorem mem_cycles {trace : List Event} {cycle : Cycle} :
    cycle ∈ cycles trace ↔ .cycled cycle ∈ trace := by
  unfold cycles
  rw [List.mem_filterMap]
  constructor
  · rintro ⟨event, hmem, hevent⟩
    cases event <;> simp_all [Event.cycle?]
  · exact fun hmem ↦ ⟨_, hmem, rfl⟩

/-- An event that shows no decision of a turn: no command, no end of a cycle, no disabled instance. -/
def Event.Silent : Event → Prop
  | .searched _ | .cycled _ | .disabled _ => False
  | _ => True

/-- An instance's own event that changes no table. -/
def Event.Quiet (instanceID : UUID) : Event → Prop
  | .filtered id _ => id = instanceID
  | .logged entry => entry.instanceID = some instanceID
  | _ => False

theorem Event.Quiet.silent {instanceID : UUID} {event : Event} (h : event.Quiet instanceID) :
    event.Silent := by
  cases event <;> trivial

theorem commands_eq_nil {events : List Event} (h : ∀ event ∈ events, event.Silent) :
    commands events = [] := by
  apply List.filterMap_eq_nil_iff.mpr
  intro event hevent
  cases event <;> first | rfl | exact (h _ hevent).elim

theorem commands_of_quiet {instanceID : UUID} {events : List Event}
    (h : ∀ event ∈ events, event.Quiet instanceID) : commands events = [] :=
  commands_eq_nil fun event hevent ↦ (h event hevent).silent

theorem commands_append_quiet (world : World) {instanceID : UUID} {events : List Event}
    (h : ∀ event ∈ events, event.Quiet instanceID) :
    commands (world.append events).trace = commands world.trace := by
  unfold World.append
  rw [commands_append, commands_of_quiet h, List.append_nil]

theorem cycles_eq_nil {events : List Event} (h : ∀ event ∈ events, event.Silent) :
    cycles events = [] := by
  apply List.filterMap_eq_nil_iff.mpr
  intro event hevent
  cases event <;> first | rfl | exact (h _ hevent).elim

/-! ## A search cycle -/

/-- The IDs of the candidates of a fetch. -/
def candidateIDs (result : UpgradeResult) (resolved : Resolved) : List ℤ :=
  (candidates result resolved.searchMissing).map (·.id)

/-- The cycle gets as far as a search command, and the instance accepts it. -/
structure Sends (cooldowns : Cooldown.Table) (inst : Instance) (resolved : Resolved)
    (cancelled : Bool) (io : CycleIO) (result : UpgradeResult) (coolingDown : List ℤ) : Prop where
  live : cancelled = false
  fetched : io.upgradeable = .ok result
  filtered : filterCoolingDown cooldowns inst.id (candidateIDs result resolved)
    resolved.cooldownPeriod io.filterAt io.filterFailure = .ok coolingDown
  left : excludeIDs (candidateIDs result resolved) coolingDown ≠ []
  accepted : io.searchFailure = none

instance (cooldowns : Cooldown.Table) (inst : Instance) (resolved : Resolved) (cancelled : Bool)
    (io : CycleIO) (result : UpgradeResult) (coolingDown : List ℤ) :
    Decidable (Sends cooldowns inst resolved cancelled io result coolingDown) :=
  decidable_of_iff
    (cancelled = false ∧ io.upgradeable = .ok result ∧
      filterCoolingDown cooldowns inst.id (candidateIDs result resolved) resolved.cooldownPeriod
        io.filterAt io.filterFailure = .ok coolingDown ∧
      excludeIDs (candidateIDs result resolved) coolingDown ≠ [] ∧ io.searchFailure = none)
    ⟨fun ⟨hlive, hfetched, hfiltered, hleft, haccepted⟩ ↦
        ⟨hlive, hfetched, hfiltered, hleft, haccepted⟩,
      fun h ↦ ⟨h.live, h.fetched, h.filtered, h.left, h.accepted⟩⟩

/-- The command of a cycle that sends one. -/
def sentCommand (inst : Instance) (resolved : Resolved) (io : CycleIO) (result : UpgradeResult)
    (coolingDown : List ℤ) : Command :=
  { instanceID := inst.id
    itemIDs := selectBatch (candidateIDs result resolved) coolingDown resolved.batchSize
    sentAt := io.searchAt
    cooldown := resolved.cooldownPeriod }

theorem mem_selectBatch {itemIDs coolingDown : List ℤ} {batchSize itemID : ℤ}
    (h : itemID ∈ selectBatch itemIDs coolingDown batchSize) :
    itemID ∈ itemIDs ∧ itemID ∉ coolingDown := by
  apply mem_excludeIDs.mp
  unfold selectBatch at h
  dsimp only at h
  split at h
  · exact List.mem_of_mem_take h
  · exact h

theorem selectBatch_eq_take (itemIDs coolingDown : List ℤ) {batchSize : ℤ} (hbatch : 0 ≤ batchSize) :
    selectBatch itemIDs coolingDown batchSize =
      (excludeIDs itemIDs coolingDown).take batchSize.toNat := by
  unfold selectBatch
  dsimp only
  split
  case isTrue => rfl
  case isFalse hshort => exact (List.take_of_length_le (by omega)).symm

/-- The world after a command: its items are recorded, if the database takes the write. -/
def afterCommand (world : World) (inst : Instance) (io : CycleIO) (command : Command)
    (entry : Entry) : World :=
  { world.append [.filtered inst.id io.filterAt, .searched command,
      .recorded inst.id command.itemIDs io.recordAt, .logged entry] with
    cooldowns := (recordSearches world.cooldowns inst.id command.itemIDs io.recordAt
      io.recordFailure).2 }

@[simp]
theorem commands_afterCommand (world : World) (inst : Instance) (io : CycleIO) (command : Command)
    (entry : Entry) : commands (afterCommand world inst io command entry).trace =
      commands world.trace ++ [command] := commands_append _ _

/-- A cycle sends nothing and leaves only events of its instance, or it sends one command. -/
theorem runInstanceCycle_cases {motive : World × ℕ × ℕ → Prop} (world : World) (inst : Instance)
    (resolved : Resolved) (cancelled : Bool) (io : CycleIO)
    (quiet : ∀ events totalItems, (∀ event ∈ events, event.Quiet inst.id) →
      motive (world.append events, 0, totalItems))
    (sent : ∀ result coolingDown entry totalItems,
      Sends world.cooldowns inst resolved cancelled io result coolingDown →
      entry.instanceID = some inst.id →
      motive (afterCommand world inst io (sentCommand inst resolved io result coolingDown) entry,
        (sentCommand inst resolved io result coolingDown).itemIDs.length, totalItems)) :
    motive (runInstanceCycle world inst resolved cancelled io) := by
  unfold runInstanceCycle
  split
  case isTrue =>
    rw [← world.append_nil]
    exact quiet [] 0 (fun event hevent ↦ absurd hevent List.not_mem_nil)
  case isFalse hlive =>
    split
    case h_1 err hfetched =>
      exact quiet [.logged (fetchFailedEntry inst err)] 0 (List.forall_mem_singleton.mpr rfl)
    case h_2 result hfetched =>
      dsimp only
      split
      case isTrue =>
        exact quiet [.logged (noItemsEntry inst result.stats resolved.searchMissing)] 0
          (List.forall_mem_singleton.mpr rfl)
      case isFalse =>
        have hfilter (entry : Entry) (hentry : entry.instanceID = some inst.id) (totalItems : ℕ) :
            motive ((world.emit (.filtered inst.id io.filterAt)).log entry, 0, totalItems) := by
          have hevents : (world.emit (.filtered inst.id io.filterAt)).log entry =
              world.append [.filtered inst.id io.filterAt, .logged entry] :=
            World.append_append world [_] [_]
          rw [hevents]
          exact quiet _ totalItems
            (List.forall_mem_cons.mpr ⟨rfl, List.forall_mem_singleton.mpr hentry⟩)
        split
        case h_1 =>
          exact quiet [.filtered inst.id io.filterAt] _ (List.forall_mem_singleton.mpr rfl)
        case h_2 coolingDown hfiltered =>
          split
          case isTrue => exact hfilter _ rfl _
          case isFalse hleft =>
            split
            case h_1 err haccepted => exact hfilter _ rfl _
            case h_2 haccepted =>
              have hsends : Sends world.cooldowns inst resolved cancelled io result coolingDown :=
                { live := by simpa using hlive
                  fetched := hfetched
                  filtered := hfiltered
                  left := fun hempty ↦ hleft (List.isEmpty_iff.mpr hempty)
                  accepted := haccepted }
              have hsent := fun entry hentry ↦ sent result coolingDown entry
                (candidates result resolved.searchMissing).length hsends hentry
              simp only [afterCommand, World.append, sentCommand, candidateIDs] at hsent
              simp only [World.log, World.emit, List.append_assoc, List.cons_append, List.nil_append]
              exact hsent _ rfl

/-- A cycle that gets as far as a command sends exactly this one. -/
theorem runInstanceCycle_of_sends {world : World} {inst : Instance} {resolved : Resolved}
    {cancelled : Bool} {io : CycleIO} {result : UpgradeResult} {coolingDown : List ℤ}
    (h : Sends world.cooldowns inst resolved cancelled io result coolingDown) :
    ∃ entry totalItems, runInstanceCycle world inst resolved cancelled io =
      (afterCommand world inst io (sentCommand inst resolved io result coolingDown) entry,
        (sentCommand inst resolved io result coolingDown).itemIDs.length, totalItems) := by
  have hitems : (candidates result resolved.searchMissing).length ≠ 0 := by
    intro hnone
    apply h.left
    unfold candidateIDs
    rw [List.length_eq_zero_iff.mp hnone]
    rfl
  have hleft : ¬(excludeIDs (candidateIDs result resolved) coolingDown).isEmpty = true :=
    fun hempty ↦ h.left (List.isEmpty_iff.mp hempty)
  have hfiltered := h.filtered
  unfold candidateIDs at hfiltered hleft
  unfold runInstanceCycle
  rw [if_neg (by simp [h.live]), h.fetched]
  dsimp only [World.emit]
  rw [if_neg hitems, hfiltered]
  dsimp only
  rw [if_neg hleft, h.accepted]
  simp only [World.log, World.emit, List.append_assoc, afterCommand, World.append]
  exact ⟨_, _, rfl⟩

/-! ## An instance's turn -/

/-- The turn gets as far as a search cycle. -/
structure Reaches (world : World) (now : Time) (inst : Instance) (io : TurnIO)
    (resolved : Validated) : Prop where
  settings : io.settings = .ok resolved
  enabled : resolved.1.enabled = true
  due : ∀ sched ∈ world.sched.schedules.lookup inst.id, sched.nextSearchAt ≤ now
  inWindow : inSearchWindow world.zone resolved.1.searchWindowStart resolved.1.searchWindowEnd
    io.windowAt = true

instance (world : World) (now : Time) (inst : Instance) (io : TurnIO) (resolved : Validated) :
    Decidable (Reaches world now inst io resolved) :=
  decidable_of_iff
    (io.settings = .ok resolved ∧ resolved.1.enabled = true ∧
      (∀ sched ∈ world.sched.schedules.lookup inst.id, sched.nextSearchAt ≤ now) ∧
      inSearchWindow world.zone resolved.1.searchWindowStart resolved.1.searchWindowEnd
        io.windowAt = true)
    ⟨fun ⟨hsettings, henabled, hdue, hwindow⟩ ↦ ⟨hsettings, henabled, hdue, hwindow⟩,
      fun h ↦ ⟨h.settings, h.enabled, h.due, h.inWindow⟩⟩

/-- The world after a turn that finds the instance disabled. -/
def afterDisabled (world : World) (inst : Instance) : World :=
  (world.setSchedule (newInstanceSchedule inst.id inst.name zeroTime false 0)).append
    [.disabled inst.id]

/-- The end of a turn's search cycle. -/
def endedCycle (now : Time) (inst : Instance) (resolved : Resolved) (previous : Duration)
    (totalItems : ℕ) (cycleEnd : Time) : Cycle where
  instanceID := inst.id
  tickStart := now
  base := resolved.searchInterval
  previous := previous
  totalItems := totalItems
  batchSize := resolved.batchSize
  endedAt := cycleEnd
  interval := computeNextInterval resolved.searchInterval previous totalItems resolved.batchSize

/-- The world after a turn with a search cycle, from the world after the cycle. -/
def afterCycle (world : World) (inst : Instance) (cycle : Cycle) (searched : ℕ) : World :=
  { world with
    sched := { world.sched with
      schedules := world.sched.schedules.insert inst.id
        (newInstanceSchedule inst.id inst.name (cycle.endedAt + cycle.interval) true cycle.interval)
      searchCount := world.sched.searchCount + searched }
    trace := world.trace ++ [.cycled cycle] }

theorem lookup_afterCycle (world : World) (inst : Instance) (cycle : Cycle) (searched : ℕ) :
    (afterCycle world inst cycle searched).sched.schedules.lookup inst.id = some
      (newInstanceSchedule inst.id inst.name (cycle.endedAt + cycle.interval) true cycle.interval) :=
  AList.lookup_insert _

/-- The interval a turn computes the next one from. -/
def World.previousInterval (world : World) (inst : Instance) (resolved : Resolved) : Duration :=
  Scheduling.previousInterval resolved (world.sched.schedules.lookup inst.id)

/-- The cycle of a turn that has the given settings. -/
def World.turnCycle (world : World) (now : Time) (inst : Instance) (resolved : Resolved)
    (totalItems : ℕ) (cycleEnd : Time) : Cycle :=
  endedCycle now inst resolved (world.previousInterval inst resolved) totalItems cycleEnd

theorem turnTrace_sent (world : World) (inst : Instance) (io : TurnIO) (command : Command)
    (entry : Entry) (cycle : Cycle) (searched : ℕ) :
    (afterCycle (afterCommand (world.append [.windowChecked inst.id io.windowAt]) inst io.cycle
      command entry) inst cycle searched).trace =
    world.trace ++ [.windowChecked inst.id io.windowAt, .filtered inst.id io.cycle.filterAt,
      .searched command, .recorded inst.id command.itemIDs io.cycle.recordAt, .logged entry,
      .cycled cycle] := by
  simp [afterCycle, afterCommand, World.append]

/-- A turn leaves the world alone, finds the instance disabled or its window closed, or runs a cycle
that sends nothing or one command. -/
theorem takeTurn_cases {motive : World → Prop} (world : World) (now : Time) (inst : Instance)
    (cancelled : Bool) (io : TurnIO)
    (idle : motive world)
    (disabled : motive (afterDisabled world inst))
    (closed : ∀ entry, entry.instanceID = some inst.id →
      motive (world.append [.windowChecked inst.id io.windowAt, .logged entry]))
    (quiet : ∀ resolved events totalItems, Reaches world now inst io resolved →
      (∀ event ∈ events, event.Quiet inst.id) →
      motive (afterCycle (world.append (.windowChecked inst.id io.windowAt :: events)) inst
        (world.turnCycle now inst resolved.1 totalItems io.cycleEnd) 0))
    (sent : ∀ resolved result coolingDown entry totalItems, Reaches world now inst io resolved →
      Sends world.cooldowns inst resolved.1 cancelled io.cycle result coolingDown →
      entry.instanceID = some inst.id →
      motive (afterCycle (afterCommand (world.append [.windowChecked inst.id io.windowAt]) inst
        io.cycle (sentCommand inst resolved.1 io.cycle result coolingDown) entry) inst
        (world.turnCycle now inst resolved.1 totalItems io.cycleEnd)
        (sentCommand inst resolved.1 io.cycle result coolingDown).itemIDs.length)) :
    motive (takeTurn world now inst cancelled io) := by
  unfold takeTurn
  split
  case h_1 => exact idle
  case h_2 resolved hvalid hsettings =>
    split
    case isTrue => exact disabled
    case isFalse henabled =>
      dsimp only
      split
      case isTrue => exact idle
      case isFalse hdue =>
        split
        case isTrue hwindow =>
          have hevents : (world.emit (.windowChecked inst.id io.windowAt)).log
              (outsideWindowEntry inst resolved) = world.append [.windowChecked inst.id io.windowAt,
                .logged (outsideWindowEntry inst resolved)] := World.append_append world [_] [_]
          rw [hevents]
          exact closed _ rfl
        case isFalse hwindow =>
          have hreaches : Reaches world now inst io ⟨resolved, hvalid⟩ :=
            { settings := hsettings
              enabled := by simpa using henabled
              due := fun sched hsched ↦ by
                rw [hsched] at hdue
                simpa using hdue
              inWindow := by simpa [World.emit] using hwindow }
          refine runInstanceCycle_cases (motive := fun out ↦ motive (finishTurn out.1 now inst resolved
            (world.sched.schedules.lookup inst.id) out.2.1 out.2.2 io.cycleEnd)) _ _ _ _ _ ?_ ?_
          · intro events totalItems hquiet
            have hmotive := quiet ⟨resolved, hvalid⟩ events totalItems hreaches hquiet
            have hevents : (world.emit (.windowChecked inst.id io.windowAt)).append events =
                world.append (.windowChecked inst.id io.windowAt :: events) :=
              World.append_append world [_] events
            rw [← hevents] at hmotive
            exact hmotive
          · intro result coolingDown entry totalItems hsends hentry
            exact sent ⟨resolved, hvalid⟩ result coolingDown entry totalItems hreaches hsends hentry

/-! ## A history poll -/

theorem foldl_log {α : Type*} (entry : α → Entry) (records : List α) (world : World) :
    records.foldl (fun world record ↦ world.log (entry record)) world =
      world.append (records.map fun record ↦ .logged (entry record)) := by
  induction records generalizing world with
  | nil => exact world.append_nil.symm
  | cons record records ih =>
    rw [List.foldl_cons, ih]
    exact World.append_append world [_] _

/-- The clock reading of a poll without a recorded predecessor. -/
def startEvents (inst : Instance) (io : PollIO) (last : Time) : List Event :=
  if last = zeroTime then [.pollStarted inst.id io.startedAt] else []

/-- The events of a completed poll that logs the given records. -/
def pollEvents (inst : Instance) (io : PollIO) (last : Time) (records : List HistoryRecord) :
    List Event :=
  startEvents inst io last ++ records.map (fun record ↦ .logged (importEntry inst record)) ++
    [.pollRecorded inst.id io.recordAt]

/-- A poll stops before or after the fetch, or it logs what it fetched and records its time. -/
theorem pollInstanceHistory_cases {motive : World → Prop} (world : World) (inst : Instance)
    (io : PollIO)
    (unread : ∀ err, lastPolled world.polls inst.id io.lastPolledFailure = .error err → motive world)
    (unfetched : ∀ last err,
      lastPolled world.polls inst.id io.lastPolledFailure = .ok last →
      io.history (if last = zeroTime then io.startedAt - firstPollLookback else last) = .error err →
      motive (world.append (startEvents inst io last)))
    (polled : ∀ last records,
      lastPolled world.polls inst.id io.lastPolledFailure = .ok last →
      io.history (if last = zeroTime then io.startedAt - firstPollLookback else last) = .ok records →
      motive { world.append (pollEvents inst io last records) with
        polls := (recordPoll world.polls world.zone inst.id io.recordAt io.recordFailure).2 }) :
    motive (pollInstanceHistory world inst io) := by
  unfold pollInstanceHistory
  split
  case h_1 err hlast => exact unread err hlast
  case h_2 last hlast =>
    have hstarted : (if last = zeroTime then world.emit (.pollStarted inst.id io.startedAt)
        else world) = world.append (startEvents inst io last) := by
      unfold startEvents
      split
      · rfl
      · exact world.append_nil.symm
    dsimp only
    rw [hstarted]
    split
    case h_1 err hfetch => exact unfetched last err hlast hfetch
    case h_2 records hrecords =>
      have hpolled := polled last records hlast hrecords
      unfold pollEvents at hpolled
      rw [← World.append_append, ← World.append_append] at hpolled
      rw [foldl_log]
      exact hpolled

theorem startEvents_silent {inst : Instance} {io : PollIO} {last : Time} :
    ∀ event ∈ startEvents inst io last, event.Silent := by
  unfold startEvents
  split
  · exact List.forall_mem_singleton.mpr trivial
  · exact fun event hevent ↦ absurd hevent List.not_mem_nil

theorem pollEvents_silent {inst : Instance} {io : PollIO} {last : Time}
    {records : List HistoryRecord} : ∀ event ∈ pollEvents inst io last records, event.Silent := by
  intro event hevent
  unfold pollEvents at hevent
  rw [List.mem_append, List.mem_append, List.mem_map, List.mem_singleton] at hevent
  rcases hevent with (hevent | ⟨record, _, rfl⟩) | rfl
  · exact startEvents_silent event hevent
  · trivial
  · trivial

/-- A poll sends nothing and ends no search cycle, and it touches only the poll timestamps. -/
theorem pollInstanceHistory_eq (world : World) (inst : Instance) (io : PollIO) :
    ∃ events polls, (∀ event ∈ events, event.Silent) ∧
      pollInstanceHistory world inst io = { world.append events with polls := polls } := by
  apply pollInstanceHistory_cases (motive := fun after ↦ ∃ events polls,
    (∀ event ∈ events, Event.Silent event) ∧ after = { world.append events with polls := polls })
  case unread =>
    exact fun _ _ ↦ ⟨[], world.polls, fun event hevent ↦ absurd hevent List.not_mem_nil,
      by rw [World.append_nil]⟩
  case unfetched => exact fun _ _ _ _ ↦ ⟨_, world.polls, startEvents_silent, rfl⟩
  case polled => exact fun last records _ _ ↦ ⟨_, _, pollEvents_silent, rfl⟩

/-! ## Pruning -/

theorem pruneActivityLog_cases {motive : World → Prop} (world : World) (now : Time)
    (cancelled : Bool) (io : PruneIO)
    (idle : motive world)
    (pruned : motive { world.append [.expired io.expireAt] with
      cooldowns :=
        (deleteExpired world.cooldowns cooldownRetention io.expireAt io.expireFailure).2
      sched := { world.sched with lastPrunedAt := now } }) :
    motive (pruneActivityLog world now cancelled io) := by
  unfold pruneActivityLog
  split
  · exact idle
  · split
    · exact idle
    · exact pruned

/-! ## Steps -/

theorem startTick_eq (world : World) (now : Time) :
    ∃ searchCount hourResetAt, startTick world now = { world.append [.tickStarted now] with
      sched := { world.sched with searchCount := searchCount, hourResetAt := hourResetAt } } := by
  unfold startTick
  dsimp only
  split
  case isTrue => exact ⟨0, nextHourBoundary now, rfl⟩
  case isFalse => exact ⟨world.sched.searchCount, world.sched.hourResetAt, rfl⟩

/-- What a step does. Most steps only leave silent events, and change at most the poll times. -/
theorem Step.apply_cases {motive : Step → World → Prop} (world : World) (step : Step)
    (started : ∀ now, motive (.start now) (startTick world now))
    (limited : ∀ limit, motive (.readLimit limit) (setHourlyLimit world limit))
    (turned : ∀ now inst cancelled io,
      motive (.turn now inst cancelled io) (takeTurn world now inst cancelled io))
    (removed : ∀ insts, motive (.removeUnlisted insts) (Scheduling.removeUnlisted world insts))
    (pruned : ∀ now cancelled io, motive (.prune now cancelled io)
      { world.append [.expired io.expireAt] with
        cooldowns :=
          (deleteExpired world.cooldowns cooldownRetention io.expireAt io.expireFailure).2
        sched := { world.sched with lastPrunedAt := now } })
    (passed : ∀ step events lastHistoryPoll polls, (∀ event ∈ events, event.Silent) →
      motive step { world.append events with
        sched := { world.sched with lastHistoryPoll := lastHistoryPoll }, polls := polls }) :
    motive step (step.apply world) := by
  have hidle (step : Step) : motive step world := by
    have hempty := passed step [] world.sched.lastHistoryPoll world.polls
      fun event hevent ↦ absurd hevent List.not_mem_nil
    rw [World.append_nil] at hempty
    exact hempty
  cases step with
  | start now => exact started now
  | readLimit limit => exact limited limit
  | turn now inst cancelled io => exact turned now inst cancelled io
  | rateLimited limit =>
    exact passed _ [.logged (rateLimitEntry limit)] _ _ (List.forall_mem_singleton.mpr trivial)
  | removeUnlisted insts => exact removed insts
  | checkPoll now =>
    have hsilent : ∀ event ∈ [Event.pollChecked now], event.Silent :=
      List.forall_mem_singleton.mpr trivial
    unfold Step.apply Scheduling.checkPoll
    dsimp only
    split
    case isTrue => exact passed _ _ now world.polls hsilent
    case isFalse => exact passed _ _ world.sched.lastHistoryPoll world.polls hsilent
  | poll inst io =>
    obtain ⟨events, polls, hsilent, heq⟩ := pollInstanceHistory_eq world inst io
    have hpoll : (Step.poll inst io).apply world = { world.append events with polls := polls } := heq
    rw [hpoll]
    exact passed _ events world.sched.lastHistoryPoll polls hsilent
  | prune now cancelled io =>
    apply pruneActivityLog_cases (motive := motive (.prune now cancelled io))
    case idle => exact hidle _
    case pruned => exact pruned now cancelled io

/-! ## Traces of runs -/

theorem takeTurn_trace (world : World) (now : Time) (inst : Instance) (cancelled : Bool)
    (io : TurnIO) : ∃ events, (takeTurn world now inst cancelled io).trace = world.trace ++ events := by
  apply takeTurn_cases (motive := fun after ↦ ∃ events, after.trace = world.trace ++ events)
  case idle => exact ⟨[], (List.append_nil _).symm⟩
  case disabled => exact ⟨_, rfl⟩
  case closed => exact fun _ _ ↦ ⟨_, rfl⟩
  case quiet => exact fun _ _ _ _ _ ↦ ⟨_, List.append_assoc _ _ _⟩
  case sent =>
    intro _ _ _ _ _ _ _ _
    simp only [afterCycle, afterCommand, World.append, List.append_assoc]
    exact ⟨_, rfl⟩

/-- A step only adds to the trace. -/
theorem Step.apply_trace (world : World) (step : Step) :
    ∃ events, (step.apply world).trace = world.trace ++ events := by
  apply Step.apply_cases (motive := fun _ after ↦ ∃ events, after.trace = world.trace ++ events)
  case started =>
    intro now
    obtain ⟨_, _, hstart⟩ := startTick_eq world now
    rw [hstart]
    exact ⟨_, rfl⟩
  case limited => exact fun _ ↦ ⟨[], (List.append_nil _).symm⟩
  case turned => exact takeTurn_trace world
  case removed => exact fun _ ↦ ⟨[], (List.append_nil _).symm⟩
  case pruned => exact fun _ _ _ ↦ ⟨_, rfl⟩
  case passed => exact fun _ _ _ _ _ ↦ ⟨_, rfl⟩

theorem foldl_apply_trace (steps : List Step) (world : World) :
    ∃ events, (steps.foldl Step.apply world).trace = world.trace ++ events := by
  induction steps generalizing world with
  | nil => exact ⟨[], (List.append_nil _).symm⟩
  | cons step steps ih =>
    obtain ⟨first, hfirst⟩ := step.apply_trace world
    obtain ⟨rest, hrest⟩ := ih (step.apply world)
    exact ⟨first ++ rest, by rw [List.foldl_cons, hrest, hfirst, List.append_assoc]⟩

theorem Monotone.of_append {first second : List Event} (h : Monotone (first ++ second)) :
    Monotone first := by
  unfold Monotone at h ⊢
  rw [clock_append] at h
  exact (List.pairwise_append.mp h).1

theorem Monotone.le {first second : List Event} (h : Monotone (first ++ second)) {before after : Time}
    (hbefore : before ∈ clock first) (hafter : after ∈ clock second) : before ≤ after := by
  unfold Monotone at h
  rw [clock_append] at h
  exact (List.pairwise_append.mp h).2.2 before hbefore after hafter

/-- A clock that never goes back in a whole run does not go back up to any of its steps. -/
theorem along_monotone {steps : List Step} {world : World}
    (h : Monotone (steps.foldl Step.apply world).trace) :
    Machine.Along Step.apply (fun world step ↦ Monotone (step.apply world).trace) world steps := by
  induction steps generalizing world with
  | nil => exact Machine.along_nil
  | cons step steps ih =>
    obtain ⟨rest, hrest⟩ := foldl_apply_trace steps (step.apply world)
    rw [List.foldl_cons] at h
    exact (Machine.along_cons step steps).mpr ⟨Monotone.of_append (hrest ▸ h), ih h⟩

/-- The events of a tick. -/
def newEvents (world : World) (io : TickIO) : List Event :=
  (tick world io).trace.drop world.trace.length

theorem tick_trace (world : World) (io : TickIO) :
    (tick world io).trace = world.trace ++ newEvents world io := by
  obtain ⟨events, htrace⟩ := foldl_apply_trace (tickSteps world io) world
  unfold newEvents
  rw [tick_eq_foldl, htrace, List.drop_left]

end Huntarr2.Scheduling
