import Huntarr2.Scheduler.Effects

/-!
# The hourly search limit

The counter of sent items is compared with the limit before a whole batch is sent, and it is reset
at the start of a tick only. The limit holds in every hour as long as each batch fits into what the
counter leaves of it and is sent before the counter's hour is over.
-/

namespace Huntarr2.Scheduling

open Activity Arr Cooldown GoStd Settings

/-- The number of item IDs in the commands sent in an hour. -/
def sentInHour (trace : List Event) (hourIndex : ℤ) : ℕ :=
  (((commands trace).filter fun command ↦ hourOf command.sentAt = hourIndex).map
    fun command ↦ command.itemIDs.length).sum

theorem sentInHour_append (first second : List Event) (hourIndex : ℤ) :
    sentInHour (first ++ second) hourIndex =
      sentInHour first hourIndex + sentInHour second hourIndex := by
  unfold sentInHour
  rw [commands_append, List.filter_append, List.map_append, List.sum_append]

theorem sentInHour_of_commands_eq_nil {events : List Event} (h : commands events = [])
    (hourIndex : ℤ) : sentInHour events hourIndex = 0 := by
  unfold sentInHour
  rw [h]
  rfl

/-- A batch is no longer than the batch size, and no longer than what is left to search. -/
theorem length_selectBatch (itemIDs coolingDown : List ℤ) {batchSize : ℤ} (hbatch : 0 ≤ batchSize) :
    ((selectBatch itemIDs coolingDown batchSize).length : ℤ) =
      min batchSize (excludeIDs itemIDs coolingDown).length := by
  unfold selectBatch
  dsimp only
  split
  case isTrue hlong =>
    rw [List.length_take, min_eq_left hlong.le]
    omega
  case isFalse hshort => rw [min_eq_right (not_lt.mp hshort)]

/-- If the step is a turn that sends a command, its items fit into what the counter leaves of the
limit, and it is sent before the counter's hour is over. -/
def FitsHour (world : World) : Step → Prop
  | .turn now inst cancelled io => ∀ resolved result coolingDown,
      Reaches world now inst io resolved →
      Sends world.cooldowns inst resolved.1 cancelled io.cycle result coolingDown →
      world.sched.searchCount +
          min resolved.1.batchSize (excludeIDs (candidateIDs result resolved.1) coolingDown).length ≤
        world.sched.hourlyLimit ∧
      io.cycle.searchAt < world.sched.hourResetAt
  | _ => True

instance (world : World) (step : Step) : Decidable (FitsHour world step) :=
  match step with
  | .turn now inst cancelled io => decidable_of_iff
      (∀ resolved ∈ io.settings.toOption, ∀ result ∈ io.cycle.upgradeable.toOption,
        ∀ coolingDown ∈ (filterCoolingDown world.cooldowns inst.id (candidateIDs result resolved.1)
          resolved.1.cooldownPeriod io.cycle.filterAt io.cycle.filterFailure).toOption,
        Reaches world now inst io resolved →
        Sends world.cooldowns inst resolved.1 cancelled io.cycle result coolingDown →
        world.sched.searchCount +
            min resolved.1.batchSize (excludeIDs (candidateIDs result resolved.1) coolingDown).length ≤
          world.sched.hourlyLimit ∧
        io.cycle.searchAt < world.sched.hourResetAt)
      ⟨fun h resolved result coolingDown hreaches hsends ↦
          h resolved (by rw [hreaches.settings]; rfl) result (by rw [hsends.fetched]; rfl) coolingDown
            (by rw [hsends.filtered]; rfl) hreaches hsends,
        fun h resolved _ result _ coolingDown _ hreaches hsends ↦
          h resolved result coolingDown hreaches hsends⟩
  | .start _ | .readLimit _ | .rateLimited _ | .removeUnlisted _ | .checkPoll _ | .poll _ _ |
    .prune _ _ _ => .isTrue trivial

/-- The counter counts what was sent in the hour `current`, the last one with any command, and no
hour is over the limit. -/
structure HourInv (limit current : ℤ) (world : World) : Prop where
  resetAt : world.sched.hourResetAt = (current + 1) * hour
  begun : ∃ time ∈ clock world.trace, current ≤ hourOf time
  counted : sentInHour world.trace current ≤ world.sched.searchCount
  hourlyLimit : world.sched.hourlyLimit ≤ limit
  within : ∀ hourIndex, (sentInHour world.trace hourIndex : ℤ) ≤ limit
  later : ∀ hourIndex, current < hourIndex → sentInHour world.trace hourIndex = 0

namespace HourInv

variable {limit current : ℤ} {world : World}

/-- A step without a command does not disturb the invariant. -/
theorem frame (h : HourInv limit current world) {after : World} {events : List Event}
    (hevents : commands events = []) (htrace : after.trace = world.trace ++ events)
    (hresetAt : after.sched.hourResetAt = world.sched.hourResetAt)
    (hcount : after.sched.searchCount = world.sched.searchCount)
    (hlimit : after.sched.hourlyLimit ≤ limit) : HourInv limit current after := by
  have hsent (hourIndex : ℤ) : sentInHour after.trace hourIndex = sentInHour world.trace hourIndex := by
    rw [htrace, sentInHour_append, sentInHour_of_commands_eq_nil hevents, add_zero]
  obtain ⟨time, hmem, htime⟩ := h.begun
  exact
    { resetAt := hresetAt.trans h.resetAt
      begun := ⟨time, by rw [htrace, clock_append]; exact List.mem_append_left _ hmem, htime⟩
      counted := by rw [hsent, hcount]; exact h.counted
      hourlyLimit := hlimit
      within := fun hourIndex ↦ by rw [hsent]; exact h.within hourIndex
      later := fun hourIndex hlater ↦ by rw [hsent]; exact h.later hourIndex hlater }

theorem startTick (h : HourInv limit current world) (now : Time) :
    ∃ current, HourInv limit current (startTick world now) := by
  unfold Scheduling.startTick
  dsimp only
  split
  case isFalse => exact ⟨current, h.frame rfl rfl rfl rfl h.hourlyLimit⟩
  case isTrue hover =>
    have hnext : current < hourOf now := by
      have hover' : (current + 1) * hour < now := h.resetAt ▸ hover
      exact le_hourOf_iff.mpr hover'.le
    have hsent (hourIndex : ℤ) :
        sentInHour (world.emit (.tickStarted now)).trace hourIndex =
          sentInHour world.trace hourIndex := by
      have hnone : commands [Event.tickStarted now] = [] := rfl
      unfold World.emit
      rw [sentInHour_append, sentInHour_of_commands_eq_nil hnone, add_zero]
    exact ⟨hourOf now,
      { resetAt := nextHourBoundary_eq now
        begun := ⟨now, by simp [World.emit, clock, Event.time?], le_rfl⟩
        counted := by
          dsimp only
          rw [hsent, h.later _ hnext, Nat.cast_zero]
        hourlyLimit := h.hourlyLimit
        within := fun hourIndex ↦ by
          dsimp only
          rw [hsent]
          exact h.within hourIndex
        later := fun hourIndex hlater ↦ by
          dsimp only
          rw [hsent]
          exact h.later hourIndex (hnext.trans hlater) }⟩

/-- One command is sent in the counter's hour, and the counter is increased by its length. -/
theorem send (h : HourInv limit current world) {after : World} {command : Command}
    {events : List Event} (htrace : after.trace = world.trace ++ events)
    (hcommands : commands events = [command]) (htime : command.sentAt ∈ clock events)
    (hclock : Monotone after.trace)
    (hresetAt : after.sched.hourResetAt = world.sched.hourResetAt)
    (hcount : after.sched.searchCount = world.sched.searchCount + command.itemIDs.length)
    (hlimit : after.sched.hourlyLimit = world.sched.hourlyLimit)
    (hfits : world.sched.searchCount + command.itemIDs.length ≤ world.sched.hourlyLimit)
    (hhour : command.sentAt < world.sched.hourResetAt) : HourInv limit current after := by
  obtain ⟨time, hmem, hbegun⟩ := h.begun
  have hcurrent : hourOf command.sentAt = current := by
    have hle : time ≤ command.sentAt := Monotone.le (htrace ▸ hclock) hmem htime
    have hlower := hbegun.trans (hourOf_mono hle)
    have hupper : hourOf command.sentAt < current + 1 := hourOf_lt_iff.mpr (h.resetAt ▸ hhour)
    omega
  have hsent (hourIndex : ℤ) : sentInHour after.trace hourIndex =
      sentInHour world.trace hourIndex +
        if hourIndex = current then command.itemIDs.length else 0 := by
    rw [htrace, sentInHour_append]
    congr 1
    unfold sentInHour
    rw [hcommands, List.filter_singleton, hcurrent]
    by_cases hsame : hourIndex = current
    · simp [hsame]
    · simp [hsame, Ne.symm hsame]
  exact
    { resetAt := hresetAt.trans h.resetAt
      begun := ⟨time, by rw [htrace, clock_append]; exact List.mem_append_left _ hmem, hbegun⟩
      counted := by
        have hcounted := h.counted
        rw [hsent, if_pos rfl, hcount, Nat.cast_add]
        linarith
      hourlyLimit := hlimit.trans_le h.hourlyLimit
      within := fun hourIndex ↦ by
        rw [hsent]
        split
        case isTrue hsame =>
          rw [hsame, Nat.cast_add]
          calc (sentInHour world.trace current : ℤ) + command.itemIDs.length
              ≤ world.sched.searchCount + command.itemIDs.length := add_le_add_left h.counted _
            _ ≤ world.sched.hourlyLimit := hfits
            _ ≤ limit := h.hourlyLimit
        case isFalse => exact h.within hourIndex
      later := fun hourIndex hlater ↦ by
        rw [hsent, h.later hourIndex hlater, if_neg hlater.ne'] }

theorem takeTurn (h : HourInv limit current world) {now : Time} {inst : Instance} {cancelled : Bool}
    {io : TurnIO} (hfits : FitsHour world (.turn now inst cancelled io)) :
    Monotone (takeTurn world now inst cancelled io).trace →
      HourInv limit current (takeTurn world now inst cancelled io) := by
  apply takeTurn_cases (motive := fun after ↦ Monotone after.trace → HourInv limit current after)
  case idle => exact fun _ ↦ h
  case disabled => exact fun _ ↦ h.frame rfl rfl rfl rfl h.hourlyLimit
  case closed => exact fun _ _ _ ↦ h.frame rfl rfl rfl rfl h.hourlyLimit
  case quiet =>
    intro resolved events totalItems _ hquiet _
    refine h.frame ?_ (List.append_assoc _ _ _) rfl (add_zero _) h.hourlyLimit
    rw [commands_append]
    exact congrArg (· ++ []) (commands_of_quiet hquiet)
  case sent =>
    intro resolved result coolingDown entry totalItems hreaches hsends _ hclock
    have hbatch : 0 ≤ resolved.1.batchSize := zero_le_one.trans resolved.2.batchSize_pos
    obtain ⟨hcount, hhour⟩ := hfits resolved result coolingDown hreaches hsends
    rw [← length_selectBatch _ _ hbatch] at hcount
    exact h.send (turnTrace_sent ..) rfl (by simp [clock, Event.time?, sentCommand]) hclock rfl rfl
      rfl hcount hhour

/-- Every step whose limit is `limit` and whose command fits keeps the invariant. -/
theorem apply (h : HourInv limit current world) {step : Step}
    (hclock : Monotone (step.apply world).trace) (hfits : FitsHour world step)
    (hlimit : ∀ read, step = .readLimit read → read = limit) :
    ∃ current, HourInv limit current (step.apply world) := by
  revert hclock hfits hlimit
  apply Step.apply_cases (motive := fun step after ↦ Monotone after.trace → FitsHour world step →
    (∀ read, step = .readLimit read → read = limit) → ∃ current, HourInv limit current after)
  case started => exact fun now _ _ _ ↦ h.startTick now
  case limited =>
    exact fun read _ _ hlimit ↦
      ⟨current, h.frame rfl (List.append_nil _).symm rfl rfl (hlimit read rfl).le⟩
  case turned => exact fun _ _ _ _ hclock hfits _ ↦ ⟨current, h.takeTurn hfits hclock⟩
  case removed =>
    exact fun _ _ _ _ ↦ ⟨current, h.frame rfl (List.append_nil _).symm rfl rfl h.hourlyLimit⟩
  case pruned => exact fun _ _ _ _ _ _ ↦ ⟨current, h.frame rfl rfl rfl rfl h.hourlyLimit⟩
  case passed =>
    exact fun _ _ _ _ hsilent _ _ _ ↦
      ⟨current, h.frame (commands_eq_nil hsilent) rfl rfl rfl h.hourlyLimit⟩

/-- A new scheduler has sent nothing. -/
theorem start {tickInterval : Duration} {now : Time} {sched : Scheduler}
    (hnew : new tickInterval now = .ok sched) (hlimit : 0 ≤ limit) (cooldowns : Cooldown.Table)
    (polls : PollTable) (zone : Zone) :
    HourInv limit (hourOf now) (World.start sched cooldowns polls zone now) := by
  obtain rfl := eq_of_new hnew
  exact
    { resetAt := nextHourBoundary_eq now
      begun := ⟨now, List.mem_singleton_self now, le_rfl⟩
      counted := le_rfl
      hourlyLimit := hlimit
      within := fun _ ↦ hlimit
      later := fun _ _ ↦ rfl }

end HourInv

/-- Hourly search limit: with a constant limit and batches that fit into what the counter leaves of
it before the counter's hour is over, no hour sees more items than the limit. -/
theorem sentInHour_le_limit {limit : ℤ} (hpos : 1 ≤ limit) {tickInterval : Duration} {created : Time}
    {sched : Scheduler} (hnew : new tickInterval created = .ok sched) (cooldowns : Cooldown.Table)
    (polls : PollTable) (zone : Zone) (ios : List TickIO)
    (hconstant : ∀ io ∈ ios, ∀ settings, io.globalSettings = .ok settings →
      settings.1.searchLimit = limit)
    (hclock : Monotone (ios.foldl tick (World.start sched cooldowns polls zone created)).trace)
    (hfits : Machine.Along Step.apply FitsHour (World.start sched cooldowns polls zone created)
      (runSteps (World.start sched cooldowns polls zone created) ios)) (hourIndex : ℤ) :
    sentInHour (ios.foldl tick (World.start sched cooldowns polls zone created)).trace hourIndex ≤
      limit := by
  have hlimits : Machine.Along Step.apply (fun _ step ↦ ∀ read, step = .readLimit read → read = limit)
      (World.start sched cooldowns polls zone created)
      (runSteps (World.start sched cooldowns polls zone created) ios) := by
    apply Machine.along_of_forall
    intro step hstep world read hread
    obtain ⟨io, hio, hof⟩ := runSteps_of hstep
    rw [hread] at hof
    obtain ⟨settings, hsettings, hvalue⟩ := hof
    exact hvalue.trans (hconstant io hio settings hsettings)
  rw [foldl_tick] at hclock ⊢
  have hstart := HourInv.start hnew (zero_le_one.trans hpos) cooldowns polls zone
  obtain ⟨current, hinv⟩ := Machine.invariant_of_along
    (motive := fun world ↦ ∃ current, HourInv limit current world)
    (fun world step ⟨current, h⟩ ⟨hmonotone, hfit, hread⟩ ↦ h.apply hmonotone hfit hread)
    ((along_monotone hclock).and (hfits.and hlimits)) ⟨hourOf created, hstart⟩
  exact hinv.within hourIndex

/-- A limit of eight is used up by two batches of four. -/
theorem sentInHour_le_limit_two_batches :
    let settings : Validated := ⟨{ defaults with searchLimit := 8 }, by constructor <;> decide⟩
    let result := library [1, 2, 3, 4, 5, 6, 7, 8]
    let ios := [smoothTick minute settings soloList result,
      smoothTick (40 * minute) settings soloList result]
    ∃ sched, new minute 0 = .ok sched ∧
      sentInHour (ios.foldl tick (World.start sched ∅ ∅ Zone.utc 0)).trace 0 = 8 ∧
      sentInHour (ios.foldl tick (World.start sched ∅ ∅ Zone.utc 0)).trace 0 ≤ (8 : ℤ) := by
  intro settings result ios
  have hnew : new minute 0 = .ok _ := rfl
  have hconstant : ∀ io ∈ ios, ∀ read, io.globalSettings = .ok read → read.1.searchLimit = 8 := by
    simp only [ios, List.forall_mem_cons]
    exact ⟨fun read hread ↦ by cases hread; rfl, fun read hread ↦ by cases hread; rfl, by simp⟩
  exact ⟨_, hnew, by decide, sentInHour_le_limit (by decide) hnew ∅ ∅ Zone.utc ios hconstant
    (by decide) (by decide) 0⟩

/-- The scheduler sends the whole default batch of four items although the limit is one. -/
theorem limit_overshot :
    let settings : Validated := ⟨{ defaults with searchLimit := 1 }, by constructor <;> decide⟩
    let io := smoothTick minute settings soloList (library [1, 2, 3, 4])
    ∃ sched, new minute 0 = .ok sched ∧
      Monotone (tick (World.start sched ∅ ∅ Zone.utc 0) io).trace ∧
      sentInHour (tick (World.start sched ∅ ∅ Zone.utc 0) io).trace 0 = 4 :=
  ⟨_, rfl, by decide, by decide⟩

end Huntarr2.Scheduling
