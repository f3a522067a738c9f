import Huntarr2.Scheduler.Ownership

/-!
# Isolation of instances

The view of an instance is what belongs to it: its cooldown rows, its schedule, its poll timestamp and
its events. Steps of other instances leave the view alone, and an own step changes it as a function of
the view and of the time zone. Two runs of one tick that differ only in another instance therefore end
in the same view.
-/

namespace Huntarr2.Scheduling

open Activity Arr Cooldown GoStd Settings

/-- The events of an instance in a trace. -/
def ownEvents (instanceID : UUID) (trace : List Event) : List Event :=
  trace.filter fun event ↦ event.owner = some instanceID

theorem ownEvents_append (instanceID : UUID) (first second : List Event) :
    ownEvents instanceID (first ++ second) =
      ownEvents instanceID first ++ ownEvents instanceID second := List.filter_append _ _

@[ext]
structure View where
  cooldowns : ℤ → Option ℤ
  schedule : Option InstanceSchedule
  polled : Option Text
  events : List Event

/-- What belongs to an instance. -/
def World.view (world : World) (instanceID : UUID) : View where
  cooldowns := fun itemID ↦ world.cooldowns.lookup (instanceID, itemID)
  schedule := world.sched.schedules.lookup instanceID
  polled := world.polls.lookup instanceID
  events := ownEvents instanceID world.trace

/-- What all instances read: the time zone, and the times of the last pruning and of the last poll. -/
def World.shared (world : World) : Zone × Time × Time :=
  (world.zone, world.sched.lastPrunedAt, world.sched.lastHistoryPoll)

theorem ownEvents_append_of_ne {instanceID : UUID} {owner : Option UUID} {events : List Event}
    (howner : owner ≠ some instanceID) (h : ∀ event ∈ events, event.owner = owner)
    (trace : List Event) : ownEvents instanceID (trace ++ events) = ownEvents instanceID trace := by
  have hnone : ownEvents instanceID events = [] := by
    apply List.filter_eq_nil_iff.mpr
    intro event hevent hsame
    exact howner ((h event hevent).symm.trans (of_decide_eq_true hsame))
  rw [ownEvents_append, hnone, List.append_nil]

/-! ## Steps of other instances -/

/-- Another instance's turn leaves the view alone. -/
theorem view_takeTurn_of_ne {world : World} {now : Time} {inst : Instance} {cancelled : Bool}
    {io : TurnIO} {instanceID : UUID} (h : instanceID ≠ inst.id) :
    (takeTurn world now inst cancelled io).view instanceID = world.view instanceID := by
  have howner : some inst.id ≠ some instanceID := fun hsame ↦ h (Option.some.inj hsame).symm
  obtain ⟨events, htrace, hevents⟩ := takeTurn_growsBy world now inst cancelled io
  ext1
  case cooldowns =>
    funext itemID
    apply takeTurn_cases (motive := fun after ↦ after.cooldowns.lookup (instanceID, itemID) =
      world.cooldowns.lookup (instanceID, itemID))
    case idle => rfl
    case disabled => rfl
    case closed => exact fun _ _ ↦ rfl
    case quiet => exact fun _ _ _ _ _ ↦ rfl
    case sent => exact fun _ _ _ _ _ _ _ _ ↦ lookup_recordSearches_of_ne h _ _ _ _
  case schedule => exact takeTurn_lookup_of_ne h
  case polled =>
    apply takeTurn_cases (motive := fun after ↦ after.polls.lookup instanceID =
      world.polls.lookup instanceID)
    case idle => rfl
    case disabled => rfl
    case closed => exact fun _ _ ↦ rfl
    case quiet => exact fun _ _ _ _ _ ↦ rfl
    case sent => exact fun _ _ _ _ _ _ _ _ ↦ rfl
  case events =>
    change ownEvents instanceID (takeTurn world now inst cancelled io).trace = _
    rw [htrace]
    exact ownEvents_append_of_ne howner hevents world.trace

theorem shared_takeTurn (world : World) (now : Time) (inst : Instance) (cancelled : Bool)
    (io : TurnIO) : (takeTurn world now inst cancelled io).shared = world.shared := by
  apply takeTurn_cases (motive := fun after ↦ after.shared = world.shared)
  case idle => rfl
  case disabled => rfl
  case closed => exact fun _ _ ↦ rfl
  case quiet => exact fun _ _ _ _ _ ↦ rfl
  case sent => exact fun _ _ _ _ _ _ _ _ ↦ rfl

/-- Another instance's poll leaves the view alone. -/
theorem view_poll_of_ne {world : World} {inst : Instance} {io : PollIO} {instanceID : UUID}
    (h : instanceID ≠ inst.id) :
    (pollInstanceHistory world inst io).view instanceID = world.view instanceID := by
  have howner : some inst.id ≠ some instanceID := fun hsame ↦ h (Option.some.inj hsame).symm
  apply pollInstanceHistory_cases (motive := fun after ↦ after.view instanceID = world.view instanceID)
  case unread => exact fun _ _ ↦ rfl
  case unfetched =>
    intro last err _ _
    ext1
    case events => exact ownEvents_append_of_ne howner startEvents_owner world.trace
    all_goals rfl
  case polled =>
    intro last records _ _
    ext1
    case events => exact ownEvents_append_of_ne howner pollEvents_owner world.trace
    case polled => exact lookup_recordPoll_of_ne h _ _
    all_goals rfl

theorem shared_poll (world : World) (inst : Instance) (io : PollIO) :
    (pollInstanceHistory world inst io).shared = world.shared := by
  obtain ⟨events, polls, _, heq⟩ := pollInstanceHistory_eq world inst io
  rw [heq]
  rfl

/-! ## Own steps -/

section Congruence

variable {first second : World} {instanceID : UUID} {inst : Instance}

theorem view_ext (hcooldowns : ∀ itemID, first.cooldowns.lookup (instanceID, itemID) =
      second.cooldowns.lookup (instanceID, itemID))
    (hschedule : first.sched.schedules.lookup instanceID =
      second.sched.schedules.lookup instanceID)
    (hpolled : first.polls.lookup instanceID = second.polls.lookup instanceID)
    (hevents : ownEvents instanceID first.trace = ownEvents instanceID second.trace) :
    first.view instanceID = second.view instanceID :=
  View.ext (funext hcooldowns) hschedule hpolled hevents

theorem of_view (h : first.view instanceID = second.view instanceID) :
    (∀ itemID, first.cooldowns.lookup (instanceID, itemID) =
      second.cooldowns.lookup (instanceID, itemID)) ∧
    first.sched.schedules.lookup instanceID = second.sched.schedules.lookup instanceID ∧
    first.polls.lookup instanceID = second.polls.lookup instanceID ∧
    ownEvents instanceID first.trace = ownEvents instanceID second.trace :=
  ⟨congrFun (congrArg View.cooldowns h), congrArg View.schedule h, congrArg View.polled h,
    congrArg View.events h⟩

theorem events_append_congr (h : ownEvents instanceID first.trace = ownEvents instanceID second.trace)
    (events : List Event) : ownEvents instanceID (first.trace ++ events) =
      ownEvents instanceID (second.trace ++ events) := by
  rw [ownEvents_append, ownEvents_append, h]

theorem view_append_congr (h : first.view instanceID = second.view instanceID)
    (events : List Event) :
    (first.append events).view instanceID = (second.append events).view instanceID := by
  obtain ⟨hcooldowns, hschedule, hpolled, hevents⟩ := of_view h
  exact view_ext hcooldowns hschedule hpolled (events_append_congr hevents events)

theorem view_setSchedule_congr (h : first.view instanceID = second.view instanceID)
    (schedule : InstanceSchedule) :
    (first.setSchedule schedule).view instanceID = (second.setSchedule schedule).view instanceID := by
  obtain ⟨hcooldowns, hschedule, hpolled, hevents⟩ := of_view h
  refine view_ext hcooldowns ?_ hpolled hevents
  unfold World.setSchedule
  rw [KeyedTable.lookup_insert_eq, KeyedTable.lookup_insert_eq, hschedule]

theorem finishTurn_congr (h : first.view instanceID = second.view instanceID) (now : Time)
    (inst : Instance) (resolved : Resolved) (sched : Option InstanceSchedule)
    (searched totalItems : ℕ) (cycleEnd : Time) :
    (finishTurn first now inst resolved sched searched totalItems cycleEnd).view instanceID =
      (finishTurn second now inst resolved sched searched totalItems cycleEnd).view instanceID :=
  view_append_congr (view_setSchedule_congr h _) [_]

theorem recordSearches_congr (h : first.view inst.id = second.view inst.id) (itemIDs : List ℤ)
    (now : Time) (failure : Option String) (itemID : ℤ) :
    (recordSearches first.cooldowns inst.id itemIDs now failure).2.lookup (inst.id, itemID) =
      (recordSearches second.cooldowns inst.id itemIDs now failure).2.lookup (inst.id, itemID) := by
  obtain ⟨hcooldowns, -, -, -⟩ := of_view h
  cases failure with
  | some err => rw [recordSearches_error, recordSearches_error, hcooldowns]
  | none => rw [lookup_recordSearches, lookup_recordSearches, hcooldowns]

/-- A search cycle depends on its instance's view only. -/
theorem runInstanceCycle_congr (h : first.view inst.id = second.view inst.id) (resolved : Resolved)
    (cancelled : Bool) (io : CycleIO) :
    (runInstanceCycle first inst resolved cancelled io).1.view inst.id =
        (runInstanceCycle second inst resolved cancelled io).1.view inst.id ∧
      (runInstanceCycle first inst resolved cancelled io).2 =
        (runInstanceCycle second inst resolved cancelled io).2 := by
  have hemit (world : World) (event : Event) : (world.emit event).cooldowns = world.cooldowns := rfl
  obtain ⟨hcooldowns, hschedule, hpolled, -⟩ := of_view h
  have hfiltered : (first.emit (.filtered inst.id io.filterAt)).view inst.id =
      (second.emit (.filtered inst.id io.filterAt)).view inst.id := view_append_congr h [_]
  unfold runInstanceCycle
  split
  · exact ⟨h, rfl⟩
  · cases io.upgradeable with
    | error err => exact ⟨view_append_congr h [_], rfl⟩
    | ok result =>
      dsimp only
      split
      · exact ⟨view_append_congr h [_], rfl⟩
      · rw [hemit, hemit, filterCoolingDown_congr hcooldowns]
        split
        · exact ⟨hfiltered, rfl⟩
        · split
          · exact ⟨view_append_congr hfiltered [_], rfl⟩
          · split
            · exact ⟨view_append_congr hfiltered [_], rfl⟩
            · refine ⟨view_append_congr ?_ [_], rfl⟩
              apply view_ext
              case hcooldowns => exact recordSearches_congr h _ _ _
              case hschedule => exact hschedule
              case hpolled => exact hpolled
              case hevents =>
                exact (of_view (view_append_congr (view_append_congr hfiltered [_]) [_])).2.2.2

/-- An instance's turn depends on its view and on the time zone only. -/
theorem takeTurn_congr (h : first.view inst.id = second.view inst.id)
    (hzone : first.zone = second.zone) (now : Time) (cancelled : Bool) (io : TurnIO) :
    (takeTurn first now inst cancelled io).view inst.id =
      (takeTurn second now inst cancelled io).view inst.id := by
  have hemit (world : World) (event : Event) : (world.emit event).zone = world.zone := rfl
  obtain ⟨-, hschedule, -, -⟩ := of_view h
  have hchecked : (first.emit (.windowChecked inst.id io.windowAt)).view inst.id =
      (second.emit (.windowChecked inst.id io.windowAt)).view inst.id := view_append_congr h [_]
  unfold takeTurn
  cases io.settings with
  | error err => exact h
  | ok resolved =>
    dsimp only
    rw [hschedule]
    split
    · exact view_append_congr (view_setSchedule_congr h _) [_]
    · split
      · exact h
      · rw [hemit, hemit, hzone]
        split
        · exact view_append_congr hchecked [_]
        · obtain ⟨hview, hcounts⟩ := runInstanceCycle_congr hchecked resolved.1 cancelled io.cycle
          rw [congrArg Prod.fst hcounts, congrArg Prod.snd hcounts]
          exact finishTurn_congr hview now inst _ _ _ _ _

theorem lastPolled_congr (h : first.view inst.id = second.view inst.id) (failure : Option String) :
    lastPolled first.polls inst.id failure = lastPolled second.polls inst.id failure := by
  obtain ⟨-, -, hpolled, -⟩ := of_view h
  unfold lastPolled
  rw [hpolled]

theorem recordPoll_congr (h : first.view inst.id = second.view inst.id)
    (hzone : first.zone = second.zone) (now : Time) (failure : Option String) :
    (recordPoll first.polls first.zone inst.id now failure).2.lookup inst.id =
      (recordPoll second.polls second.zone inst.id now failure).2.lookup inst.id := by
  obtain ⟨-, -, hpolled, -⟩ := of_view h
  cases failure with
  | some err => exact hpolled
  | none =>
    change (first.polls.insert inst.id _).lookup inst.id =
      (second.polls.insert inst.id _).lookup inst.id
    rw [AList.lookup_insert, AList.lookup_insert, hzone]

/-- An instance's poll depends on its view and on the time zone only. -/
theorem poll_congr (h : first.view inst.id = second.view inst.id) (hzone : first.zone = second.zone)
    (io : PollIO) : (pollInstanceHistory first inst io).view inst.id =
      (pollInstanceHistory second inst io).view inst.id := by
  unfold pollInstanceHistory
  rw [lastPolled_congr h]
  split
  case h_1 => exact h
  case h_2 last hlast =>
    have hstarted (world : World) : (if last = zeroTime then
        world.emit (.pollStarted inst.id io.startedAt) else world) =
          world.append (startEvents inst io last) := by
      unfold startEvents
      split
      · rfl
      · exact world.append_nil.symm
    have hview := view_append_congr h (startEvents inst io last)
    dsimp only
    rw [hstarted, hstarted]
    split
    case h_1 => exact hview
    case h_2 records hrecords =>
      rw [foldl_log, foldl_log]
      obtain ⟨hcooldowns, hschedule, -, hevents⟩ := of_view (view_append_congr (view_append_congr hview
        (records.map fun record ↦ .logged (importEntry inst record)))
        [.pollRecorded inst.id io.recordAt])
      exact view_ext hcooldowns hschedule (recordPoll_congr hview hzone _ _) hevents

theorem deleteExpired_congr (h : first.view instanceID = second.view instanceID)
    (olderThan : Duration) (now : Time) (failure : Option String) (itemID : ℤ) :
    (deleteExpired first.cooldowns olderThan now failure).2.lookup (instanceID, itemID) =
      (deleteExpired second.cooldowns olderThan now failure).2.lookup (instanceID, itemID) := by
  obtain ⟨hcooldowns, -, -, -⟩ := of_view h
  cases failure with
  | some err => exact hcooldowns itemID
  | none => rw [lookup_deleteExpired, lookup_deleteExpired, hcooldowns]

theorem prune_congr (h : first.view instanceID = second.view instanceID)
    (hshared : first.shared = second.shared) (now : Time) (cancelled : Bool) (io : PruneIO) :
    (pruneActivityLog first now cancelled io).view instanceID =
      (pruneActivityLog second now cancelled io).view instanceID := by
  obtain ⟨-, hschedule, hpolled, hevents⟩ := of_view h
  have hlast : first.sched.lastPrunedAt = second.sched.lastPrunedAt :=
    congrArg (fun shared ↦ shared.2.1) hshared
  unfold pruneActivityLog
  rw [hlast]
  split
  · exact h
  · split
    · exact h
    · apply view_ext
      case hcooldowns => exact deleteExpired_congr h _ _ _
      case hschedule => exact hschedule
      case hpolled => exact hpolled
      case hevents => exact events_append_congr hevents _

theorem removeUnlisted_congr (h : first.view instanceID = second.view instanceID)
    (insts : List Instance) :
    (removeUnlisted first insts).view instanceID = (removeUnlisted second insts).view instanceID := by
  obtain ⟨hcooldowns, hschedule, hpolled, hevents⟩ := of_view h
  refine view_ext hcooldowns ?_ hpolled hevents
  unfold removeUnlisted
  rw [KeyedTable.lookup_deleteWhere, KeyedTable.lookup_deleteWhere, hschedule]

theorem checkPoll_congr (h : first.view instanceID = second.view instanceID)
    (hshared : first.shared = second.shared) (now : Time) :
    (checkPoll first now).view instanceID = (checkPoll second now).view instanceID ∧
      (checkPoll first now).shared = (checkPoll second now).shared := by
  have hlast : first.sched.lastHistoryPoll = second.sched.lastHistoryPoll :=
    congrArg (fun shared ↦ shared.2.2) hshared
  have hview := view_append_congr h [.pollChecked now]
  unfold checkPoll pollDue
  rw [hlast]
  split
  · exact ⟨hview, congrArg (fun shared ↦ (shared.1, shared.2.1, now)) hshared⟩
  · exact ⟨hview, hshared⟩

end Congruence

/-! ## The loops -/

/-- Two ticks whose environments differ only in what concerns one instance. -/
structure AgreeExcept (instanceID : UUID) (first second : TickIO) : Prop where
  now : first.now = second.now
  globalSettings : first.globalSettings = second.globalSettings
  instances : first.instances = second.instances
  cancelledFrom : first.cancelledFrom = second.cancelledFrom
  turn : ∀ id, id ≠ instanceID → first.turn id = second.turn id
  pollAt : first.pollAt = second.pollAt
  poll : ∀ id, id ≠ instanceID → first.poll id = second.poll id
  prune : first.prune = second.prune

/-- If the steps stop at the limit, the instance's turn came before. -/
def TurnBeforeLimit (instanceID : UUID) (steps : List Step) : Prop :=
  (∃ limit, .rateLimited limit ∈ steps) → ∃ step ∈ steps, step.turnOf = some instanceID

theorem not_turnBeforeLimit (instanceID : UUID) (limit : ℤ) :
    ¬TurnBeforeLimit instanceID [.rateLimited limit] := by
  intro h
  obtain ⟨step, hmem, hturn⟩ := h ⟨limit, List.mem_singleton_self _⟩
  rw [List.mem_singleton.mp hmem] at hturn
  exact Option.some_ne_none _ hturn.symm

theorem turnBeforeLimit_of_mem {instanceID : UUID} {steps : List Step}
    (h : some instanceID ∈ steps.map Step.turnOf) : TurnBeforeLimit instanceID steps :=
  fun _ ↦ List.mem_map.mp h

theorem TurnBeforeLimit.of_cons {instanceID : UUID} {step : Step} {steps : List Step}
    (h : TurnBeforeLimit instanceID (step :: steps)) (hstep : step.turnOf ≠ some instanceID) :
    TurnBeforeLimit instanceID steps := by
  rintro ⟨limit, hlimit⟩
  obtain ⟨other, hmem, hturn⟩ := h ⟨limit, List.mem_cons_of_mem step hlimit⟩
  cases List.mem_cons.mp hmem with
  | inl hhere => exact absurd (hhere ▸ hturn) hstep
  | inr hlater => exact ⟨other, hlater, hturn⟩

theorem TickIO.cancelled_mono {io : TickIO} {point later : ℕ} (h : io.cancelled point = true)
    (hlater : point ≤ later) : io.cancelled later = true := by
  unfold TickIO.cancelled at h ⊢
  rw [Option.any_eq_true] at h ⊢
  obtain ⟨start, hstart, hle⟩ := h
  exact ⟨start, hstart, decide_eq_true ((of_decide_eq_true hle).trans hlater)⟩

theorem AgreeExcept.cancelled {instanceID : UUID} {first second : TickIO}
    (h : AgreeExcept instanceID first second) (point : ℕ) :
    first.cancelled point = second.cancelled point := by
  unfold TickIO.cancelled
  rw [h.cancelledFrom]

theorem shared_searchLoop (io : TickIO) (limit : ℤ) (world : World) (index : ℕ)
    (insts : List Instance) : (searchLoop io limit world index insts).1.shared = world.shared := by
  induction insts generalizing world index with
  | nil => rfl
  | cons inst insts ih =>
    unfold searchLoop
    split
    · rfl
    · split
      · rfl
      · exact (ih _ _).trans (shared_takeTurn world _ _ _ _)

/-- A loop over other instances leaves the view alone. -/
theorem view_searchLoop_of_not_mem {instanceID : UUID} {insts : List Instance}
    (h : instanceID ∉ insts.map (·.id)) (io : TickIO) (limit : ℤ) (world : World) (index : ℕ) :
    (searchLoop io limit world index insts).1.view instanceID = world.view instanceID := by
  induction insts generalizing world index with
  | nil => rfl
  | cons inst insts ih =>
    rw [List.map_cons, List.mem_cons, not_or] at h
    unfold searchLoop
    split
    · rfl
    · split
      · have hlimit : ∀ event ∈ [Event.logged (rateLimitEntry limit)], event.owner = none :=
          List.forall_mem_singleton.mpr rfl
        exact view_ext (fun _ ↦ rfl) rfl rfl
          (ownEvents_append_of_ne (Option.some_ne_none _).symm hlimit world.trace)
      · exact (ih h.2 _ _).trans (view_takeTurn_of_ne h.1)

/-- The loop over the instances ends in the same view of an instance whose turn comes before the limit
is reached. -/
theorem view_searchLoop {instanceID other : UUID} (hne : instanceID ≠ other) {first second : TickIO}
    (hagree : AgreeExcept other first second) (limit : ℤ) {insts : List Instance}
    (hnodup : (insts.map (·.id)).Nodup) {world world' : World}
    (hview : world.view instanceID = world'.view instanceID)
    (hshared : world.shared = world'.shared) (index : ℕ)
    (hfirst : TurnBeforeLimit instanceID (searchSteps first limit world index insts).1)
    (hsecond : TurnBeforeLimit instanceID (searchSteps second limit world' index insts).1) :
    (searchLoop first limit world index insts).1.view instanceID =
      (searchLoop second limit world' index insts).1.view instanceID := by
  induction insts generalizing world world' index with
  | nil => exact hview
  | cons inst insts ih =>
    rw [List.map_cons, List.nodup_cons] at hnodup
    unfold searchLoop
    unfold searchSteps at hfirst hsecond
    rw [hagree.cancelled (2 * index)] at hfirst ⊢
    split
    case isTrue => exact hview
    case isFalse hlive =>
      rw [if_neg hlive] at hfirst hsecond
      by_cases hlimit : limit ≤ world.sched.searchCount
      · rw [if_pos hlimit] at hfirst
        exact absurd hfirst (not_turnBeforeLimit _ _)
      by_cases hlimit' : limit ≤ world'.sched.searchCount
      · rw [if_pos hlimit'] at hsecond
        exact absurd hsecond (not_turnBeforeLimit _ _)
      rw [if_neg hlimit] at hfirst ⊢
      rw [if_neg hlimit'] at hsecond ⊢
      have hshared' (now : Time) (cancelled : Bool) (io io' : TurnIO) :
          (takeTurn world now inst cancelled io).shared =
            (takeTurn world' now inst cancelled io').shared := calc
        (takeTurn world now inst cancelled io).shared = world.shared := shared_takeTurn ..
        _ = world'.shared := hshared
        _ = (takeTurn world' now inst cancelled io').shared := (shared_takeTurn ..).symm
      by_cases hinst : instanceID = inst.id
      · -- The instance's own turn: the rest of the loop is about others.
        subst hinst
        rw [view_searchLoop_of_not_mem hnodup.1, view_searchLoop_of_not_mem hnodup.1,
          hagree.now, hagree.cancelled, hagree.turn inst.id hne]
        exact takeTurn_congr hview (congrArg Prod.fst hshared) _ _ _
      · have hstep (now : Time) (cancelled : Bool) (io : TurnIO) :
            (Step.turn now inst cancelled io).turnOf ≠ some instanceID :=
          fun hturn ↦ hinst (Option.some.inj hturn).symm
        have hview' (now : Time) (cancelled : Bool) (io io' : TurnIO) :
            (takeTurn world now inst cancelled io).view instanceID =
              (takeTurn world' now inst cancelled io').view instanceID := calc
          (takeTurn world now inst cancelled io).view instanceID = world.view instanceID :=
            view_takeTurn_of_ne hinst
          _ = world'.view instanceID := hview
          _ = (takeTurn world' now inst cancelled io').view instanceID :=
            (view_takeTurn_of_ne hinst).symm
        rw [hagree.now, hagree.cancelled] at hfirst ⊢
        exact ih hnodup.2 (hview' _ _ _ _) (hshared' _ _ _ _) (index + 1)
          (hfirst.of_cons (hstep _ _ _)) (hsecond.of_cons (hstep _ _ _))

/-- The loop over the polls ends in the same view. -/
theorem view_pollLoop {instanceID other : UUID} (hne : instanceID ≠ other) {first second : TickIO}
    (hagree : AgreeExcept other first second) (insts : List Instance) {world world' : World}
    (hview : world.view instanceID = world'.view instanceID)
    (hshared : world.shared = world'.shared) (point : ℕ) :
    (pollLoop first world point insts).view instanceID =
      (pollLoop second world' point insts).view instanceID := by
  induction insts generalizing world world' point with
  | nil => exact hview
  | cons inst insts ih =>
    unfold pollLoop
    rw [hagree.cancelled]
    split
    case isTrue => exact hview
    case isFalse =>
      apply ih
      case hshared =>
        calc (pollInstanceHistory world inst (first.poll inst.id)).shared = world.shared :=
              shared_poll ..
          _ = world'.shared := hshared
          _ = (pollInstanceHistory world' inst (second.poll inst.id)).shared := (shared_poll ..).symm
      case hview =>
        by_cases hinst : instanceID = inst.id
        · subst hinst
          rw [hagree.poll inst.id hne]
          exact poll_congr hview (congrArg Prod.fst hshared) _
        · calc (pollInstanceHistory world inst (first.poll inst.id)).view instanceID
              = world.view instanceID := view_poll_of_ne hinst
            _ = world'.view instanceID := hview
            _ = (pollInstanceHistory world' inst (second.poll inst.id)).view instanceID :=
              (view_poll_of_ne hinst).symm

theorem shared_pollLoop (io : TickIO) (world : World) (point : ℕ) (insts : List Instance) :
    (pollLoop io world point insts).shared = world.shared := by
  induction insts generalizing world point with
  | nil => rfl
  | cons inst insts ih =>
    unfold pollLoop
    split
    · rfl
    · exact (ih _ _).trans (shared_poll world inst _)

/-! ## The end of a tick -/

/-- What a tick does after the loop over the instances. -/
def closeTick (world : World) (io : TickIO) (insts : List Instance) : World :=
  pruneActivityLog (pollUpgradeHistory (removeUnlisted world insts) io insts) io.now
    (io.cancelled (3 * insts.length)) io.prune

theorem view_closeTick {instanceID other : UUID} (hne : instanceID ≠ other) {first second : TickIO}
    (hagree : AgreeExcept other first second) (insts : List Instance) {world world' : World}
    (hview : world.view instanceID = world'.view instanceID)
    (hshared : world.shared = world'.shared) :
    (closeTick world first insts).view instanceID =
      (closeTick world' second insts).view instanceID := by
  have hremoved := removeUnlisted_congr hview insts
  have hchecked := checkPoll_congr hremoved
    (hshared : (removeUnlisted world insts).shared = (removeUnlisted world' insts).shared) second.pollAt
  have hdue : pollDue (removeUnlisted world insts) second.pollAt =
      pollDue (removeUnlisted world' insts) second.pollAt :=
    congrArg (fun shared : Zone × Time × Time ↦
      decide (shared.2.2 + historyPollInterval < second.pollAt)) hshared
  unfold closeTick pollUpgradeHistory
  rw [hagree.now, hagree.prune, hagree.cancelled, hagree.pollAt, hdue]
  split
  case isTrue =>
    apply prune_congr
    case h => exact view_pollLoop hne hagree insts hchecked.1 hchecked.2 _
    case hshared =>
      exact (shared_pollLoop ..).trans (hchecked.2.trans (shared_pollLoop ..).symm)
  case isFalse => exact prune_congr hchecked.1 hchecked.2 _ _ _

/-- When the context is done by the end of the loop, the rest of the tick leaves the views of listed
instances alone. -/
theorem view_closeTick_of_cancelled {instanceID : UUID} {io : TickIO} {insts : List Instance}
    (hlisted : instanceID ∈ insts.map (·.id)) (hcancelled : io.cancelled (2 * insts.length) = true)
    (world : World) : (closeTick world io insts).view instanceID = world.view instanceID := by
  have hremoved : (removeUnlisted world insts).view instanceID = world.view instanceID := by
    have hkept : ((Step.removeUnlisted insts).apply world).sched.schedules.lookup instanceID =
        world.sched.schedules.lookup instanceID :=
      Step.apply_lookup_schedule (fun _ _ _ _ h ↦ by cases h) (fun _ h ↦ by cases h; exact hlisted)
    exact view_ext (fun _ ↦ rfl) hkept rfl rfl
  have hloop (world : World) : pollLoop io world (2 * insts.length) insts = world := by
    cases insts with
    | nil => rfl
    | cons inst insts => exact if_pos hcancelled
  have hchecked (world : World) : (checkPoll world io.pollAt).view instanceID =
      world.view instanceID := by
    have hown := ownEvents_append_of_ne (Option.some_ne_none instanceID).symm
      (List.forall_mem_singleton.mpr rfl : ∀ event ∈ [Event.pollChecked io.pollAt],
        event.owner = none) world.trace
    unfold checkPoll
    split <;> exact view_ext (fun _ ↦ rfl) rfl rfl hown
  have hpruned (world : World) :
      pruneActivityLog world io.now (io.cancelled (3 * insts.length)) io.prune = world := by
    have hlater : io.cancelled (3 * insts.length) = true := io.cancelled_mono hcancelled (by omega)
    unfold pruneActivityLog
    split
    · rfl
    · exact if_pos (Or.inl hlater)
  unfold closeTick pollUpgradeHistory
  rw [hpruned]
  split
  · rw [hloop, hchecked, hremoved]
  · rw [hchecked, hremoved]

/-- A loop that returns saw the context done. -/
theorem cancelled_of_returned {io : TickIO} {limit : ℤ} {world : World} {index : ℕ}
    {insts : List Instance} (h : (searchLoop io limit world index insts).2 = true) :
    io.cancelled (2 * (index + insts.length)) = true := by
  induction insts generalizing world index with
  | nil => exact absurd h Bool.false_ne_true
  | cons inst insts ih =>
    unfold searchLoop at h
    split at h
    case isTrue hcancelled => exact TickIO.cancelled_mono hcancelled (by omega)
    case isFalse =>
      split at h
      · exact absurd h Bool.false_ne_true
      · have hlater := ih h
        rwa [add_assoc, Nat.add_comm 1] at hlater

/-! ## The tick -/

/-- The world the loop over the instances starts in. -/
def openTick (world : World) (now : Time) (settings : Validated) : World :=
  setHourlyLimit (startTick world now) settings.1.searchLimit

theorem tick_of_ok (world : World) {io : TickIO} {settings : Validated} {list : InstanceList}
    (hsettings : io.globalSettings = .ok settings) (hlist : io.instances = .ok list) :
    tick world io =
      let searched := searchLoop io settings.1.searchLimit (openTick world io.now settings) 0 list.insts
      if searched.2 then searched.1 else closeTick searched.1 io list.insts := by
  unfold tick
  rw [hsettings, hlist]
  rfl

theorem turnBeforeLimit_searchSteps {world : World} {io : TickIO} {settings : Validated}
    {list : InstanceList} {instanceID : UUID} (hsettings : io.globalSettings = .ok settings)
    (hlist : io.instances = .ok list)
    (h : TurnBeforeLimit instanceID (tickSteps world io)) :
    TurnBeforeLimit instanceID (searchSteps io settings.1.searchLimit
      (openTick world io.now settings) 0 list.insts).1 := by
  rintro ⟨limit, hlimit⟩
  unfold tickSteps at h
  rw [hsettings, hlist] at h
  obtain ⟨step, hmem, hturn⟩ := h ⟨limit,
    List.mem_cons_of_mem _ (List.mem_cons_of_mem _ (List.mem_append_left _ hlimit))⟩
  rw [List.mem_cons, List.mem_cons, List.mem_append] at hmem
  rcases hmem with rfl | rfl | hsearched | hclosing
  · cases hturn
  · cases hturn
  · exact ⟨step, hsearched, hturn⟩
  · split at hclosing
    · exact absurd hclosing List.not_mem_nil
    · have hnone := List.filterMap_eq_nil_iff.mp (closingSteps_turns io _ list.insts) step hclosing
      exact absurd (hnone.symm.trans hturn) (Option.some_ne_none _).symm

/-- Instances do not interfere: two runs of a tick that differ only in one instance's settings,
library and answers leave every other listed instance in the same view, if in both its turn comes
before the hourly limit is reached. -/
theorem view_tick_eq_of_agreeExcept {instanceID other : UUID} (hne : instanceID ≠ other)
    {first second : TickIO} (hagree : AgreeExcept other first second)
    (hlisted : Listed instanceID first) (world : World)
    (hfirst : TurnBeforeLimit instanceID (tickSteps world first))
    (hsecond : TurnBeforeLimit instanceID (tickSteps world second)) :
    (tick world first).view instanceID = (tick world second).view instanceID := by
  cases hsettings : first.globalSettings with
  | error err =>
    unfold tick
    rw [hsettings, hagree.globalSettings.symm.trans hsettings, hagree.now]
  | ok settings =>
    cases hlist : first.instances with
    | error err =>
      unfold tick
      rw [hsettings, hagree.globalSettings.symm.trans hsettings, hlist,
        hagree.instances.symm.trans hlist, hagree.now]
    | ok list =>
      have hsettings' := hagree.globalSettings.symm.trans hsettings
      have hlist' := hagree.instances.symm.trans hlist
      have hmem := hlisted settings list hsettings hlist
      have hview := view_searchLoop hne hagree settings.1.searchLimit list.nodup rfl rfl 0
        (turnBeforeLimit_searchSteps hsettings hlist hfirst)
        (hagree.now ▸ turnBeforeLimit_searchSteps hsettings' hlist' hsecond)
      have hshared (io io' : TickIO) :=
        (shared_searchLoop io settings.1.searchLimit (openTick world first.now settings) 0
          list.insts).trans (shared_searchLoop io' settings.1.searchLimit
            (openTick world first.now settings) 0 list.insts).symm
      have hreturned {io : TickIO} (h : (searchLoop io settings.1.searchLimit
          (openTick world first.now settings) 0 list.insts).2 = true) :
          io.cancelled (2 * list.insts.length) = true := by
        have hcancelled := cancelled_of_returned h
        rwa [Nat.zero_add] at hcancelled
      rw [tick_of_ok world hsettings hlist, tick_of_ok world hsettings' hlist', ← hagree.now]
      dsimp only
      split
      case isTrue hreturn =>
        split
        case isTrue => exact hview
        case isFalse =>
          have hcancelled := hreturned hreturn
          rw [hagree.cancelled] at hcancelled
          rw [view_closeTick_of_cancelled hmem hcancelled, hview]
      case isFalse =>
        split
        case isTrue hreturn =>
          have hcancelled := hreturned hreturn
          rw [← hagree.cancelled] at hcancelled
          rw [view_closeTick_of_cancelled hmem hcancelled, hview]
        case isFalse => exact view_closeTick hne hagree list.insts hview (hshared first second)

/-- Two instances, in this order. -/
def pairList : InstanceList where
  insts := [⟨1, "movies", "http://movies"⟩, ⟨2, "series", "http://series"⟩]
  nodup := by decide

/-- A tick in which the first instance's settings cannot be read and its history cannot be fetched. -/
def brokenFirst (io : TickIO) : TickIO :=
  { io with
    turn := fun id ↦ if id = 1 then { io.turn id with settings := .error "database" } else io.turn id
    poll := fun id ↦
      if id = 1 then { io.poll id with history := fun _ ↦ .error "unreachable" } else io.poll id }

/-- The second instance is searched just the same when the first one's calls fail. -/
theorem view_tick_eq_of_broken_first :
    let world := World.start ⟨false, ∅, 0, 0, hour, 0, 0⟩ ∅ ∅ Zone.utc 0
    let io := smoothTick minute ⟨defaults, defaults_valid⟩ pairList (library [1, 2])
    (commands (tick world (brokenFirst io)).trace).map (·.instanceID) = [2] ∧
    (tick world io).view 2 = (tick world (brokenFirst io)).view 2 := by
  intro world io
  have hagree : AgreeExcept 1 io (brokenFirst io) :=
    { now := rfl
      globalSettings := rfl
      instances := rfl
      cancelledFrom := rfl
      turn := fun id hid ↦ (if_neg hid).symm
      pollAt := rfl
      poll := fun id hid ↦ (if_neg hid).symm
      prune := rfl }
  have hlisted : Listed 2 io := by
    intro settings list _ hlist
    cases hlist
    decide
  exact ⟨by decide, view_tick_eq_of_agreeExcept (by decide) hagree hlisted world
    (turnBeforeLimit_of_mem (by decide)) (turnBeforeLimit_of_mem (by decide))⟩

end Huntarr2.Scheduling
