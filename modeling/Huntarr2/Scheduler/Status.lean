import Huntarr2.Scheduler.Pacing

/-!
# The status snapshot

The snapshot shows the schedule entries as they were last written. A tick writes the entry of an
instance that it finds disabled or takes through a search cycle, and it drops the entries of unlisted
instances; every other entry keeps its name and its enabled flag, whatever became of the instance.
-/

namespace Huntarr2.Scheduling

open Activity Arr Cooldown GoStd Settings

/-- `Status`. -/
structure Status where
  running : Bool
  searchesThisHour : ℤ
  hourlyLimit : ℤ
  instances : List InstanceSchedule

/-- `Status`, sorted by instance name; the order of instances of one name is left open by the source. -/
def Scheduler.status (sched : Scheduler) : Status where
  running := sched.running
  searchesThisHour := sched.searchCount
  hourlyLimit := sched.hourlyLimit
  instances := (sched.schedules.entries.map fun row ↦ row.2).insertionSort
    fun first second ↦ first.instanceName ≤ second.instanceName

theorem mem_status_instances {sched : Scheduler} {entry : InstanceSchedule} :
    entry ∈ sched.status.instances ↔ ∃ id, sched.schedules.lookup id = some entry := by
  unfold Scheduler.status
  rw [List.mem_insertionSort, List.mem_map]
  constructor
  · rintro ⟨row, hrow, rfl⟩
    exact ⟨row.1, AList.mem_lookup_iff.mpr hrow⟩
  · rintro ⟨id, hlookup⟩
    exact ⟨⟨id, entry⟩, AList.mem_lookup_iff.mp hlookup, rfl⟩

/-! ## Entries are keyed by their instance -/

/-- Every entry stands under its own instance. -/
def Keyed (world : World) : Prop :=
  ∀ id, ∀ entry ∈ world.sched.schedules.lookup id, entry.instanceID = id

theorem Keyed.insert {world : World} (h : Keyed world) {entry : InstanceSchedule} {id : UUID}
    (hentry : entry.instanceID = id) :
    ∀ other, ∀ found ∈ (world.sched.schedules.insert id entry).lookup other,
      found.instanceID = other := by
  intro other found hfound
  rw [KeyedTable.lookup_insert_eq] at hfound
  split at hfound
  case isTrue hsame =>
    cases hfound
    exact hentry.trans hsame.symm
  case isFalse => exact h other found hfound

theorem Keyed.apply {world : World} (h : Keyed world) (step : Step) : Keyed (step.apply world) := by
  apply Step.apply_cases (motive := fun _ after ↦ Keyed after)
  case started =>
    intro now
    obtain ⟨_, _, hstart⟩ := startTick_eq world now
    rw [hstart]
    exact h
  case limited => exact fun _ ↦ h
  case pruned => exact fun _ _ _ ↦ h
  case passed => exact fun _ _ _ _ _ ↦ h
  case removed =>
    intro insts id entry hentry
    change entry ∈ (world.sched.schedules.deleteWhere _).lookup id at hentry
    rw [KeyedTable.lookup_deleteWhere, Option.mem_filter_iff] at hentry
    exact h id entry hentry.1
  case turned =>
    intro now inst cancelled io
    apply takeTurn_cases (motive := Keyed)
    case idle => exact h
    case disabled => exact h.insert rfl
    case closed => exact fun _ _ ↦ h
    case quiet => exact fun _ _ _ _ _ ↦ h.insert rfl
    case sent => exact fun _ _ _ _ _ _ _ _ ↦ h.insert rfl

theorem Keyed.foldl {world : World} (h : Keyed world) (ios : List TickIO) :
    Keyed (ios.foldl tick world) := by
  rw [foldl_tick]
  generalize runSteps world ios = steps
  induction steps generalizing world with
  | nil => exact h
  | cons step steps ih => exact ih (h.apply step)

/-! ## What a turn does to the entry -/

/-- A turn that finds the instance disabled or runs a cycle writes the entry anew. -/
theorem lookup_takeTurn_of_written {world : World} {now : Time} {inst : Instance} (cancelled : Bool)
    {io : TurnIO} {resolved : Validated} (hsettings : io.settings = .ok resolved)
    (h : resolved.1.enabled = false ∨ Reaches world now inst io resolved) :
    ∃ nextAt interval,
      (takeTurn world now inst cancelled io).sched.schedules.lookup inst.id =
        some (newInstanceSchedule inst.id inst.name nextAt resolved.1.enabled interval) := by
  unfold takeTurn
  rw [hsettings]
  dsimp only
  split
  case isTrue hdisabled =>
    have hflag : resolved.1.enabled = false := by simpa using hdisabled
    rw [hflag]
    exact ⟨zeroTime, 0, AList.lookup_insert _⟩
  case isFalse henabled =>
    have hflag : resolved.1.enabled = true := by simpa using henabled
    have hreaches := h.resolve_left fun hoff ↦ by rw [hflag] at hoff; cases hoff
    rw [hflag]
    split
    case isTrue hwaiting =>
      cases hlookup : world.sched.schedules.lookup inst.id with
      | none => simp [hlookup] at hwaiting
      | some entry =>
        have hbefore : now < entry.nextSearchAt := by simpa [hlookup] using hwaiting
        exact absurd hbefore (not_lt.mpr (hreaches.due entry hlookup))
    case isFalse =>
      split
      case isTrue hclosed => simp [World.emit, hreaches.inWindow] at hclosed
      case isFalse => exact ⟨_, _, AList.lookup_insert _⟩

/-- Any other turn leaves the entry alone. -/
theorem lookup_takeTurn_of_kept {world : World} {now : Time} {inst : Instance} {cancelled : Bool}
    {io : TurnIO} {resolved : Validated} (hsettings : io.settings = .ok resolved)
    (h : ¬(resolved.1.enabled = false ∨ Reaches world now inst io resolved)) :
    (takeTurn world now inst cancelled io).sched.schedules.lookup inst.id =
      world.sched.schedules.lookup inst.id := by
  rw [not_or] at h
  obtain ⟨henabled, hnot⟩ := h
  unfold takeTurn
  rw [hsettings]
  dsimp only
  split
  case isTrue hdisabled => exact absurd (by simpa using hdisabled) henabled
  case isFalse hflag =>
    split
    case isTrue => rfl
    case isFalse hdue =>
      split
      case isTrue => rfl
      case isFalse hwindow =>
        refine absurd ?_ hnot
        exact
          { settings := hsettings
            enabled := by simpa using henabled
            due := fun entry hentry ↦ by
              rw [hentry] at hdue
              simpa using hdue
            inWindow := by simpa [World.emit] using hwindow }

theorem Step.apply_zone (world : World) (step : Step) : (step.apply world).zone = world.zone := by
  apply Step.apply_cases (motive := fun _ after ↦ after.zone = world.zone)
  case started =>
    intro now
    obtain ⟨_, _, hstart⟩ := startTick_eq world now
    rw [hstart]
    rfl
  case limited => exact fun _ ↦ rfl
  case removed => exact fun _ ↦ rfl
  case pruned => exact fun _ _ _ ↦ rfl
  case passed => exact fun _ _ _ _ _ ↦ rfl
  case turned =>
    intro now inst cancelled io
    apply takeTurn_cases (motive := fun after ↦ after.zone = world.zone)
    case idle => rfl
    case disabled => rfl
    case closed => exact fun _ _ ↦ rfl
    case quiet => exact fun _ _ _ _ _ ↦ rfl
    case sent => exact fun _ _ _ _ _ _ _ _ ↦ rfl

theorem foldl_apply_zone (steps : List Step) (world : World) :
    (steps.foldl Step.apply world).zone = world.zone := by
  induction steps generalizing world with
  | nil => rfl
  | cons step steps ih => rw [List.foldl_cons, ih, step.apply_zone]

theorem reaches_congr {first second : World} {inst : Instance} (hzone : first.zone = second.zone)
    (hlookup : first.sched.schedules.lookup inst.id = second.sched.schedules.lookup inst.id)
    (now : Time) (io : TurnIO) (resolved : Validated) :
    Reaches first now inst io resolved ↔ Reaches second now inst io resolved :=
  ⟨fun h ↦ ⟨h.settings, h.enabled, hlookup ▸ h.due, hzone ▸ h.inWindow⟩,
    fun h ↦ ⟨h.settings, h.enabled, hlookup ▸ h.due, hzone ▸ h.inWindow⟩⟩

/-! ## Ticks -/

/-- The tick gets past its loop over the instances of the list. -/
def RunsToEnd (world : World) (io : TickIO) (list : InstanceList) : Prop :=
  ∃ settings : Validated, io.globalSettings = .ok settings ∧ io.instances = .ok list ∧
    (searchSteps io settings.1.searchLimit
      (setHourlyLimit (startTick world io.now) settings.1.searchLimit) 0 list.insts).2 = false

/-- The tick resolves these settings of the instance. -/
def ResolvedIn (world : World) (io : TickIO) (inst : Instance) (resolved : Validated) : Prop :=
  (∃ cancelled, .turn io.now inst cancelled (io.turn inst.id) ∈ tickSteps world io) ∧
    (io.turn inst.id).settings = .ok resolved

theorem exists_tickSteps_of_runsToEnd {world : World} {io : TickIO} {list : InstanceList}
    (h : RunsToEnd world io list) :
    ∃ opening closing, tickSteps world io = opening ++ .removeUnlisted list.insts :: closing ∧
      ∀ step ∈ closing, step.turnOf = none ∧ ∀ insts, step ≠ .removeUnlisted insts := by
  obtain ⟨settings, hsettings, hlist, hreturned⟩ := h
  unfold tickSteps
  rw [hsettings, hlist]
  dsimp only
  rw [hreturned, if_neg Bool.false_ne_true]
  unfold closingSteps
  rw [← List.cons_append, ← List.cons_append]
  refine ⟨_, _, rfl, ?_⟩
  rw [List.forall_mem_cons, List.forall_mem_append, List.forall_mem_singleton]
  refine ⟨⟨rfl, fun _ ↦ Step.noConfusion⟩, ?_, rfl, fun _ ↦ Step.noConfusion⟩
  split
  · intro step hstep
    obtain ⟨inst, -, rfl⟩ := mem_pollSteps hstep
    exact ⟨rfl, fun _ ↦ Step.noConfusion⟩
  · exact fun step hstep ↦ absurd hstep List.not_mem_nil

/-- A tick that runs to its end keeps no entry of an unlisted instance. -/
theorem lookup_eq_none_of_runsToEnd {world : World} {io : TickIO} {list : InstanceList}
    (h : RunsToEnd world io list) {id : UUID} (hid : id ∉ list.insts.map (·.id)) :
    (tick world io).sched.schedules.lookup id = none := by
  obtain ⟨opening, closing, heq, hclosing⟩ := exists_tickSteps_of_runsToEnd h
  have hturn : ∀ step ∈ closing, step.turnOf ≠ some id := by
    intro step hstep hsome
    rw [(hclosing step hstep).1] at hsome
    cases hsome
  have hkeeps : ∀ step ∈ closing, step.Keeps id :=
    fun step hstep insts hremove ↦ absurd hremove ((hclosing step hstep).2 insts)
  rw [tick_eq_foldl, heq, List.foldl_append, List.foldl_cons,
    (foldl_no_turn hturn _).2 hkeeps]
  change ((opening.foldl Step.apply world).sched.schedules.deleteWhere _).lookup id = none
  rw [KeyedTable.lookup_deleteWhere]
  cases (opening.foldl Step.apply world).sched.schedules.lookup id with
  | none => rfl
  | some entry => exact Option.filter_some_neg (by simpa using hid)

/-- The entry of an instance with a turn is what its turn makes of the entry before the tick. -/
theorem tick_lookup_of_turn {world : World} {io : TickIO} {inst : Instance} {cancelled : Bool}
    (hmem : .turn io.now inst cancelled (io.turn inst.id) ∈ tickSteps world io) :
    ∃ during : World, during.zone = world.zone ∧
      during.sched.schedules.lookup inst.id = world.sched.schedules.lookup inst.id ∧
      (tick world io).sched.schedules.lookup inst.id =
        (takeTurn during io.now inst cancelled (io.turn inst.id)).sched.schedules.lookup inst.id := by
  have hkeeps : ∀ step ∈ tickSteps world io, step.Keeps inst.id :=
    fun step hstep ↦ keeps_of_listed (listed_of_turn hmem rfl) hstep
  cases tickSteps_split world io inst.id with
  | inl hnone => exact absurd rfl (hnone _ hmem)
  | inr hsplit =>
    obtain ⟨before, step, after, heq, hturn, hbefore, hafter⟩ := hsplit
    have hstep : .turn io.now inst cancelled (io.turn inst.id) = step := by
      rw [heq, List.mem_append, List.mem_cons] at hmem
      rcases hmem with hmem | hmem | hmem
      · exact absurd rfl (hbefore _ hmem)
      · exact hmem
      · exact absurd rfl (hafter _ hmem)
    rw [heq, List.forall_mem_append, List.forall_mem_cons] at hkeeps
    obtain ⟨hkeepsBefore, -, hkeepsAfter⟩ := hkeeps
    refine ⟨before.foldl Step.apply world, foldl_apply_zone before world,
      (foldl_no_turn hbefore world).2 hkeepsBefore, ?_⟩
    rw [tick_eq_foldl, heq, List.foldl_append, List.foldl_cons, ← hstep,
      (foldl_no_turn hafter _).2 hkeepsAfter]
    rfl

/-! ## The truth of the snapshot -/

/-- After the tick every entry belongs to a listed instance, and the entries of the instances whose
settings the tick resolved show the name and the enabled flag of these. -/
structure TellsTruth (world : World) (io : TickIO) (list : InstanceList) : Prop where
  listed : ∀ entry ∈ (tick world io).sched.status.instances,
    entry.instanceID ∈ list.insts.map (·.id)
  current : ∀ inst resolved, ResolvedIn world io inst resolved →
    ∀ entry ∈ (tick world io).sched.status.instances, entry.instanceID = inst.id →
      entry.instanceName = inst.name ∧ entry.enabled = resolved.1.enabled

/-- An instance whose entry was out of date before the tick is disabled, or its search is due and its
window open. -/
def RewritesStale (world : World) (io : TickIO) : Prop :=
  ∀ inst resolved, ResolvedIn world io inst resolved →
    ∀ entry ∈ world.sched.schedules.lookup inst.id,
      entry.instanceName ≠ inst.name ∨ entry.enabled ≠ resolved.1.enabled →
        resolved.1.enabled = false ∨ Reaches world io.now inst (io.turn inst.id) resolved

/-- The entry of an instance with resolved settings shows them exactly if it did before the tick, or
the tick writes it. -/
theorem entry_current_iff {world : World} {io : TickIO} {inst : Instance} {resolved : Validated}
    (hresolved : ResolvedIn world io inst resolved) :
    (∀ entry ∈ (tick world io).sched.schedules.lookup inst.id,
        entry.instanceName = inst.name ∧ entry.enabled = resolved.1.enabled) ↔
      ∀ entry ∈ world.sched.schedules.lookup inst.id,
        entry.instanceName ≠ inst.name ∨ entry.enabled ≠ resolved.1.enabled →
          resolved.1.enabled = false ∨ Reaches world io.now inst (io.turn inst.id) resolved := by
  obtain ⟨⟨cancelled, hmem⟩, hsettings⟩ := hresolved
  obtain ⟨during, hzone, hbefore, hafter⟩ := tick_lookup_of_turn hmem
  have hreaches := reaches_congr hzone hbefore io.now (io.turn inst.id) resolved
  rw [hafter, ← hreaches]
  by_cases hwritten :
      resolved.1.enabled = false ∨ Reaches during io.now inst (io.turn inst.id) resolved
  · obtain ⟨nextAt, interval, hentry⟩ :=
      lookup_takeTurn_of_written cancelled hsettings hwritten
    rw [hentry]
    exact ⟨fun _ _ _ _ ↦ hwritten, fun _ entry hmem ↦ by cases hmem; exact ⟨rfl, rfl⟩⟩
  · rw [lookup_takeTurn_of_kept hsettings hwritten, hbefore]
    refine forall₂_congr fun entry _ ↦ ⟨fun hcurrent hstale ↦ ?_, fun hfresh ↦ ?_⟩
    · exact absurd hcurrent (by tauto)
    · by_contra hstale
      exact hwritten (hfresh (by tauto))

/-- After a tick that runs to its end the snapshot tells the truth exactly if the tick writes every
entry that was out of date. -/
theorem tellsTruth_iff {tickInterval : Duration} {created : Time} {sched : Scheduler}
    (hnew : new tickInterval created = .ok sched) (cooldowns : Cooldown.Table) (polls : PollTable)
    (zone : Zone) (ios : List TickIO) (io : TickIO) (list : InstanceList) :
    let world := ios.foldl tick (World.start sched cooldowns polls zone created)
    RunsToEnd world io list → (TellsTruth world io list ↔ RewritesStale world io) := by
  intro world hend
  have hkeyed : Keyed (tick world io) := by
    have hstart : Keyed (World.start sched cooldowns polls zone created) := by
      obtain rfl := eq_of_new hnew
      intro id entry hentry
      cases hentry
    have hrun := hstart.foldl (ios ++ [io])
    rw [List.foldl_append] at hrun
    exact hrun
  have hlisted : ∀ entry ∈ (tick world io).sched.status.instances,
      entry.instanceID ∈ list.insts.map (·.id) := by
    intro entry hentry
    obtain ⟨id, hlookup⟩ := mem_status_instances.mp hentry
    rw [hkeyed id entry hlookup]
    by_contra hid
    rw [lookup_eq_none_of_runsToEnd hend hid] at hlookup
    cases hlookup
  have hown (inst : Instance) (entry : InstanceSchedule) :
      entry ∈ (tick world io).sched.status.instances ∧ entry.instanceID = inst.id ↔
        entry ∈ (tick world io).sched.schedules.lookup inst.id := by
    rw [mem_status_instances]
    constructor
    · rintro ⟨⟨id, hlookup⟩, hsame⟩
      rw [← hsame, hkeyed id entry hlookup]
      exact hlookup
    · exact fun hlookup ↦ ⟨⟨inst.id, hlookup⟩, hkeyed inst.id entry hlookup⟩
  constructor
  · intro h inst resolved hresolved
    refine (entry_current_iff hresolved).mp fun entry hentry ↦ ?_
    obtain ⟨hmem, hsame⟩ := (hown inst entry).mpr hentry
    exact h.current inst resolved hresolved entry hmem hsame
  · intro h
    refine ⟨hlisted, fun inst resolved hresolved entry hentry hsame ↦ ?_⟩
    exact (entry_current_iff hresolved).mpr (h inst resolved hresolved) entry
      ((hown inst entry).mp ⟨hentry, hsame⟩)

/-- The list of one instance, renamed. -/
def renamedList : InstanceList where
  insts := [⟨1, "films", "http://movies"⟩]
  nodup := List.nodup_singleton _

/-- The default settings with a window from one to two o'clock. -/
def nightWindow : Validated :=
  ⟨{ defaults with searchWindowStart := "01:00", searchWindowEnd := "02:00" },
    by constructor <;> decide⟩

/-- A renamed instance whose search is due in its window shows its new name. -/
theorem tellsTruth_renamed :
    ∃ sched, new minute 0 = .ok sched ∧
      let world := [smoothTick minute nightWindow soloList (library [1])].foldl tick
        (World.start sched ∅ ∅ Zone.utc 0)
      let io := smoothTick (70 * minute) nightWindow renamedList (library [1])
      RunsToEnd world io renamedList ∧ (TellsTruth world io renamedList ↔ RewritesStale world io) := by
  have hnew : new minute 0 = .ok _ := rfl
  refine ⟨_, hnew, ?_⟩
  intro world io
  have hend : RunsToEnd world io renamedList := ⟨nightWindow, rfl, rfl, by decide⟩
  exact ⟨hend, tellsTruth_iff hnew ∅ ∅ Zone.utc _ io renamedList hend⟩

/-- An instance that was disabled, and is enabled and renamed before a tick outside its window, is still
shown under its old name and as disabled. -/
theorem stale_entry_shown :
    let disabled : Validated := ⟨{ defaults with enabled := false }, by constructor <;> decide⟩
    let io := smoothTick (2 * minute) nightWindow renamedList (library [1])
    ∃ sched, new minute 0 = .ok sched ∧
      let world := [smoothTick minute disabled soloList (library [1])].foldl tick
        (World.start sched ∅ ∅ Zone.utc 0)
      RunsToEnd world io renamedList ∧
      (tick world io).sched.status.instances = [⟨1, "movies", zeroTime, 0, false⟩] ∧
      ¬TellsTruth world io renamedList := by
  intro disabled io
  refine ⟨_, rfl, ?_⟩
  intro world
  refine ⟨⟨nightWindow, rfl, rfl, by decide⟩, by decide, fun h ↦ ?_⟩
  have hresolved : ResolvedIn world io ⟨1, "films", "http://movies"⟩ nightWindow :=
    ⟨⟨false, List.mem_of_getElem? (i := 2) rfl⟩, rfl⟩
  have hcurrent := h.current _ _ hresolved ⟨1, "movies", zeroTime, 0, false⟩ (by decide) rfl
  exact absurd hcurrent.1 (by decide)

end Huntarr2.Scheduling
