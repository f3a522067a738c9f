import Huntarr2.Arr.History
import Huntarr2.Scheduler.Effects

/-!
# History polling in small steps

One application that appends import events, and the poller that reads its history. A poll is not one
step: it reads the last poll time, fetches the pages one after the other, logs the records and records
its own time, and the application may append events in between. An uninterrupted run of these steps is
a poll of the scheduler.
-/

namespace Huntarr2.Polling

open Activity Arr GoStd Scheduling

/-- An import event of the application. -/
structure ImportEvent where
  eventType : ℤ
  id : ℤ
  itemID : ℤ
  date : Time
  deriving DecidableEq, Repr

/-- The event a record of a page describes. -/
def importEvent (cfg : HistoryConfig) (eventType : ℤ) (record : HistoryRecordResponse) : ImportEvent :=
  ⟨eventType, record.id, record.itemID cfg.itemIDField, record.date⟩

/-- A record without details. -/
def bareRecord (id itemID : ℤ) (date : Time) : HistoryRecordResponse where
  id := id
  date := date
  eventType := ""
  data := ∅
  sourceTitle := ""
  quality := ""
  customFormatScore := none
  episodeID := itemID
  movieID := itemID
  albumID := itemID
  movie := none
  series := none
  episode := none
  artist := none
  album := none

/-- What holds of all pairs of events, and of an appended event with all of them, holds of all pairs
afterwards. -/
theorem forall_pairs_append {R : ImportEvent → ImportEvent → Prop} {log : List ImportEvent}
    {event : ImportEvent} (hold : ∀ first ∈ log, ∀ second ∈ log, R first second)
    (hnew : ∀ earlier ∈ log, R earlier event ∧ R event earlier)
    (hself : R event event) :
    ∀ first ∈ log ++ [event], ∀ second ∈ log ++ [event], R first second := by
  intro first hfirst second hsecond
  rw [List.mem_append, List.mem_singleton] at hfirst hsecond
  cases hfirst with
  | inl hfirst =>
    cases hsecond with
    | inl hsecond => exact hold first hfirst second hsecond
    | inr hsecond => exact hsecond ▸ (hnew first hfirst).1
  | inr hfirst =>
    cases hsecond with
    | inl hsecond => exact hfirst ▸ (hnew second hsecond).2
    | inr hsecond => exact hfirst ▸ hsecond ▸ hself

/-- Where the poller is. -/
inductive Phase
  | idle
  | begun (since : Time)
  | fetching (since : Time) (upgraded : KeyedTable ℤ DeletedFile) (records : List HistoryRecord)
      (remaining : List ℤ)
  | logged

instance (phase : Phase) : Decidable (phase = .logged) :=
  match phase with
  | .logged => isTrue rfl
  | .idle | .begun _ | .fetching _ _ _ _ => isFalse Phase.noConfusion

/-- The start of the window of the running poll. -/
def Phase.since? : Phase → Option Time
  | .begun since | .fetching since _ _ _ => some since
  | .idle | .logged => none

/-- The records the running poll has collected. -/
def Phase.records : Phase → List HistoryRecord
  | .fetching _ _ records _ => records
  | .idle | .begun _ | .logged => []

/-- The event types whose pages the running poll has still to fetch. -/
def Phase.remaining : Phase → List ℤ
  | .fetching _ _ _ remaining => remaining
  | .idle | .begun _ | .logged => []

/-- The records that the running poll is about to log. -/
def Phase.finished (files : FileLookups) : Phase → List HistoryRecord
  | .fetching _ _ records [] => finishImports files records
  | _ => []

/-- The clock, the application's import events, the stored poll time, the poller, and what was logged.
The start of the first poll's window and the time of the last recorded poll are remembered for the
statements only. -/
structure State where
  now : Time
  log : List ImportEvent
  polls : PollTable
  phase : Phase
  reported : List HistoryRecord
  firstSince : Option Time
  lastRecorded : Option Time

/-- Before the first event. The table may hold a poll time of an earlier run. -/
def State.initial (polls : PollTable) (now : Time) : State where
  now := now
  log := []
  polls := polls
  phase := .idle
  reported := []
  firstSince := none
  lastRecorded := none

/-- What the application and the poller do. Where not every entry can be written, `logSome` says which
ones are, and whether the program ends before the last one. -/
inductive Action
  | append (event : ImportEvent) (now : Time)
  | start (failure : Option String) (now : Time)
  | deletePage (page : Page)
  | importPage (page : Page)
  | log (files : FileLookups)
  | logSome (files : FileLookups) (written : HistoryRecord → Bool) (ended : Bool)
  | record (failure : Option String) (now : Time)
  | restart

/-- `LastPolled` with the lookback of the first poll. -/
def State.start (state : State) (instanceID : UUID) (failure : Option String) (now : Time) : State :=
  match lastPolled state.polls instanceID failure with
  | .error _ => { state with now := now }
  | .ok last =>
    let since := if last = zeroTime then now - firstPollLookback else last
    { state with now := now, phase := .begun since, firstSince := some (state.firstSince.getD since) }

/-- `RecordPoll`; the poll ends whether it succeeds or not. -/
def State.record (state : State) (zone : Zone) (instanceID : UUID) (failure : Option String)
    (now : Time) : State :=
  { state with
    now := now
    polls := (recordPoll state.polls zone instanceID now failure).2
    phase := .idle
    lastRecorded := if failure.isSome then state.lastRecorded else some now }

section Step

variable (cfg : HistoryConfig) (zone : Zone) (instanceID : UUID)

/-- One step of the application or of the poller. A step out of turn does nothing; a failed page ends
the poll, and so does a restart of the program. An entry that cannot be written does not: the poll goes
on without it. -/
def step (state : State) : Action → State
  | .append event now => { state with now := now, log := state.log ++ [event] }
  | .start failure now =>
    match state.phase with
    | .idle => state.start instanceID failure now
    | _ => state
  | .deletePage page =>
    match state.phase with
    | .begun since => { state with
        phase := .fetching since (upgradedItems cfg since page) [] cfg.importEventTypes }
    | _ => state
  | .importPage page =>
    match state.phase with
    | .fetching since upgraded records (_ :: remaining) =>
      match page with
      | .error _ => { state with phase := .idle }
      | .ok importRecords => { state with
          phase := .fetching since upgraded (addImportPage cfg since upgraded records importRecords)
            remaining }
    | _ => state
  | .log files =>
    match state.phase with
    | .fetching _ _ records [] =>
      { state with phase := .logged, reported := state.reported ++ finishImports files records }
    | _ => state
  | .logSome files written ended =>
    match state.phase with
    | .fetching _ _ records [] =>
      { state with
        phase := if ended then .idle else .logged
        reported := state.reported ++ (finishImports files records).filter written }
    | _ => state
  | .record failure now =>
    match state.phase with
    | .logged => state.record zone instanceID failure now
    | _ => state
  | .restart => { state with phase := .idle }

/-- What a step does, in its turn or out of it. -/
theorem step_cases {motive : Action → State → Prop} (state : State) (action : Action)
    (skipped : ∀ action, motive action state)
    (appended : ∀ event now,
      motive (.append event now) { state with now := now, log := state.log ++ [event] })
    (started : ∀ failure now, state.phase = .idle →
      motive (.start failure now) (state.start instanceID failure now))
    (opened : ∀ since page, state.phase = .begun since →
      motive (.deletePage page) { state with
        phase := .fetching since (upgradedItems cfg since page) [] cfg.importEventTypes })
    (unfetched : ∀ err, state.phase ≠ .logged →
      motive (.importPage (.error err)) { state with phase := .idle })
    (fetched : ∀ since upgraded records eventType remaining page,
      state.phase = .fetching since upgraded records (eventType :: remaining) →
      motive (.importPage (.ok page)) { state with
        phase := .fetching since upgraded (addImportPage cfg since upgraded records page) remaining })
    (logged : ∀ since upgraded records files, state.phase = .fetching since upgraded records [] →
      motive (.log files) { state with
        phase := .logged, reported := state.reported ++ finishImports files records })
    (loggedSome : ∀ since upgraded records files written ended,
      state.phase = .fetching since upgraded records [] →
      motive (.logSome files written ended) { state with
        phase := if ended then .idle else .logged
        reported := state.reported ++ (finishImports files records).filter written })
    (recorded : ∀ failure now, state.phase = .logged →
      motive (.record failure now) (state.record zone instanceID failure now))
    (restarted : motive .restart { state with phase := .idle }) :
    motive action (step cfg zone instanceID state action) := by
  cases action with
  | append event now => exact appended event now
  | start failure now =>
    unfold step
    dsimp only
    split
    case h_1 hidle => exact started failure now hidle
    case h_2 => exact skipped _
  | deletePage page =>
    unfold step
    dsimp only
    split
    case h_1 since hbegun => exact opened since page hbegun
    case h_2 => exact skipped _
  | importPage page =>
    unfold step
    dsimp only
    split
    case h_1 since upgraded records eventType remaining hfetching =>
      cases page with
      | error err => exact unfetched err (by rw [hfetching]; exact Phase.noConfusion)
      | ok page => exact fetched since upgraded records eventType remaining page hfetching
    case h_2 => exact skipped _
  | log files =>
    unfold step
    dsimp only
    split
    case h_1 since upgraded records hfetched => exact logged since upgraded records files hfetched
    case h_2 => exact skipped _
  | logSome files written ended =>
    unfold step
    dsimp only
    split
    case h_1 since upgraded records hfetched =>
      exact loggedSome since upgraded records files written ended hfetched
    case h_2 => exact skipped _
  | record failure now =>
    unfold step
    dsimp only
    split
    case h_1 hlogged => exact recorded failure now hlogged
    case h_2 => exact skipped _
  | restart => exact restarted

/-- The steps of an uninterrupted poll. -/
def pollActions (startFailure recordFailure : Option String) (startedAt recordAt : Time)
    (deletePage : Page) (pages : List Page) (files : FileLookups) : List Action :=
  [.start startFailure startedAt, .deletePage deletePage] ++ pages.map .importPage ++
    [.log files, .record recordFailure recordAt]

/-- The steps that continue a poll. -/
def Action.Continues : Action → Prop
  | .deletePage _ | .importPage _ | .log _ | .logSome _ _ _ | .record _ _ => True
  | .append _ _ | .start _ _ | .restart => False

/-- Without a running poll nothing is continued. -/
theorem foldl_of_idle (state : State) (hphase : state.phase = .idle) {actions : List Action}
    (hactions : ∀ action ∈ actions, action.Continues) :
    actions.foldl (step cfg zone instanceID) state = state := by
  induction actions with
  | nil => rfl
  | cons action actions ih =>
    rw [List.forall_mem_cons] at hactions
    have hstep : step cfg zone instanceID state action = state := by
      unfold step
      cases action <;> first | exact hactions.1.elim | simp only [hphase]
    rw [List.foldl_cons, hstep, ih hactions.2]

theorem continues_importPages (pages : List Page) :
    ∀ action ∈ pages.map Action.importPage, action.Continues :=
  List.forall_mem_map.mpr fun _ _ ↦ trivial

/-- The import pages one after the other are the loop of the fetch. -/
theorem foldl_importPage (state : State) (since : Time) (upgraded : KeyedTable ℤ DeletedFile)
    (records : List HistoryRecord) {types : List ℤ} {pages : List Page}
    (hlength : types.length = pages.length) :
    (pages.map .importPage).foldl (step cfg zone instanceID)
        { state with phase := .fetching since upgraded records types } =
      match collectImports cfg since upgraded records (types.zip pages) with
      | .error _ => { state with phase := .idle }
      | .ok records => { state with phase := .fetching since upgraded records [] } := by
  induction pages generalizing types records with
  | nil =>
    rw [List.length_eq_zero_iff.mp hlength]
    rfl
  | cons page pages ih =>
    obtain ⟨eventType, types, rfl⟩ := List.exists_cons_of_length_eq_add_one hlength
    rw [List.map_cons, List.foldl_cons, List.zip_cons_cons]
    unfold collectImports
    rw [List.foldlM_cons]
    cases page with
    | error err =>
      exact foldl_of_idle cfg zone instanceID _ rfl (continues_importPages pages)
    | ok importRecords => exact ih _ (Nat.succ.inj hlength)

/-- The steps after the start of a poll. -/
def restActions (recordFailure : Option String) (recordAt : Time) (deletePage : Page)
    (pages : List Page) (files : FileLookups) : List Action :=
  .deletePage deletePage :: (pages.map .importPage ++ [.log files, .record recordFailure recordAt])

theorem foldl_pollActions_eq {state : State} (hphase : state.phase = .idle)
    (startFailure recordFailure : Option String) (startedAt recordAt : Time) (deletePage : Page)
    (pages : List Page) (files : FileLookups) :
    (pollActions startFailure recordFailure startedAt recordAt deletePage pages files).foldl
        (step cfg zone instanceID) state =
      (restActions recordFailure recordAt deletePage pages files).foldl (step cfg zone instanceID)
        (state.start instanceID startFailure startedAt) := by
  have hstart : step cfg zone instanceID state (.start startFailure startedAt) =
      state.start instanceID startFailure startedAt := by
    unfold step
    rw [hphase]
  unfold pollActions
  rw [← hstart, List.append_assoc]
  rfl

/-- A failed read of the last poll time ends the poll. -/
theorem foldl_pollActions_of_error {state : State} (hphase : state.phase = .idle)
    {startFailure : Option String} {err : String}
    (hlast : lastPolled state.polls instanceID startFailure = .error err)
    (recordFailure : Option String) (startedAt recordAt : Time) (deletePage : Page)
    (pages : List Page) (files : FileLookups) :
    (pollActions startFailure recordFailure startedAt recordAt deletePage pages files).foldl
      (step cfg zone instanceID) state = { state with now := startedAt } := by
  have hrest : ∀ action ∈ restActions recordFailure recordAt deletePage pages files,
      action.Continues := by
    unfold restActions
    rw [List.forall_mem_cons, List.forall_mem_append]
    exact ⟨trivial, continues_importPages pages,
      List.forall_mem_cons.mpr ⟨trivial, List.forall_mem_singleton.mpr trivial⟩⟩
  rw [foldl_pollActions_eq cfg zone instanceID hphase]
  have hstart : state.start instanceID startFailure startedAt = { state with now := startedAt } := by
    unfold State.start
    rw [hlast]
  rw [hstart]
  exact foldl_of_idle cfg zone instanceID { state with now := startedAt } hphase hrest

/-- After a successful read the outcome of the fetch decides. -/
theorem foldl_pollActions_of_ok {state : State} (hphase : state.phase = .idle)
    {startFailure : Option String} {last : Time}
    (hlast : lastPolled state.polls instanceID startFailure = .ok last)
    (recordFailure : Option String) (startedAt recordAt : Time) (deletePage : Page)
    {pages : List Page} (hlength : cfg.importEventTypes.length = pages.length)
    (files : FileLookups) :
    let since := if last = zeroTime then startedAt - firstPollLookback else last
    let started := { state with
      now := startedAt, firstSince := some (state.firstSince.getD since) }
    (pollActions startFailure recordFailure startedAt recordAt deletePage pages files).foldl
        (step cfg zone instanceID) state =
      match fetchArrHistory cfg since deletePage (cfg.importEventTypes.zip pages) files with
      | .error _ => started
      | .ok records => State.record { started with reported := state.reported ++ records } zone
          instanceID recordFailure recordAt := by
  intro since started
  have hstart : state.start instanceID startFailure startedAt =
      { started with phase := .begun since } := by
    unfold State.start
    rw [hlast]
  have hpages := foldl_importPage cfg zone instanceID started since
    (upgradedItems cfg since deletePage) [] hlength
  rw [foldl_pollActions_eq cfg zone instanceID hphase, hstart]
  unfold restActions fetchArrHistory
  rw [List.foldl_cons, List.foldl_append]
  change [Action.log files, .record recordFailure recordAt].foldl _
    ((pages.map Action.importPage).foldl (step cfg zone instanceID)
      { started with
        phase := .fetching since (upgradedItems cfg since deletePage) [] cfg.importEventTypes }) = _
  rw [hpages]
  cases collectImports cfg since (upgradedItems cfg since deletePage) []
      (cfg.importEventTypes.zip pages) with
  | error err =>
    have hidle : started = { started with phase := .idle } := by
      rw [← hphase]
    rw [← hidle]
    exact foldl_of_idle cfg zone instanceID started hphase
      (List.forall_mem_cons.mpr ⟨trivial, List.forall_mem_singleton.mpr trivial⟩)
  | ok records => rfl

/-- The entries logged in a trace. -/
def loggedEntries (trace : List Event) : List Entry :=
  trace.filterMap fun event ↦ match event with
    | .logged entry => some entry
    | _ => none

theorem loggedEntries_append (world : World) (events : List Event) :
    loggedEntries (world.append events).trace = loggedEntries world.trace ++ loggedEntries events :=
  List.filterMap_append

theorem loggedEntries_startEvents (inst : Instance) (io : PollIO) (last : Time) :
    loggedEntries (startEvents inst io last) = [] := by
  unfold startEvents
  split <;> rfl

theorem loggedEntries_pollEvents (inst : Instance) (io : PollIO) (last : Time)
    (records : List HistoryRecord) :
    loggedEntries (pollEvents inst io last records) = records.map (importEntry inst) := by
  have hstart := loggedEntries_startEvents inst io last
  unfold pollEvents loggedEntries at *
  rw [List.filterMap_append, List.filterMap_append, hstart, List.filterMap_map]
  exact (List.append_nil _).trans (by simp)

/-- An uninterrupted poll is a poll of the scheduler: it logs the same records and stores the same poll
time, whatever fails. -/
theorem foldl_pollActions (world : World) (inst : Instance) (state : State)
    (hphase : state.phase = .idle) (hpolls : state.polls = world.polls)
    (lastPolledFailure recordFailure : Option String) (startedAt recordAt : Time) (deletePage : Page)
    {pages : List Page} (hlength : cfg.importEventTypes.length = pages.length)
    (files : FileLookups) :
    let final := (pollActions lastPolledFailure recordFailure startedAt recordAt deletePage pages
      files).foldl (step cfg world.zone inst.id) state
    let after := pollInstanceHistory world inst
      { lastPolledFailure := lastPolledFailure
        startedAt := startedAt
        history := fun since ↦
          fetchArrHistory cfg since deletePage (cfg.importEventTypes.zip pages) files
        recordAt := recordAt
        recordFailure := recordFailure }
    final.phase = .idle ∧ final.polls = after.polls ∧
      ∃ records, final.reported = state.reported ++ records ∧
        loggedEntries after.trace = loggedEntries world.trace ++ records.map (importEntry inst) := by
  intro final
  apply pollInstanceHistory_cases (motive := fun after ↦ final.phase = .idle ∧
    final.polls = after.polls ∧ ∃ records, final.reported = state.reported ++ records ∧
      loggedEntries after.trace = loggedEntries world.trace ++ records.map (importEntry inst))
  case unread =>
    intro err herr
    have hfinal : final = { state with now := startedAt } :=
      foldl_pollActions_of_error cfg world.zone inst.id hphase (hpolls ▸ herr) recordFailure startedAt
        recordAt deletePage pages files
    rw [hfinal]
    exact ⟨hphase, hpolls, [], (List.append_nil _).symm, (List.append_nil _).symm⟩
  case unfetched =>
    intro last err hok hfetch
    have hfinal : final = _ := foldl_pollActions_of_ok cfg world.zone inst.id hphase (hpolls ▸ hok)
      recordFailure startedAt recordAt deletePage hlength files
    dsimp only at hfinal hfetch
    rw [hfetch] at hfinal
    rw [hfinal]
    refine ⟨hphase, hpolls, [], (List.append_nil _).symm, ?_⟩
    rw [loggedEntries_append, loggedEntries_startEvents]
    rfl
  case polled =>
    intro last records hok hfetch
    have hfinal : final = _ := foldl_pollActions_of_ok cfg world.zone inst.id hphase (hpolls ▸ hok)
      recordFailure startedAt recordAt deletePage hlength files
    dsimp only at hfinal hfetch
    rw [hfetch] at hfinal
    rw [hfinal]
    refine ⟨rfl, ?_, records, rfl, ?_⟩
    · change (recordPoll state.polls _ _ _ _).2 = _
      rw [hpolls]
    · change loggedEntries (world.append _).trace = _
      rw [loggedEntries_append, loggedEntries_pollEvents]

end Step

end Huntarr2.Polling
