import Huntarr2.Polling.NoDuplicate
import Huntarr2.Polling.NoLoss

/-!
# Polls that fail, and restarts

A poll may fail at any call, and the program may end at any point of it, also between two log entries.
The next poll reads again from the last time that was recorded, so no import is lost by this; an import
is repeated only by a poll that logged it and did not record its time. What is lost is the import whose
entry cannot be written, since its poll goes on and records its time.
-/

namespace Huntarr2.Polling

open Arr GoStd Machine Scheduling

/-! ## Every import is reported at least once -/

/-- A poll that recorded its time before the run. -/
def State.resumed (polls : PollTable) (last now : Time) : State :=
  { State.initial polls now with firstSince := some last, lastRecorded := some last }

/-- Polls of which every call may fail but the writes of entries, and which may end between two entries;
a page that can be read is the newest one and holds the window. -/
def Survives (cfg : HistoryConfig) (instanceID : UUID) (pageSize : ℕ) (state : State) : Action → Prop
  | .append event now => Succeeds cfg instanceID pageSize state (.append event now)
  | .start _ now | .record _ now => state.now ≤ now
  | .deletePage _ | .importPage (.error _) | .log _ | .restart => True
  -- The poll would go on without the entry and record a time after the import.
  | .logSome _ _ ended => ended = true
  | .importPage (.ok page) => Succeeds cfg instanceID pageSize state (.importPage (.ok page))

instance (cfg : HistoryConfig) (instanceID : UUID) (pageSize : ℕ) (state : State) (action : Action) :
    Decidable (Survives cfg instanceID pageSize state action) :=
  match action with
  | .append event now =>
    inferInstanceAs (Decidable (Succeeds cfg instanceID pageSize state (.append event now)))
  | .start _ _ | .record _ _ => inferInstanceAs (Decidable (_ ≤ _))
  | .deletePage _ | .importPage (.error _) | .log _ | .restart => isTrue trivial
  | .logSome _ _ _ => inferInstanceAs (Decidable (_ = _))
  | .importPage (.ok page) =>
    inferInstanceAs (Decidable (Succeeds cfg instanceID pageSize state (.importPage (.ok page))))

/-- The window of a running poll starts at the last recorded time, and what it collected is newer. -/
structure Windowed (state : State) : Prop where
  recorded : ∃ last, state.lastRecorded = some last
  opened : ∀ since ∈ state.phase.since?, state.lastRecorded = some since
  collected : ∀ since ∈ state.phase.since?, ∀ record ∈ state.phase.records, since < record.date

/-- What every step keeps. -/
structure Delivers (cfg : HistoryConfig) (instanceID : UUID) (state : State) : Prop where
  accounted : Accounted cfg instanceID state
  windowed : Windowed state

namespace Delivers

variable {cfg : HistoryConfig} {zone : Zone} {instanceID : UUID} {pageSize : ℕ} {state : State}

theorem resumed {polls : PollTable} {last now : Time} (hclock : zeroTime < now)
    (hlast : last ≠ zeroTime) (hstored : lastPolled polls instanceID none = .ok last) :
    Delivers cfg instanceID (State.resumed polls last now) where
  accounted :=
    { clock := hclock
      keyed := fun event hmem ↦ absurd hmem List.not_mem_nil
      unstarted := fun _ hnone ↦ by cases hnone
      stored := by
        rintro _ ⟨⟩
        refine ⟨hlast, fun failure read hread ↦ ?_⟩
        cases failure with
        | some err => cases hread
        | none => exact Except.ok.inj (hread.symm.trans hstored)
      collected := fun record hmem ↦ absurd hmem List.not_mem_nil
      accounted := fun _ _ event hmem ↦ absurd hmem List.not_mem_nil }
  windowed :=
    { recorded := ⟨last, rfl⟩
      opened := fun _ hsince ↦ by cases hsince
      collected := fun _ hsince ↦ by cases hsince }

/-- An event that waits for the running poll is dated after the last recorded time. -/
theorem lt_of_pending (h : Delivers cfg instanceID state) {event : ImportEvent}
    (hevent : event ∈ state.log) (hpending : Pending state event) {last : Time}
    (hlast : state.lastRecorded = some last) : last < event.date := by
  have hwindow (since : Time) (hsince : since ∈ state.phase.since?) : since = last :=
    Option.some.inj ((h.windowed.opened since hsince).symm.trans hlast)
  cases hphase : state.phase with
  | idle =>
    unfold Pending at hpending
    rw [hphase] at hpending
    exact hpending.resolve_left List.not_mem_nil last hlast
  | logged =>
    unfold Pending at hpending
    rw [hphase] at hpending
    exact (hpending.elim List.not_mem_nil id).elim
  | begun since =>
    unfold Pending at hpending
    rw [hphase] at hpending
    rw [← hwindow since (by rw [hphase]; rfl)]
    exact hpending.resolve_left List.not_mem_nil
  | fetching since upgraded records remaining =>
    have hsince : since ∈ state.phase.since? := by
      rw [hphase]
      rfl
    rw [← hwindow since hsince]
    cases hpending with
    | inl hid =>
      obtain ⟨record, hrecord, hsame⟩ := List.mem_map.mp hid
      obtain ⟨other, hother, hotherID, _, hdate⟩ := h.accounted.collected record hrecord
      rw [← h.accounted.keyed other hother event hevent (hotherID.trans hsame), hdate]
      exact h.windowed.collected since hsince record hrecord
    | inr hcaught =>
      rw [hphase] at hcaught
      exact hcaught.2

/-- The end of a poll, whatever it got to. -/
theorem stop (h : Delivers cfg instanceID state) {now : Time} (hnow : state.now ≤ now) :
    Delivers cfg instanceID { state with now := now, phase := .idle } where
  accounted :=
    { h.accounted with
      clock := lt_of_lt_of_le h.accounted.clock hnow
      unstarted := fun _ hnone ↦ by
        obtain ⟨last, hlast⟩ := h.windowed.recorded
        rw [hlast] at hnone
        cases hnone
      collected := fun record hmem ↦ absurd hmem List.not_mem_nil
      accounted := fun since hsince event hevent htype hdate ↦
        (h.accounted.accounted since hsince event hevent htype hdate).imp_right fun hpending ↦
          Or.inr fun _ hlast ↦ h.lt_of_pending hevent hpending hlast }
  windowed :=
    { recorded := h.windowed.recorded
      opened := fun _ hsince ↦ by cases hsince
      collected := fun _ hsince ↦ by cases hsince }

theorem append (h : Delivers cfg instanceID state) {event : ImportEvent} {now : Time}
    (hguard : Survives cfg instanceID pageSize state (.append event now))
    (htime : AppendsInTime cfg state (.append event now)) :
    Delivers cfg instanceID { state with now := now, log := state.log ++ [event] } :=
  have hsucceeds : Succeeds cfg instanceID pageSize state (.append event now) := hguard
  ⟨h.accounted.append hsucceeds htime,
    ⟨h.windowed.recorded, h.windowed.opened, h.windowed.collected⟩⟩

theorem start (h : Delivers cfg instanceID state) {failure : Option String} {now : Time}
    (hidle : state.phase = .idle) (hnow : state.now ≤ now) :
    Delivers cfg instanceID (state.start instanceID failure now) := by
  cases hread : lastPolled state.polls instanceID failure with
  | error err =>
    unfold State.start
    rw [hread]
    have hstopped := h.stop hnow
    rwa [← hidle] at hstopped
  | ok last =>
    have hsucceeds : Succeeds cfg instanceID 0 state (.start failure now) :=
      ⟨hnow, congrArg Except.isOk hread⟩
    refine ⟨h.accounted.start hidle hsucceeds, ?_⟩
    · obtain ⟨recorded, hrecorded⟩ := h.windowed.recorded
      obtain ⟨hzero, hstored⟩ := h.accounted.stored recorded hrecorded
      have hsame := hstored failure last hread
      unfold State.start
      rw [hread]
      dsimp only
      rw [hsame, if_neg hzero]
      exact
        { recorded := ⟨recorded, hrecorded⟩
          opened := fun since hsince ↦ by
            cases hsince
            exact hrecorded
          collected := fun _ _ record hmem ↦ absurd hmem List.not_mem_nil }

theorem deletePage (h : Delivers cfg instanceID state) {since : Time} (page : Page)
    (hbegun : state.phase = .begun since) :
    Delivers cfg instanceID { state with
      phase := .fetching since (upgradedItems cfg since page) [] cfg.importEventTypes } := by
  have hopened := h.windowed.opened
  rw [hbegun] at hopened
  exact
    { accounted := h.accounted.deletePage page hbegun
      windowed :=
        { recorded := h.windowed.recorded
          opened := hopened
          collected := fun _ _ record hmem ↦ absurd hmem List.not_mem_nil } }

theorem importPage (h : Delivers cfg instanceID state) {since : Time}
    {upgraded : KeyedTable ℤ DeletedFile} {records : List HistoryRecord} {eventType : ℤ}
    {remaining : List ℤ} {page : List HistoryRecordResponse}
    (hfetching : state.phase = .fetching since upgraded records (eventType :: remaining))
    (hguard : Survives cfg instanceID pageSize state (.importPage (.ok page))) :
    Delivers cfg instanceID { state with
      phase := .fetching since upgraded (addImportPage cfg since upgraded records page)
        remaining } := by
  have hopened := h.windowed.opened
  have hcollected := h.windowed.collected since (by rw [hfetching]; rfl)
  rw [hfetching] at hopened hcollected
  refine ⟨h.accounted.importPage hfetching hguard, h.windowed.recorded, hopened, ?_⟩
  intro _ hsince record hmem
  cases hsince
  cases mem_addImportPage hmem with
  | inl hold => exact hcollected record hold
  | inr hnew =>
    obtain ⟨response, _, hdate, rfl⟩ := hnew
    exact hdate

theorem log (h : Delivers cfg instanceID state) {since : Time} {upgraded : KeyedTable ℤ DeletedFile}
    {records : List HistoryRecord} (files : FileLookups)
    (hfetched : state.phase = .fetching since upgraded records []) :
    Delivers cfg instanceID { state with
      phase := .logged, reported := state.reported ++ finishImports files records } where
  accounted := h.accounted.log files hfetched
  windowed :=
    { recorded := h.windowed.recorded
      opened := fun _ hsince ↦ by cases hsince
      collected := fun _ hsince ↦ by cases hsince }

/-- More reports account for no less. -/
theorem report (h : Delivers cfg instanceID state) (records : List HistoryRecord) :
    Delivers cfg instanceID { state with reported := state.reported ++ records } where
  accounted :=
    { h.accounted with
      accounted := fun since hsince event hevent htype hdate ↦
        (h.accounted.accounted since hsince event hevent htype hdate).imp_left
          (·.append records) }
  windowed := ⟨h.windowed.recorded, h.windowed.opened, h.windowed.collected⟩

/-- A poll time that could not be written ends the poll as a restart does. -/
theorem record (h : Delivers cfg instanceID state) {failure : Option String} {now : Time}
    (hlogged : state.phase = .logged) (hnow : state.now ≤ now) :
    Delivers cfg instanceID (state.record zone instanceID failure now) := by
  cases failure with
  | some err => exact h.stop hnow
  | none =>
    exact
      { accounted := h.accounted.record hlogged hnow
        windowed :=
          { recorded := ⟨now, rfl⟩
            opened := fun _ hsince ↦ by cases hsince
            collected := fun _ hsince ↦ by cases hsince } }

theorem step (h : Delivers cfg instanceID state) (action : Action)
    (hguard : Survives cfg instanceID pageSize state action ∧ AppendsInTime cfg state action) :
    Delivers cfg instanceID (Polling.step cfg zone instanceID state action) := by
  revert hguard
  apply step_cases (motive := fun action after ↦
    Survives cfg instanceID pageSize state action ∧ AppendsInTime cfg state action →
      Delivers cfg instanceID after)
  case skipped => exact fun _ _ ↦ h
  case appended => exact fun _ _ hguard ↦ h.append hguard.1 hguard.2
  case started => exact fun _ _ hidle hguard ↦ h.start hidle hguard.1
  case opened => exact fun _ page hbegun _ ↦ h.deletePage page hbegun
  case unfetched => exact fun _ _ _ ↦ h.stop (le_refl _)
  case fetched => exact fun _ _ _ _ _ _ hfetching hguard ↦ h.importPage hfetching hguard.1
  case logged => exact fun _ _ _ files hfetched _ ↦ h.log files hfetched
  case loggedSome =>
    rintro _ _ _ _ _ _ _ ⟨rfl, -⟩
    exact (h.stop (le_refl _)).report _
  case recorded => exact fun _ _ hlogged hguard ↦ h.record hlogged hguard.1
  case restarted => exact fun _ ↦ h.stop (le_refl _)

end Delivers

theorem firstSince_step (cfg : HistoryConfig) (zone : Zone) (instanceID : UUID) {state : State}
    {last : Time} (h : state.firstSince = some last) (action : Action) :
    (step cfg zone instanceID state action).firstSince = some last := by
  apply step_cases (motive := fun _ after ↦ after.firstSince = some last)
  case started =>
    intro failure now _
    unfold State.start
    split
    · exact h
    · dsimp only
      rw [h]
      rfl
  case skipped => exact fun _ ↦ h
  case appended => exact fun _ _ ↦ h
  case opened => exact fun _ _ _ ↦ h
  case unfetched => exact fun _ _ ↦ h
  case fetched => exact fun _ _ _ _ _ _ _ ↦ h
  case logged => exact fun _ _ _ _ _ ↦ h
  case loggedSome => exact fun _ _ _ _ _ _ _ ↦ h
  case recorded => exact fun _ _ _ ↦ h
  case restarted => exact h

/-- No import is lost by polls that fail or by restarts. After an earlier poll has recorded its time,
polls may fail at any call but the writes of entries, and the program may end anywhere, also between two
entries: whenever a poll has logged what it collected, every import after that time is reported if all
were appended in time, and it stays so. -/
theorem reported_over_restarts (cfg : HistoryConfig) (zone : Zone) (instanceID : UUID)
    (pageSize : ℕ) {polls : PollTable} {last now : Time} (hclock : zeroTime < now)
    (hlast : last ≠ zeroTime) (hstored : lastPolled polls instanceID none = .ok last)
    (before after : List Action)
    (hrun : Along (step cfg zone instanceID)
      (fun state action ↦
        Survives cfg instanceID pageSize state action ∧ AppendsInTime cfg state action)
      (State.resumed polls last now) (before ++ after))
    (hlogged : (before.foldl (step cfg zone instanceID) (State.resumed polls last now)).phase =
      .logged) :
    let completed := before.foldl (step cfg zone instanceID) (State.resumed polls last now)
    let final := after.foldl (step cfg zone instanceID) completed
    ∀ event ∈ completed.log, event.eventType ∈ cfg.importEventTypes → last < event.date →
      Reported final.reported event := by
  intro completed final event hevent htype hdate
  have hbefore := ((along_append before _).mp hrun).1
  have hsafe := invariant_of_along
    (motive := fun state ↦ Delivers cfg instanceID state ∧ state.firstSince = some last)
    (fun state action h hguard ↦
      ⟨h.1.step action hguard, firstSince_step cfg zone instanceID h.2 action⟩) hbefore
    ⟨Delivers.resumed hclock hlast hstored, rfl⟩
  have hreported := hsafe.1.accounted.reported_of_logged hlogged hsafe.2 hevent htype hdate
  obtain ⟨later, hlater⟩ := reported_prefix cfg zone instanceID completed after
  have hfinal : final.reported = completed.reported ++ later := hlater.symm
  rw [hfinal]
  exact hreported.append later

/-- A poll whose page cannot be read, one that the program's end cuts off between the entries of two
imports, one that it cuts off after both, and one that completes. -/
theorem reported_over_two_restarts :
    let polls := (recordPoll ∅ Zone.utc 1 minute none).2
    let shown : Page := .ok [bareRecord 7 1 (2 * minute), bareRecord 8 2 (2 * minute)]
    let files : FileLookups := fun _ _ ↦ .error ""
    let before : List Action := [.append ⟨3, 7, 1, 2 * minute⟩ (2 * minute),
      .append ⟨3, 8, 2, 2 * minute⟩ (2 * minute), .restart,
      .start none (3 * minute), .deletePage (.ok []), .importPage (.error "timeout"),
      .start none (4 * minute), .deletePage (.ok []), .importPage shown,
      .logSome files (·.id == 7) true,
      .start none (5 * minute), .deletePage (.ok []), .importPage shown, .log files, .restart,
      .start none (6 * minute), .deletePage (.ok []), .importPage shown, .log files]
    let start := State.resumed polls minute minute
    let final := [Action.record (some "locked") (7 * minute)].foldl (step sonarrHistory Zone.utc 1)
      (before.foldl (step sonarrHistory Zone.utc 1) start)
    Reported final.reported ⟨3, 8, 2, 2 * minute⟩ := by
  intro polls shown files before start final
  have hrun : Along (step sonarrHistory Zone.utc 1)
      (fun state action ↦ Survives sonarrHistory 1 historyPageSize state action ∧
        AppendsInTime sonarrHistory state action)
      start (before ++ [.record (some "locked") (7 * minute)]) := by
    simp only [before, shown, files, start, polls]
    decide
  exact reported_over_restarts sonarrHistory Zone.utc 1 historyPageSize (by decide) (by decide)
    (by decide) before [.record (some "locked") (7 * minute)] hrun rfl ⟨3, 8, 2, 2 * minute⟩
    (by decide) (by decide) (by decide)

-- An entry that cannot be written does not stop its poll, which records a time after the import.
example :
    let start := State.resumed (recordPoll ∅ Zone.utc 1 minute none).2 minute minute
    let shown : Page := .ok [bareRecord 7 1 (2 * minute)]
    let files : FileLookups := fun _ _ ↦ .error ""
    let actions : List Action := [.append ⟨3, 7, 1, 2 * minute⟩ (2 * minute),
      .start none (3 * minute), .deletePage (.ok []), .importPage shown,
      .logSome files (fun _ ↦ false) false, .record none (4 * minute)] ++
      pollActions none none (10 * minute) (11 * minute) (.ok []) [shown] files
    ¬Reported (actions.foldl (step sonarrHistory Zone.utc 1) start).reported
      ⟨3, 7, 1, 2 * minute⟩ := by
  decide

/-! ## Repeats -/

/-- The clock and the events of `Admissible`; any call may fail, and the program may end anywhere. -/
def Possible (state : State) : Action → Prop
  | .record _ now => state.now ≤ now
  | .logSome _ _ _ | .restart => True
  | action => Admissible state action

instance (state : State) (action : Action) : Decidable (Possible state action) :=
  match action with
  | .append event now => inferInstanceAs (Decidable (Admissible state (.append event now)))
  | .start failure now => inferInstanceAs (Decidable (Admissible state (.start failure now)))
  | .deletePage page => inferInstanceAs (Decidable (Admissible state (.deletePage page)))
  | .importPage page => inferInstanceAs (Decidable (Admissible state (.importPage page)))
  | .log files => inferInstanceAs (Decidable (Admissible state (.log files)))
  | .record _ _ => inferInstanceAs (Decidable (_ ≤ _))
  | .logSome _ _ _ | .restart => isTrue trivial

/-- The poll has logged records, and its end does not record its time. -/
def Interrupts (state : State) : Action → Prop
  | .logSome files written ended => ended = true ∧ (state.phase.finished files).filter written ≠ []
  | .record failure _ => state.phase = .logged ∧ failure ≠ none
  | .restart => state.phase = .logged
  | _ => False

instance (state : State) (action : Action) : Decidable (Interrupts state action) :=
  match action with
  | .logSome _ _ _ => inferInstanceAs (Decidable (_ = _ ∧ _ ≠ _))
  | .record _ _ => inferInstanceAs (Decidable (_ ∧ _ ≠ _))
  | .restart => inferInstanceAs (Decidable (_ = _))
  | .append _ _ | .start _ _ | .deletePage _ | .importPage _ | .log _ => isFalse id

/-- How often a run ends a poll between its first log entry and its record. -/
def interruptions (cfg : HistoryConfig) (zone : Zone) (instanceID : UUID) (state : State)
    (actions : List Action) : ℕ :=
  (trail (step cfg zone instanceID) state actions).countP fun entry ↦ Interrupts entry.1 entry.2

/-- The reports: those that are not repeated, of which `batch` belongs to the running poll, and those of
interrupted polls. Were the running poll interrupted, the batch would be one of these. -/
structure Split (instanceID : UUID) (state : State) (kept batch repeated : List HistoryRecord)
    (count : ℕ) : Prop where
  reported : state.reported.Perm (kept ++ batch ++ repeated)
  unrepeated : Unrepeated instanceID { state with reported := kept ++ batch }
  interruptible : state.phase = .logged →
    Unrepeated instanceID { state with phase := .idle, reported := kept }
  unlogged : state.phase ≠ .logged → batch = []
  repeats : ∀ id, (repeated.map (·.id)).count id ≤ count

namespace Split

variable {cfg : HistoryConfig} {zone : Zone} {instanceID : UUID} {state : State}
  {kept batch repeated : List HistoryRecord} {count : ℕ}

/-- A step of a poll that has not logged anything. -/
theorem unloggedStep (h : Split instanceID state kept batch repeated count)
    (hphase : state.phase ≠ .logged) {after : State} (hreported : after.reported = state.reported)
    (hafter : after.phase ≠ .logged)
    (hstep : Unrepeated instanceID { state with reported := kept ++ batch } →
      Unrepeated instanceID { after with reported := kept ++ batch }) :
    Split instanceID after kept batch repeated count where
  reported := by rw [hreported]; exact h.reported
  unrepeated := hstep h.unrepeated
  interruptible := fun hlogged ↦ absurd hlogged hafter
  unlogged := fun _ ↦ h.unlogged hphase
  repeats := h.repeats

/-- The poller enters another phase. -/
theorem enter (h : Split instanceID state kept batch repeated count) (hphase : state.phase ≠ .logged)
    {phase : Phase} (hafter : phase ≠ .logged)
    (hstep : Unrepeated instanceID { state with reported := kept ++ batch } →
      Unrepeated instanceID { state with phase := phase, reported := kept ++ batch }) :
    Split instanceID { state with phase := phase } kept batch repeated count :=
  h.unloggedStep hphase rfl hafter hstep

theorem append (h : Split instanceID state kept batch repeated count) {event : ImportEvent}
    {now : Time} (hguard : Admissible state (.append event now)) :
    Split instanceID { state with now := now, log := state.log ++ [event] } kept batch repeated
      count where
  reported := h.reported
  unrepeated := h.unrepeated.append hguard
  interruptible := fun hlogged ↦ (h.interruptible hlogged).append hguard
  unlogged := h.unlogged
  repeats := h.repeats

theorem start (h : Split instanceID state kept batch repeated count) {failure : Option String}
    {now : Time} (hidle : state.phase = .idle) (hnow : state.now ≤ now) :
    Split instanceID (state.start instanceID failure now) kept batch repeated count := by
  have hstarted : Unrepeated instanceID
      (State.start { state with reported := kept ++ batch } instanceID failure now) :=
    h.unrepeated.start hidle hnow
  have hphase : state.phase ≠ .logged := by
    rw [hidle]
    exact Phase.noConfusion
  revert hstarted
  unfold State.start
  dsimp only
  cases lastPolled state.polls instanceID failure with
  | error err => exact fun hstarted ↦ h.unloggedStep hphase rfl hphase fun _ ↦ hstarted
  | ok last => exact fun hstarted ↦ h.unloggedStep hphase rfl Phase.noConfusion fun _ ↦ hstarted

/-- What the poll has logged is kept apart until its time is recorded. -/
theorem log (h : Split instanceID state kept batch repeated count) {since : Time}
    {upgraded : KeyedTable ℤ DeletedFile} {records : List HistoryRecord} (files : FileLookups)
    (hfetched : state.phase = .fetching since upgraded records []) {logged : List HistoryRecord}
    (hlogged : logged.Sublist (finishImports files records)) :
    Split instanceID { state with phase := .logged, reported := state.reported ++ logged }
      kept logged repeated count := by
  have hphase : state.phase ≠ .logged := by
    rw [hfetched]
    exact Phase.noConfusion
  have hbatch := h.unlogged hphase
  subst hbatch
  have hkept := h.unrepeated
  rw [List.append_nil] at hkept
  have hreported := h.reported
  rw [List.append_nil] at hreported
  exact
    { reported := by
        rw [List.append_assoc]
        refine (hreported.append_right _).trans ?_
        rw [List.append_assoc]
        exact List.perm_append_comm.append_left kept
      unrepeated := hkept.log files hfetched hlogged
      interruptible := fun _ ↦ hkept.stop hphase
      unlogged := fun hunlogged ↦ absurd rfl hunlogged
      repeats := h.repeats }

/-- An interrupted poll leaves its batch to be repeated. -/
theorem interrupt (h : Split instanceID state kept batch repeated count)
    (hlogged : state.phase = .logged) {now : Time} (hnow : state.now ≤ now) :
    Split instanceID { state with now := now, phase := .idle } kept [] (batch ++ repeated)
      (count + 1) where
  reported := by
    rw [List.append_nil, ← List.append_assoc]
    exact h.reported
  unrepeated := by
    rw [List.append_nil]
    have hwaited : Unrepeated instanceID (State.start
        { state with phase := .idle, reported := kept } instanceID (some "") now) :=
      (h.interruptible hlogged).start rfl hnow
    exact hwaited
  interruptible := fun hidle ↦ by cases hidle
  unlogged := fun _ ↦ rfl
  repeats := fun id ↦ by
    have hnodup := h.unrepeated.nodup
    rw [List.map_append, List.nodup_append] at hnodup
    rw [List.map_append, List.count_append, Nat.add_comm count]
    exact Nat.add_le_add (List.nodup_iff_count_le_one.mp hnodup.2.1 id) (h.repeats id)

theorem record (h : Split instanceID state kept batch repeated count) {now : Time}
    (hnow : state.now ≤ now) :
    Split instanceID (state.record zone instanceID none now) (kept ++ batch) [] repeated count where
  reported := by
    rw [List.append_nil]
    exact h.reported
  unrepeated := by
    rw [List.append_nil]
    exact h.unrepeated.record hnow
  interruptible := fun hidle ↦ by cases hidle
  unlogged := fun _ ↦ rfl
  repeats := h.repeats

theorem mono (h : Split instanceID state kept batch repeated count) {more : ℕ} (hmore : count ≤ more) :
    Split instanceID state kept batch repeated more :=
  { h with repeats := fun id ↦ (h.repeats id).trans hmore }

/-- A poll that ends before its first log entry has nothing to repeat. -/
theorem stop (h : Split instanceID state kept batch repeated count) (hphase : state.phase ≠ .logged) :
    Split instanceID { state with phase := .idle } kept batch repeated count :=
  h.enter hphase Phase.noConfusion fun hkept ↦ hkept.stop hphase

/-- A poll that the program's end cuts off between its entries is interrupted if it wrote any. -/
theorem cutOff (h : Split instanceID state kept batch repeated count) {since : Time}
    {upgraded : KeyedTable ℤ DeletedFile} {records : List HistoryRecord} (files : FileLookups)
    (written : HistoryRecord → Bool) (hfetched : state.phase = .fetching since upgraded records []) :
    ∃ kept batch repeated,
      Split instanceID { state with
          phase := .idle, reported := state.reported ++ (finishImports files records).filter written }
        kept batch repeated
        (count + if Interrupts state (.logSome files written true) then 1 else 0) := by
  have hfinished : state.phase.finished files = finishImports files records := by
    rw [hfetched]
    rfl
  cases hwritten : (finishImports files records).filter written with
  | nil =>
    have hphase : state.phase ≠ .logged := by
      rw [hfetched]
      exact Phase.noConfusion
    rw [List.append_nil]
    exact ⟨kept, batch, repeated, (h.stop hphase).mono (Nat.le_add_right _ _)⟩
  | cons first rest =>
    have hinterrupts : Interrupts state (.logSome files written true) :=
      ⟨rfl, by rw [hfinished, hwritten]; exact List.cons_ne_nil _ _⟩
    rw [if_pos hinterrupts, ← hwritten]
    exact ⟨kept, _, _,
      (h.log files hfetched (List.filter_sublist (p := written))).interrupt rfl (le_refl _)⟩

theorem step (h : Split instanceID state kept batch repeated count) (action : Action) :
    Possible state action → ∃ kept batch repeated,
      Split instanceID (Polling.step cfg zone instanceID state action) kept batch repeated
        (count + if Interrupts state action then 1 else 0) := by
  have hmore (action : Action) : count ≤ count + if Interrupts state action then 1 else 0 :=
    Nat.le_add_right _ _
  apply step_cases (motive := fun action after ↦ Possible state action → ∃ kept batch repeated,
    Split instanceID after kept batch repeated
      (count + if Interrupts state action then 1 else 0))
  case skipped => exact fun action _ ↦ ⟨kept, batch, repeated, h.mono (hmore action)⟩
  case appended =>
    exact fun event now hguard ↦ ⟨kept, batch, repeated, (h.append hguard).mono (hmore _)⟩
  case started =>
    exact fun failure now hidle hnow ↦ ⟨kept, batch, repeated, (h.start hidle hnow).mono (hmore _)⟩
  case opened =>
    intro since page hbegun _
    have hphase : state.phase ≠ .logged := by
      rw [hbegun]
      exact Phase.noConfusion
    have hopened : Split instanceID { state with
          phase := .fetching since (upgradedItems cfg since page) [] cfg.importEventTypes }
        kept batch repeated count :=
      h.enter hphase Phase.noConfusion fun hkept ↦ hkept.deletePage page hbegun
    exact ⟨kept, batch, repeated, hopened.mono (hmore _)⟩
  case unfetched =>
    exact fun err hphase _ ↦ ⟨kept, batch, repeated, (h.stop hphase).mono (hmore _)⟩
  case fetched =>
    intro since upgraded records eventType remaining page hfetching hguard
    have hphase : state.phase ≠ .logged := by
      rw [hfetching]
      exact Phase.noConfusion
    have hfetched : Split instanceID { state with
          phase := .fetching since upgraded (addImportPage cfg since upgraded records page) remaining }
        kept batch repeated count :=
      h.enter hphase Phase.noConfusion fun hkept ↦ hkept.importPage hfetching hguard
    exact ⟨kept, batch, repeated, hfetched.mono (hmore _)⟩
  case logged =>
    exact fun since upgraded records files hfetched _ ↦
      ⟨kept, _, repeated, (h.log files hfetched (List.Sublist.refl _)).mono (hmore _)⟩
  case loggedSome =>
    intro since upgraded records files written ended hfetched _
    cases ended with
    | false =>
      have hlogged := h.log files hfetched (List.filter_sublist (p := written))
      exact ⟨kept, _, repeated, hlogged.mono (hmore _)⟩
    | true => exact h.cutOff files written hfetched
  case recorded =>
    intro failure now hlogged hnow
    cases failure with
    | none => exact ⟨_, _, repeated, (h.record hnow).mono (hmore _)⟩
    | some err =>
      have hinterrupts : Interrupts state (.record (some err) now) :=
        ⟨hlogged, Option.some_ne_none err⟩
      rw [if_pos hinterrupts]
      exact ⟨kept, _, _, h.interrupt hlogged hnow⟩
  case restarted =>
    intro _
    by_cases hlogged : state.phase = .logged
    · have hinterrupts : Interrupts state .restart := hlogged
      rw [if_pos hinterrupts]
      exact ⟨kept, _, _, h.interrupt hlogged (le_refl _)⟩
    · exact ⟨kept, batch, repeated, (h.stop hlogged).mono (hmore _)⟩

theorem foldl {actions : List Action} (h : Split instanceID state kept batch repeated count)
    (hrun : Along (Polling.step cfg zone instanceID) Possible state actions) :
    ∃ kept batch repeated, Split instanceID (actions.foldl (Polling.step cfg zone instanceID) state)
      kept batch repeated (count + interruptions cfg zone instanceID state actions) := by
  induction actions generalizing state kept batch repeated count with
  | nil => exact ⟨kept, batch, repeated, h⟩
  | cons action actions ih =>
    obtain ⟨hguard, hrest⟩ := (along_cons action actions).mp hrun
    obtain ⟨_, _, _, hstep⟩ := h.step action hguard
    obtain ⟨kept, batch, repeated, hfinal⟩ := ih hstep hrest
    have hcount : interruptions cfg zone instanceID state (action :: actions) =
        interruptions cfg zone instanceID (Polling.step cfg zone instanceID state action) actions +
          if Interrupts state action then 1 else 0 := by
      unfold interruptions
      rw [trail_cons, List.countP_cons]
      simp only [decide_eq_true_eq]
    rw [Nat.add_assoc, Nat.add_comm (ite _ _ _), ← hcount] at hfinal
    exact ⟨kept, batch, repeated, hfinal⟩

/-- A record ID is reported once, and once more for each interrupted poll. -/
theorem count_le (h : Split instanceID state kept batch repeated count) (id : ℤ) :
    (state.reported.map (·.id)).count id ≤ count + 1 := by
  have hreported := (h.reported.map (·.id)).count_eq id
  rw [List.map_append, List.count_append] at hreported
  rw [hreported, Nat.add_comm count]
  exact Nat.add_le_add (List.nodup_iff_count_le_one.mp h.unrepeated.nodup id) (h.repeats id)

end Split

end Huntarr2.Polling
