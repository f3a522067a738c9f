import Huntarr2.Foundation.Machine
import Huntarr2.Polling.System

/-!
# No import is reported twice

Every poll reads the newest page again. A record is logged only when it is dated after the last poll
time, and that time is never earlier than the date of anything logged before.
-/

namespace Huntarr2.Polling

open Arr GoStd Machine

/-- What the runs are assumed to keep to: the clock never goes back, an event is dated when it becomes
visible or before, an ID always stands for one date, pages show events that have happened, and a poll
that has logged records also records its time. -/
def Admissible (state : State) : Action → Prop
  | .append event now => state.now ≤ now ∧ event.date ≤ now ∧
      ∀ earlier ∈ state.log, earlier.id = event.id → earlier.date = event.date
  | .start _ now => state.now ≤ now
  | .deletePage _ | .importPage (.error _) | .log _ => True
  | .importPage (.ok page) => ∀ record ∈ page,
      ∃ event ∈ state.log, event.id = record.id ∧ event.date = record.date
  | .logSome _ _ ended => ended = false
  | .record failure now => state.now ≤ now ∧ failure = none
  | .restart => state.phase ≠ .logged

instance (state : State) (action : Action) : Decidable (Admissible state action) :=
  match action with
  | .append _ _ => inferInstanceAs (Decidable (_ ∧ _ ∧ _))
  | .start _ _ => inferInstanceAs (Decidable (_ ≤ _))
  | .deletePage _ | .importPage (.error _) | .log _ => isTrue trivial
  | .importPage (.ok _) => inferInstanceAs (Decidable (∀ _ ∈ _, ∃ _ ∈ _, _ ∧ _))
  | .logSome _ _ _ => inferInstanceAs (Decidable (_ = _))
  | .record _ _ => inferInstanceAs (Decidable (_ ∧ _))
  | .restart => inferInstanceAs (Decidable (_ ≠ _))

/-- The record describes an event that has happened. -/
def Known (log : List ImportEvent) (record : HistoryRecord) : Prop :=
  ∃ event ∈ log, event.id = record.id ∧ event.date = record.date

/-- What every step keeps. Outside the gap between logging and recording, whatever poll time can be read
covers all reported records. -/
structure Unrepeated (instanceID : UUID) (state : State) : Prop where
  clock : zeroTime < state.now
  dated : ∀ event ∈ state.log, event.date ≤ state.now
  keyed : ∀ first ∈ state.log, ∀ second ∈ state.log, first.id = second.id → first.date = second.date
  known : ∀ record ∈ state.reported, Known state.log record
  nodup : (state.reported.map (·.id)).Nodup
  collectedKnown : ∀ record ∈ state.phase.records, Known state.log record
  collectedNodup : (state.phase.records.map (·.id)).Nodup
  window : ∀ since ∈ state.phase.since?, (∀ record ∈ state.reported, record.date ≤ since) ∧
    ∀ record ∈ state.phase.records, since < record.date
  covered : state.phase ≠ .logged → ∀ record ∈ state.reported, ∀ failure last,
    lastPolled state.polls instanceID failure = .ok last → last ≠ zeroTime ∧ record.date ≤ last

theorem Known.append {log : List ImportEvent} {record : HistoryRecord} (h : Known log record)
    (event : ImportEvent) : Known (log ++ [event]) record := by
  obtain ⟨earlier, hearlier, hsame⟩ := h
  exact ⟨earlier, List.mem_append_left [event] hearlier, hsame⟩

namespace Unrepeated

variable {cfg : HistoryConfig} {zone : Zone} {instanceID : UUID} {state : State}

theorem initial (polls : PollTable) {now : Time} (hclock : zeroTime < now) :
    Unrepeated instanceID (State.initial polls now) where
  clock := hclock
  dated := fun event hmem ↦ absurd hmem List.not_mem_nil
  keyed := fun event hmem ↦ absurd hmem List.not_mem_nil
  known := fun record hmem ↦ absurd hmem List.not_mem_nil
  nodup := List.nodup_nil
  collectedKnown := fun record hmem ↦ absurd hmem List.not_mem_nil
  collectedNodup := List.nodup_nil
  window := fun since hsince ↦ by cases hsince
  covered := fun _ record hmem ↦ absurd hmem List.not_mem_nil

/-- Two records of events that have happened have one date if they have one ID. -/
theorem date_eq (h : Unrepeated instanceID state) {first second : HistoryRecord}
    (hfirst : Known state.log first) (hsecond : Known state.log second) (hid : first.id = second.id) :
    first.date = second.date := by
  obtain ⟨firstEvent, hfirstMem, hfirstID, hfirstDate⟩ := hfirst
  obtain ⟨secondEvent, hsecondMem, hsecondID, hsecondDate⟩ := hsecond
  have hids : firstEvent.id = secondEvent.id := by rw [hfirstID, hid, hsecondID]
  calc first.date = firstEvent.date := hfirstDate.symm
    _ = secondEvent.date := h.keyed firstEvent hfirstMem secondEvent hsecondMem hids
    _ = second.date := hsecondDate

theorem reported_le_now (h : Unrepeated instanceID state) {record : HistoryRecord}
    (hmem : record ∈ state.reported) : record.date ≤ state.now := by
  obtain ⟨event, hevent, _, hdate⟩ := h.known record hmem
  rw [← hdate]
  exact h.dated event hevent

/-! ## Steps -/

/-- The end of a poll that has not logged anything. -/
theorem stop (h : Unrepeated instanceID state) (hphase : state.phase ≠ .logged) :
    Unrepeated instanceID { state with phase := .idle } :=
  { h with
    collectedKnown := fun record hmem ↦ absurd hmem List.not_mem_nil
    collectedNodup := List.nodup_nil
    window := fun since hsince ↦ by cases hsince
    covered := fun _ ↦ h.covered hphase }

theorem append (h : Unrepeated instanceID state) {event : ImportEvent} {now : Time}
    (hguard : Admissible state (.append event now)) :
    Unrepeated instanceID { state with now := now, log := state.log ++ [event] } := by
  obtain ⟨hnow, hdate, hkeyed⟩ := hguard
  refine { h with
    clock := lt_of_lt_of_le h.clock hnow
    dated := ?_
    keyed := ?_
    known := fun record hmem ↦ (h.known record hmem).append event
    collectedKnown := fun record hmem ↦ (h.collectedKnown record hmem).append event }
  · intro earlier hmem
    cases List.mem_append.mp hmem with
    | inl hold => exact (h.dated earlier hold).trans hnow
    | inr hnew =>
      rw [List.mem_singleton.mp hnew]
      exact hdate
  · apply forall_pairs_append (R := fun first second ↦ first.id = second.id →
      first.date = second.date) h.keyed
    case hnew =>
      exact fun earlier hearlier ↦
        ⟨hkeyed earlier hearlier, fun hid ↦ (hkeyed earlier hearlier hid.symm).symm⟩
    case hself => exact fun _ ↦ rfl

theorem start (h : Unrepeated instanceID state) {failure : Option String} {now : Time}
    (hidle : state.phase = .idle) (hnow : state.now ≤ now) :
    Unrepeated instanceID (state.start instanceID failure now) := by
  have hclock := lt_of_lt_of_le h.clock hnow
  have hdated : ∀ event ∈ state.log, event.date ≤ now :=
    fun event hevent ↦ (h.dated event hevent).trans hnow
  unfold State.start
  split
  case h_1 => exact { h with clock := hclock, dated := hdated }
  case h_2 last hlast =>
    have hunlogged : state.phase ≠ .logged := by
      rw [hidle]
      exact Phase.noConfusion
    have hcovered : ∀ record ∈ state.reported, last ≠ zeroTime ∧ record.date ≤ last :=
      fun record hmem ↦ h.covered hunlogged record hmem failure last hlast
    refine { h with
      clock := hclock
      dated := hdated
      collectedKnown := fun record hmem ↦ absurd hmem List.not_mem_nil
      collectedNodup := List.nodup_nil
      window := ?_
      covered := fun _ ↦ h.covered hunlogged }
    intro since hsince
    cases hsince
    refine ⟨fun record hmem ↦ ?_, fun record hmem ↦ absurd hmem List.not_mem_nil⟩
    obtain ⟨hzero, hdate⟩ := hcovered record hmem
    rw [if_neg hzero]
    exact hdate

theorem deletePage (h : Unrepeated instanceID state) {since : Time} (page : Page)
    (hbegun : state.phase = .begun since) :
    Unrepeated instanceID { state with
      phase := .fetching since (upgradedItems cfg since page) [] cfg.importEventTypes } := by
  refine { h with
    collectedKnown := fun record hmem ↦ absurd hmem List.not_mem_nil
    collectedNodup := List.nodup_nil
    window := ?_
    covered := fun _ ↦ h.covered (by rw [hbegun]; exact Phase.noConfusion) }
  have hwindow := h.window
  rw [hbegun] at hwindow
  exact hwindow

theorem importPage (h : Unrepeated instanceID state) {since : Time}
    {upgraded : KeyedTable ℤ DeletedFile} {records : List HistoryRecord} {eventType : ℤ}
    {remaining : List ℤ} {page : List HistoryRecordResponse}
    (hfetching : state.phase = .fetching since upgraded records (eventType :: remaining))
    (hguard : Admissible state (.importPage (.ok page))) :
    Unrepeated instanceID { state with
      phase := .fetching since upgraded (addImportPage cfg since upgraded records page)
        remaining } := by
  have hwindow := h.window since (by rw [hfetching]; rfl)
  have hknown := h.collectedKnown
  have hnodup := h.collectedNodup
  rw [hfetching] at hwindow hknown hnodup
  refine { h with
    collectedKnown := ?_
    collectedNodup := nodup_addImportPage page hnodup
    window := ?_
    covered := fun _ ↦ h.covered (by rw [hfetching]; exact Phase.noConfusion) }
  · intro record hmem
    cases mem_addImportPage hmem with
    | inl hold => exact hknown record hold
    | inr hnew =>
      obtain ⟨response, hresponse, _, rfl⟩ := hnew
      exact hguard response hresponse
  · intro other hother
    cases hother
    refine ⟨hwindow.1, fun record hmem ↦ ?_⟩
    cases mem_addImportPage hmem with
    | inl hold => exact hwindow.2 record hold
    | inr hnew =>
      obtain ⟨response, _, hdate, rfl⟩ := hnew
      exact hdate

/-- What is logged is dated after the start of the window, what was reported before is not. -/
theorem log (h : Unrepeated instanceID state) {since : Time} {upgraded : KeyedTable ℤ DeletedFile}
    {records : List HistoryRecord} (files : FileLookups)
    (hfetched : state.phase = .fetching since upgraded records []) {logged : List HistoryRecord}
    (hlogged : logged.Sublist (finishImports files records)) :
    Unrepeated instanceID { state with phase := .logged, reported := state.reported ++ logged } := by
  have hwindow := h.window since (by rw [hfetched]; rfl)
  have hknown := h.collectedKnown
  have hnodup := h.collectedNodup
  rw [hfetched] at hwindow hknown hnodup
  have hfinished : ∀ record ∈ logged, Known state.log record ∧ since < record.date := by
    intro record hmem
    obtain ⟨collected, hcollected, rfl⟩ := mem_finishImports (hlogged.subset hmem)
    obtain ⟨event, hevent, heventID, heventDate⟩ := hknown collected hcollected
    unfold Known
    rw [addFileDetails_id, addFileDetails_date]
    exact ⟨⟨event, hevent, heventID, heventDate⟩, hwindow.2 collected hcollected⟩
  refine { h with
    known := ?_
    nodup := ?_
    collectedKnown := fun record hmem ↦ absurd hmem List.not_mem_nil
    collectedNodup := List.nodup_nil
    window := fun since hsince ↦ by cases hsince
    covered := fun hunlogged ↦ absurd rfl hunlogged }
  · intro record hmem
    cases List.mem_append.mp hmem with
    | inl hold => exact h.known record hold
    | inr hnew => exact (hfinished record hnew).1
  · rw [List.map_append, List.nodup_append]
    refine ⟨h.nodup, (nodup_finishImports files hnodup).sublist (hlogged.map _), ?_⟩
    intro id hold other hnew heq
    obtain ⟨first, hfirst, rfl⟩ := List.mem_map.mp hold
    obtain ⟨second, hsecond, rfl⟩ := List.mem_map.mp hnew
    have hafter : since < since := calc
      since < second.date := (hfinished second hsecond).2
      _ = first.date := (h.date_eq (h.known first hfirst) (hfinished second hsecond).1 heq).symm
      _ ≤ since := hwindow.1 first hfirst
    exact lt_irrefl since hafter

/-- The recorded time is read after everything reported happened. -/
theorem record (h : Unrepeated instanceID state) {now : Time} (hnow : state.now ≤ now) :
    Unrepeated instanceID (state.record zone instanceID none now) := by
  refine { h with
    clock := lt_of_lt_of_le h.clock hnow
    dated := fun event hevent ↦ (h.dated event hevent).trans hnow
    collectedKnown := fun record hmem ↦ absurd hmem List.not_mem_nil
    collectedNodup := List.nodup_nil
    window := fun since hsince ↦ by cases hsince
    covered := ?_ }
  intro _ record hmem failure last hlast
  rw [lastPolled_recordPoll hlast]
  exact ⟨(lt_of_lt_of_le h.clock hnow).ne', (h.reported_le_now hmem).trans hnow⟩

theorem step (h : Unrepeated instanceID state) (action : Action) (hguard : Admissible state action) :
    Unrepeated instanceID (Polling.step cfg zone instanceID state action) := by
  revert hguard
  apply step_cases (motive := fun action after ↦ Admissible state action → Unrepeated instanceID after)
  case skipped => exact fun _ _ ↦ h
  case appended => exact fun _ _ ↦ h.append
  case started => exact fun _ _ hidle hnow ↦ h.start hidle hnow
  case opened => exact fun _ page hbegun _ ↦ h.deletePage page hbegun
  case unfetched => exact fun _ hphase _ ↦ h.stop hphase
  case fetched => exact fun _ _ _ _ _ _ hfetching ↦ h.importPage hfetching
  case logged => exact fun _ _ _ files hfetched _ ↦ h.log files hfetched (List.Sublist.refl _)
  case loggedSome =>
    rintro _ _ _ files _ _ hfetched rfl
    exact h.log files hfetched List.filter_sublist
  case recorded =>
    intro _ now _ hguard
    obtain ⟨hnow, rfl⟩ := hguard
    exact h.record hnow
  case restarted => exact h.stop

end Unrepeated

/-- Over any run in which polls record their time, restarts included, no record ID is reported twice. -/
theorem reported_nodup (cfg : HistoryConfig) (zone : Zone) (instanceID : UUID) (polls : PollTable)
    {now : Time} (hclock : zeroTime < now) (actions : List Action)
    (hrun : Along (step cfg zone instanceID) Admissible (State.initial polls now) actions) :
    ((actions.foldl (step cfg zone instanceID) (State.initial polls now)).reported.map (·.id)).Nodup :=
  have hsafe := invariant_of_along (fun _ action h hguard ↦ Unrepeated.step h action hguard) hrun
    (Unrepeated.initial polls hclock)
  hsafe.nodup

/-- One import that two pages of the first poll and the page of a later poll show. -/
theorem reported_nodup_three_pages :
    let shown : Page := .ok [bareRecord 7 1 minute]
    let files := fun _ _ ↦ .error ""
    let first := pollActions none none (2 * minute) (3 * minute) (.ok []) [shown, shown] files
    let second := pollActions none none (8 * minute) (9 * minute) (.ok []) [shown, shown] files
    let actions := [.append ⟨3, 7, 1, minute⟩ minute] ++ first ++ [.restart] ++ second
    let final := actions.foldl (step whisparrV3History Zone.utc 1) (State.initial ∅ 0)
    final.reported.length = 1 ∧ (final.reported.map (·.id)).Nodup := by
  intro shown files first second actions final
  have hrun : Along (step whisparrV3History Zone.utc 1) Admissible (State.initial ∅ 0) actions := by
    simp only [actions, first, second, shown, files]
    decide
  exact ⟨by decide, reported_nodup whisparrV3History Zone.utc 1 ∅ (by decide) actions hrun⟩

end Huntarr2.Polling
