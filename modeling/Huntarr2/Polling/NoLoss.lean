import Huntarr2.Foundation.Machine
import Huntarr2.Polling.System
import Mathlib.Data.List.Perm.Subperm

/-!
# When an import is lost

The poll time recorded at the end of a poll is read after the pages were fetched. An event appended in
between is dated before it and was not on the page, so no later poll reports it. Every other event is
reported by the next poll that completes.
-/

namespace Huntarr2.Polling

open Arr GoStd Machine Scheduling

/-- The newest events of a type, at most `pageSize` of them. -/
structure IsNewestPage (pageSize : ℕ) (log : List ImportEvent) (eventType : ℤ)
    (page : List ImportEvent) : Prop where
  nodup : page.Nodup
  length_le : page.length ≤ pageSize
  mem_log : ∀ event ∈ page, event ∈ log ∧ event.eventType = eventType
  newest : ∀ event ∈ log, event.eventType = eventType → event ∉ page →
    page.length = pageSize ∧ ∀ shown ∈ page, event.date ≤ shown.date

instance (pageSize : ℕ) (log : List ImportEvent) (eventType : ℤ) (page : List ImportEvent) :
    Decidable (IsNewestPage pageSize log eventType page) :=
  decidable_of_iff
    (page.Nodup ∧ page.length ≤ pageSize ∧ (∀ event ∈ page, event ∈ log ∧ event.eventType = eventType) ∧
      ∀ event ∈ log, event.eventType = eventType → event ∉ page →
        page.length = pageSize ∧ ∀ shown ∈ page, event.date ≤ shown.date)
    ⟨fun ⟨hnodup, hlength, hmem, hnewest⟩ ↦ ⟨hnodup, hlength, hmem, hnewest⟩,
      fun h ↦ ⟨h.nodup, h.length_le, h.mem_log, h.newest⟩⟩

/-- The events of a type in the window of a poll. -/
def windowEvents (log : List ImportEvent) (since : Time) (eventType : ℤ) : List ImportEvent :=
  log.filter fun event ↦ event.eventType = eventType ∧ since < event.date

/-- A page that can hold the window of a poll shows all of it. -/
theorem IsNewestPage.mem_of_window {pageSize : ℕ} {log page : List ImportEvent} {eventType : ℤ}
    (h : IsNewestPage pageSize log eventType page) {since : Time}
    (hwindow : (windowEvents log since eventType).length ≤ pageSize) {event : ImportEvent}
    (hmem : event ∈ windowEvents log since eventType) : event ∈ page := by
  by_contra hmissing
  unfold windowEvents at hwindow hmem
  simp only [List.mem_filter, decide_eq_true_eq] at hmem
  obtain ⟨hlog, htype, hdate⟩ := hmem
  obtain ⟨hfull, holder⟩ := h.newest event hlog htype hmissing
  -- Were the event missing, the page and the event together would be too many for the window.
  have hsubset : event :: page ⊆
      log.filter fun event ↦ event.eventType = eventType ∧ since < event.date := by
    intro shown hshown
    simp only [List.mem_filter, decide_eq_true_eq]
    cases List.mem_cons.mp hshown with
    | inl hhere =>
      rw [hhere]
      exact ⟨hlog, htype, hdate⟩
    | inr hpage =>
      obtain ⟨hshownLog, hshownType⟩ := h.mem_log shown hpage
      exact ⟨hshownLog, hshownType, lt_of_lt_of_le hdate (holder shown hpage)⟩
  have hlength := ((List.nodup_cons.mpr ⟨hmissing, h.nodup⟩).subperm hsubset).length_le
  rw [List.length_cons, hfull] at hlength
  exact absurd (hlength.trans hwindow) (Nat.not_succ_le_self pageSize)

section Guards

variable (cfg : HistoryConfig) (instanceID : UUID) (pageSize : ℕ)

/-- Polls in which all calls succeed and whose windows fit into a page, and events dated with the time
at which they are appended. -/
def Succeeds (state : State) : Action → Prop
  | .append event now =>
    state.now ≤ now ∧ event.date = now ∧ ∀ earlier ∈ state.log, earlier.id ≠ event.id
  | .start failure now => state.now ≤ now ∧ (lastPolled state.polls instanceID failure).isOk
  | .deletePage _ | .log _ => True
  | .importPage (.error _) | .logSome _ _ _ | .restart => False
  | .importPage (.ok page) => ∀ since ∈ state.phase.since?, ∀ eventType ∈ state.phase.remaining.head?,
      IsNewestPage pageSize state.log eventType (page.map (importEvent cfg eventType)) ∧
        (windowEvents state.log since eventType).length ≤ pageSize
  | .record failure now => state.now ≤ now ∧ failure = none

/-- An event of the type with the date, appended now, will be in the window of a page still to be
fetched. -/
def CaughtBy (lastRecorded : Option Time) (eventType : ℤ) (date : Time) : Phase → Prop
  | .idle => ∀ last ∈ lastRecorded, last < date
  | .begun since => since < date
  | .fetching since _ _ remaining => eventType ∈ remaining ∧ since < date
  | .logged => False

/-- Import events are appended outside the gap between the fetch of their page and the recorded time. -/
def AppendsInTime (state : State) : Action → Prop
  | .append event _ => event.eventType ∈ cfg.importEventTypes →
      CaughtBy state.lastRecorded event.eventType event.date state.phase
  | _ => True

instance (state : State) (action : Action) :
    Decidable (Succeeds cfg instanceID pageSize state action) :=
  match action with
  | .append _ _ => inferInstanceAs (Decidable (_ ∧ _ ∧ _))
  | .start _ _ => inferInstanceAs (Decidable (_ ∧ _))
  | .deletePage _ | .log _ => isTrue trivial
  | .importPage (.error _) | .logSome _ _ _ | .restart => isFalse id
  | .importPage (.ok _) => inferInstanceAs (Decidable (∀ _ ∈ _, ∀ _ ∈ _, _))
  | .record _ _ => inferInstanceAs (Decidable (_ ∧ _))

instance (lastRecorded : Option Time) (eventType : ℤ) (date : Time) (phase : Phase) :
    Decidable (CaughtBy lastRecorded eventType date phase) :=
  match phase with
  | .idle => inferInstanceAs (Decidable (∀ _ ∈ _, _))
  | .begun _ => inferInstanceAs (Decidable (_ < _))
  | .fetching _ _ _ _ => inferInstanceAs (Decidable (_ ∧ _))
  | .logged => isFalse id

instance (state : State) (action : Action) : Decidable (AppendsInTime cfg state action) :=
  match action with
  | .append _ _ => inferInstanceAs (Decidable (_ → _))
  | .start _ _ | .deletePage _ | .importPage _ | .log _ | .logSome _ _ _ | .record _ _ | .restart =>
    isTrue trivial

end Guards

/-- Some logged import of the event's item is at least as new. -/
def Reported (reported : List HistoryRecord) (event : ImportEvent) : Prop :=
  ∃ record ∈ reported, record.itemID = event.itemID ∧ event.date ≤ record.date

instance (reported : List HistoryRecord) (event : ImportEvent) : Decidable (Reported reported event) :=
  inferInstanceAs (Decidable (∃ _ ∈ _, _))

theorem Reported.append {reported : List HistoryRecord} {event : ImportEvent}
    (h : Reported reported event) (records : List HistoryRecord) :
    Reported (reported ++ records) event := by
  obtain ⟨record, hmem, hrecord⟩ := h
  exact ⟨record, List.mem_append_left records hmem, hrecord⟩

/-- The event is collected by the running poll, or it will be. -/
def Pending (state : State) (event : ImportEvent) : Prop :=
  event.id ∈ state.phase.records.map (·.id) ∨
    CaughtBy state.lastRecorded event.eventType event.date state.phase

/-- What every step keeps. -/
structure Accounted (cfg : HistoryConfig) (instanceID : UUID) (state : State) : Prop where
  clock : zeroTime < state.now
  keyed : ∀ first ∈ state.log, ∀ second ∈ state.log, first.id = second.id → first = second
  unstarted : state.phase = .idle → state.lastRecorded = none → state.firstSince = none
  stored : ∀ last ∈ state.lastRecorded, last ≠ zeroTime ∧ ∀ failure read,
    lastPolled state.polls instanceID failure = .ok read → read = last
  collected : ∀ record ∈ state.phase.records, ∃ event ∈ state.log,
    event.id = record.id ∧ event.itemID = record.itemID ∧ event.date = record.date
  accounted : ∀ since ∈ state.firstSince, ∀ event ∈ state.log,
    event.eventType ∈ cfg.importEventTypes → since < event.date →
      Reported state.reported event ∨ Pending state event

namespace Accounted

variable {cfg : HistoryConfig} {zone : Zone} {instanceID : UUID} {pageSize : ℕ} {state : State}

theorem initial (polls : PollTable) {now : Time} (hclock : zeroTime < now) :
    Accounted cfg instanceID (State.initial polls now) where
  clock := hclock
  keyed := fun event hmem ↦ absurd hmem List.not_mem_nil
  unstarted := fun _ _ ↦ rfl
  stored := fun last hlast ↦ by cases hlast
  collected := fun record hmem ↦ absurd hmem List.not_mem_nil
  accounted := fun since hsince ↦ by cases hsince

theorem append (h : Accounted cfg instanceID state) {event : ImportEvent} {now : Time}
    (hguard : Succeeds cfg instanceID pageSize state (.append event now))
    (htime : AppendsInTime cfg state (.append event now)) :
    Accounted cfg instanceID { state with now := now, log := state.log ++ [event] } := by
  obtain ⟨hnow, _, hfresh⟩ := hguard
  refine { h with
    clock := lt_of_lt_of_le h.clock hnow
    keyed := ?_
    collected := fun record hmem ↦ ?_
    accounted := ?_ }
  · apply forall_pairs_append (R := fun first second ↦ first.id = second.id → first = second)
      h.keyed
    case hnew =>
      exact fun earlier hearlier ↦ ⟨fun hid ↦ absurd hid (hfresh earlier hearlier),
        fun hid ↦ absurd hid.symm (hfresh earlier hearlier)⟩
    case hself => exact fun _ ↦ rfl
  · obtain ⟨earlier, hearlier, hsame⟩ := h.collected record hmem
    exact ⟨earlier, List.mem_append_left [event] hearlier, hsame⟩
  · intro since hsince earlier hmem htype hdate
    cases List.mem_append.mp hmem with
    | inl hold => exact h.accounted since hsince earlier hold htype hdate
    | inr hnew =>
      rw [List.mem_singleton.mp hnew] at htype ⊢
      exact Or.inr (Or.inr (htime htype))

/-- The window of a poll starts where the poll before ended. -/
theorem start (h : Accounted cfg instanceID state) {failure : Option String} {now : Time}
    (hidle : state.phase = .idle)
    (hguard : Succeeds cfg instanceID pageSize state (.start failure now)) :
    Accounted cfg instanceID (state.start instanceID failure now) := by
  have hclock := lt_of_lt_of_le h.clock hguard.1
  unfold State.start
  split
  case h_1 => exact { h with clock := hclock }
  case h_2 last hlast =>
    refine { h with
      clock := hclock
      unstarted := fun hbegun ↦ by cases hbegun
      collected := fun record hmem ↦ absurd hmem List.not_mem_nil
      accounted := ?_ }
    intro since hsince event hevent htype hdate
    cases hfirst : state.firstSince with
    | none =>
      rw [hfirst] at hsince
      cases hsince
      exact Or.inr (Or.inr hdate)
    | some first =>
      rw [hfirst] at hsince
      cases hsince
      cases hrecorded : state.lastRecorded with
      | none =>
        have hnone := h.unstarted hidle hrecorded
        rw [hfirst] at hnone
        cases hnone
      | some recorded =>
        obtain ⟨hzero, hread⟩ := h.stored recorded hrecorded
        have hlast := hread failure last hlast
        refine (h.accounted first hfirst event hevent htype hdate).imp_right fun hpending ↦ Or.inr ?_
        unfold Pending at hpending
        rw [hidle, hrecorded] at hpending
        have hafter : recorded < event.date :=
          hpending.resolve_left List.not_mem_nil recorded rfl
        change (if last = zeroTime then _ else last) < event.date
        rw [hlast, if_neg hzero]
        exact hafter

theorem deletePage (h : Accounted cfg instanceID state) {since : Time} (page : Page)
    (hbegun : state.phase = .begun since) :
    Accounted cfg instanceID { state with
      phase := .fetching since (upgradedItems cfg since page) [] cfg.importEventTypes } := by
  refine { h with
    unstarted := fun hfetching ↦ by cases hfetching
    collected := fun record hmem ↦ absurd hmem List.not_mem_nil
    accounted := ?_ }
  intro first hfirst event hevent htype hdate
  refine (h.accounted first hfirst event hevent htype hdate).imp_right fun hpending ↦ Or.inr ?_
  unfold Pending at hpending
  rw [hbegun] at hpending
  exact ⟨htype, hpending.resolve_left List.not_mem_nil⟩

/-- A page collects the events of its type; those of the other types wait for theirs. -/
theorem importPage (h : Accounted cfg instanceID state) {since : Time}
    {upgraded : KeyedTable ℤ DeletedFile} {records : List HistoryRecord} {eventType : ℤ}
    {remaining : List ℤ} {page : List HistoryRecordResponse}
    (hfetching : state.phase = .fetching since upgraded records (eventType :: remaining))
    (hguard : Succeeds cfg instanceID pageSize state (.importPage (.ok page))) :
    Accounted cfg instanceID { state with
      phase := .fetching since upgraded (addImportPage cfg since upgraded records page)
        remaining } := by
  obtain ⟨hnewest, hwindow⟩ := hguard since (by rw [hfetching]; rfl) eventType (by rw [hfetching]; rfl)
  have hcollected := h.collected
  rw [hfetching] at hcollected
  refine { h with
    unstarted := fun hidle ↦ by cases hidle
    collected := ?_
    accounted := ?_ }
  · intro record hmem
    cases mem_addImportPage hmem with
    | inl hold => exact hcollected record hold
    | inr hnew =>
      obtain ⟨response, hresponse, _, rfl⟩ := hnew
      have hlog := (hnewest.mem_log _ (List.mem_map_of_mem hresponse)).1
      exact ⟨importEvent cfg eventType response, hlog, rfl, rfl, rfl⟩
  · intro first hfirst event hevent htype hdate
    refine (h.accounted first hfirst event hevent htype hdate).imp_right fun hpending ↦ ?_
    unfold Pending at hpending
    rw [hfetching] at hpending
    cases hpending with
    | inl hid =>
      exact Or.inl (List.map_subset _ (subset_addImportPage records page) hid)
    | inr hcaught =>
      obtain ⟨hremaining, hafter⟩ := hcaught
      cases List.mem_cons.mp hremaining with
      | inr hlater => exact Or.inr ⟨hlater, hafter⟩
      | inl hhere =>
        have hshown : event ∈ page.map (importEvent cfg eventType) := by
          apply hnewest.mem_of_window hwindow
          unfold windowEvents
          simp only [List.mem_filter, decide_eq_true_eq]
          exact ⟨hevent, hhere, hafter⟩
        obtain ⟨response, hresponse, rfl⟩ := List.mem_map.mp hshown
        exact Or.inl (id_mem_addImportPage hresponse hafter)

/-- Once all pages are fetched nothing is pending, and what was collected is reported. -/
theorem log (h : Accounted cfg instanceID state) {since : Time} {upgraded : KeyedTable ℤ DeletedFile}
    {records : List HistoryRecord} (files : FileLookups)
    (hfetched : state.phase = .fetching since upgraded records []) :
    Accounted cfg instanceID { state with
      phase := .logged, reported := state.reported ++ finishImports files records } := by
  refine { h with
    unstarted := fun hidle ↦ by cases hidle
    collected := fun record hmem ↦ absurd hmem List.not_mem_nil
    accounted := ?_ }
  intro first hfirst event hevent htype hdate
  refine Or.inl ?_
  cases h.accounted first hfirst event hevent htype hdate with
  | inl hreported => exact hreported.append _
  | inr hpending =>
    unfold Pending at hpending
    rw [hfetched] at hpending
    have hid : event.id ∈ records.map (·.id) :=
      hpending.resolve_right fun hcaught ↦ absurd hcaught.1 List.not_mem_nil
    obtain ⟨record, hrecord, hsame⟩ := List.mem_map.mp hid
    have hcollected := h.collected
    rw [hfetched] at hcollected
    obtain ⟨other, hother, hotherID, hitem, hotherDate⟩ := hcollected record hrecord
    have heq := h.keyed other hother event hevent (hotherID.trans hsame)
    obtain ⟨newest, hnewest, hnewestItem, hnewestDate⟩ := exists_mem_finishImports files hrecord
    refine ⟨newest, List.mem_append_right _ hnewest, ?_, ?_⟩
    · calc newest.itemID = record.itemID := hnewestItem
        _ = other.itemID := hitem.symm
        _ = event.itemID := by rw [heq]
    · calc event.date = other.date := by rw [heq]
        _ = record.date := hotherDate
        _ ≤ newest.date := hnewestDate

theorem reported_of_logged (h : Accounted cfg instanceID state) (hlogged : state.phase = .logged)
    {since : Time} (hsince : state.firstSince = some since) {event : ImportEvent}
    (hevent : event ∈ state.log) (htype : event.eventType ∈ cfg.importEventTypes)
    (hdate : since < event.date) : Reported state.reported event := by
  refine (h.accounted since hsince event hevent htype hdate).resolve_right fun hpending ↦ ?_
  unfold Pending at hpending
  rw [hlogged] at hpending
  exact hpending.elim List.not_mem_nil id

theorem record (h : Accounted cfg instanceID state) {now : Time} (hlogged : state.phase = .logged)
    (hnow : state.now ≤ now) : Accounted cfg instanceID (state.record zone instanceID none now) := by
  refine { h with
    clock := lt_of_lt_of_le h.clock hnow
    unstarted := fun _ hnone ↦ by cases hnone
    stored := ?_
    collected := fun record hmem ↦ absurd hmem List.not_mem_nil
    accounted := fun since hsince event hevent htype hdate ↦
      Or.inl (h.reported_of_logged hlogged hsince hevent htype hdate) }
  intro last hlast
  cases hlast
  exact ⟨(lt_of_lt_of_le h.clock hnow).ne', fun failure read hread ↦ lastPolled_recordPoll hread⟩

theorem step (h : Accounted cfg instanceID state) (action : Action)
    (hguard : Succeeds cfg instanceID pageSize state action ∧ AppendsInTime cfg state action) :
    Accounted cfg instanceID (Polling.step cfg zone instanceID state action) := by
  revert hguard
  apply step_cases (motive := fun action after ↦
    Succeeds cfg instanceID pageSize state action ∧ AppendsInTime cfg state action →
      Accounted cfg instanceID after)
  case skipped => exact fun _ _ ↦ h
  case appended => exact fun _ _ hguard ↦ h.append hguard.1 hguard.2
  case started => exact fun _ _ hidle hguard ↦ h.start hidle hguard.1
  case opened => exact fun _ page hbegun _ ↦ h.deletePage page hbegun
  case unfetched => exact fun _ _ hguard ↦ hguard.1.elim
  case fetched => exact fun _ _ _ _ _ _ hfetching hguard ↦ h.importPage hfetching hguard.1
  case logged => exact fun _ _ _ files hfetched _ ↦ h.log files hfetched
  case loggedSome => exact fun _ _ _ _ _ _ _ hguard ↦ hguard.1.elim
  case recorded =>
    intro _ now hlogged hguard
    obtain ⟨⟨hnow, rfl⟩, _⟩ := hguard
    exact h.record hlogged hnow
  case restarted => exact fun hguard ↦ hguard.1.elim

end Accounted

/-- What is reported stays reported. -/
theorem reported_prefix (cfg : HistoryConfig) (zone : Zone) (instanceID : UUID) (state : State)
    (actions : List Action) :
    state.reported <+: (actions.foldl (step cfg zone instanceID) state).reported := by
  induction actions generalizing state with
  | nil => exact List.prefix_rfl
  | cons action actions ih =>
    refine List.IsPrefix.trans ?_ (ih _)
    apply step_cases (motive := fun _ after ↦ state.reported <+: after.reported)
    case skipped => exact fun _ ↦ List.prefix_rfl
    case appended => exact fun _ _ ↦ List.prefix_rfl
    case started =>
      intro _ _ _
      unfold State.start
      split <;> exact List.prefix_rfl
    case opened => exact fun _ _ _ ↦ List.prefix_rfl
    case unfetched => exact fun _ _ ↦ List.prefix_rfl
    case fetched => exact fun _ _ _ _ _ _ _ ↦ List.prefix_rfl
    case logged => exact fun _ _ _ _ _ ↦ List.prefix_append _ _
    case loggedSome => exact fun _ _ _ _ _ _ _ ↦ List.prefix_append _ _
    case recorded => exact fun _ _ _ ↦ List.prefix_rfl
    case restarted => exact List.prefix_rfl

/-- When a poll completes, every import dated after the start of the first poll's window is reported if
all were appended in time, and it stays so. -/
theorem reported_of_appendsInTime (cfg : HistoryConfig) (zone : Zone) (instanceID : UUID)
    (pageSize : ℕ) (polls : PollTable) {now : Time} (hclock : zeroTime < now)
    (before after : List Action) (failure : Option String) (recordAt : Time)
    (hrun : Along (step cfg zone instanceID)
      (fun state action ↦
        Succeeds cfg instanceID pageSize state action ∧ AppendsInTime cfg state action)
      (State.initial polls now) (before ++ .record failure recordAt :: after))
    (hlogged : (before.foldl (step cfg zone instanceID) (State.initial polls now)).phase = .logged) :
    let completed := before.foldl (step cfg zone instanceID) (State.initial polls now)
    let final := (Action.record failure recordAt :: after).foldl (step cfg zone instanceID) completed
    ∀ since, completed.firstSince = some since →
      ∀ event ∈ completed.log, event.eventType ∈ cfg.importEventTypes → since < event.date →
        Reported final.reported event := by
  intro completed final since hsince event hevent htype hdate
  have hbefore := ((along_append before _).mp hrun).1
  have hcompleted : Accounted cfg instanceID completed :=
    invariant_of_along (fun _ action h hguard ↦ h.step action hguard) hbefore
      (Accounted.initial polls hclock)
  have hreported := hcompleted.reported_of_logged hlogged hsince hevent htype hdate
  obtain ⟨later, hlater⟩ := reported_prefix cfg zone instanceID completed
    (.record failure recordAt :: after)
  have hfinal : final.reported = completed.reported ++ later := hlater.symm
  rw [hfinal]
  exact hreported.append later

/-- An import between two polls, and one while a page is still to be fetched. -/
theorem reported_of_appendsInTime_two_imports :
    let early : ImportEvent := ⟨3, 7, 1, minute⟩
    let late : ImportEvent := ⟨10, 8, 1, 3 * minute⟩
    let before : List Action := [.append early minute, .start none (2 * minute), .deletePage (.ok []),
      .importPage (.ok [bareRecord 7 1 minute]), .append late (3 * minute),
      .importPage (.ok [bareRecord 8 1 (3 * minute)]), .log fun _ _ ↦ .error ""]
    let final := step whisparrV3History Zone.utc 1
      (before.foldl (step whisparrV3History Zone.utc 1) (State.initial ∅ 0)) (.record none (4 * minute))
    Reported final.reported early ∧ Reported final.reported late := by
  intro early late before final
  have hrun : Along (step whisparrV3History Zone.utc 1)
      (fun state action ↦ Succeeds whisparrV3History 1 historyPageSize state action ∧
        AppendsInTime whisparrV3History state action)
      (State.initial ∅ 0) (before ++ Action.record none (4 * minute) :: []) := by
    simp only [before, early, late]
    decide
  have hreported := reported_of_appendsInTime whisparrV3History Zone.utc 1 historyPageSize ∅ (by decide)
    before [] none (4 * minute) hrun rfl _ rfl
  exact ⟨hreported early (by decide) (by decide) (by decide),
    hreported late (by decide) (by decide) (by decide)⟩

/-- An import between the fetch of its page and the recorded time is not reported by the next poll,
although that poll sees it. -/
theorem import_lost :
    let event : ImportEvent := ⟨3, 7, 1, 3 * minute⟩
    let first : List Action := [.start none (2 * minute), .deletePage (.ok []), .importPage (.ok []),
      .append event (3 * minute), .log fun _ _ ↦ .error "", .record none (4 * minute)]
    let second := pollActions none none (10 * minute) (11 * minute) (.ok [])
      [.ok [bareRecord 7 1 (3 * minute)]] fun _ _ ↦ .error ""
    let final := (first ++ second).foldl (step sonarrHistory Zone.utc 1) (State.initial ∅ 0)
    Along (step sonarrHistory Zone.utc 1) (Succeeds sonarrHistory 1 historyPageSize)
        (State.initial ∅ 0) (first ++ second) ∧
      event ∈ final.log ∧ final.firstSince = some (2 * minute - firstPollLookback) ∧
      2 * minute - firstPollLookback < event.date ∧ final.lastRecorded = some (11 * minute) ∧
      ¬Reported final.reported event :=
  ⟨by decide, by decide, by decide, by decide, by decide, by decide⟩

end Huntarr2.Polling
