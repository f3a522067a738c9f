import Huntarr2.Polling.NoLoss

/-!
# When an upgrade is logged as a download

An upgrade deletes a file and then imports a better one. A poll looks for the deletion on its delete
page, among the records dated after the start of its window. The import of an upgrade is logged as a
download exactly if it is in the window of a poll and the deletion is not: when the deletion is dated
before the window, or was not there yet when the delete page was fetched.
-/

namespace Huntarr2.Polling

open Arr GoStd Machine Scheduling

/-! ## The stream of both kinds of events -/

/-- A file-deleted event. -/
structure DeleteEvent extends ImportEvent where
  reason : Text
  deriving DecidableEq, Repr

def DeleteEvent.ofUpgrade (event : DeleteEvent) : Bool := equalFold event.reason "upgrade"

/-- The event a record of a delete page describes. -/
def deleteEvent (cfg : HistoryConfig) (record : HistoryRecordResponse) : DeleteEvent :=
  ⟨importEvent cfg cfg.deleteEventType record, record.dataValue "reason"⟩

inductive HistoryEvent
  | imported (event : ImportEvent)
  | deleted (event : DeleteEvent)
  deriving DecidableEq, Repr

def deletions (stream : List HistoryEvent) : List DeleteEvent :=
  stream.filterMap fun event ↦ match event with
    | .deleted event => some event
    | .imported _ => none

/-- The import is the first one of its item after the deletion of an upgrade, then or later. -/
def CompletesUpgrade (stream : List HistoryEvent) (event : ImportEvent) : Prop :=
  ∃ (before : List HistoryEvent) (deleted : DeleteEvent) (between after : List HistoryEvent),
    stream = before ++ .deleted deleted :: between ++ .imported event :: after ∧
      deleted.ofUpgrade = true ∧ deleted.itemID = event.itemID ∧ deleted.date ≤ event.date ∧
      ∀ other, .imported other ∈ between → other.itemID ≠ event.itemID

theorem CompletesUpgrade.mem {stream : List HistoryEvent} {event : ImportEvent}
    (h : CompletesUpgrade stream event) : .imported event ∈ stream := by
  obtain ⟨before, deleted, between, after, rfl, -⟩ := h
  simp

/-- The poller with the application's stream of events. The deletions there were when the running poll
fetched its delete page are remembered for the statements only. -/
structure StreamState where
  poll : State
  stream : List HistoryEvent
  seen : List DeleteEvent

def StreamState.initial (polls : PollTable) (now : Time) : StreamState where
  poll := .initial polls now
  stream := []
  seen := []

/-- A deletion, or a step of the poller or of an import. -/
inductive StreamAction
  | delete (event : DeleteEvent) (now : Time)
  | poll (action : Action)

/-- The stream after an action of the polling system. -/
def streamAfter (state : StreamState) : Action → List HistoryEvent
  | .append event _ => state.stream ++ [.imported event]
  | _ => state.stream

/-- The deletions that the delete page of the running poll was made from. -/
def seenAfter (state : StreamState) : Action → List DeleteEvent
  | .deletePage _ =>
    match state.poll.phase with
    | .begun _ => deletions state.stream
    | _ => state.seen
  | _ => state.seen

def streamStep (cfg : HistoryConfig) (zone : Zone) (instanceID : UUID) (state : StreamState) :
    StreamAction → StreamState
  | .delete event now => { state with
      poll := { state.poll with now := now }, stream := state.stream ++ [.deleted event] }
  | .poll action =>
    { poll := step cfg zone instanceID state.poll action
      stream := streamAfter state action
      seen := seenAfter state action }

/-! ## Successful polls -/

section Guards

variable (cfg : HistoryConfig) (pageSize : ℕ)

/-- The delete page shows the newest deletions with their reasons. -/
def ShowsDeletions (deleted : List DeleteEvent) (page : List HistoryRecordResponse) : Prop :=
  (∀ record ∈ page, deleteEvent cfg record ∈ deleted) ∧
    IsNewestPage pageSize (deleted.map (·.toImportEvent)) cfg.deleteEventType
      (page.map (importEvent cfg cfg.deleteEventType))

/-- Every event has an ID of its own, delete pages are fetched and cover the window of their poll, the
pages of imports show the newest ones, and what is logged is written. -/
def Covers (state : StreamState) : StreamAction → Prop
  | .delete event _ => event.eventType = cfg.deleteEventType ∧
      ∀ earlier ∈ deletions state.stream, earlier.id ≠ event.id
  | .poll (.append event _) => ∀ earlier ∈ state.poll.log, earlier.id ≠ event.id
  | .poll (.deletePage (.error _)) | .poll (.logSome _ _ _) => False
  | .poll (.deletePage (.ok page)) => ∀ since ∈ state.poll.phase.since?,
      ShowsDeletions cfg pageSize (deletions state.stream) page ∧
        (windowEvents ((deletions state.stream).map (·.toImportEvent)) since
          cfg.deleteEventType).length ≤ pageSize
  | .poll (.importPage (.ok page)) => ∀ eventType ∈ state.poll.phase.remaining.head?,
      IsNewestPage pageSize state.poll.log eventType (page.map (importEvent cfg eventType))
  | .poll _ => True

/-- The running poll has collected the import and has nothing more to fetch. -/
def Collected (state : StreamState) (event : ImportEvent) : Prop :=
  event.id ∈ state.poll.phase.records.map (·.id) ∧ state.poll.phase.remaining = []

/-- Each import that the poll has collected and that completes an upgrade has a deletion of an upgrade
of its item that is dated after the start of the window and was there when the delete page was
fetched. -/
def DeletionsInWindow (state : StreamState) : StreamAction → Prop
  | .poll (.log _) => ∀ since ∈ state.poll.phase.since?, ∀ event,
      CompletesUpgrade state.stream event → Collected state event →
        ∃ deleted ∈ state.seen, deleted.ofUpgrade = true ∧ deleted.itemID = event.itemID ∧
          since < deleted.date
  | _ => True

/-- Each import that the poll has collected and that completes an upgrade is logged as an upgrade, by
itself or through a newer import of its item, and not as a download. -/
def LogsUpgrades (zone : Zone) (inst : Instance) (state : StreamState) (action : StreamAction) :
    Prop :=
  match action with
  | .poll (.log files) =>
    let after := streamStep cfg zone inst.id state (.poll (.log files))
    let logged := after.poll.reported.drop state.poll.reported.length
    ∀ event, CompletesUpgrade state.stream event → Collected state event →
      (∃ record ∈ logged, record.itemID = event.itemID ∧ event.date ≤ record.date ∧
        (importEntry inst record).action = .upgradeDetected) ∧
      ∀ record ∈ logged, record.id = event.id →
        (importEntry inst record).action = .upgradeDetected
  | _ => True

instance (deleted : List DeleteEvent) (page : List HistoryRecordResponse) :
    Decidable (ShowsDeletions cfg pageSize deleted page) :=
  inferInstanceAs (Decidable (_ ∧ _))

instance (state : StreamState) (action : StreamAction) :
    Decidable (Covers cfg pageSize state action) :=
  match action with
  | .delete _ _ => inferInstanceAs (Decidable (_ ∧ _))
  | .poll (.append _ _) => inferInstanceAs (Decidable (∀ _ ∈ _, _))
  | .poll (.deletePage (.error _)) | .poll (.logSome _ _ _) => isFalse id
  | .poll (.deletePage (.ok _)) => inferInstanceAs (Decidable (∀ _ ∈ _, _ ∧ _))
  | .poll (.importPage (.ok _)) => inferInstanceAs (Decidable (∀ _ ∈ _, _))
  | .poll (.importPage (.error _)) | .poll (.start _ _) | .poll (.log _) | .poll (.record _ _) |
    .poll .restart => isTrue trivial

end Guards

/-! ## What the delete page contributes -/

/-- What every step keeps. The items a running poll holds for upgraded are those of the deletions it
could see in its window, and the imports it has collected are flagged accordingly. -/
structure Classified (cfg : HistoryConfig) (state : StreamState) : Prop where
  keyed : ∀ first ∈ state.poll.log, ∀ second ∈ state.poll.log, first.id = second.id → first = second
  streamed : ∀ event, .imported event ∈ state.stream → event ∈ state.poll.log
  deletionsKeyed : ∀ first ∈ deletions state.stream, ∀ second ∈ deletions state.stream,
    first.id = second.id → first = second
  deletionsTyped : ∀ deleted ∈ deletions state.stream, deleted.eventType = cfg.deleteEventType
  collected : ∀ record ∈ state.poll.phase.records, ∃ event ∈ state.poll.log,
    event.id = record.id ∧ event.itemID = record.itemID ∧ event.date = record.date
  flagged : ∀ since upgraded records remaining,
    state.poll.phase = .fetching since upgraded records remaining →
      (∀ record ∈ records, (record.isUpgrade = true ↔ record.itemID ∈ upgraded)) ∧
        ∀ itemID, itemID ∈ upgraded ↔ ∃ deleted ∈ state.seen, deleted.ofUpgrade = true ∧
          deleted.itemID = itemID ∧ since < deleted.date

theorem deletions_append (first second : List HistoryEvent) :
    deletions (first ++ second) = deletions first ++ deletions second := List.filterMap_append

/-- The delete page of a poll shows every upgrade in the window, and no other. -/
theorem mem_upgradedItems_of_showsDeletions {cfg : HistoryConfig} {pageSize : ℕ}
    {deleted : List DeleteEvent} {page : List HistoryRecordResponse} {since : Time}
    (hkeyed : ∀ first ∈ deleted, ∀ second ∈ deleted, first.id = second.id → first = second)
    (htyped : ∀ event ∈ deleted, event.eventType = cfg.deleteEventType)
    (hshows : ShowsDeletions cfg pageSize deleted page)
    (hwindow : (windowEvents (deleted.map (·.toImportEvent)) since cfg.deleteEventType).length ≤
      pageSize) (itemID : ℤ) :
    itemID ∈ upgradedItems cfg since (.ok page) ↔ ∃ event ∈ deleted, event.ofUpgrade = true ∧
      event.itemID = itemID ∧ since < event.date := by
  obtain ⟨hmem, hnewest⟩ := hshows
  rw [mem_upgradedItems]
  constructor
  · rintro ⟨record, hrecord, hreason, hdate, hitem⟩
    exact ⟨deleteEvent cfg record, hmem record hrecord, hreason, hitem, hdate⟩
  · rintro ⟨event, hevent, hreason, hitem, hdate⟩
    have hshown : event.toImportEvent ∈ page.map (importEvent cfg cfg.deleteEventType) := by
      apply hnewest.mem_of_window hwindow
      unfold windowEvents
      simp only [List.mem_filter, decide_eq_true_eq]
      exact ⟨List.mem_map_of_mem hevent, htyped event hevent, hdate⟩
    obtain ⟨record, hrecord, hsame⟩ := List.mem_map.mp hshown
    have hid : (deleteEvent cfg record).id = event.id := congrArg ImportEvent.id hsame
    obtain rfl := hkeyed _ (hmem record hrecord) event hevent hid
    exact ⟨record, hrecord, hreason, hdate, hitem⟩

namespace Classified

variable {cfg : HistoryConfig} {zone : Zone} {instanceID : UUID} {pageSize : ℕ}
  {state : StreamState}

theorem initial (polls : PollTable) (now : Time) :
    Classified cfg (StreamState.initial polls now) where
  keyed := fun event hmem ↦ absurd hmem List.not_mem_nil
  streamed := fun event hmem ↦ absurd hmem List.not_mem_nil
  deletionsKeyed := fun event hmem ↦ absurd hmem List.not_mem_nil
  deletionsTyped := fun event hmem ↦ absurd hmem List.not_mem_nil
  collected := fun record hmem ↦ absurd hmem List.not_mem_nil
  flagged := fun since upgraded records remaining hphase ↦ by cases hphase

theorem delete (h : Classified cfg state) {event : DeleteEvent} {now : Time}
    (hguard : Covers cfg pageSize state (.delete event now)) :
    Classified cfg (streamStep cfg zone instanceID state (.delete event now)) := by
  obtain ⟨htype, hfresh⟩ := hguard
  have hdeletions : deletions (state.stream ++ [.deleted event]) =
      deletions state.stream ++ [event] := deletions_append _ _
  exact {
    keyed := h.keyed
    streamed := fun other hmem ↦ by
      rcases List.mem_append.mp hmem with hold | hnew
      · exact h.streamed other hold
      · cases List.mem_singleton.mp hnew
    deletionsKeyed := by
      change ∀ first ∈ deletions (state.stream ++ [.deleted event]),
        ∀ second ∈ deletions (state.stream ++ [.deleted event]), _
      rw [hdeletions]
      intro first hfirst second hsecond hid
      rw [List.mem_append, List.mem_singleton] at hfirst hsecond
      rcases hfirst with hfirst | rfl
      · rcases hsecond with hsecond | rfl
        · exact h.deletionsKeyed first hfirst second hsecond hid
        · exact absurd hid (hfresh first hfirst)
      · rcases hsecond with hsecond | rfl
        · exact absurd hid.symm (hfresh second hsecond)
        · rfl
    deletionsTyped := by
      change ∀ deleted ∈ deletions (state.stream ++ [.deleted event]), _
      rw [hdeletions, List.forall_mem_append]
      exact ⟨h.deletionsTyped, List.forall_mem_singleton.mpr htype⟩
    collected := h.collected
    flagged := h.flagged }

theorem append (h : Classified cfg state) {event : ImportEvent} {now : Time}
    (hguard : Covers cfg pageSize state (.poll (.append event now))) :
    Classified cfg (streamStep cfg zone instanceID state (.poll (.append event now))) := by
  have hdeletions : deletions (state.stream ++ [.imported event]) = deletions state.stream :=
    (deletions_append _ _).trans (List.append_nil _)
  exact {
    keyed := forall_pairs_append (R := fun first second ↦ first.id = second.id → first = second)
      h.keyed (fun earlier hearlier ↦ ⟨fun hid ↦ absurd hid (hguard earlier hearlier),
        fun hid ↦ absurd hid.symm (hguard earlier hearlier)⟩) fun _ ↦ rfl
    streamed := fun other hmem ↦ by
      rcases List.mem_append.mp hmem with hold | hnew
      · exact List.mem_append_left _ (h.streamed other hold)
      · cases List.mem_singleton.mp hnew
        exact List.mem_append_right _ List.mem_cons_self
    deletionsKeyed := hdeletions ▸ h.deletionsKeyed
    deletionsTyped := hdeletions ▸ h.deletionsTyped
    collected := fun record hmem ↦ by
      obtain ⟨earlier, hearlier, hsame⟩ := h.collected record hmem
      exact ⟨earlier, List.mem_append_left _ hearlier, hsame⟩
    flagged := h.flagged }

/-- A poll that is not fetching has collected nothing. -/
theorem rest (h : Classified cfg state) {after : State} (hlog : after.log = state.poll.log)
    (hphase : ∀ since upgraded records remaining,
      after.phase ≠ .fetching since upgraded records remaining) (seen : List DeleteEvent) :
    Classified cfg { poll := after, stream := state.stream, seen := seen } where
  keyed := hlog ▸ h.keyed
  streamed := hlog ▸ h.streamed
  deletionsKeyed := h.deletionsKeyed
  deletionsTyped := h.deletionsTyped
  collected := fun record hmem ↦ by
    change record ∈ after.phase.records at hmem
    cases hafter : after.phase with
    | fetching since upgraded records remaining => exact absurd hafter (hphase _ _ _ _)
    | _ =>
      rw [hafter] at hmem
      exact absurd hmem List.not_mem_nil
  flagged := fun since upgraded records remaining hfetching ↦
    absurd hfetching (hphase since upgraded records remaining)

theorem skip (h : Classified cfg state) (action : Action) :
    Classified cfg ⟨state.poll, state.stream, seenAfter state action⟩ := by
  cases hphase : state.poll.phase with
  | begun since =>
    refine h.rest rfl (fun _ _ _ _ hfetching ↦ ?_) _
    rw [hphase] at hfetching
    cases hfetching
  | _ =>
    have hseen : seenAfter state action = state.seen := by
      unfold seenAfter
      rw [hphase]
      cases action <;> rfl
    rw [hseen]
    exact h

/-- The delete page decides which items count as upgraded. -/
theorem openPage (h : Classified cfg state) {since : Time} {page : Page}
    (hbegun : state.poll.phase = .begun since)
    (hguard : Covers cfg pageSize state (.poll (.deletePage page))) :
    Classified cfg ⟨{ state.poll with
      phase := .fetching since (upgradedItems cfg since page) [] cfg.importEventTypes },
      state.stream, seenAfter state (.deletePage page)⟩ := by
  have hseen : seenAfter state (.deletePage page) = deletions state.stream := by
    unfold seenAfter
    dsimp only
    rw [hbegun]
  rw [hseen]
  refine {
    keyed := h.keyed
    streamed := h.streamed
    deletionsKeyed := h.deletionsKeyed
    deletionsTyped := h.deletionsTyped
    collected := fun record hmem ↦ absurd hmem List.not_mem_nil
    flagged := ?_ }
  intro start upgraded records remaining hphase
  cases hphase
  refine ⟨fun record hmem ↦ absurd hmem List.not_mem_nil, ?_⟩
  cases page with
  | error err => exact hguard.elim
  | ok page =>
    obtain ⟨hshows, hwindow⟩ := hguard since (by rw [hbegun]; rfl)
    exact mem_upgradedItems_of_showsDeletions h.deletionsKeyed h.deletionsTyped hshows hwindow

/-- Collected imports are flagged by their items. -/
theorem importPage (h : Classified cfg state) {since : Time} {upgraded : KeyedTable ℤ DeletedFile}
    {records : List HistoryRecord} {eventType : ℤ} {remaining : List ℤ}
    {page : List HistoryRecordResponse}
    (hfetching : state.poll.phase = .fetching since upgraded records (eventType :: remaining))
    (hguard : Covers cfg pageSize state (.poll (.importPage (.ok page)))) :
    Classified cfg ⟨{ state.poll with
      phase := .fetching since upgraded (addImportPage cfg since upgraded records page) remaining },
      state.stream, state.seen⟩ := by
  have hnewest := hguard eventType (by rw [hfetching]; rfl)
  have hcollected := h.collected
  rw [hfetching] at hcollected
  obtain ⟨hflags, hupgraded⟩ := h.flagged since upgraded records _ hfetching
  refine {
    keyed := h.keyed
    streamed := h.streamed
    deletionsKeyed := h.deletionsKeyed
    deletionsTyped := h.deletionsTyped
    collected := fun record hmem ↦ ?_
    flagged := ?_ }
  · rcases mem_addImportPage hmem with hold | ⟨response, hresponse, -, rfl⟩
    · exact hcollected record hold
    · have hlog := (hnewest.mem_log _ (List.mem_map_of_mem hresponse)).1
      exact ⟨importEvent cfg eventType response, hlog, rfl, rfl, rfl⟩
  · intro start items kept left hphase
    cases hphase
    refine ⟨fun record hmem ↦ ?_, hupgraded⟩
    rcases mem_addImportPage hmem with hold | ⟨response, -, -, rfl⟩
    · exact hflags record hold
    · exact isUpgrade_toHistoryRecord cfg upgraded response

theorem step (h : Classified cfg state) (action : StreamAction)
    (hguard : Covers cfg pageSize state action) :
    Classified cfg (streamStep cfg zone instanceID state action) := by
  cases action with
  | delete event now => exact h.delete hguard
  | poll action =>
    by_cases happend : ∃ event now, action = .append event now
    · obtain ⟨event, now, rfl⟩ := happend
      exact h.append hguard
    · have hstream : streamAfter state action = state.stream := by
        cases action with
        | append event now => exact absurd ⟨event, now, rfl⟩ happend
        | _ => rfl
      unfold streamStep
      dsimp only
      rw [hstream]
      revert hguard happend
      apply step_cases (motive := fun action after ↦ Covers cfg pageSize state (.poll action) →
        (¬∃ event now, action = .append event now) →
          Classified cfg ⟨after, state.stream, seenAfter state action⟩)
      case skipped => exact fun action _ _ ↦ h.skip action
      case appended => exact fun event now _ happend ↦ absurd ⟨event, now, rfl⟩ happend
      case started =>
        intro failure now hidle _ _
        unfold State.start
        split
        · apply h.rest
          · rfl
          · intro since upgraded records remaining hfetching
            exact Phase.noConfusion (hidle.symm.trans hfetching)
        · apply h.rest
          · rfl
          · intro since upgraded records remaining hbegun
            cases hbegun
      case opened => exact fun since page hbegun hguard _ ↦ h.openPage hbegun hguard
      case fetched =>
        exact fun _ _ _ _ _ page hfetching hguard _ ↦ h.importPage hfetching hguard
      case loggedSome => exact fun _ _ _ _ _ _ _ hguard _ ↦ hguard.elim
      all_goals
        intros
        apply h.rest
        · rfl
        · intro since upgraded records remaining hphase
          cases hphase

/-- A collected record with the ID of an import of the stream is of its item and date. -/
theorem eq_of_id (h : Classified cfg state) {record : HistoryRecord} {event : ImportEvent}
    (hrecord : record ∈ state.poll.phase.records) (hevent : .imported event ∈ state.stream)
    (hid : record.id = event.id) : record.itemID = event.itemID ∧ record.date = event.date := by
  obtain ⟨found, hfound, hfoundID, hitem, hdate⟩ := h.collected record hrecord
  obtain rfl := h.keyed found hfound event (h.streamed event hevent) (hfoundID.trans hid)
  exact ⟨hitem.symm, hdate.symm⟩

end Classified

/-! ## What a poll logs -/

theorem Collected.fetched {state : StreamState} {event : ImportEvent} (h : Collected state event) :
    ∃ since upgraded records, state.poll.phase = .fetching since upgraded records [] ∧
      event.id ∈ records.map (·.id) := by
  obtain ⟨hrecords, hremaining⟩ := h
  cases hphase : state.poll.phase with
  | fetching since upgraded records remaining =>
    rw [hphase] at hrecords hremaining
    obtain rfl : remaining = [] := hremaining
    exact ⟨since, upgraded, records, rfl, hrecords⟩
  | _ =>
    rw [hphase] at hrecords
    exact absurd hrecords List.not_mem_nil

theorem action_importEntry (inst : Instance) (record : HistoryRecord) :
    (importEntry inst record).action = .upgradeDetected ↔ record.isUpgrade = true := by
  unfold importEntry
  dsimp only
  cases record.isUpgrade with
  | false => decide
  | true => decide

/-- When all pages are fetched, the next step logs the finished imports. -/
theorem reported_log {cfg : HistoryConfig} {state : StreamState} {since : Time}
    {upgraded : KeyedTable ℤ DeletedFile} {records : List HistoryRecord} (zone : Zone)
    (instanceID : UUID) (files : FileLookups)
    (hphase : state.poll.phase = .fetching since upgraded records []) :
    (streamStep cfg zone instanceID state (.poll (.log files))).poll.reported.drop
      state.poll.reported.length = finishImports files records := by
  unfold streamStep step
  dsimp only
  rw [hphase]
  exact List.drop_left

/-- A finished import is logged as an upgrade exactly if its item counts as upgraded. -/
theorem Classified.upgradeDetected_iff {cfg : HistoryConfig} {state : StreamState} {since : Time}
    {upgraded : KeyedTable ℤ DeletedFile} {records : List HistoryRecord} {record : HistoryRecord}
    {files : FileLookups} (h : Classified cfg state) (inst : Instance)
    (hphase : state.poll.phase = .fetching since upgraded records [])
    (hrecord : record ∈ finishImports files records) :
    (importEntry inst record).action = .upgradeDetected ↔ record.itemID ∈ upgraded := by
  obtain ⟨collected, hcollected, rfl⟩ := mem_finishImports hrecord
  rw [action_importEntry, addFileDetails_isUpgrade, addFileDetails_itemID]
  exact (h.flagged since upgraded records [] hphase).1 collected hcollected

/-- A poll logs the imports of upgrades as upgrades exactly if their deletions are in its window. -/
theorem logsUpgrades_iff {cfg : HistoryConfig} {state : StreamState} (h : Classified cfg state)
    (zone : Zone) (inst : Instance) (action : StreamAction) :
    LogsUpgrades cfg zone inst state action ↔ DeletionsInWindow state action := by
  unfold LogsUpgrades DeletionsInWindow
  split
  case h_1 files =>
    constructor
    · intro hlogs since hsince event hcompletes hcollected
      obtain ⟨start, upgraded, records, hphase, -⟩ := hcollected.fetched
      obtain ⟨⟨record, hrecord, hitem, -, haction⟩, -⟩ := hlogs event hcompletes hcollected
      rw [reported_log zone inst.id files hphase] at hrecord
      obtain rfl : start = since := by
        rw [hphase] at hsince
        exact Option.some.inj hsince
      refine ((h.flagged start upgraded records [] hphase).2 event.itemID).mp ?_
      rw [← hitem]
      exact (h.upgradeDetected_iff inst hphase hrecord).mp haction
    · intro hwindow
      dsimp only
      intro event hcompletes hcollected
      obtain ⟨since, upgraded, records, hphase, hid⟩ := hcollected.fetched
      have hupgraded : event.itemID ∈ upgraded :=
        ((h.flagged since upgraded records [] hphase).2 event.itemID).mpr
          (hwindow since (by rw [hphase]; rfl) event hcompletes hcollected)
      have hsame {record : HistoryRecord} (hrecord : record ∈ records)
          (heq : record.id = event.id) :
          record.itemID = event.itemID ∧ record.date = event.date :=
        h.eq_of_id (by rw [hphase]; exact hrecord) hcompletes.mem heq
      rw [reported_log zone inst.id files hphase]
      constructor
      -- The newest import of the item stands for this one.
      · obtain ⟨record, hrecord, hrecordID⟩ := List.mem_map.mp hid
        obtain ⟨hitem, hdate⟩ := hsame hrecord hrecordID
        obtain ⟨newest, hnewest, hnewestItem, hnewestDate⟩ := exists_mem_finishImports files hrecord
        have hnewestEvent : newest.itemID = event.itemID := hnewestItem.trans hitem
        refine ⟨newest, hnewest, hnewestEvent, hdate ▸ hnewestDate, ?_⟩
        exact (h.upgradeDetected_iff inst hphase hnewest).mpr (hnewestEvent ▸ hupgraded)
      · intro record hrecord hrecordID
        refine (h.upgradeDetected_iff inst hphase hrecord).mpr ?_
        obtain ⟨collected, hmem, rfl⟩ := mem_finishImports hrecord
        rw [addFileDetails_id] at hrecordID
        rw [addFileDetails_itemID, (hsame hmem hrecordID).1]
        exact hupgraded
  case h_2 => exact Iff.rfl

/-- In a run of polls that cover their windows every import that completes an upgrade is logged as an
upgrade exactly if its deletion is in the window of the poll that collects it. -/
theorem along_logsUpgrades_iff (cfg : HistoryConfig) (zone : Zone) (inst : Instance) (pageSize : ℕ)
    (polls : PollTable) (now : Time) (actions : List StreamAction)
    (hcovers : Along (streamStep cfg zone inst.id) (Covers cfg pageSize)
      (StreamState.initial polls now) actions) :
    Along (streamStep cfg zone inst.id) (LogsUpgrades cfg zone inst)
        (StreamState.initial polls now) actions ↔
      Along (streamStep cfg zone inst.id) DeletionsInWindow (StreamState.initial polls now)
        actions :=
  along_congr_of_invariant (fun _ action h hguard ↦ h.step action hguard)
    (fun _ action h _ ↦ logsUpgrades_iff h zone inst action) hcovers (Classified.initial polls now)

/-- A file deleted by an upgrade in the first minute. -/
def sampleDeletion : DeleteEvent := ⟨⟨6, 20, 1, minute⟩, "Upgrade"⟩

def sampleDeleteRecord : HistoryRecordResponse :=
  { bareRecord 20 1 minute with data := AList.insert "reason".toList "Upgrade".toList ∅ }

/-- The import that replaces it. -/
def sampleImport (date : Time) : ImportEvent := ⟨3, 21, 1, date⟩

theorem completesUpgrade_sampleImport {date : Time} (hdate : minute ≤ date) :
    CompletesUpgrade [.deleted sampleDeletion, .imported (sampleImport date)] (sampleImport date) :=
  ⟨[], sampleDeletion, [], [], rfl, by decide, rfl, hdate, fun _ hmem ↦ absurd hmem List.not_mem_nil⟩

/-- The steps of a poll that starts at a time and is recorded a minute later. -/
def samplePoll (startedAt : Time) (imports : List HistoryRecordResponse) : List StreamAction :=
  (pollActions none none startedAt (startedAt + minute) (.ok [sampleDeleteRecord]) [.ok imports]
    fun _ _ ↦ .error "").map .poll

/-- A deletion and its import in one window are logged as an upgrade. -/
theorem along_logsUpgrades_one_window :
    let inst : Instance := ⟨1, "movies", "http://movies"⟩
    let actions : List StreamAction :=
      [.delete sampleDeletion minute, .poll (.append (sampleImport (2 * minute)) (2 * minute))] ++
        samplePoll (3 * minute) [bareRecord 21 1 (2 * minute)]
    Along (streamStep radarrHistory Zone.utc 1) (LogsUpgrades radarrHistory Zone.utc inst)
      (StreamState.initial ∅ 0) actions := by
  intro inst actions
  have hcovers : Along (streamStep radarrHistory Zone.utc 1) (Covers radarrHistory historyPageSize)
      (StreamState.initial ∅ 0) actions := by
    simp only [actions]
    decide
  refine (along_logsUpgrades_iff radarrHistory Zone.utc inst historyPageSize ∅ 0 actions
    hcovers).mpr ?_
  have hlog : DeletionsInWindow (actions.take 5 |>.foldl (streamStep radarrHistory Zone.utc 1)
      (StreamState.initial ∅ 0)) (.poll (.log fun _ _ ↦ .error "")) := by
    intro since hsince event hcompletes _
    have hmem : .imported event ∈
        [HistoryEvent.deleted sampleDeletion, .imported (sampleImport (2 * minute))] :=
      hcompletes.mem
    obtain rfl : event = sampleImport (2 * minute) := by simpa using hmem
    have hstart : some (3 * minute - firstPollLookback) = some since := hsince
    obtain rfl := Option.some.inj hstart
    exact ⟨sampleDeletion, List.mem_cons_self, by decide, rfl, by decide⟩
  -- Only the step that logs has something to prove.
  rw [show actions = actions.take 5 ++ [.poll (.log fun _ _ ↦ .error ""),
    .poll (.record none (3 * minute + minute))] from rfl, along_append]
  refine ⟨along_of_forall fun action haction state ↦ ?_,
    (along_cons _ _).mpr ⟨hlog, (along_cons _ _).mpr ⟨trivial, along_nil⟩⟩⟩
  have hquiet : ∀ action ∈ actions.take 5, (∀ files, action ≠ .poll (.log files)) := by
    simp [actions, samplePoll, pollActions]
  unfold DeletionsInWindow
  split
  case h_1 files => exact absurd rfl (hquiet _ haction files)
  case h_2 => trivial

/-- A poll between the deletion and the import of an upgrade: the next poll logs the import as a
download. -/
theorem upgrade_logged_as_download :
    let inst : Instance := ⟨1, "movies", "http://movies"⟩
    let actions : List StreamAction :=
      .delete sampleDeletion minute :: samplePoll (2 * minute) [] ++
        .poll (.append (sampleImport (4 * minute)) (4 * minute)) ::
          samplePoll (10 * minute) [bareRecord 21 1 (4 * minute)]
    let final := actions.foldl (streamStep radarrHistory Zone.utc 1) (StreamState.initial ∅ 0)
    Along (streamStep radarrHistory Zone.utc 1) (Covers radarrHistory historyPageSize)
        (StreamState.initial ∅ 0) actions ∧
      CompletesUpgrade final.stream (sampleImport (4 * minute)) ∧
      final.poll.reported.map (fun record ↦ (record.id, (importEntry inst record).action)) =
        [(21, .downloadDetected)] ∧
      ¬Along (streamStep radarrHistory Zone.utc 1) (LogsUpgrades radarrHistory Zone.utc inst)
        (StreamState.initial ∅ 0) actions := by
  intro inst actions final
  refine ⟨by decide, completesUpgrade_sampleImport (by decide), by decide, fun h ↦ ?_⟩
  have hlogs := h (_, .poll (.log _)) (List.mem_of_getElem? (i := 10) rfl)
    (sampleImport (4 * minute)) (completesUpgrade_sampleImport (by decide)) ⟨by decide, rfl⟩
  exact absurd hlogs.1 (by decide)

end Huntarr2.Polling
