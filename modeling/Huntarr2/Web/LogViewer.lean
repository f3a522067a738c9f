import Huntarr2.Foundation.Machine
import Huntarr2.Web.Logs

/-!
# Reading the log page by page

The table of the Logs page is filled again whenever a page is turned and with every poll, while the
program goes on logging and pruning. The requests overlap, and each is answered from the log at its own
time. An entry that is kept never comes nearer to the first page, so a reader who turns a page only
while the table holds its entries has seen it by the last page.
-/

namespace Huntarr2.Web

open Activity Api Clock GoStd Machine

/-! ## The viewer -/

/-- What `logViewer` shows. -/
structure LogViewer where
  entries : List Recorded
  total : ℕ
  page : ℕ
  fetchError : String

/-- The number of pages that so many entries have; there is always a first one. -/
def pageCount (total : ℕ) : ℕ := max 1 ((total + (perPage - 1)) / perPage)

def LogViewer.totalPages (viewer : LogViewer) : ℕ := pageCount viewer.total

/-- What `fetchEntries` does with a reply; `none` is a request that failed. -/
def LogViewer.receive (viewer : LogViewer) : Option ActivityListResponse → LogViewer
  | some data => { viewer with entries := data.entries, total := data.total, fetchError := "" }
  | none => { viewer with fetchError := "Failed to load activity entries." }

/-! ## The log meanwhile -/

/-- A write to the log. -/
inductive Change
  | logged (call : Creation)
  | pruned (before : Timestamp)

def Change.apply (log : List Row) : Change → List Row
  | .logged call =>
    match create log call.entry call.id call.now call.failure with
    | .ok log => log
    | .error _ => log
  | .pruned before => (deleteBefore log before).1

/-! ## Requests -/

/-- How far a request came: it was sent, its entries were read from a state of the log, or it was
answered. -/
inductive Stage
  | sent
  | listed (log : List Row)
  | answered (reply : Except ErrorReply ActivityListResponse)

/-- A request whose reply has not arrived. It is current if the filters were not set since. -/
structure Request where
  filters : Filters
  page : ℕ
  current : Bool
  stage : Stage

/-- The log, the viewer with its filters and requests, the page whose entries the table holds, and every
entry shown since the filters were set. -/
structure Reading where
  log : List Row
  filters : Filters
  viewer : LogViewer
  hidden : Bool
  requests : List Request
  table : Option ℕ
  shown : List Recorded

def Reading.atPage (state : Reading) (page : ℕ) : Reading :=
  { state with viewer := { state.viewer with page := page } }

/-- What the user, the timer, the program and the network do. -/
inductive Event
  | changed (change : Change)
  | hid (hidden : Bool)
  | filtered (filters : Filters)
  | polled
  | prevPage
  | nextPage
  | listed (index : ℕ)
  | counted (index : ℕ) (listing counting : QueryRun)
  | received (index : ℕ)
  | lost (index : ℕ)

/-- `fetchEntries`, up to its request. -/
def Reading.fetchEntries (state : Reading) : Reading :=
  if state.hidden then state
  else
    { state with
      requests := state.requests ++ [⟨state.filters, state.viewer.page, true, .sent⟩] }

/-- `fetchEntries`, from the reply on. -/
def Reading.receive (state : Reading) (request : Request) :
    Except ErrorReply ActivityListResponse → Reading
  | .ok data =>
    { state with
      viewer := state.viewer.receive (some data)
      table := if request.current then some request.page else none
      shown := state.shown ++ data.entries }
  | .error _ => { state with viewer := state.viewer.receive none }

/-- The filters are set, at the latest when the page is opened. -/
def Reading.setFilters (state : Reading) (filters : Filters) : Reading :=
  Reading.fetchEntries
    { state with
      filters := filters
      viewer := { state.viewer with page := 1 }
      requests := state.requests.map fun request ↦ { request with current := false }
      table := none
      shown := [] }

section Steps

variable (parseUUID : Text → Option UUID)

/-- The API lists the entries of a request, then counts and answers. -/
def Request.serve (log : List Row) (queries : Option (QueryRun × QueryRun)) (request : Request) :
    Request :=
  match request.stage, queries with
  | .sent, none => { request with stage := .listed log }
  | .listed then', some (listing, counting) =>
    { request with
      stage := .answered (handleListActivity then' log parseUUID
        (parseQuery (request.filters.query request.page)) listing counting) }
  | _, _ => request

def Reading.step (state : Reading) : Event → Reading
  | .changed change => { state with log := change.apply state.log }
  | .hid hidden => { state with hidden := hidden }
  | .filtered filters => state.setFilters filters
  | .polled => state.fetchEntries
  | .prevPage =>
    if 1 < state.viewer.page then (state.atPage (state.viewer.page - 1)).fetchEntries else state
  | .nextPage =>
    if state.viewer.page < state.viewer.totalPages then
      (state.atPage (state.viewer.page + 1)).fetchEntries
    else state
  | .listed index =>
    { state with requests := state.requests.modify index (Request.serve parseUUID state.log none) }
  | .counted index listing counting =>
    { state with
      requests := state.requests.modify index
        (Request.serve parseUUID state.log (some (listing, counting))) }
  | .received index =>
    match state.requests[index]? with
    | some request =>
      match request.stage with
      | .answered reply =>
        Reading.receive { state with requests := state.requests.eraseIdx index } request reply
      | _ => state
    | none => state
  | .lost index =>
    if index < state.requests.length then
      { state with
        requests := state.requests.eraseIdx index
        viewer := state.viewer.receive none }
    else state

end Steps

/-! ## What is still to come -/

/-- The change does not delete the row. -/
def Change.Keeps (row : Row) : Change → Prop
  | .logged _ => True
  | .pruned before => before.formatRFC3339Nano ≤ row.createdAt

/-- The row is kept, the filters stay, and the next page is turned to only while the table holds the
entries of the present one. -/
def Patient (row : Row) (state : Reading) : Event → Prop
  | .changed change => change.Keeps row
  | .filtered _ => False
  | .nextPage => state.table = some state.viewer.page
  | _ => True

/-- The row is behind the first `n` pages. -/
def Behind (filters : Filters) (log : List Row) (row : Row) (n : ℕ) : Prop :=
  row ∈ (filters.newestFirst log).drop (n * perPage)

/-- The reply to the request will show the row, or it is behind the page of the request. -/
def Request.Due (log : List Row) (row : Row) (request : Request) : Prop :=
  match request.stage with
  | .sent => Behind request.filters log row (request.page - 1)
  | .listed then' => Behind request.filters then' row (request.page - 1) ∧
      ∀ n, Behind request.filters then' row n → Behind request.filters log row n
  | .answered (.ok data) => row.recorded ∈ data.entries ∨
      Behind request.filters log row request.page ∧ request.page * perPage < data.total
  | .answered (.error _) => True

/-- The row was not shown yet: it is behind the pages before the present one, and where the table holds
the entries of a page the row is behind it, which the viewer knows not to be the last. -/
structure Waiting (row : Row) (state : Reading) : Prop where
  behind : Behind state.filters state.log row (state.viewer.page - 1)
  requests : ∀ request ∈ state.requests, request.current = true →
    request.filters = state.filters ∧ request.Due state.log row
  table : ∀ page ∈ state.table, Behind state.filters state.log row page ∧
    page * perPage < state.viewer.total

section Rows

variable {filters : Filters} {row : Row}

theorem sublist_logged (log : List Row) (call : Creation) :
    log.Sublist (Change.apply log (.logged call)) := by
  unfold Change.apply create
  dsimp only
  cases call.failure with
  | some err => exact List.Sublist.refl log
  | none => exact List.sublist_append_left log _

/-- A row that is kept does not come nearer. -/
theorem Behind.change {log : List Row} {change : Change} (hkeeps : change.Keeps row) {n : ℕ}
    (h : Behind filters log row n) : Behind filters (change.apply log) row n := by
  have htotal : Std.Total fun first second : Row ↦ second.createdAt ≤ first.createdAt :=
    ⟨fun first second ↦ le_total second.createdAt first.createdAt⟩
  have htrans : IsTrans Row fun first second ↦ second.createdAt ≤ first.createdAt :=
    ⟨fun _ _ _ hfirst hsecond ↦ hsecond.trans hfirst⟩
  have hsorted : (filters.newestFirst log).Pairwise fun first second ↦
      second.createdAt ≤ first.createdAt := List.pairwise_insertionSort _ _
  unfold Behind at h ⊢
  cases change with
  | logged call =>
    have hgrown := (sublist_logged log call).filter (buildListQuery (filters.params 1))
    exact ((insertionSort_sublist hgrown).drop _).subset h
  | pruned before =>
    have hafter : filters.newestFirst (Change.apply log (.pruned before)) =
        (filters.newestFirst log).filter fun row ↦
          !decide (row.createdAt < before.formatRFC3339Nano) := by
      unfold Filters.newestFirst newestFirst
      rw [← insertionSort_filter]
      unfold selected
      rw [List.filter_comm]
      rfl
    rw [hafter]
    refine mem_drop_filter (hsorted.imp fun {first second} hle hkept ↦ ?_) h ?_
    · rw [Bool.not_eq_true', decide_eq_false_iff_not, not_lt] at hkept ⊢
      exact hkept.trans hle
    · rw [Bool.not_eq_true', decide_eq_false_iff_not, not_lt]
      exact hkeeps

theorem Behind.of_le {log : List Row} {first second : ℕ} (hle : first ≤ second)
    (h : Behind filters log row second) : Behind filters log row first :=
  List.drop_subset_drop_left _ (Nat.mul_le_mul_right perPage hle) h

end Rows

section Run

variable {parseUUID : Text → Option UUID} (hparse : ∀ id, parseUUID (uuidText id).toList = some id)
  {row : Row} {state : Reading}

/-- A change that keeps the row keeps what a request promises. -/
theorem Request.Due.change {log : List Row} {request : Request} {change : Change}
    (hkeeps : change.Keeps row) (h : request.Due log row) : request.Due (change.apply log) row := by
  unfold Request.Due at h ⊢
  split
  case h_1 hstage => exact Behind.change hkeeps (by simpa only [hstage] using h)
  case h_2 then' hstage =>
    simp only [hstage] at h
    exact ⟨h.1, fun n hn ↦ Behind.change hkeeps (h.2 n hn)⟩
  case h_3 data hstage =>
    simp only [hstage] at h
    exact h.imp_right fun hbehind ↦ ⟨Behind.change hkeeps hbehind.1, hbehind.2⟩
  case h_4 => trivial

include hparse in
/-- Serving a request keeps what it promises: the row is on the page that was read, or behind it. -/
theorem Request.Due.serve {log : List Row} {request : Request} (h : request.Due log row)
    (queries : Option (QueryRun × QueryRun)) : (request.serve parseUUID log queries).Due log row := by
  unfold Request.serve
  split
  case h_1 hstage =>
    unfold Request.Due at h ⊢
    simp only [hstage] at h
    exact ⟨h, fun _ hn ↦ hn⟩
  case h_2 then' listing counting hstage =>
    unfold Request.Due at h
    simp only [hstage] at h
    obtain ⟨hbehind, hlater⟩ := h
    unfold Request.Due
    dsimp only
    split
    case h_1 hother => cases hother
    case h_2 hother => cases hother
    case h_3 data hreply =>
      obtain ⟨-, -, -, rfl⟩ := (handleListActivity_query hparse request.filters request.page).mp
        (Stage.answered.inj hreply)
      have hnext : request.page * perPage ≤ (request.page - 1) * perPage + perPage := by
        rw [← Nat.succ_mul]
        exact Nat.mul_le_mul_right perPage (by omega)
      unfold Behind at hbehind
      rw [← List.take_append_drop perPage ((request.filters.newestFirst then').drop _),
        List.drop_drop, List.mem_append] at hbehind
      rcases hbehind with hpage | hbehind
      · refine Or.inl ?_
        dsimp only
        rw [← List.map_drop, ← List.map_take]
        exact List.mem_map_of_mem hpage
      · have hafter : Behind request.filters log row request.page :=
          hlater _ (List.drop_subset_drop_left _ hnext hbehind)
        have hpositive := List.length_pos_of_mem hafter
        rw [List.length_drop] at hpositive
        exact Or.inr ⟨hafter, Nat.lt_of_sub_pos hpositive⟩
    case h_4 => trivial
  case h_3 => exact h

/-- A request for the present page promises what the pages before it left. -/
theorem Waiting.fetchEntries (h : Waiting row state) : Waiting row state.fetchEntries := by
  unfold Reading.fetchEntries
  split
  case isTrue => exact h
  case isFalse =>
    refine { h with requests := fun request hrequest hcurrent ↦ ?_ }
    rcases List.mem_append.mp hrequest with hearlier | hnew
    · exact h.requests request hearlier hcurrent
    · obtain rfl := List.mem_singleton.mp hnew
      exact ⟨rfl, h.behind⟩

theorem shown_fetchEntries (state : Reading) : state.fetchEntries.shown = state.shown := by
  unfold Reading.fetchEntries
  split <;> rfl

theorem step_nextPage (hmore : state.viewer.page < state.viewer.totalPages) :
    state.step parseUUID .nextPage = (state.atPage (state.viewer.page + 1)).fetchEntries :=
  if_pos hmore

theorem serve_filters (parseUUID : Text → Option UUID) (log : List Row)
    (queries : Option (QueryRun × QueryRun)) (request : Request) :
    (request.serve parseUUID log queries).filters = request.filters ∧
      (request.serve parseUUID log queries).current = request.current := by
  unfold Request.serve
  split <;> exact ⟨rfl, rfl⟩

theorem mem_modify {α : Type*} {f : α → α} {items : List α} {index : ℕ} {item : α}
    (h : item ∈ items.modify index f) : item ∈ items ∨ ∃ other ∈ items, item = f other := by
  obtain ⟨k, hk⟩ := List.mem_iff_getElem?.mp h
  rw [List.getElem?_modify] at hk
  obtain ⟨other, hother, rfl⟩ := Option.map_eq_some_iff.mp hk
  have hmem := List.mem_of_getElem? hother
  split
  · exact Or.inr ⟨other, hmem, rfl⟩
  · exact Or.inl hmem

include hparse in
theorem Waiting.serve (h : Waiting row state) (index : ℕ) (queries : Option (QueryRun × QueryRun)) :
    Waiting row { state with
      requests := state.requests.modify index (Request.serve parseUUID state.log queries) } := by
  refine { h with requests := fun request hrequest hcurrent ↦ ?_ }
  rcases mem_modify hrequest with hmem | ⟨other, hmem, rfl⟩
  · exact h.requests request hmem hcurrent
  · obtain ⟨hfilters, hsame⟩ := serve_filters parseUUID state.log queries other
    obtain ⟨hother, hdue⟩ := h.requests other hmem (hsame ▸ hcurrent)
    exact ⟨hfilters.trans hother, Request.Due.serve hparse hdue queries⟩

/-- A reply shows the row, or the row is behind the page it brings. -/
theorem Waiting.receive (h : Waiting row state) {request : Request}
    (hrequest : request ∈ state.requests) {reply : Except ErrorReply ActivityListResponse}
    (hstage : request.stage = .answered reply) (index : ℕ) :
    let next := Reading.receive { state with requests := state.requests.eraseIdx index } request reply
    row.recorded ∈ next.shown ∨ Waiting row next := by
  have hleft : ∀ other ∈ state.requests.eraseIdx index, other.current = true →
      other.filters = state.filters ∧ other.Due state.log row :=
    fun other hother ↦ h.requests other (List.mem_of_mem_eraseIdx hother)
  cases reply with
  | error err => exact Or.inr { h with requests := hleft }
  | ok data =>
    cases hcurrent : request.current with
    | false =>
      refine Or.inr ⟨h.behind, hleft, fun page hpage ↦ ?_⟩
      unfold Reading.receive at hpage
      simp [hcurrent] at hpage
    | true =>
      obtain ⟨hfilters, hdue⟩ := h.requests request hrequest hcurrent
      unfold Request.Due at hdue
      simp only [hstage] at hdue
      rcases hdue with hentry | ⟨hbehind, htotal⟩
      · exact Or.inl (List.mem_append_right _ hentry)
      · refine Or.inr ⟨h.behind, hleft, fun page hpage ↦ ?_⟩
        unfold Reading.receive at hpage
        rw [if_pos hcurrent] at hpage
        obtain rfl := Option.some.inj hpage
        exact ⟨hfilters ▸ hbehind, htotal⟩

include hparse

/-- What one event preserves. -/
theorem waiting_step (h : row.recorded ∈ state.shown ∨ Waiting row state) (event : Event)
    (hpatient : Patient row state event) :
    row.recorded ∈ (state.step parseUUID event).shown ∨ Waiting row (state.step parseUUID event) := by
  have hfetch {next : Reading} (hshown : next.shown = state.shown)
      (hnext : Waiting row state → Waiting row next) :
      row.recorded ∈ next.fetchEntries.shown ∨ Waiting row next.fetchEntries :=
    h.imp (fun hrow ↦ by rwa [shown_fetchEntries, hshown]) fun hwaiting ↦ (hnext hwaiting).fetchEntries
  cases event with
  | changed change =>
    refine h.imp_right fun hwaiting ↦ ⟨hwaiting.behind.change hpatient,
      fun request hrequest hcurrent ↦ ?_, fun page hpage ↦ ?_⟩
    · obtain ⟨hfilters, hdue⟩ := hwaiting.requests request hrequest hcurrent
      exact ⟨hfilters, hdue.change hpatient⟩
    · obtain ⟨hbehind, htotal⟩ := hwaiting.table page hpage
      exact ⟨hbehind.change hpatient, htotal⟩
  | hid hidden => exact h.imp_right fun hwaiting ↦ { hwaiting with }
  | filtered filters => exact hpatient.elim
  | polled => exact hfetch rfl id
  | prevPage =>
    unfold Reading.step
    dsimp only
    split
    case isTrue =>
      exact hfetch rfl fun hwaiting ↦
        { hwaiting with behind := hwaiting.behind.of_le (Nat.sub_le_sub_right (Nat.sub_le _ _) 1) }
    case isFalse => exact h
  | nextPage =>
    unfold Reading.step
    dsimp only
    split
    case isTrue =>
      -- The table holds the entries of the present page, so the row is behind it.
      exact hfetch rfl fun hwaiting ↦
        { hwaiting with behind := (hwaiting.table _ hpatient).1 }
    case isFalse => exact h
  | listed index => exact h.imp_right fun hwaiting ↦ hwaiting.serve hparse index none
  | counted index listing counting =>
    exact h.imp_right fun hwaiting ↦ hwaiting.serve hparse index (some (listing, counting))
  | received index =>
    unfold Reading.step
    dsimp only
    split
    case h_1 request hrequest =>
      split
      case h_1 reply hstage =>
        rcases h with hshown | hwaiting
        · refine Or.inl ?_
          cases reply with
          | ok data => exact List.mem_append_left _ hshown
          | error err => exact hshown
        · exact hwaiting.receive (List.mem_of_getElem? hrequest) hstage index
      case h_2 => exact h
    case h_2 => exact h
  | lost index =>
    unfold Reading.step
    dsimp only
    split
    case isTrue =>
      exact h.imp_right fun hwaiting ↦ { hwaiting with
        requests := fun request hrequest ↦
          hwaiting.requests request (List.mem_of_mem_eraseIdx hrequest) }
    case isFalse => exact h

omit hparse in
/-- When the filters are set everything is still to come. -/
theorem waiting_setFilters (state : Reading) {filters : Filters}
    (hrow : row ∈ filters.newestFirst state.log) : Waiting row (state.setFilters filters) := by
  refine Waiting.fetchEntries ⟨?_, fun request hrequest hcurrent ↦ ?_, fun page hpage ↦ nomatch hpage⟩
  · exact hrow
  · obtain ⟨_, -, rfl⟩ := List.mem_map.mp hrequest
    cases hcurrent

/-- Whoever reads to the last page, and turns to the next page only while the table holds the entries of
the present one, has seen every entry that the filters selected when they were set and that was not
pruned meanwhile, whatever was logged. -/
theorem shown_by_last_page (start : Reading) {filters : Filters} {events : List Event}
    (hrow : row ∈ filters.newestFirst start.log)
    (hpatient : Along (Reading.step parseUUID) (Patient row) (start.setFilters filters) events) :
    let last := events.foldl (Reading.step parseUUID) (start.setFilters filters)
    last.table = some last.viewer.page → last.viewer.totalPages ≤ last.viewer.page →
      row.recorded ∈ last.shown := by
  intro last htable hlast
  have hdue : row.recorded ∈ last.shown ∨ Waiting row last :=
    invariant_of_along (motive := fun state ↦ row.recorded ∈ state.shown ∨ Waiting row state)
      (fun _ event h hpatient ↦ waiting_step hparse h event hpatient) hpatient
      (Or.inr (waiting_setFilters start hrow))
  refine hdue.resolve_right fun hwaiting ↦ ?_
  have htotal := (hwaiting.table _ htable).2
  have hpages := (le_max_right 1 _).trans hlast
  have hceil := (Nat.div_le_iff_le_mul_add_pred (by decide)).mp hpages
  rw [Nat.mul_comm] at hceil
  omega

end Run

/-! ## Requests that do not overlap -/

/-- The page when it is opened. -/
def blank (log : List Row) (filters : Filters) : Reading :=
  ⟨log, filters, ⟨[], 0, 1, ""⟩, false, [], none, []⟩

/-- A request is answered at once: neither query fails, and nothing is written meanwhile. -/
def answerEvents (listPlan countPlan : Plan) (index : ℕ) : List Event :=
  [.listed index, .counted index ⟨listPlan, none⟩ ⟨countPlan, none⟩, .received index]

section Answered

variable (parseUUID : Text → Option UUID) (listPlan countPlan : Plan)

/-- The page is opened, and loaded. -/
def openPage (log : List Row) (filters : Filters) : Reading :=
  (answerEvents listPlan countPlan 0).foldl (Reading.step parseUUID)
    ((blank log filters).setFilters filters)

/-- The next page is turned to, and loaded. -/
def turnPage (state : Reading) : Reading :=
  (Event.nextPage :: answerEvents listPlan countPlan 0).foldl (Reading.step parseUUID) state

/-- The reading after some pages were turned. -/
def turned (log : List Row) (filters : Filters) (count : ℕ) : Reading :=
  (turnPage parseUUID listPlan countPlan)^[count] (openPage parseUUID listPlan countPlan log filters)

variable {parseUUID}

/-- A request that is answered at once. -/
theorem foldl_answerEvents {state : Reading} {index : ℕ} {filters : Filters} {page : ℕ}
    (h : state.requests[index]? = some ⟨filters, page, true, .sent⟩) :
    (answerEvents listPlan countPlan index).foldl (Reading.step parseUUID) state =
      Reading.receive { state with requests := state.requests.eraseIdx index }
        ⟨filters, page, true, .sent⟩
        (handleListActivity state.log state.log parseUUID (parseQuery (filters.query page))
          ⟨listPlan, none⟩ ⟨countPlan, none⟩) := by
  have hserved (queries : Option (QueryRun × QueryRun)) {requests : List Request} {request : Request}
      (hrequest : requests[index]? = some request) :
      (requests.modify index (Request.serve parseUUID state.log queries))[index]? =
        some (request.serve parseUUID state.log queries) := by
    rw [List.getElem?_modify_eq, hrequest]
    rfl
  unfold answerEvents
  simp only [List.foldl_cons, List.foldl_nil]
  unfold Reading.step
  dsimp only
  rw [hserved _ (hserved none h)]
  unfold Request.serve
  dsimp only
  rw [List.eraseIdx_modify_of_eq, List.eraseIdx_modify_of_eq]
  unfold Reading.receive
  rfl

/-- A turn sends one request, which is answered at once. -/
theorem turnPage_eq {state : Reading} (hhidden : state.hidden = false)
    (hrequests : state.requests = []) (hmore : state.viewer.page < state.viewer.totalPages) :
    turnPage parseUUID listPlan countPlan state =
      (answerEvents listPlan countPlan 0).foldl (Reading.step parseUUID)
        { state.atPage (state.viewer.page + 1) with
          requests := [⟨state.filters, state.viewer.page + 1, true, .sent⟩] } := by
  have hvisible : ¬(state.atPage (state.viewer.page + 1)).hidden = true := Bool.eq_false_iff.mp hhidden
  have hsent : (state.atPage (state.viewer.page + 1)).fetchEntries = _ := if_neg hvisible
  unfold turnPage
  rw [List.foldl_cons, step_nextPage hmore, hsent]
  dsimp only [Reading.atPage]
  rw [hrequests, List.nil_append]

variable (hparse : ∀ id, parseUUID (uuidText id).toList = some id)

include hparse

/-- What a page shows that is answered at once, up to the last offset that the API accepts. -/
theorem foldl_answerEvents_eq (state : Reading) {index : ℕ} {filters : Filters} {page : ℕ}
    (h : state.requests[index]? = some ⟨filters, page, true, .sent⟩)
    (hshort : (String.ofList filters.search).utf8ByteSize ≤ 49998) :
    let last := (answerEvents listPlan countPlan index).foldl (Reading.step parseUUID) state
    let entries := (((filters.newestFirst state.log).map Row.recorded).drop
      ((page - 1) * perPage)).take perPage
    ((page - 1) * perPage ≤ 100000 → last =
      ⟨state.log, state.filters, ⟨entries, (filters.newestFirst state.log).length,
        state.viewer.page, ""⟩, state.hidden, state.requests.eraseIdx index, some page,
        state.shown ++ entries⟩) ∧
    (100000 < (page - 1) * perPage → last =
      { state with
        requests := state.requests.eraseIdx index
        viewer := state.viewer.receive none }) := by
  intro last entries
  have hlast : last = _ := foldl_answerEvents listPlan countPlan h
  have hreply (data : ActivityListResponse) :
      handleListActivity state.log state.log parseUUID (parseQuery (filters.query page))
        ⟨listPlan, none⟩ ⟨countPlan, none⟩ = .ok data ↔ _ :=
    handleListActivity_query hparse filters page
  have htaken := refused_of_short hshort
  rw [hlast]
  constructor
  · intro hbound
    rw [(hreply _).mpr ⟨⟨rfl, rfl⟩, ⟨htaken _ _, htaken _ _⟩, hbound, rfl⟩]
    rfl
  · intro hbound
    cases hanswer : handleListActivity state.log state.log parseUUID (parseQuery (filters.query page))
        ⟨listPlan, none⟩ ⟨countPlan, none⟩ with
    | ok data => exact absurd ((hreply data).mp hanswer).2.2.1 (not_le.mpr hbound)
    | error err => rfl

/-- The number of pages that the API lists. -/
def listedPages : ℕ := 2001

variable {filters : Filters} (hshort : (String.ofList filters.search).utf8ByteSize ≤ 49998)

include hshort

/-- Every turn shows the next page, up to the last one that the API lists. -/
theorem turned_spec (log : List Row) {count : ℕ}
    (hcount : count < pageCount (filters.newestFirst log).length) :
    let state := turned parseUUID listPlan countPlan log filters count
    let entries := (filters.newestFirst log).map Row.recorded
    (state.log = log ∧ state.filters = filters ∧ state.hidden = false ∧ state.requests = []) ∧
      state.viewer.page = count + 1 ∧ state.viewer.total = (filters.newestFirst log).length ∧
      state.shown = entries.take (min (count + 1) listedPages * perPage) ∧
      (state.viewer.fetchError = "" ↔ count < listedPages) := by
  induction count with
  | zero =>
    have hfirst := (foldl_answerEvents_eq listPlan countPlan hparse
      ((blank log filters).setFilters filters)
      (rfl : ((blank log filters).setFilters filters).requests[0]? =
        some ⟨filters, 1, true, .sent⟩) hshort).1 (show (1 - 1) * perPage ≤ 100000 by decide)
    unfold turned openPage
    rw [Function.iterate_zero, id_eq, hfirst]
    exact ⟨⟨rfl, rfl, rfl, rfl⟩, rfl, rfl, rfl, iff_of_true rfl (by decide)⟩
  | succ count ih =>
    obtain ⟨⟨hlog, hfilters, hhidden, hrequests⟩, hpage, htotal, hshown, herror⟩ :=
      ih (Nat.lt_of_succ_lt hcount)
    intro state entries
    let before := turned parseUUID listPlan countPlan log filters count
    have hmore : before.viewer.page < before.viewer.totalPages := by
      unfold LogViewer.totalPages
      rw [hpage, htotal]
      exact hcount
    have hstate : state = (answerEvents listPlan countPlan 0).foldl (Reading.step parseUUID)
        { before.atPage (count + 2) with requests := [⟨filters, count + 2, true, .sent⟩] } := by
      have hturned : state = turnPage parseUUID listPlan countPlan before :=
        Function.iterate_succ_apply' _ _ _
      rw [hturned, turnPage_eq listPlan countPlan hhidden hrequests hmore, hpage, hfilters]
    obtain ⟨hlisted, hrefused⟩ := foldl_answerEvents_eq listPlan countPlan hparse
      { before.atPage (count + 2) with requests := [⟨filters, count + 2, true, .sent⟩] }
      (rfl : [(⟨filters, count + 2, true, .sent⟩ : Request)][0]? = _) hshort
    have hbound : (count + 2 - 1) * perPage ≤ 100000 ↔ count + 1 < listedPages := by
      unfold perPage listedPages
      omega
    rcases le_or_gt ((count + 2 - 1) * perPage) 100000 with hle | hgt
    · have hsecond := hbound.mp hle
      have hmin : min (count + 1 + 1) listedPages = min (count + 1) listedPages + 1 := by omega
      have hbefore : min (count + 1) listedPages = count + 1 := by omega
      rw [hstate, hlisted hle, hmin, Nat.succ_mul, List.take_add, hbefore]
      rw [hbefore] at hshown
      refine ⟨⟨hlog, hfilters, hhidden, rfl⟩, rfl, congrArg (fun log ↦
        (filters.newestFirst log).length) hlog, ?_, iff_of_true rfl hsecond⟩
      exact (congrArg₂ (fun shown log ↦ shown ++ List.take perPage (((filters.newestFirst log).map
        Row.recorded).drop ((count + 2 - 1) * perPage))) hshown hlog)
    · have hsecond := mt hbound.mpr (not_le.mpr hgt)
      have hmin : min (count + 1 + 1) listedPages = min (count + 1) listedPages := by omega
      rw [hstate, hrefused hgt, hmin]
      exact ⟨⟨hlog, hfilters, hhidden, rfl⟩, rfl, htotal, hshown,
        iff_of_false (by decide : ¬"Failed to load activity entries." = "") hsecond⟩

end Answered

theorem length_sampleLog (length : ℕ) : (sampleLog length).length = length := by
  rw [sampleLog, List.length_map, List.length_range]

/-- An entry is logged like those of the sample log. -/
def sampleChange : Change :=
  .logged ⟨(sampleRow 0).toEntry, 120, ⟨halfPastTen, halfPastTen_offset⟩, none⟩

theorem sampleChange_apply : sampleChange.apply (sampleLog 120) = sampleLog 121 := by
  have hsucc : sampleLog 121 = sampleLog 120 ++ [sampleRow 120] := by
    unfold sampleLog
    rw [List.range_succ, List.map_append]
    rfl
  exact hsucc.symm

/-- The user turns to the second page while a poll of the first one is under way, and an entry is logged.
The second page is loaded and the poll fails. Then the third page is turned to. -/
def sampleEvents : List Event :=
  answerEvents .asWritten .asWritten 0 ++
    ([.polled, .nextPage, .changed sampleChange] ++ (answerEvents .asWritten .asWritten 1 ++
      ([.lost 0, .nextPage] ++ answerEvents .asWritten .asWritten 0)))

theorem along_answerEvents {parseUUID : Text → Option UUID} (row : Row) (state : Reading)
    (listPlan countPlan : Plan) (index : ℕ) :
    Along (Reading.step parseUUID) (Patient row) state (answerEvents listPlan countPlan index) := by
  unfold answerEvents
  simp only [along_cons, along_nil, and_true]
  exact ⟨trivial, trivial, trivial⟩

/-- A page of the sample log is loaded. -/
theorem foldl_answerEvents_sampleLog (length index page total : ℕ) (before shown : List Recorded)
    (error : String) {requests : List Request} (left : List Request) (table : Option ℕ)
    (hrequest : requests[index]? = some ⟨sampleFilters, page, true, .sent⟩)
    (hleft : requests.eraseIdx index = left) (hbound : (page - 1) * perPage ≤ 100000) :
    ∃ entries after, (answerEvents .asWritten .asWritten index).foldl (Reading.step readUUID)
      ⟨sampleLog length, sampleFilters, ⟨before, total, page, error⟩, false, requests, table, shown⟩ =
      ⟨sampleLog length, sampleFilters, ⟨entries, length, page, ""⟩, false, left, some page,
        after⟩ := by
  have hlast := (foldl_answerEvents_eq .asWritten .asWritten readUUID_uuidText
    ⟨sampleLog length, sampleFilters, ⟨before, total, page, error⟩, false, requests, table, shown⟩
    hrequest short_sampleFilters).1 hbound
  dsimp only at hlast
  rw [newestFirst_sampleLog, length_sampleLog, hleft] at hlast
  exact ⟨_, _, hlast⟩

/-- An entry of the third page is shown in the end. -/
theorem shown_by_last_page_sample :
    (sampleRow 110).recorded ∈ (sampleEvents.foldl (Reading.step readUUID)
      ((blank (sampleLog 120) sampleFilters).setFilters sampleFilters)).shown := by
  have hrow : sampleRow 110 ∈ sampleFilters.newestFirst (sampleLog 120) := by
    rw [newestFirst_sampleLog]
    exact List.mem_map.mpr ⟨110, by decide, rfl⟩
  let request (page : ℕ) : Request := ⟨sampleFilters, page, true, .sent⟩
  have hstart : (blank (sampleLog 120) sampleFilters).setFilters sampleFilters =
      ⟨sampleLog 120, sampleFilters, ⟨[], 0, 1, ""⟩, false, [request 1], none, []⟩ := rfl
  obtain ⟨first, shownFirst, hfirst⟩ := foldl_answerEvents_sampleLog 120 0 1 0 [] [] "" [] none
    (rfl : [request 1][0]? = _) rfl (by decide)
  have hturned : ([.polled, .nextPage, .changed sampleChange] : List Event).foldl
      (Reading.step readUUID)
      ⟨sampleLog 120, sampleFilters, ⟨first, 120, 1, ""⟩, false, [], some 1, shownFirst⟩ =
      ⟨sampleLog 121, sampleFilters, ⟨first, 120, 2, ""⟩, false, [request 1, request 2], some 1,
        shownFirst⟩ := by
    rw [← sampleChange_apply, List.foldl_cons, List.foldl_cons,
      step_nextPage (show 1 < pageCount 120 by decide)]
    rfl
  obtain ⟨second, shownSecond, hsecond⟩ := foldl_answerEvents_sampleLog 121 1 2 120 first shownFirst ""
    [request 1] (some 1) (rfl : [request 1, request 2][1]? = _) rfl (by decide)
  have hagain : ([.lost 0, .nextPage] : List Event).foldl (Reading.step readUUID)
      ⟨sampleLog 121, sampleFilters, ⟨second, 121, 2, ""⟩, false, [request 1], some 2, shownSecond⟩ =
      ⟨sampleLog 121, sampleFilters, ⟨second, 121, 3, "Failed to load activity entries."⟩, false,
        [request 3], some 2, shownSecond⟩ := by
    rw [List.foldl_cons, List.foldl_cons, step_nextPage (show 2 < pageCount 121 by decide)]
    rfl
  obtain ⟨third, shownThird, hthird⟩ := foldl_answerEvents_sampleLog 121 0 3 121 second shownSecond
    "Failed to load activity entries." [] (some 2) (rfl : [request 3][0]? = _) rfl (by decide)
  have hlast : sampleEvents.foldl (Reading.step readUUID)
      ((blank (sampleLog 120) sampleFilters).setFilters sampleFilters) =
      ⟨sampleLog 121, sampleFilters, ⟨third, 121, 3, ""⟩, false, [], some 3, shownThird⟩ := by
    unfold sampleEvents
    rw [List.foldl_append, List.foldl_append, List.foldl_append, List.foldl_append, hstart, hfirst,
      hturned, hsecond, hagain, hthird]
  refine shown_by_last_page readUUID_uuidText (blank (sampleLog 120) sampleFilters) hrow ?_ ?_ ?_
  · unfold sampleEvents
    rw [along_append, along_append, along_append, along_append, hstart, hfirst, hturned, hsecond,
      hagain]
    refine ⟨along_answerEvents _ _ _ _ _, ?_, along_answerEvents _ _ _ _ _, ?_,
      along_answerEvents _ _ _ _ _⟩
    · simp only [along_cons, along_nil, and_true]
      exact ⟨trivial, rfl, trivial⟩
    · simp only [along_cons, along_nil, and_true]
      exact ⟨trivial, rfl⟩
  · rw [hlast]
  · rw [hlast]
    exact (show pageCount 121 ≤ 3 by decide)

end Huntarr2.Web
