import Huntarr2.Api.Instances
import Huntarr2.Instance.Concurrent

/-!
# The Connections page

The page loads an instance into its form and saves the form, while replies arrive in any order,
requests fail, and other clients change the instances. A form is saved to the instance that it was loaded
from, and a form that is saved as it was loaded changes no field of the instance.
-/

namespace Huntarr2.Web.Connections

open Api Clock Encrypt GoStd Instances Machine

/-! ## The form -/

/-- `form`; the timeout is missing where its field holds nothing that the API reads as a number. -/
structure ConnectionForm where
  name : Text
  appType : String
  baseURL : Text
  apiKey : Text
  timeoutMs : Option ℤ
  deriving DecidableEq

/-- The form that `openEdit` fills from a reply. -/
def formOfResponse (data : InstanceResponse) : ConnectionForm where
  name := data.name
  appType := data.appType
  baseURL := data.baseURL
  apiKey := []
  timeoutMs := some (if data.timeoutMs = 0 then 30000 else data.timeoutMs)

/-- The form as the body of a PUT; its app type is not read. -/
def ConnectionForm.updateBody (form : ConnectionForm) : Option UpdateInstanceRequest :=
  form.timeoutMs.map fun timeoutMs ↦ ⟨form.name, form.baseURL, form.apiKey, timeoutMs⟩

/-- The form as the body of a POST. -/
def ConnectionForm.createBody (form : ConnectionForm) : Option CreateInstanceRequest :=
  form.timeoutMs.map fun timeoutMs ↦ ⟨form.name, form.appType, form.baseURL, form.apiKey, timeoutMs⟩

/-! ## The page and its requests -/

/-- `connectionManager`, without what only the display reads. -/
structure ConnectionManager where
  showModal : Bool
  editing : Bool
  editId : Option UUID
  form : ConnectionForm
  formError : String

/-- The page when it is loaded. -/
def ConnectionManager.initial : ConnectionManager :=
  ⟨false, false, none, ⟨[], "sonarr", [], [], some 30000⟩, ""⟩

/-- How far a call of `openEdit` is: its request is on the way, the server has answered it, or the
answer has begun to arrive and the first check is passed. -/
inductive LoadStage
  | sent
  | answered (reply : InstanceReply)
  | accepted (reply : InstanceReply)

structure Load where
  id : UUID
  stage : LoadStage

/-- What `saveInstance` asks for: a PUT to the path of an ID, or a POST. -/
inductive SaveTarget
  | update (id : Option UUID)
  | create
  deriving DecidableEq

/-- A save on the way, with the reply that its form was filled from, and whether anything was typed into
it since. The page no longer awaits it once it was reloaded or the connection failed. -/
structure Save where
  target : SaveTarget
  form : ConnectionForm
  filled : Option InstanceResponse
  typed : Bool
  awaited : Bool
  deriving DecidableEq

/-- The instances and the page, with the reply that last filled the form and whether anything was typed
into it since. -/
structure Session where
  table : Instances.Table
  manager : ConnectionManager
  filled : Option InstanceResponse
  typed : Bool
  loads : List Load
  saves : List Save
  replies : List InstanceReply

/-- What the page, its user, the network, the server and other clients do. -/
inductive Action
  | elsewhere (call : Call)
  | openAdd (appType : String) (name : Text)
  | openEdit (id : UUID)
  | answerLoad (index : ℕ) (failure : Option String)
  | headersArrive (index : ℕ)
  | bodyArrives (index : ℕ)
  | loadFails (index : ℕ)
  | type (form : ConnectionForm)
  | close
  | saveInstance
  | answerSave (index : ℕ) (getFailure : Option String) (update : UpdateIO) (create : CreateIO)
  | saveReplyArrives (index : ℕ)
  | saveFails (index : ℕ)
  | saveReplyFails (index : ℕ)

namespace Session

variable (session : Session)

def openAdd (appType : String) (name : Text) : Session :=
  { session with
    manager := ⟨true, false, none, ⟨name, appType, [], [], some 30000⟩, ""⟩
    filled := none
    typed := false }

def openEdit (id : UUID) : Session :=
  { session with
    manager := { session.manager with editing := true, editId := some id, formError := "" }
    loads := session.loads ++ [⟨id, .sent⟩] }

/-- The server handles a request of `openEdit`. -/
def answerLoad (service : Service) (index : ℕ) (failure : Option String) : Session :=
  match session.loads[index]? with
  | some ⟨id, .sent⟩ =>
    let reply := handleGetInstance service session.table (some id) failure
    { session with loads := session.loads.set index ⟨id, .answered reply⟩ }
  | _ => session

/-- The first check of `openEdit`. -/
def headersArrive (index : ℕ) : Session :=
  match session.loads[index]? with
  | some ⟨id, .answered reply⟩ =>
    if session.manager.editId = some id then
      { session with loads := session.loads.set index ⟨id, .accepted reply⟩ }
    else { session with loads := session.loads.eraseIdx index }
  | _ => session

def showError (message : String) : Session :=
  { session with manager := { session.manager with formError := message } }

/-- The text of an error reply, or another one where it has none. -/
def errorMessage (reply : ErrorReply) (default : String) : String :=
  if reply.error = "" then default else reply.error

/-- The form is filled and shown. -/
def fill (data : InstanceResponse) : Session :=
  { session with
    manager := { session.manager with form := formOfResponse data, showModal := true }
    filled := some data
    typed := false }

/-- The end of `openEdit`. An error is shown without a second check. -/
def bodyArrives (index : ℕ) : Session :=
  match session.loads[index]? with
  | some ⟨id, .accepted reply⟩ =>
    let rest := { session with loads := session.loads.eraseIdx index }
    match reply with
    | .error err => rest.showError (errorMessage err "Failed to load instance")
    | .instance _ data => if session.manager.editId = some id then rest.fill data else rest
    | _ => rest
  | _ => session

def loadFails (index : ℕ) : Session :=
  { session with loads := session.loads.eraseIdx index }.showError "Failed to load instance"

def type (form : ConnectionForm) : Session :=
  if session.manager.showModal then
    { session with manager := { session.manager with form := form }, typed := true }
  else session

def close : Session := { session with manager := { session.manager with showModal := false } }

def saveInstance : Session :=
  if session.manager.showModal then
    let target := if session.manager.editing then .update session.manager.editId else .create
    { session with
      manager := { session.manager with formError := "" }
      saves := session.saves ++ [⟨target, session.manager.form, session.filled, session.typed, true⟩] }
  else session

/-- The server handles a save. -/
def answerSave (service : Service) (index : ℕ) (getFailure : Option String) (update : UpdateIO)
    (create : CreateIO) : Session :=
  match session.saves[index]? with
  | none => session
  | some save =>
    let (reply, table) := match save.target with
      | .update id =>
        handleUpdateInstance service session.table id save.form.updateBody getFailure update
      | .create => handleCreateInstance service session.table save.form.createBody create
    { session with
      table := table
      saves := session.saves.eraseIdx index
      replies := if save.awaited then session.replies ++ [reply] else session.replies }

/-- The page is loaded again; what it sent stays on the way. -/
def reloadInstances : Session :=
  { session with
    manager := .initial
    filled := none
    typed := false
    loads := []
    saves := session.saves.map fun save ↦ { save with awaited := false }
    replies := [] }

/-- The end of `saveInstance`. -/
def saveReplyArrives (index : ℕ) : Session :=
  match session.replies[index]? with
  | none => session
  | some (.error err) =>
    { session with replies := session.replies.eraseIdx index }.showError
      (errorMessage err "An error occurred")
  | some _ => session.reloadInstances

/-- The connection of a save fails; the server may handle it all the same. -/
def saveFails (index : ℕ) : Session :=
  match session.saves[index]? with
  | none => session
  | some save =>
    { session with saves := session.saves.set index { save with awaited := false } }.showError
      "An error occurred"

/-- The connection of a save fails after the server handled it. -/
def saveReplyFails (index : ℕ) : Session :=
  { session with replies := session.replies.eraseIdx index }.showError "An error occurred"

def step (service : Service) (session : Session) : Action → Session
  | .elsewhere call => { session with table := (service.call session.table call).2 }
  | .openAdd appType name => session.openAdd appType name
  | .openEdit id => session.openEdit id
  | .answerLoad index failure => session.answerLoad service index failure
  | .headersArrive index => session.headersArrive index
  | .bodyArrives index => session.bodyArrives index
  | .loadFails index => session.loadFails index
  | .type form => session.type form
  | .close => session.close
  | .saveInstance => session.saveInstance
  | .answerSave index getFailure update create =>
    session.answerSave service index getFailure update create
  | .saveReplyArrives index => session.saveReplyArrives index
  | .saveFails index => session.saveFails index
  | .saveReplyFails index => session.saveReplyFails index

/-- The page with some instances, when it is loaded. -/
def initial (table : Instances.Table) : Session := ⟨table, .initial, none, false, [], [], []⟩

section Table

/-! Only the server changes the instances. -/

theorem answerLoad_table (service : Service) (index : ℕ) (failure : Option String) :
    (session.answerLoad service index failure).table = session.table := by
  unfold answerLoad
  split <;> rfl

theorem headersArrive_table (index : ℕ) : (session.headersArrive index).table = session.table := by
  unfold headersArrive
  split
  · split <;> rfl
  · rfl

theorem bodyArrives_table (index : ℕ) : (session.bodyArrives index).table = session.table := by
  unfold bodyArrives
  split
  · dsimp only
    split
    · rfl
    · split <;> rfl
    · rfl
  · rfl

theorem type_table (form : ConnectionForm) : (session.type form).table = session.table := by
  unfold type
  split <;> rfl

theorem saveInstance_table : session.saveInstance.table = session.table := by
  unfold saveInstance
  split <;> rfl

theorem saveReplyArrives_table (index : ℕ) :
    (session.saveReplyArrives index).table = session.table := by
  unfold saveReplyArrives
  split <;> rfl

theorem saveFails_table (index : ℕ) : (session.saveFails index).table = session.table := by
  unfold saveFails
  split <;> rfl

end Table

/-- The rest of the page is inert while the form is shown. -/
def Inert (session : Session) : Action → Prop
  | .openAdd _ _ | .openEdit _ => session.manager.showModal = false
  | _ => True

instance (action : Action) : Decidable (session.Inert action) :=
  match action with
  | .openAdd _ _ | .openEdit _ => inferInstanceAs (Decidable (session.manager.showModal = false))
  | .elsewhere _ | .answerLoad _ _ | .headersArrive _ | .bodyArrives _ | .loadFails _ | .type _
  | .close | .saveInstance | .answerSave _ _ _ _ | .saveReplyArrives _ | .saveFails _
  | .saveReplyFails _ => .isTrue trivial

end Session

/-! ## Saves go where the form was loaded from -/

/-- The reply that a form was filled from is about the instance with the ID. -/
def LoadedFrom (id : Option UUID) (filled : Option InstanceResponse) : Prop :=
  ∃ uuid data, id = some uuid ∧ filled = some data ∧ data.id = uuidText uuid

/-- The instance that a reply shows, if it shows one. -/
def replyData : InstanceReply → Option InstanceResponse
  | .instance _ data => some data
  | _ => none

/-- The instance that a call of `openEdit` was answered, if it was. -/
def LoadStage.data : LoadStage → Option InstanceResponse
  | .sent => none
  | .answered reply | .accepted reply => replyData reply

theorem eq_instance_of_replyData {reply : InstanceReply} {data : InstanceResponse}
    (h : replyData reply = some data) : ∃ status, reply = .instance status data := by
  unfold replyData at h
  split at h
  case h_1 status data => exact ⟨status, congrArg _ (Option.some.inj h)⟩
  case h_2 => cases h

/-- An untyped form is the one that its reply fills. -/
def Untouched (form : ConnectionForm) (filled : Option InstanceResponse) (typed : Bool) : Prop :=
  typed = false → ∀ data, filled = some data → form = formOfResponse data

/-- What holds of the page at any time. -/
structure Session.Held (session : Session) : Prop where
  editing_eq : session.manager.editing = session.manager.editId.isSome
  shown : session.manager.showModal = true → session.manager.editing = true →
    LoadedFrom session.manager.editId session.filled
  untouched : Untouched session.manager.form session.filled session.typed
  loads : ∀ load ∈ session.loads, ∀ data, load.stage.data = some data → data.id = uuidText load.id
  saved : ∀ save ∈ session.saves, ∀ id, save.target = .update id → LoadedFrom id save.filled
  saves_untouched : ∀ save ∈ session.saves, Untouched save.form save.filled save.typed

theorem Session.held_initial (table : Instances.Table) : (Session.initial table).Held where
  editing_eq := rfl
  shown := fun h ↦ nomatch h
  untouched := fun _ _ h ↦ nomatch h
  loads := List.forall_mem_nil _
  saved := List.forall_mem_nil _
  saves_untouched := List.forall_mem_nil _

/-- The reply to a GET is about the instance that was asked for. -/
theorem id_of_handleGetInstance {service : Service} {table : Instances.Table} {id : UUID}
    {failure : Option String} {status : ℕ} {data : InstanceResponse}
    (h : handleGetInstance service table (some id) failure = .instance status data) :
    data.id = uuidText id := by
  unfold handleGetInstance at h
  dsimp only at h
  split at h
  case h_1 inst hget =>
    obtain ⟨row, -, hrow⟩ := lookup_of_getInstance hget
    obtain ⟨-, rfl⟩ := InstanceReply.instance.inj h
    exact congrArg uuidText (columns_of_hydrateInstance hrow).1
  case h_2 err _ => cases err <;> cases h

namespace Session.Held

variable {session : Session} (h : session.Held)

include h

theorem openAdd (appType : String) (name : Text) : (session.openAdd appType name).Held :=
  { h with
    editing_eq := rfl
    shown := fun _ hediting ↦ nomatch hediting
    untouched := fun _ _ hdata ↦ nomatch hdata }

theorem openEdit (id : UUID) (hclosed : session.manager.showModal = false) :
    (session.openEdit id).Held :=
  { h with
    editing_eq := rfl
    shown := fun hshown ↦ absurd (hclosed.symm.trans hshown) Bool.false_ne_true
    loads := by
      refine List.forall_mem_append.mpr ⟨h.loads, List.forall_mem_singleton.mpr ?_⟩
      exact fun data hdata ↦ nomatch hdata }

theorem setLoad {index : ℕ} {load : Load} (hload : ∀ data, load.stage.data = some data →
    data.id = uuidText load.id) :
    ({ session with loads := session.loads.set index load } : Session).Held :=
  { h with
    loads := fun other hother ↦ (List.mem_or_eq_of_mem_set hother).elim (h.loads other)
      fun heq ↦ heq ▸ hload }

theorem eraseLoad (index : ℕ) :
    ({ session with loads := session.loads.eraseIdx index } : Session).Held :=
  { h with loads := fun load hload ↦ h.loads load (List.mem_of_mem_eraseIdx hload) }

theorem eraseReply (index : ℕ) :
    ({ session with replies := session.replies.eraseIdx index } : Session).Held := { h with }

theorem showError (message : String) : (session.showError message).Held := { h with }

theorem answerLoad (service : Service) (index : ℕ) (failure : Option String) :
    (session.answerLoad service index failure).Held := by
  unfold Session.answerLoad
  split
  case h_1 id hload =>
    refine h.setLoad fun data hdata ↦ ?_
    obtain ⟨status, hreply⟩ := eq_instance_of_replyData hdata
    exact id_of_handleGetInstance hreply
  case h_2 => exact h

theorem headersArrive (index : ℕ) : (session.headersArrive index).Held := by
  unfold Session.headersArrive
  split
  case h_1 id reply hload =>
    split
    · exact h.setLoad (h.loads ⟨id, .answered reply⟩ (List.mem_of_getElem? hload))
    · exact h.eraseLoad index
  case h_2 => exact h

theorem fill {id : UUID} {data : InstanceResponse} (hid : session.manager.editId = some id)
    (hdata : data.id = uuidText id) : (session.fill data).Held :=
  { h with
    shown := fun _ _ ↦ ⟨id, data, hid, rfl, hdata⟩
    untouched := fun _ _ hother ↦ Option.some.inj hother ▸ rfl }

theorem bodyArrives (index : ℕ) : (session.bodyArrives index).Held := by
  unfold Session.bodyArrives
  split
  case h_1 id reply hload =>
    have hrest := h.eraseLoad index
    dsimp only
    split
    case h_1 err => exact hrest.showError _
    case h_2 status data =>
      split
      case isTrue hid => exact hrest.fill hid (h.loads _ (List.mem_of_getElem? hload) data rfl)
      case isFalse => exact hrest
    case h_3 => exact hrest
  case h_2 => exact h

theorem type (form : ConnectionForm) : (session.type form).Held := by
  unfold Session.type
  split
  · exact { h with untouched := fun htyped ↦ nomatch htyped }
  · exact h

theorem close : session.close.Held := { h with shown := fun hshown ↦ nomatch hshown }

theorem saveInstance : session.saveInstance.Held := by
  unfold Session.saveInstance
  split
  case isTrue hshown =>
    refine { h with
      saved := List.forall_mem_append.mpr ⟨h.saved, List.forall_mem_singleton.mpr fun id hid ↦ ?_⟩
      saves_untouched :=
        List.forall_mem_append.mpr ⟨h.saves_untouched, List.forall_mem_singleton.mpr h.untouched⟩ }
    dsimp only at hid
    split at hid
    case isTrue hediting =>
      obtain rfl := SaveTarget.update.inj hid
      exact h.shown hshown hediting
    case isFalse => cases hid
  case isFalse => exact h

theorem answerSave (service : Service) (index : ℕ) (getFailure : Option String) (update : UpdateIO)
    (create : CreateIO) : (session.answerSave service index getFailure update create).Held := by
  unfold Session.answerSave
  split
  case h_1 => exact h
  case h_2 save _ =>
    exact { h with
      saved := fun other hother ↦ h.saved other (List.mem_of_mem_eraseIdx hother)
      saves_untouched := fun other hother ↦
        h.saves_untouched other (List.mem_of_mem_eraseIdx hother) }

theorem reloadInstances : session.reloadInstances.Held where
  editing_eq := rfl
  shown := fun hshown ↦ nomatch hshown
  untouched := fun _ _ hdata ↦ nomatch hdata
  loads := List.forall_mem_nil _
  saved := List.forall_mem_map.mpr h.saved
  saves_untouched := List.forall_mem_map.mpr h.saves_untouched

theorem saveReplyArrives (index : ℕ) : (session.saveReplyArrives index).Held := by
  unfold Session.saveReplyArrives
  split
  case h_1 => exact h
  case h_2 => exact (h.eraseReply index).showError _
  case h_3 => exact h.reloadInstances

theorem saveFails (index : ℕ) : (session.saveFails index).Held := by
  unfold Session.saveFails
  split
  case h_1 => exact h
  case h_2 save hsave =>
    have hmem : save ∈ session.saves := List.mem_of_getElem? hsave
    have hrest : Session.Held
        { session with saves := session.saves.set index { save with awaited := false } } :=
      { h with
        saved := fun other hother ↦ (List.mem_or_eq_of_mem_set hother).elim (h.saved other)
          fun heq ↦ heq ▸ h.saved save hmem
        saves_untouched := fun other hother ↦ (List.mem_or_eq_of_mem_set hother).elim
          (h.saves_untouched other) fun heq ↦ heq ▸ h.saves_untouched save hmem }
    exact hrest.showError _

/-- What one action preserves. -/
theorem step (service : Service) (action : Action) (hinert : session.Inert action) :
    (Session.step service session action).Held := by
  cases action with
  | elsewhere call => exact { h with }
  | openAdd appType name => exact h.openAdd appType name
  | openEdit id => exact h.openEdit id hinert
  | answerLoad index failure => exact h.answerLoad service index failure
  | headersArrive index => exact h.headersArrive index
  | bodyArrives index => exact h.bodyArrives index
  | loadFails index => exact (h.eraseLoad index).showError _
  | type form => exact h.type form
  | close => exact h.close
  | saveInstance => exact h.saveInstance
  | answerSave index getFailure update create =>
    exact h.answerSave service index getFailure update create
  | saveReplyArrives index => exact h.saveReplyArrives index
  | saveFails index => exact h.saveFails index
  | saveReplyFails index => exact (h.eraseReply index).showError _

theorem run {service : Service} {actions : List Action}
    (hinert : Along (Session.step service) Session.Inert session actions) :
    (actions.foldl (Session.step service) session).Held :=
  invariant_of_along (motive := Session.Held) (fun _ action h hinert ↦ h.step service action hinert)
    hinert h

end Session.Held

/-- Whatever order the replies arrive in, every PUT goes to the instance that its form was filled from,
and a form that nothing was typed into is sent as it was filled. -/
theorem saved_where_loaded {service : Service} {table : Instances.Table} {actions : List Action}
    (hinert : Along (Session.step service) Session.Inert (Session.initial table) actions) :
    ∀ save ∈ (actions.foldl (Session.step service) (Session.initial table)).saves,
      ∀ id, save.target = .update id → ∃ uuid data, id = some uuid ∧ save.filled = some data ∧
        data.id = uuidText uuid ∧ (save.typed = false → save.form = formOfResponse data) := by
  intro save hsave id htarget
  have hheld := (Session.held_initial table).run hinert
  obtain ⟨uuid, data, hid, hfilled, hdata⟩ := hheld.saved save hsave id htarget
  exact ⟨uuid, data, hid, hfilled, hdata,
    fun htyped ↦ hheld.saves_untouched save hsave htyped data hfilled⟩

/-- Another instance is chosen before the reply about the first one is there, which comes last. -/
def demoActions : List Action :=
  [.openEdit 2, .openEdit 1, .answerLoad 1 none, .headersArrive 1, .answerLoad 0 none, .bodyArrives 1,
    .headersArrive 0, .saveInstance]

def demoSession : Session := demoActions.foldl (Session.step demoService) (Session.initial demoTable)

theorem demoActions_inert :
    Along (Session.step demoService) Session.Inert (Session.initial demoTable) demoActions := by
  decide +kernel

/-- The save that follows. -/
def demoSave : Save :=
  let data := toInstanceResponse demoInstance
  ⟨.update (some 1), formOfResponse data, some data, false, true⟩

theorem saved_where_loaded_demo :
    ∃ save ∈ demoSession.saves, save.target = .update (some 1) ∧
      ∃ data, save.filled = some data ∧ data.id = uuidText 1 := by
  have hmem : demoSave ∈ demoSession.saves := by decide +kernel
  obtain ⟨id, data, hid, hfilled, hdata, -⟩ :=
    saved_where_loaded demoActions_inert demoSave hmem (some 1) rfl
  obtain rfl := Option.some.inj hid
  exact ⟨demoSave, hmem, rfl, data, hfilled, hdata⟩

/-! ## Saving what was loaded -/

section Update

variable {service : Service} {table : Instances.Table}

/-- What is read back was encrypted under a key of the right length. -/
theorem keyLength_of_hydrateInstance {id : UUID} {row : Instances.Row} {inst : FullInstance}
    (h : hydrateInstance service id row = .ok inst) : service.encryptionKey.length = keyLength := by
  by_contra hlength
  have hdecrypt : decrypt service.gcm service.base64 row.apiKeyEnc service.encryptionKey =
      .error s!"decryption key must be {keyLength} bytes, got {service.encryptionKey.length}" :=
    if_pos hlength
  unfold hydrateInstance at h
  rw [hdecrypt] at h
  split at h
  case h_1 => cases h
  case h_2 =>
    split at h
    case h_1 => cases h
    case h_2 => cases h

/-- The write of an update succeeds where nothing outside fails. -/
theorem updateInstance_ok {inst : FullInstance} {io : UpdateIO} {nonce : Nonce} {row : Instances.Row}
    (hkey : service.encryptionKey.length = keyLength) (hnonce : io.nonce = .ok nonce)
    (hfailure : io.failure = none) (hlookup : table.lookup inst.id = some row) :
    ∃ stored changed, updateInstance service table inst io = (.ok stored, changed) := by
  have hencrypt : encrypt service.gcm service.base64 inst.apiKey service.encryptionKey io.nonce =
      .ok (service.base64.encode
        (nonce.1 ++ service.gcm.sealText service.encryptionKey nonce.1 inst.apiKey)) := by
    unfold encrypt
    rw [if_neg (not_not.mpr hkey), hnonce]
  unfold updateInstance
  rw [hencrypt, hfailure, hlookup]
  exact ⟨_, _, rfl⟩

/-- An update with the fields that an instance has, and a blank API key, changes no field but the time
of the update. -/
theorem update_unchanged {id : UUID} {inst request : FullInstance} {io : UpdateIO} {nonce : Nonce}
    (hvalid : service.Valid inst) (hget : getInstance service table id none = .ok inst)
    (hname : request.name = inst.name) (hurl : request.baseURL = inst.baseURL)
    (hblank : request.apiKey = []) (htimeout : request.timeoutMs = inst.timeoutMs)
    (hnonce : io.nonce = .ok nonce) (hfailure : io.failure = none) :
    ∃ stored row updatedAt,
      service.update table id request none io = (.ok stored, table.insert id row) ∧
      hydrateInstance service id row = .ok { inst with updatedAt := updatedAt } := by
  obtain ⟨row, hlookup, hrow⟩ := lookup_of_getInstance hget
  obtain rfl : inst.id = id := (columns_of_hydrateInstance hrow).1
  have hpositive : 0 < request.timeoutMs := by
    rw [htimeout]
    exact hvalid.timeoutMs_pos
  have hchanges : Service.applyChanges inst request = inst := by
    have hkept : ¬trimSpace request.apiKey ≠ [] := by
      rw [hblank]
      exact not_not.mpr rfl
    unfold Service.applyChanges
    rw [hname, hurl, if_neg hkept, if_pos hpositive, htimeout]
  have hchecked : service.validate inst = .ok inst := by
    have hnonneg : 0 ≤ inst.timeoutMs := zero_le_one.trans hvalid.timeoutMs_pos
    rw [validate_eq_ok (hvalid.name_trimmed.symm ▸ hvalid.name_ne_nil) hvalid.appType_valid
      hvalid.baseURL_accepted (hvalid.apiKey_trimmed.symm ▸ hvalid.apiKey_ne_nil) hnonneg
      hvalid.timeoutMs_le, hvalid.name_trimmed, hvalid.apiKey_trimmed]
  have hupdate : service.update table inst.id request none io =
      updateInstance service table inst io := by
    unfold Service.update Service.writeChanges
    rw [hget]
    dsimp only
    rw [hchanges, hchecked]
  obtain ⟨stored, changed, hwritten⟩ :=
    updateInstance_ok (keyLength_of_hydrateInstance hrow) hnonce hfailure hlookup
  rcases updateInstance_cases service table inst io with ⟨err, hfailed⟩ |
    ⟨row', changed', hlookup', hinserted, hread⟩
  · rw [hwritten] at hfailed
    cases hfailed
  · obtain rfl := Option.some.inj (hlookup.symm.trans hlookup')
    obtain ⟨updatedAt, hhydrated⟩ := hread inst hrow
    exact ⟨_, changed', updatedAt, hupdate.trans hinserted, hhydrated⟩

end Update

/-- The instances are the result of calls of the service. -/
def Stored (service : Service) (table : Instances.Table) : Prop :=
  ∃ ledgers, Kept service ⟨table, ledgers⟩

theorem Stored.call {service : Service} {table : Instances.Table} (h : Stored service table)
    (call : Call) : Stored service (service.call table call).2 := by
  obtain ⟨ledgers, hkept⟩ := h
  exact ⟨_, hkept.step call⟩

/-- A PUT changes the instances as the call of the service does, if it gets that far. -/
theorem handleUpdateInstance_table (service : Service) (table : Instances.Table) (id : Option UUID)
    (body : Option UpdateInstanceRequest) (getFailure : Option String) (io : UpdateIO) :
    (handleUpdateInstance service table id body getFailure io).2 = table ∨
      ∃ call, (handleUpdateInstance service table id body getFailure io).2 =
        (service.call table call).2 := by
  unfold handleUpdateInstance
  split
  case h_1 => exact Or.inl rfl
  case h_2 uuid =>
    split
    case h_1 => exact Or.inl rfl
    case h_2 req =>
      refine Or.inr ⟨.update uuid req.toInstance getFailure io, ?_⟩
      split <;> rename_i hupdate <;> exact (congrArg Prod.snd hupdate).symm

theorem handleCreateInstance_table (service : Service) (table : Instances.Table)
    (body : Option CreateInstanceRequest) (io : CreateIO) :
    (handleCreateInstance service table body io).2 = table ∨
      ∃ call, (handleCreateInstance service table body io).2 = (service.call table call).2 := by
  unfold handleCreateInstance
  split
  case h_1 => exact Or.inl rfl
  case h_2 req =>
    refine Or.inr ⟨.create req.toInstance io, ?_⟩
    split <;> rename_i hcreate <;> exact (congrArg Prod.snd hcreate).symm

theorem Stored.step {service : Service} {session : Session} (h : Stored service session.table)
    (action : Action) : Stored service (Session.step service session action).table := by
  have hreply {reply : InstanceReply × Instances.Table} (hcall : reply.2 = session.table ∨
      ∃ call, reply.2 = (service.call session.table call).2) : Stored service reply.2 := by
    rcases hcall with hsame | ⟨call, hcalled⟩
    · exact hsame ▸ h
    · exact hcalled ▸ h.call call
  cases action with
  | elsewhere call => exact h.call call
  | answerSave index getFailure update create =>
    change Stored service (session.answerSave service index getFailure update create).table
    unfold Session.answerSave
    split
    case h_1 => exact h
    case h_2 save _ =>
      dsimp only
      split
      · exact hreply (handleUpdateInstance_table service session.table _ _ getFailure update)
      · exact hreply (handleCreateInstance_table service session.table _ create)
  | answerLoad index failure => exact (session.answerLoad_table service index failure).symm ▸ h
  | headersArrive index => exact (session.headersArrive_table index).symm ▸ h
  | bodyArrives index => exact (session.bodyArrives_table index).symm ▸ h
  | type form => exact (session.type_table form).symm ▸ h
  | saveInstance => exact session.saveInstance_table.symm ▸ h
  | saveReplyArrives index => exact (session.saveReplyArrives_table index).symm ▸ h
  | saveFails index => exact (session.saveFails_table index).symm ▸ h
  | openAdd | openEdit | loadFails | close | saveReplyFails => exact h

/-- In every run a form that was saved as it was filled leaves the instance as it is, if it still has the
fields that the form was filled with, and every other instance too. -/
theorem untouched_save_keeps_instance {service : Service} {calls : List Call} {actions : List Action}
    {index : ℕ} {save : Save} {id : UUID} {inst : FullInstance} {update : UpdateIO} {nonce : Nonce}
    (create : CreateIO)
    (hinert : Along (Session.step service) Session.Inert
      (Session.initial (calls.foldl (Instances.step service) State.initial).table) actions) :
    let last := actions.foldl (Session.step service)
      (Session.initial (calls.foldl (Instances.step service) State.initial).table)
    last.saves[index]? = some save → save.target = .update (some id) → save.typed = false →
      getInstance service last.table id none = .ok inst →
      (∀ data, save.filled = some data →
        data.name = inst.name ∧ data.baseURL = inst.baseURL ∧ data.timeoutMs = inst.timeoutMs) →
      update.nonce = .ok nonce → update.failure = none →
      let after := last.answerSave service index none update create
      (∃ updatedAt,
        getInstance service after.table id none = .ok { inst with updatedAt := updatedAt }) ∧
        ∀ other, other ≠ id → after.table.lookup other = last.table.lookup other := by
  intro last hsave htarget htyped hget hsame hnonce hfailure after
  have hheld : last.Held := (Session.held_initial _).run hinert
  have hstored : Stored service last.table :=
    invariant_of_along (motive := fun session : Session ↦ Stored service session.table)
      (fun _ action h _ ↦ h.step action) hinert ⟨_, Kept.run service calls⟩
  obtain ⟨ledgers, hkept⟩ := hstored
  obtain ⟨-, -, -, hvalid⟩ := hkept.of_getInstance hget
  have hmem : save ∈ last.saves := List.mem_of_getElem? hsave
  obtain ⟨uuid, data, hid, hfilled, -⟩ := hheld.saved save hmem _ htarget
  obtain ⟨hname, hurl, htimeout⟩ := hsame data hfilled
  have hform : save.form = formOfResponse data := hheld.saves_untouched save hmem htyped data hfilled
  have hnonzero : ¬data.timeoutMs = 0 := by
    have hpositive := hvalid.timeoutMs_pos
    omega
  let request : UpdateInstanceRequest := ⟨data.name, data.baseURL, [], inst.timeoutMs⟩
  obtain ⟨stored, row, updatedAt, hupdate, hrow⟩ : ∃ stored row updatedAt,
      service.update last.table id request.toInstance none update =
        (.ok stored, last.table.insert id row) ∧
      hydrateInstance service id row = .ok { inst with updatedAt := updatedAt } :=
    update_unchanged hvalid hget hname hurl rfl rfl hnonce hfailure
  have hbody : (formOfResponse data).updateBody = some request := by
    unfold formOfResponse ConnectionForm.updateBody
    rw [if_neg hnonzero, htimeout]
    rfl
  have htable : after.table = last.table.insert id row := by
    change (last.answerSave service index none update create).table = _
    unfold Session.answerSave
    rw [hsave]
    dsimp only
    rw [htarget, hform, hbody]
    unfold handleUpdateInstance
    dsimp only
    rw [hupdate]
  rw [htable]
  refine ⟨⟨updatedAt, getInstance_eq ?_ hrow⟩, fun other hother ↦ ?_⟩
  · rw [KeyedTable.lookup_insert_eq, if_pos rfl]
  · rw [KeyedTable.lookup_insert_eq, if_neg hother]

theorem untouched_save_keeps_instance_demo :
    ∃ updatedAt, getInstance demoService
      (demoSession.answerSave demoService 0 none ⟨.ok demoNonce, noon, none, noon⟩
        ⟨.ok demoNonce, 3, noon, none⟩).table 1 none =
      .ok { demoInstance with updatedAt := updatedAt } := by
  have hsave : demoSession.saves[0]? = some demoSave := by decide +kernel
  have hget : getInstance demoService demoSession.table 1 none = .ok demoInstance := by decide +kernel
  have hinert : Along (Session.step demoService) Session.Inert (Session.initial
      (demoHistory.foldl (Instances.step demoService) State.initial).table) demoActions :=
    demoActions_inert
  exact (untouched_save_keeps_instance _ hinert hsave rfl rfl hget
    (fun _ h ↦ Option.some.inj h ▸ ⟨rfl, rfl, rfl⟩) rfl rfl).1

end Huntarr2.Web.Connections
