import Huntarr2.Api.Settings
import Huntarr2.Arr.Connection
import Huntarr2.Foundation.Lockstep
import Huntarr2.Instance.ReadBack

/-!
# The instances of the API

The replies of `/api/instances` over the instances table. A reply shows every field of an instance but
its API key, which is written and never read back.
-/

namespace Huntarr2.Api

open Arr Clock Encrypt GoStd Instances Lockstep

/-! ## Requests and replies -/

/-- `createInstanceRequest`. -/
structure CreateInstanceRequest where
  name : Text
  appType : String
  baseURL : Text
  apiKey : Text
  timeoutMs : ℤ
  deriving DecidableEq, Repr

/-- `updateInstanceRequest`. -/
structure UpdateInstanceRequest where
  name : Text
  baseURL : Text
  apiKey : Text
  timeoutMs : ℤ
  deriving DecidableEq, Repr

/-- `instanceResponse`. -/
structure InstanceResponse where
  id : String
  name : Text
  appType : String
  baseURL : Text
  timeoutMs : ℤ
  createdAt : Text
  updatedAt : Text
  deriving DecidableEq, Repr

/-- `time.Time.Format` with `time.RFC3339`. -/
def formatRFC3339 (time : Timestamp) : Text := dateTimeText time.wall ++ zoneText time.offset

/-- `toInstanceResponse`. -/
def toInstanceResponse (inst : FullInstance) : InstanceResponse where
  id := uuidText inst.id
  name := inst.name
  appType := inst.appType
  baseURL := inst.baseURL
  timeoutMs := inst.timeoutMs
  createdAt := formatRFC3339 inst.createdAt
  updatedAt := formatRFC3339 inst.updatedAt

/-- A reply of the instances API, with its status. -/
inductive InstanceReply
  | instances (list : List InstanceResponse)
  | instance (status : ℕ) (response : InstanceResponse)
  | test (code : ℕ) (status message : String)
  | noContent
  | error (reply : ErrorReply)
  deriving DecidableEq, Repr

/-- `ValidationError.Error`. -/
def validationText (field message : String) : String := s!"{field}: {message}"

/-- A request of the instances API. A path ID that is not a UUID and a body that is not of the expected
form are missing here; the environment answers with database errors, random bytes, fresh IDs and clock
readings, and a connection test with the status of the server. -/
inductive InstanceRequest
  | list (failure : Option String)
  | create (body : Option CreateInstanceRequest) (io : CreateIO)
  | get (id : Option UUID) (failure : Option String)
  | update (id : Option UUID) (body : Option UpdateInstanceRequest) (getFailure : Option String)
    (io : UpdateIO)
  | delete (id : Option UUID) (failure : Option String)
  | test (id : Option UUID) (failure : Option String) (status : Except String SystemStatus)

/-! ## Handlers -/

theorem zero_wall_lt : 86400 * 366 < maxWall := by decide

/-- `time.Time{}`: the start of year 1. -/
def zeroTimestamp : Timestamp := ⟨86400 * 366, 0, 0, zero_wall_lt, zero_nanos_lt, zero_offset_le⟩

/-- The instance of a request body. -/
def CreateInstanceRequest.toInstance (req : CreateInstanceRequest) : FullInstance :=
  ⟨0, req.name, req.appType, req.baseURL, req.apiKey, req.timeoutMs, zeroTimestamp, zeroTimestamp⟩

def UpdateInstanceRequest.toInstance (req : UpdateInstanceRequest) : FullInstance :=
  ⟨0, req.name, "", req.baseURL, req.apiKey, req.timeoutMs, zeroTimestamp, zeroTimestamp⟩

/-- The rows ordered by name; rows of one name stay in the order of the table. -/
def rowsByName (table : Instances.Table) : List (Sigma fun _ : UUID ↦ Instances.Row) :=
  table.entries.insertionSort fun first second ↦ first.2.name ≤ second.2.name

/-- `SQLiteRepository.List` of the instances. -/
def listInstances (service : Service) (table : Instances.Table) (failure : Option String) :
    Except String (List FullInstance) :=
  match failure with
  | some err => .error s!"querying instances: {err}"
  | none => (rowsByName table).mapM fun row ↦ hydrateInstance service row.1 row.2

/-- The reply to an error of the service, apart from what only the log shows. -/
def serviceError (failed : String) : Instances.Error → InstanceReply
  | .validation field message => .error (badRequest (validationText field message))
  | .notFound => .error ⟨404, "instance not found"⟩
  | .repository _ => .error (internalServerError failed)

section Handlers

variable (service : Service) (table : Instances.Table)

/-- `handleListInstances`. -/
def handleListInstances (failure : Option String) : InstanceReply :=
  match listInstances service table failure with
  | .error _ => .error (internalServerError "failed to list instances")
  | .ok instances => .instances (instances.map toInstanceResponse)

/-- `handleCreateInstance`; the service never reports a missing instance here. -/
def handleCreateInstance (body : Option CreateInstanceRequest) (io : CreateIO) :
    InstanceReply × Instances.Table :=
  match body with
  | none => (.error (badRequest "invalid request body"), table)
  | some req =>
    match service.create table req.toInstance io with
    | (.ok inst, changed) => (.instance 201 (toInstanceResponse inst), changed)
    | (.error err, changed) => (serviceError "failed to create instance" err, changed)

/-- `handleGetInstance`. -/
def handleGetInstance (id : Option UUID) (failure : Option String) : InstanceReply :=
  match id with
  | none => .error (badRequest "invalid UUID")
  | some id =>
    match getInstance service table id failure with
    | .ok inst => .instance 200 (toInstanceResponse inst)
    | .error err => serviceError "failed to get instance" err

/-- `handleUpdateInstance`. -/
def handleUpdateInstance (id : Option UUID) (body : Option UpdateInstanceRequest)
    (getFailure : Option String) (io : UpdateIO) : InstanceReply × Instances.Table :=
  match id with
  | none => (.error (badRequest "invalid UUID"), table)
  | some id =>
    match body with
    | none => (.error (badRequest "invalid request body"), table)
    | some req =>
      match service.update table id req.toInstance getFailure io with
      | (.ok inst, changed) => (.instance 200 (toInstanceResponse inst), changed)
      | (.error err, changed) => (serviceError "failed to update instance" err, changed)

/-- `handleDeleteInstance`. -/
def handleDeleteInstance (id : Option UUID) (failure : Option String) :
    InstanceReply × Instances.Table :=
  match id with
  | none => (.error (badRequest "invalid UUID"), table)
  | some id =>
    match Service.delete table id failure with
    | (.ok _, changed) => (.noContent, changed)
    | (.error err, changed) => (serviceError "failed to delete instance" err, changed)

/-- The reply to a connection test; only a version mismatch is named. -/
def testReply : Except ConnectionError Unit → InstanceReply
  | .ok _ => .test 200 "ok" ""
  | .error (.versionMismatch message) => .test 502 "failed" message
  | .error _ => .test 502 "failed" "connection test failed; check the instance URL and API key"

/-- `handleTestInstance`. -/
def handleTestInstance (id : Option UUID) (failure : Option String)
    (status : Except String SystemStatus) : InstanceReply :=
  match id with
  | none => .error (badRequest "invalid UUID")
  | some id =>
    match getInstance service table id failure with
    | .error err => serviceError "failed to get instance" err
    | .ok inst =>
      if !validAppType inst.appType then
        .error (badRequest ("unknown application type: " ++ inst.appType))
      else testReply (testConnection inst.appType status)

/-- The reply to a request, and the table afterwards. -/
def handleInstances : InstanceRequest → InstanceReply × Instances.Table
  | .list failure => (handleListInstances service table failure, table)
  | .create body io => handleCreateInstance service table body io
  | .get id failure => (handleGetInstance service table id failure, table)
  | .update id body getFailure io => handleUpdateInstance service table id body getFailure io
  | .delete id failure => handleDeleteInstance table id failure
  | .test id failure status => (handleTestInstance service table id failure status, table)

end Handlers

/-! ## Instances and rows that differ in their API keys -/

section Keys

/-- Instances that differ at most in their API keys, which are both blank or both not. -/
def DifferInKeys (inst inst' : FullInstance) : Prop :=
  ∃ key', inst' = { inst with apiKey := key' } ∧ (trimSpace inst.apiKey = [] ↔ trimSpace key' = [])

/-- As `DifferInKeys`, with keys that are not blank. -/
def DifferInKnownKeys (inst inst' : FullInstance) : Prop :=
  ∃ key', inst' = { inst with apiKey := key' } ∧ trimSpace inst.apiKey ≠ [] ∧ trimSpace key' ≠ []

/-- Random bytes that are both available, or fail with one error. -/
def NoncesAlike (nonce nonce' : Except String Nonce) : Prop := Results (fun _ _ ↦ True) nonce nonce'

/-- Rows that differ at most in their API keys, which are both readable and not blank. -/
def RowsAlike (service : Service) (row row' : Instances.Row) : Prop :=
  ∃ enc' key key', row' = { row with apiKeyEnc := enc' } ∧
    decrypt service.gcm service.base64 row.apiKeyEnc service.encryptionKey = .ok key ∧
    decrypt service.gcm service.base64 enc' service.encryptionKey = .ok key' ∧
    trimSpace key ≠ [] ∧ trimSpace key' ≠ []

variable {service : Service} {table table' : Instances.Table} {inst inst' : FullInstance}

theorem DifferInKnownKeys.weaken (h : DifferInKnownKeys inst inst') : DifferInKeys inst inst' := by
  obtain ⟨key', rfl, hkey, hkey'⟩ := h
  exact ⟨key', rfl, iff_of_false hkey hkey'⟩

/-- A response does not show the key. -/
theorem DifferInKeys.response_eq (h : DifferInKeys inst inst') :
    toInstanceResponse inst = toInstanceResponse inst' := by
  obtain ⟨key', rfl, -⟩ := h
  rfl

theorem hydrateInstance_alike (id : UUID) {row row' : Instances.Row}
    (h : RowsAlike service row row') :
    Results DifferInKnownKeys (hydrateInstance service id row) (hydrateInstance service id row') := by
  obtain ⟨enc', key, key', rfl, hdecrypt, hdecrypt', hkey, hkey'⟩ := h
  unfold hydrateInstance
  rw [hdecrypt, hdecrypt']
  cases parseRFC3339Nano row.createdAt with
  | none => exact .error _
  | some createdAt =>
    cases parseRFC3339Nano row.updatedAt with
    | none => exact .error _
    | some updatedAt => exact .ok ⟨key', rfl, hkey, hkey'⟩

variable (service) in
theorem encrypt_alike {nonce nonce' : Except String Nonce} (hnonce : NoncesAlike nonce nonce')
    (key key' : Text) :
    Results (fun enc enc' ↦
        decrypt service.gcm service.base64 enc service.encryptionKey = .ok key ∧
        decrypt service.gcm service.base64 enc' service.encryptionKey = .ok key')
      (encrypt service.gcm service.base64 key service.encryptionKey nonce)
      (encrypt service.gcm service.base64 key' service.encryptionKey nonce') := by
  have hread (key : Text) (nonce : Nonce) (hlength : ¬service.encryptionKey.length ≠ keyLength) :
      decrypt service.gcm service.base64 (service.base64.encode
        (nonce.1 ++ service.gcm.sealText service.encryptionKey nonce.1 key)) service.encryptionKey =
          .ok key := by
    apply decrypt_of_encrypt
    case nonce => exact .ok nonce
    case h =>
      unfold encrypt
      rw [if_neg hlength]
  unfold encrypt
  by_cases hlength : service.encryptionKey.length ≠ keyLength
  · rw [if_pos hlength, if_pos hlength]
    exact .error _
  · rw [if_neg hlength, if_neg hlength]
    cases hnonce with
    | error err => exact .error _
    | ok _ => exact .ok ⟨hread _ _ hlength, hread _ _ hlength⟩

variable (service) in
/-- The validator sees whether a key is blank, and nothing else of it. -/
theorem validate_alike (h : DifferInKeys inst inst') :
    Results DifferInKnownKeys (service.validate inst) (service.validate inst') := by
  obtain ⟨key', rfl, hblank⟩ := h
  have hempty : (trimSpace inst.apiKey).isEmpty = (trimSpace key').isEmpty := by
    rw [Bool.eq_iff_iff, List.isEmpty_iff, List.isEmpty_iff, hblank]
  unfold Service.validate
  dsimp only
  split
  · exact .error _
  · split
    · exact .error _
    · split
      · exact .error _
      · rw [← hempty]
        split
        case isTrue => exact .error _
        case isFalse hkey =>
          split
          · exact .error _
          · have hknown : trimSpace inst.apiKey ≠ [] := fun hnil ↦ hkey (List.isEmpty_iff.mpr hnil)
            have hknown' : trimSpace key' ≠ [] := fun hnil ↦ hknown (hblank.mpr hnil)
            refine .ok ⟨trimSpace key', rfl, ?_, ?_⟩ <;> rwa [trimSpace_trimSpace]

/-! ## Calls of the store on such tables -/

theorem getInstance_alike (h : Tables (RowsAlike service) table table') (id : UUID)
    (failure : Option String) :
    Results DifferInKnownKeys (getInstance service table id failure)
      (getInstance service table' id failure) := by
  unfold getInstance
  cases failure with
  | some err => exact .error _
  | none =>
    dsimp only
    generalize table.lookup id = found, table'.lookup id = found', h.lookup id = hfound
    cases hfound with
    | none => exact .error _
    | @some row row' hrow =>
      dsimp only
      generalize hydrateInstance service id row = result, hydrateInstance service id row' = result',
        hydrateInstance_alike id hrow = hresult
      cases hresult with
      | error err => exact .error _
      | ok hinst => exact .ok hinst

theorem listInstances_alike (h : Tables (RowsAlike service) table table') (failure : Option String) :
    Results (List.Forall₂ DifferInKnownKeys) (listInstances service table failure)
      (listInstances service table' failure) := by
  unfold listInstances
  cases failure with
  | some err => exact .error _
  | none =>
    have hsorted : List.Forall₂ (Rows (RowsAlike service)) (rowsByName table) (rowsByName table') := by
      refine forall₂_insertionSort ?_ h
      rintro a b a' b' ⟨-, _, _, _, ha, -⟩ ⟨-, _, _, _, hb, -⟩
      rw [ha, hb]
    refine Results.mapM hsorted fun row row' hrow ↦ ?_
    rw [← hrow.1]
    exact hydrateInstance_alike row.1 hrow.2

theorem insertFailure_alike (h : Tables (RowsAlike service) table table') (inst : FullInstance)
    (key' : Text) (failure : Option String) :
    insertFailure table' { inst with apiKey := key' } failure = insertFailure table inst failure := by
  unfold insertFailure
  cases failure with
  | some err => rfl
  | none =>
    dsimp only
    rw [if_congr (h.mem_iff inst.id).symm rfl rfl]

theorem insertInstance_alike (h : Tables (RowsAlike service) table table')
    (hinst : DifferInKnownKeys inst inst') (io : CreateIO) {nonce' : Except String Nonce}
    (hnonce : NoncesAlike io.nonce nonce') :
    Results DifferInKnownKeys (insertInstance service table inst io).1
        (insertInstance service table' inst' { io with nonce := nonce' }).1 ∧
      Tables (RowsAlike service) (insertInstance service table inst io).2
        (insertInstance service table' inst' { io with nonce := nonce' }).2 := by
  obtain ⟨key', rfl, hkey, hkey'⟩ := hinst
  unfold insertInstance
  dsimp only
  generalize encrypt service.gcm service.base64 inst.apiKey service.encryptionKey io.nonce = enc,
    encrypt service.gcm service.base64 key' service.encryptionKey nonce' = enc',
    encrypt_alike service hnonce inst.apiKey key' = henc
  cases henc with
  | error err => exact ⟨.error _, h⟩
  | ok hread =>
    dsimp only
    rw [insertFailure_alike h ⟨if inst.id = 0 then io.newID else inst.id, inst.name, inst.appType,
      inst.baseURL, inst.apiKey, inst.timeoutMs, io.now.1, io.now.1⟩ key' io.failure]
    split
    · exact ⟨.error _, h⟩
    · exact ⟨.ok ⟨key', rfl, hkey, hkey'⟩,
        h.insert _ ⟨_, inst.apiKey, key', rfl, hread.1, hread.2, hkey, hkey'⟩⟩

theorem updateInstance_alike (h : Tables (RowsAlike service) table table')
    (hinst : DifferInKnownKeys inst inst') (io : UpdateIO) {nonce' : Except String Nonce}
    (hnonce : NoncesAlike io.nonce nonce') :
    Results DifferInKnownKeys (updateInstance service table inst io).1
        (updateInstance service table' inst' { io with nonce := nonce' }).1 ∧
      Tables (RowsAlike service) (updateInstance service table inst io).2
        (updateInstance service table' inst' { io with nonce := nonce' }).2 := by
  obtain ⟨key', rfl, hkey, hkey'⟩ := hinst
  unfold updateInstance
  dsimp only
  generalize encrypt service.gcm service.base64 inst.apiKey service.encryptionKey io.nonce = enc,
    encrypt service.gcm service.base64 key' service.encryptionKey nonce' = enc',
    encrypt_alike service hnonce inst.apiKey key' = henc
  cases henc with
  | error err => exact ⟨.error _, h⟩
  | ok hread =>
    cases io.failure with
    | some err => exact ⟨.error _, h⟩
    | none =>
      dsimp only
      generalize table.lookup inst.id = found, table'.lookup inst.id = found',
        h.lookup inst.id = hfound
      cases hfound with
      | none => exact ⟨.error _, h⟩
      | some hrow =>
        obtain ⟨_, _, _, rfl, -⟩ := hrow
        exact ⟨.ok ⟨key', rfl, hkey, hkey'⟩,
          h.insert _ ⟨_, inst.apiKey, key', rfl, hread.1, hread.2, hkey, hkey'⟩⟩

theorem create_alike (h : Tables (RowsAlike service) table table') (hinst : DifferInKeys inst inst')
    (io : CreateIO) {nonce' : Except String Nonce} (hnonce : NoncesAlike io.nonce nonce') :
    Results DifferInKnownKeys (service.create table inst io).1
        (service.create table' inst' { io with nonce := nonce' }).1 ∧
      Tables (RowsAlike service) (service.create table inst io).2
        (service.create table' inst' { io with nonce := nonce' }).2 := by
  have hfilled : DifferInKeys
      (if inst.timeoutMs = 0 then { inst with timeoutMs := defaultTimeoutMs } else inst)
      (if inst'.timeoutMs = 0 then { inst' with timeoutMs := defaultTimeoutMs } else inst') := by
    obtain ⟨key', rfl, hblank⟩ := hinst
    dsimp only
    split <;> exact ⟨key', rfl, hblank⟩
  unfold Service.create
  dsimp only
  generalize service.validate _ = checked, service.validate _ = checked',
    validate_alike service hfilled = hchecked
  cases hchecked with
  | error err => exact ⟨.error _, h⟩
  | ok hvalid => exact insertInstance_alike h hvalid io hnonce

/-- The changes of two updates agree but for the keys. -/
theorem applyChanges_alike {existing existing' : FullInstance}
    (hexisting : DifferInKnownKeys existing existing') (hinst : DifferInKeys inst inst') :
    DifferInKeys (Service.applyChanges existing inst) (Service.applyChanges existing' inst') := by
  obtain ⟨old', rfl, hold, hold'⟩ := hexisting
  obtain ⟨key', rfl, hblank⟩ := hinst
  refine ⟨(Service.applyChanges { existing with apiKey := old' } { inst with apiKey := key' }).apiKey,
    rfl, ?_⟩
  unfold Service.applyChanges
  dsimp only
  by_cases hkey : trimSpace inst.apiKey = []
  · rw [if_neg (not_not.mpr hkey), if_neg (not_not.mpr (hblank.mp hkey))]
    exact iff_of_false hold hold'
  · rw [if_pos hkey, if_pos fun hkey' ↦ hkey (hblank.mpr hkey'), trimSpace_trimSpace,
      trimSpace_trimSpace]
    exact hblank

theorem update_alike (h : Tables (RowsAlike service) table table') (id : UUID)
    (hinst : DifferInKeys inst inst') (getFailure : Option String) (io : UpdateIO)
    {nonce' : Except String Nonce} (hnonce : NoncesAlike io.nonce nonce') :
    Results DifferInKnownKeys (service.update table id inst getFailure io).1
        (service.update table' id inst' getFailure { io with nonce := nonce' }).1 ∧
      Tables (RowsAlike service) (service.update table id inst getFailure io).2
        (service.update table' id inst' getFailure { io with nonce := nonce' }).2 := by
  unfold Service.update
  generalize getInstance service table id getFailure = existing,
    getInstance service table' id getFailure = existing',
    getInstance_alike h id getFailure = hexisting
  cases hexisting with
  | error err => exact ⟨.error _, h⟩
  | ok hknown =>
    dsimp only
    unfold Service.writeChanges
    generalize service.validate _ = checked, service.validate _ = checked',
      validate_alike service (applyChanges_alike hknown hinst) = hchecked
    cases hchecked with
    | error err => exact ⟨.error _, h⟩
    | ok hvalid => exact updateInstance_alike h hvalid io hnonce

/-! ## Replies on such tables -/

/-- Requests that differ at most in the API keys they write, which are both blank or both not, and in
the random bytes. A connection test finds the same server. -/
inductive RequestsAlike : InstanceRequest → InstanceRequest → Prop
  | same (request : InstanceRequest) (hread : ∀ body io, request ≠ .create body io)
      (hwrite : ∀ id body failure io, request ≠ .update id body failure io) :
    RequestsAlike request request
  | create (req : Option CreateInstanceRequest) (io : CreateIO) (key' : Text)
      (nonce' : Except String Nonce)
      (hblank : ∀ body ∈ req, trimSpace body.apiKey = [] ↔ trimSpace key' = [])
      (hnonce : NoncesAlike io.nonce nonce') :
    RequestsAlike (.create req io)
      (.create (req.map fun body ↦ { body with apiKey := key' }) { io with nonce := nonce' })
  | update (id : Option UUID) (req : Option UpdateInstanceRequest) (getFailure : Option String)
      (io : UpdateIO) (key' : Text) (nonce' : Except String Nonce)
      (hblank : ∀ body ∈ req, trimSpace body.apiKey = [] ↔ trimSpace key' = [])
      (hnonce : NoncesAlike io.nonce nonce') :
    RequestsAlike (.update id req getFailure io)
      (.update id (req.map fun body ↦ { body with apiKey := key' }) getFailure
        { io with nonce := nonce' })

theorem handleListInstances_alike (h : Tables (RowsAlike service) table table')
    (failure : Option String) :
    handleListInstances service table failure = handleListInstances service table' failure := by
  unfold handleListInstances
  generalize listInstances service table failure = result,
    listInstances service table' failure = result', listInstances_alike h failure = hresult
  cases hresult with
  | error err => rfl
  | ok hinsts =>
    refine congrArg InstanceReply.instances ?_
    induction hinsts with
    | nil => rfl
    | cons hinst _ ih => rw [List.map_cons, List.map_cons, hinst.weaken.response_eq, ih]

theorem handleCreateInstance_alike (h : Tables (RowsAlike service) table table')
    (req : Option CreateInstanceRequest) (io : CreateIO) {key' : Text} {nonce' : Except String Nonce}
    (hblank : ∀ body ∈ req, trimSpace body.apiKey = [] ↔ trimSpace key' = [])
    (hnonce : NoncesAlike io.nonce nonce') :
    (handleCreateInstance service table req io).1 = (handleCreateInstance service table'
        (req.map fun body ↦ { body with apiKey := key' }) { io with nonce := nonce' }).1 ∧
      Tables (RowsAlike service) (handleCreateInstance service table req io).2
        (handleCreateInstance service table' (req.map fun body ↦ { body with apiKey := key' })
          { io with nonce := nonce' }).2 := by
  cases req with
  | none => exact ⟨rfl, h⟩
  | some body =>
    have hinst : DifferInKeys body.toInstance
        (CreateInstanceRequest.toInstance { body with apiKey := key' }) :=
      ⟨key', rfl, hblank body rfl⟩
    obtain ⟨hresult, htables⟩ := create_alike h hinst io hnonce
    unfold handleCreateInstance
    dsimp only [Option.map_some]
    generalize service.create table body.toInstance io = done,
      service.create table' (CreateInstanceRequest.toInstance { body with apiKey := key' })
        { io with nonce := nonce' } = done' at hresult htables
    obtain ⟨result, changed⟩ := done
    obtain ⟨result', changed'⟩ := done'
    cases hresult with
    | error err => exact ⟨rfl, htables⟩
    | ok hinst => exact ⟨congrArg (InstanceReply.instance 201) hinst.weaken.response_eq, htables⟩

theorem handleUpdateInstance_alike (h : Tables (RowsAlike service) table table') (id : Option UUID)
    (req : Option UpdateInstanceRequest) (getFailure : Option String) (io : UpdateIO) {key' : Text}
    {nonce' : Except String Nonce}
    (hblank : ∀ body ∈ req, trimSpace body.apiKey = [] ↔ trimSpace key' = [])
    (hnonce : NoncesAlike io.nonce nonce') :
    (handleUpdateInstance service table id req getFailure io).1 = (handleUpdateInstance service table'
        id (req.map fun body ↦ { body with apiKey := key' }) getFailure { io with nonce := nonce' }).1 ∧
      Tables (RowsAlike service) (handleUpdateInstance service table id req getFailure io).2
        (handleUpdateInstance service table' id (req.map fun body ↦ { body with apiKey := key' })
          getFailure { io with nonce := nonce' }).2 := by
  cases id with
  | none => exact ⟨rfl, h⟩
  | some id =>
    cases req with
    | none => exact ⟨rfl, h⟩
    | some body =>
      have hinst : DifferInKeys body.toInstance
          (UpdateInstanceRequest.toInstance { body with apiKey := key' }) :=
        ⟨key', rfl, hblank body rfl⟩
      obtain ⟨hresult, htables⟩ := update_alike h id hinst getFailure io hnonce
      unfold handleUpdateInstance
      dsimp only [Option.map_some]
      generalize service.update table id body.toInstance getFailure io = done,
        service.update table' id (UpdateInstanceRequest.toInstance { body with apiKey := key' })
          getFailure { io with nonce := nonce' } = done' at hresult htables
      obtain ⟨result, changed⟩ := done
      obtain ⟨result', changed'⟩ := done'
      cases hresult with
      | error err => exact ⟨rfl, htables⟩
      | ok hinst => exact ⟨congrArg (InstanceReply.instance 200) hinst.weaken.response_eq, htables⟩

theorem handleGetInstance_alike (h : Tables (RowsAlike service) table table') (id : Option UUID)
    (failure : Option String) :
    handleGetInstance service table id failure = handleGetInstance service table' id failure := by
  cases id with
  | none => rfl
  | some id =>
    unfold handleGetInstance
    dsimp only
    generalize getInstance service table id failure = result,
      getInstance service table' id failure = result', getInstance_alike h id failure = hresult
    cases hresult with
    | error err => rfl
    | ok hinst => exact congrArg (InstanceReply.instance 200) hinst.weaken.response_eq

theorem handleDeleteInstance_alike (h : Tables (RowsAlike service) table table') (id : Option UUID)
    (failure : Option String) :
    (handleDeleteInstance table id failure).1 = (handleDeleteInstance table' id failure).1 ∧
      Tables (RowsAlike service) (handleDeleteInstance table id failure).2
        (handleDeleteInstance table' id failure).2 := by
  cases id with
  | none => exact ⟨rfl, h⟩
  | some id =>
    unfold handleDeleteInstance Service.delete deleteInstance
    cases failure with
    | some err => exact ⟨rfl, h⟩
    | none =>
      dsimp only
      by_cases hmem : id ∈ table
      · rw [if_pos hmem, if_pos ((h.mem_iff id).mp hmem)]
        exact ⟨rfl, h.erase id⟩
      · rw [if_neg hmem, if_neg fun hmem' ↦ hmem ((h.mem_iff id).mpr hmem')]
        exact ⟨rfl, h⟩

theorem handleTestInstance_alike (h : Tables (RowsAlike service) table table') (id : Option UUID)
    (failure : Option String) (status : Except String SystemStatus) :
    handleTestInstance service table id failure status =
      handleTestInstance service table' id failure status := by
  cases id with
  | none => rfl
  | some id =>
    unfold handleTestInstance
    dsimp only
    generalize getInstance service table id failure = result,
      getInstance service table' id failure = result', getInstance_alike h id failure = hresult
    cases hresult with
    | error err => rfl
    | ok hinst =>
      obtain ⟨key', rfl, -⟩ := hinst
      rfl

/-- Requests that differ in their keys are answered alike, and keep the tables alike. -/
theorem handleInstances_alike (h : Tables (RowsAlike service) table table')
    {request request' : InstanceRequest} (hrequest : RequestsAlike request request') :
    (handleInstances service table request).1 = (handleInstances service table' request').1 ∧
      Tables (RowsAlike service) (handleInstances service table request).2
        (handleInstances service table' request').2 := by
  cases hrequest with
  | create req io key' nonce' hblank hnonce => exact handleCreateInstance_alike h req io hblank hnonce
  | update id req getFailure io key' nonce' hblank hnonce =>
    exact handleUpdateInstance_alike h id req getFailure io hblank hnonce
  | same request hread hwrite =>
    cases request with
    | create body io => exact absurd rfl (hread body io)
    | update id body getFailure io => exact absurd rfl (hwrite id body getFailure io)
    | list failure => exact ⟨handleListInstances_alike h failure, h⟩
    | get id failure => exact ⟨handleGetInstance_alike h id failure, h⟩
    | delete id failure => exact handleDeleteInstance_alike h id failure
    | test id failure status => exact ⟨handleTestInstance_alike h id failure status, h⟩

end Keys

end Huntarr2.Api
