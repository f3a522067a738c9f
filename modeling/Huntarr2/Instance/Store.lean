import Huntarr2.Clock.Strftime
import Huntarr2.Encrypt.Crypto
import Huntarr2.Foundation.KeyedTable
import Huntarr2.GoStd.Strconv
import Huntarr2.Instance.Instance

/-!
# The instance store and service

The instances table as its repository writes and reads it, with encrypted API keys and textual times,
and the service that validates what is written. A call takes what its environment answers: random
bytes, fresh IDs, clock readings and database errors.
-/

namespace Huntarr2.Instances

open Clock Encrypt GoStd

/-! ## Domain types -/

inductive AppType
  | sonarr
  | radarr
  | lidarr
  | whisparrV2
  | whisparrV3
  deriving DecidableEq, Repr

def AppType.text : AppType → String
  | .sonarr => "sonarr"
  | .radarr => "radarr"
  | .lidarr => "lidarr"
  | .whisparrV2 => "whisparr-v2"
  | .whisparrV3 => "whisparr-v3"

def allAppTypes : List AppType := [.sonarr, .radarr, .lidarr, .whisparrV2, .whisparrV3]

/-- `AppType.Valid`, on the text a request or a row holds. -/
def validAppType (appType : String) : Bool := appType ∈ allAppTypes.map AppType.text

def AppType.label : AppType → String
  | .sonarr => "Sonarr"
  | .radarr => "Radarr"
  | .lidarr => "Lidarr"
  | .whisparrV2 => "Whisparr V2"
  | .whisparrV3 => "Whisparr V3"

/-- `AppType.Label`, on the text a row holds. -/
def appTypeLabel (appType : String) : String :=
  match allAppTypes.find? fun known ↦ known.text = appType with
  | some known => known.label
  | none => appType

/-- `Instance` with all of its fields. A request may hold any app type. -/
structure FullInstance where
  id : UUID
  name : Text
  appType : String
  baseURL : Text
  apiKey : Text
  timeoutMs : ℤ
  createdAt : Timestamp
  updatedAt : Timestamp
  deriving DecidableEq

inductive Error
  | notFound
  | validation (field message : String)
  | repository (message : String)
  deriving DecidableEq, Repr

/-- The parts of a parsed URL that are checked. -/
structure URL where
  scheme : String
  host : String
  deriving DecidableEq, Repr

/-! ## The repository -/

/-- A row of `instances`. -/
structure Row where
  name : Text
  appType : String
  baseURL : Text
  apiKeyEnc : Text
  timeoutMs : ℤ
  createdAt : Text
  updatedAt : Text

abbrev Table := KeyedTable UUID Row

/-- What the service and its repository are built from. `url.Parse` is a parameter. -/
structure Service where
  parseURL : Text → Option URL
  gcm : GCM
  base64 : Base64
  encryptionKey : Bytes

/-- What the environment answers to `SQLiteRepository.Create`. -/
structure CreateIO where
  nonce : Except String Nonce
  newID : UUID
  now : UTCTime
  failure : Option String

/-- What the environment answers to `SQLiteRepository.Update`. The trigger on updates writes SQLite's
time. -/
structure UpdateIO where
  nonce : Except String Nonce
  now : UTCTime
  failure : Option String
  triggerAt : UTCTime

/-- Milliseconds since the start of year 0. -/
def wallMillis (time : UTCTime) : ℕ := time.1.wall * 1000 + time.1.nanos / 1000000

/-- The error of the INSERT: that of the database, or a violated constraint. -/
def insertFailure (table : Table) (inst : FullInstance) (failure : Option String) : Option String :=
  match failure with
  | some err => some err
  | none =>
    if inst.id ∈ table then some "UNIQUE constraint failed: instances.id"
    else if !validAppType inst.appType then some "CHECK constraint failed: app_type"
    else none

section Repository

variable (service : Service)

/-- `hydrateInstance`. -/
def hydrateInstance (id : UUID) (row : Row) : Except String FullInstance :=
  match parseRFC3339Nano row.createdAt with
  | none => .error "parsing created_at"
  | some createdAt =>
    match parseRFC3339Nano row.updatedAt with
    | none => .error "parsing updated_at"
    | some updatedAt =>
      match decrypt service.gcm service.base64 row.apiKeyEnc service.encryptionKey with
      | .error err => .error ("decrypting API key for " ++ uuidText id ++ ": " ++ err)
      | .ok decrypted => .ok
        { id := id
          name := row.name
          appType := row.appType
          baseURL := row.baseURL
          apiKey := decrypted
          timeoutMs := row.timeoutMs
          createdAt := createdAt
          updatedAt := updatedAt }

/-- `SQLiteRepository.Get`. -/
def getInstance (table : Table) (id : UUID) (failure : Option String) : Except Error FullInstance :=
  match failure with
  | some err => .error (.repository ("querying instance " ++ uuidText id ++ ": " ++ err))
  | none =>
    match table.lookup id with
    | none => .error .notFound
    | some row =>
      match hydrateInstance service id row with
      | .error err => .error (.repository ("querying instance " ++ uuidText id ++ ": " ++ err))
      | .ok inst => .ok inst

/-- `SQLiteRepository.Create`. -/
def insertInstance (table : Table) (inst : FullInstance) (io : CreateIO) :
    Except Error FullInstance × Table :=
  match encrypt service.gcm service.base64 inst.apiKey service.encryptionKey io.nonce with
  | .error err => (.error (.repository s!"encrypting API key: {err}"), table)
  | .ok encryptedKey =>
    let inst := { inst with
      id := if inst.id = 0 then io.newID else inst.id
      createdAt := io.now.1
      updatedAt := io.now.1 }
    match insertFailure table inst io.failure with
    | some err => (.error (.repository s!"creating instance: {err}"), table)
    | none => (.ok inst, table.insert inst.id
        { name := inst.name
          appType := inst.appType
          baseURL := inst.baseURL
          apiKeyEnc := encryptedKey
          timeoutMs := inst.timeoutMs
          createdAt := io.now.1.formatRFC3339Nano
          updatedAt := io.now.1.formatRFC3339Nano })

/-- `SQLiteRepository.Update`. The driver's count of affected rows does not fail. -/
def updateInstance (table : Table) (inst : FullInstance) (io : UpdateIO) :
    Except Error FullInstance × Table :=
  match encrypt service.gcm service.base64 inst.apiKey service.encryptionKey io.nonce with
  | .error err => (.error (.repository s!"encrypting API key: {err}"), table)
  | .ok encryptedKey =>
    match io.failure with
    | some err =>
      (.error (.repository ("updating instance " ++ uuidText inst.id ++ ": " ++ err)), table)
    | none =>
      match table.lookup inst.id with
      | none => (.error .notFound, table)
      | some row => (.ok { inst with updatedAt := io.now.1 }, table.insert inst.id { row with
          name := inst.name
          baseURL := inst.baseURL
          apiKeyEnc := encryptedKey
          timeoutMs := inst.timeoutMs
          updatedAt := strftime (wallMillis io.triggerAt) })

/-- `SQLiteRepository.Delete`. -/
def deleteInstance (table : Table) (id : UUID) (failure : Option String) :
    Except Error Unit × Table :=
  match failure with
  | some err => (.error (.repository ("deleting instance " ++ uuidText id ++ ": " ++ err)), table)
  | none => if id ∈ table then (.ok (), table.erase id) else (.error .notFound, table)

end Repository

/-! ## The service -/

/-- `defaultTimeoutMs`. -/
def defaultTimeoutMs : ℤ := 30000

/-- `maxTimeoutMs`. -/
def maxTimeoutMs : ℤ := 300000

/-- The scheme and host check of a base URL. -/
def URL.accepted (url : URL) : Bool :=
  (url.scheme = "http" || url.scheme = "https") && url.host ≠ ""

namespace Service

variable (service : Service)

/-- `validate`: the instance with its name and API key trimmed. -/
def validate (inst : FullInstance) : Except Error FullInstance :=
  if (trimSpace inst.name).isEmpty then .error (.validation "name" "must not be empty")
  else if !validAppType inst.appType then
    .error (.validation "app_type"
      ("\"" ++ inst.appType ++ "\" is not a recognised application type"))
  else if !(service.parseURL inst.baseURL).any URL.accepted then
    .error (.validation "base_url" "must be a valid HTTP or HTTPS URL")
  else if (trimSpace inst.apiKey).isEmpty then
    .error (.validation "api_key" "must not be empty")
  else if inst.timeoutMs < 0 ∨ maxTimeoutMs < inst.timeoutMs then
    .error (.validation "timeout_ms" s!"must be between 0 and {maxTimeoutMs}")
  else .ok { inst with name := trimSpace inst.name, apiKey := trimSpace inst.apiKey }

/-- `Service.Create`. -/
def create (table : Table) (inst : FullInstance) (io : CreateIO) :
    Except Error FullInstance × Table :=
  let inst := if inst.timeoutMs = 0 then { inst with timeoutMs := defaultTimeoutMs } else inst
  match service.validate inst with
  | .error err => (.error err, table)
  | .ok inst => insertInstance service table inst io

/-- The changes `Service.Update` applies; a blank API key and a timeout that is not positive keep the
existing values. -/
def applyChanges (existing inst : FullInstance) : FullInstance :=
  { existing with
    name := inst.name
    baseURL := inst.baseURL
    apiKey := if trimSpace inst.apiKey ≠ [] then trimSpace inst.apiKey else existing.apiKey
    timeoutMs := if 0 < inst.timeoutMs then inst.timeoutMs else existing.timeoutMs }

/-- `Service.Update` after its read: validation and the write. -/
def writeChanges (table : Table) (existing inst : FullInstance) (io : UpdateIO) :
    Except Error FullInstance × Table :=
  match service.validate (applyChanges existing inst) with
  | .error err => (.error err, table)
  | .ok changed => updateInstance service table changed io

/-- `Service.Update`. -/
def update (table : Table) (id : UUID) (inst : FullInstance) (getFailure : Option String)
    (io : UpdateIO) : Except Error FullInstance × Table :=
  match getInstance service table id getFailure with
  | .error err => (.error err, table)
  | .ok existing => service.writeChanges table existing inst io

/-- `Service.Delete`. -/
def delete (table : Table) (id : UUID) (failure : Option String) : Except Error Unit × Table :=
  deleteInstance table id failure

end Service

end Huntarr2.Instances
