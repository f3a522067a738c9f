import Huntarr2.Encrypt.Crypto
import Huntarr2.Foundation.Percent
import Huntarr2.GoStd.Strconv

/-!
# The configuration

Each environment variable is read on its own, and what is wrong with it is collected: one start reports
every variable that cannot be read. A configuration is loaded from exactly the environments whose
variables can all be read and whose values fit together.
-/

namespace Huntarr2.Configuration

open GoStd Percent Encrypt

/-! ## Reading the environment -/

inductive EnvKey
  | port
  | logLevel
  | databasePath
  | schedulerTickSecs
  | encryptionKey
  | authUsername
  | authPassword
  deriving DecidableEq, Repr

/-- `EnvKeys`. -/
def envKeys : List EnvKey :=
  [.port, .logLevel, .databasePath, .schedulerTickSecs, .encryptionKey, .authUsername, .authPassword]

def EnvKey.name : EnvKey → String
  | .port => "PORT"
  | .logLevel => "LOG_LEVEL"
  | .databasePath => "DATABASE_PATH"
  | .schedulerTickSecs => "SCHEDULER_TICK_SECS"
  | .encryptionKey => "ENCRYPTION_KEY"
  | .authUsername => "AUTH_USERNAME"
  | .authPassword => "AUTH_PASSWORD"

/-- What `os.Getenv` returns: a variable that is not set reads as the empty text. -/
abbrev Environment := EnvKey → Text

/-- An error of the parser, which begins with the name of the variable. -/
structure EnvError where
  key : EnvKey
  text : String
  deriving DecidableEq, Repr

def EnvError.message (err : EnvError) : String := err.key.name ++ err.text

/-- `hex.DecodeString`. -/
def hexDecode : Text → Option Bytes
  | [] => some []
  | [_] => none
  | high :: low :: rest =>
    match hexValue high, hexValue low, hexDecode rest with
    | some high, some low, some rest => some (UInt8.ofNat (high * 16 + low) :: rest)
    | _, _, _ => none

/-- The libraries that values are read and shown with. -/
structure Libraries where
  base64 : Base64
  /-- `zerolog.ParseLevel`. -/
  parseLevel : Text → Option ℤ
  /-- `%q`. -/
  quote : Text → String

section Parser

variable (lib : Libraries) (getenv : Environment)

/-- The bytes of a key that is given in hexadecimal digits or in Base64. -/
def decodeKey (raw : Text) : Option Bytes :=
  ((if raw.length = 64 then hexDecode raw else none).filter (·.length = 32)).or
    ((lib.base64.decode raw).filter (·.length = 32))

/-- A value that falls back where the variable is not set, with an error where it is not readable. -/
def readVal {α : Type} (read : Text → Option α) (kind : String) (key : EnvKey) (fallback : α)
    (errs : List EnvError) : α × List EnvError :=
  if getenv key = [] then (fallback, errs)
  else match read (getenv key) with
    | some v => (v, errs)
    | none => (fallback, errs ++ [⟨key, s!": {lib.quote (getenv key)} is not a valid {kind}"⟩])

def intVal (key : EnvKey) (fallback : ℤ) (errs : List EnvError) : ℤ × List EnvError :=
  readVal lib getenv atoi "integer" key fallback errs

def logLevel (key : EnvKey) (fallback : ℤ) (errs : List EnvError) : ℤ × List EnvError :=
  readVal lib getenv lib.parseLevel "log level" key fallback errs

def encryptionKey (key : EnvKey) (errs : List EnvError) : Bytes × List EnvError :=
  if getenv key = [] then ([], errs ++ [⟨key, " is required"⟩])
  else match decodeKey lib (getenv key) with
    | some decoded => (decoded, errs)
    | none => ([], errs ++
      [⟨key, ": value must be a 64-character hex string or base64 encoding of 32 bytes"⟩])

def envStr (key : EnvKey) (fallback : Text) : Text :=
  if getenv key ≠ [] then getenv key else fallback

end Parser

/-! ## Loading -/

structure Config where
  port : ℤ
  logLevel : ℤ
  databasePath : Text
  schedulerTickSecs : ℤ
  encryptionKey : Bytes
  authUsername : Text
  authPassword : Text

inductive LoadError
  | parsing (errs : List EnvError)
  | validating (errs : List String)

def LoadError.message : LoadError → String
  | .parsing errs => "parsing environment: " ++ "\n".intercalate (errs.map EnvError.message)
  | .validating errs => "validating configuration: " ++ "\n".intercalate errs

namespace Config

variable (c : Config)

/-- `AuthEnabled`. -/
def authEnabled : Bool := c.authUsername ≠ [] && c.authPassword ≠ []

/-- What `validate` finds. -/
def violations : List String :=
  (if c.databasePath = [] then ["DATABASE_PATH is required"] else []) ++
  (if c.port < 1 ∨ 65535 < c.port then ["PORT must be between 1 and 65535"] else []) ++
  (if c.schedulerTickSecs < 5 then
    [s!"SCHEDULER_TICK_SECS must be at least 5, got {c.schedulerTickSecs}"] else []) ++
  (if (decide (c.authUsername ≠ [])) ≠ decide (c.authPassword ≠ []) then
    ["AUTH_USERNAME and AUTH_PASSWORD must both be set or both be empty"] else [])

def validate : Except LoadError Unit :=
  if c.violations ≠ [] then .error (.validating c.violations) else .ok ()

end Config

section Load

variable (lib : Libraries) (getenv : Environment)

/-- The configuration as it was parsed, and the errors of the parser. -/
def parsed : Config × List EnvError :=
  let (port, errs) := intVal lib getenv .port 9706 []
  let (level, errs) := logLevel lib getenv .logLevel 1 errs
  let (schedulerTickSecs, errs) := intVal lib getenv .schedulerTickSecs 30 errs
  let (key, errs) := encryptionKey lib getenv .encryptionKey errs
  ({ port := port
     logLevel := level
     databasePath := envStr getenv .databasePath "/config/huntarr2.db"
     schedulerTickSecs := schedulerTickSecs
     encryptionKey := key
     authUsername := envStr getenv .authUsername []
     authPassword := envStr getenv .authPassword [] }, errs)

/-- `Load`. -/
def load : Except LoadError Config :=
  if (parsed lib getenv).2 ≠ [] then .error (.parsing (parsed lib getenv).2)
  else match (parsed lib getenv).1.validate with
    | .error err => .error err
    | .ok () => .ok (parsed lib getenv).1

end Load

/-! ## Keys -/

section Keys

variable (lib : Libraries)

/-- The digits of bytes. -/
def hexText (data : Bytes) : Text :=
  data.flatMap fun byte ↦ [hexDigit (byte.toNat / 16), hexDigit (byte.toNat % 16)]

theorem hexDecode_hexText (data : Bytes) : hexDecode (hexText data) = some data := by
  induction data with
  | nil => rfl
  | cons byte rest ih =>
    have hhigh : hexValue (hexDigit (byte.toNat / 16)) = some (byte.toNat / 16) :=
      hexValue_hexDigit _ (Nat.div_lt_of_lt_mul byte.toNat_lt)
    have hlow : hexValue (hexDigit (byte.toNat % 16)) = some (byte.toNat % 16) :=
      hexValue_hexDigit _ (Nat.mod_lt _ (by decide))
    change (match hexValue (hexDigit (byte.toNat / 16)), hexValue (hexDigit (byte.toNat % 16)),
      hexDecode (hexText rest) with
      | some high, some low, some rest => some (UInt8.ofNat (high * 16 + low) :: rest)
      | _, _, _ => none) = some (byte :: rest)
    rw [hhigh, hlow, ih]
    dsimp only
    rw [Nat.div_add_mod', UInt8.ofNat_toNat]

theorem length_hexText (data : Bytes) : (hexText data).length = 2 * data.length := by
  induction data with
  | nil => rfl
  | cons byte rest ih =>
    change (hexText rest).length + 2 = 2 * (rest.length + 1)
    rw [ih]
    ring

theorem length_of_decodeKey {raw : Text} {key : Bytes} (h : decodeKey lib raw = some key) :
    key.length = 32 := by
  unfold decodeKey at h
  rcases Option.or_eq_some_iff.mp h with hhex | ⟨-, hbase64⟩
  · exact of_decide_eq_true (Option.filter_eq_some_iff.mp hhex).2
  · exact of_decide_eq_true (Option.filter_eq_some_iff.mp hbase64).2

theorem filter_key {key : Bytes} (hlength : key.length = 32) :
    (some key).filter (·.length = 32) = some key :=
  if_pos (decide_eq_true hlength)

/-- A key is read back from its hexadecimal digits. -/
theorem decodeKey_hexText {key : Bytes} (hlength : key.length = 32) :
    decodeKey lib (hexText key) = some key := by
  have htext : (hexText key).length = 64 := by rw [length_hexText, hlength]
  unfold decodeKey
  rw [if_pos htext, hexDecode_hexText, filter_key hlength, Option.some_or]

/-- A key is read back from its Base64 text, which is too short for hexadecimal digits. -/
theorem decodeKey_encode {key : Bytes} (hlength : key.length = 32)
    (hencoded : (lib.base64.encode key).length = 44) :
    decodeKey lib (lib.base64.encode key) = some key := by
  have htext : ¬(lib.base64.encode key).length = 64 := by rw [hencoded]; decide
  unfold decodeKey
  rw [if_neg htext, lib.base64.decode_encode, filter_key hlength]
  rfl

theorem decodeKey_nil : decodeKey lib [] = none := by
  unfold decodeKey
  rw [lib.base64.decode_nil]
  rfl

end Keys

/-! ## Which environments load -/

section Spec

variable (lib : Libraries) (getenv : Environment)

/-- A value that a variable stands for. -/
def Reads {α : Type} (read : Text → Option α) (key : EnvKey) (fallback value : α) : Prop :=
  if getenv key = [] then value = fallback else read (getenv key) = some value

/-- The variables that are reported. -/
def malformed (key : EnvKey) : Bool :=
  match key with
  | .port | .schedulerTickSecs => getenv key ≠ [] && (atoi (getenv key)).isNone
  | .logLevel => getenv key ≠ [] && (lib.parseLevel (getenv key)).isNone
  | .encryptionKey => (decodeKey lib (getenv key)).isNone
  | .databasePath | .authUsername | .authPassword => false

section ReadVal

variable {α : Type} {read : Text → Option α} {kind : String} {key : EnvKey} {fallback value : α}
  (errs : List EnvError)

theorem readVal_of_reads (h : Reads getenv read key fallback value) :
    readVal lib getenv read kind key fallback errs = (value, errs) := by
  unfold Reads at h
  unfold readVal
  split at h
  case isTrue hempty => rw [if_pos hempty, h]
  case isFalse hset => rw [if_neg hset, h]

theorem reads_unset (hunset : getenv key = []) : Reads getenv read key fallback fallback := by
  unfold Reads
  rw [if_pos hunset]

theorem exists_reads (h : (getenv key ≠ [] && (read (getenv key)).isNone) = false) :
    ∃ value, Reads getenv read key fallback value := by
  by_cases hempty : getenv key = []
  · exact ⟨fallback, reads_unset getenv hempty⟩
  · unfold Reads
    cases hread : read (getenv key) with
    | none => simp [hempty, hread] at h
    | some value => exact ⟨value, by rw [if_neg hempty]⟩

theorem keys_readVal : (readVal lib getenv read kind key fallback errs).2.map EnvError.key =
    errs.map EnvError.key ++ if getenv key ≠ [] && (read (getenv key)).isNone then [key] else [] := by
  unfold readVal
  by_cases hempty : getenv key = []
  · simp [hempty]
  · cases hread : read (getenv key) <;> simp [hempty]

end ReadVal

theorem encryptionKey_of_decoded {key : EnvKey} {decoded : Bytes} (errs : List EnvError)
    (h : decodeKey lib (getenv key) = some decoded) :
    encryptionKey lib getenv key errs = (decoded, errs) := by
  have hset : getenv key ≠ [] := by
    intro hempty
    rw [hempty, decodeKey_nil] at h
    cases h
  unfold encryptionKey
  rw [if_neg hset, h]

theorem keys_encryptionKey (key : EnvKey) (errs : List EnvError) :
    (encryptionKey lib getenv key errs).2.map EnvError.key =
      errs.map EnvError.key ++ if (decodeKey lib (getenv key)).isNone then [key] else [] := by
  unfold encryptionKey
  by_cases hempty : getenv key = []
  · simp [hempty, decodeKey_nil]
  · cases hdecoded : decodeKey lib (getenv key) <;> simp [hempty]

/-- The parser reports each variable that cannot be read, once and in order. -/
theorem keys_parsed :
    (parsed lib getenv).2.map EnvError.key = envKeys.filter (malformed lib getenv) := by
  unfold parsed
  dsimp only
  rw [keys_encryptionKey]
  unfold intVal logLevel
  rw [keys_readVal, keys_readVal, keys_readVal]
  simp only [envKeys, List.filter_cons, malformed, List.filter_nil, List.map_nil, List.nil_append]
  split <;> split <;> split <;> split <;> rfl

/-- The configuration that the variables stand for. -/
structure ReadFrom (c : Config) : Prop where
  port : Reads getenv atoi .port 9706 c.port
  logLevel : Reads getenv lib.parseLevel .logLevel 1 c.logLevel
  databasePath : c.databasePath = envStr getenv .databasePath "/config/huntarr2.db"
  schedulerTickSecs : Reads getenv atoi .schedulerTickSecs 30 c.schedulerTickSecs
  encryptionKey : decodeKey lib (getenv .encryptionKey) = some c.encryptionKey
  authUsername : c.authUsername = envStr getenv .authUsername []
  authPassword : c.authPassword = envStr getenv .authPassword []

variable {lib getenv} in
theorem ReadFrom.parsed {c : Config} (h : ReadFrom lib getenv c) : parsed lib getenv = (c, []) := by
  unfold Configuration.parsed intVal Configuration.logLevel
  rw [readVal_of_reads lib getenv [] h.port]
  dsimp only
  rw [readVal_of_reads lib getenv [] h.logLevel]
  dsimp only
  rw [readVal_of_reads lib getenv [] h.schedulerTickSecs]
  dsimp only
  rw [encryptionKey_of_decoded lib getenv [] h.encryptionKey]
  dsimp only
  rw [← h.databasePath, ← h.authUsername, ← h.authPassword]

theorem exists_readFrom (h : ∀ key, malformed lib getenv key = false) : ∃ c, ReadFrom lib getenv c := by
  have hport : ∃ value, Reads getenv atoi .port 9706 value := exists_reads getenv (h .port)
  have hlevel : ∃ value, Reads getenv lib.parseLevel .logLevel 1 value :=
    exists_reads getenv (h .logLevel)
  have htick : ∃ value, Reads getenv atoi .schedulerTickSecs 30 value :=
    exists_reads getenv (h .schedulerTickSecs)
  obtain ⟨port, hport⟩ := hport
  obtain ⟨level, hlevel⟩ := hlevel
  obtain ⟨tick, htick⟩ := htick
  obtain ⟨key, hkey⟩ := Option.isSome_iff_exists.mp (Option.isNone_eq_false_iff.mp (h .encryptionKey))
  exact ⟨⟨port, level, _, tick, key, _, _⟩, hport, hlevel, rfl, htick, hkey, rfl, rfl⟩

/-- Values that fit together. -/
structure Valid (c : Config) : Prop where
  port : 1 ≤ c.port ∧ c.port ≤ 65535
  schedulerTickSecs : 5 ≤ c.schedulerTickSecs
  credentials : c.authUsername = [] ↔ c.authPassword = []

variable {lib getenv} in
/-- The path of the database always has a default. -/
theorem ReadFrom.violations_eq_nil_iff {c : Config} (h : ReadFrom lib getenv c) :
    c.violations = [] ↔ Valid c := by
  have hpath : c.databasePath ≠ [] := by
    rw [h.databasePath]
    unfold envStr
    split
    case isTrue hset => exact hset
    case isFalse => decide
  have hvalid : Valid c ↔ ¬(c.port < 1 ∨ 65535 < c.port) ∧ ¬c.schedulerTickSecs < 5 ∧
      (c.authUsername = [] ↔ c.authPassword = []) := by
    constructor
    · exact fun ⟨hport, htick, hcredentials⟩ ↦ ⟨by omega, by omega, hcredentials⟩
    · exact fun ⟨hport, htick, hcredentials⟩ ↦ ⟨by omega, by omega, hcredentials⟩
  have hcredentials : ¬decide (c.authUsername ≠ []) ≠ decide (c.authPassword ≠ []) ↔
      (c.authUsername = [] ↔ c.authPassword = []) := by
    rw [not_not, decide_eq_decide, not_iff_not]
  rw [hvalid, ← hcredentials]
  unfold Config.violations
  rw [if_neg hpath, List.nil_append]
  simp only [List.append_eq_nil_iff, ite_eq_right_iff, List.cons_ne_nil, imp_false, and_assoc]

variable {lib getenv} in
theorem ReadFrom.load {c : Config} (h : ReadFrom lib getenv c) : load lib getenv =
    if c.violations ≠ [] then .error (.validating c.violations) else .ok c := by
  unfold Configuration.load Config.validate
  rw [h.parsed, if_neg (not_not.mpr rfl)]
  dsimp only
  by_cases hviolated : c.violations ≠ []
  · rw [if_pos hviolated, if_pos hviolated]
  · rw [if_neg hviolated, if_neg hviolated]

theorem malformed_iff_mem (key : EnvKey) : malformed lib getenv key = true ↔
    key ∈ (parsed lib getenv).2.map EnvError.key := by
  rw [keys_parsed, List.mem_filter]
  exact (and_iff_right (by cases key <;> decide)).symm

/-- Where the parser reports nothing every variable can be read. -/
theorem exists_readFrom_of_parsed (h : (parsed lib getenv).2 = []) : ∃ c, ReadFrom lib getenv c := by
  refine exists_readFrom lib getenv fun key ↦ Bool.eq_false_iff.mpr fun hkey ↦ ?_
  rw [malformed_iff_mem, h] at hkey
  cases hkey

theorem exists_malformed_iff : (∃ key, malformed lib getenv key = true) ↔ (parsed lib getenv).2 ≠ [] := by
  constructor
  · rintro ⟨key, hkey⟩ hnone
    rw [malformed_iff_mem, hnone] at hkey
    cases hkey
  · intro hreported
    obtain ⟨err, herr⟩ := List.exists_mem_of_ne_nil _ hreported
    exact ⟨err.key, (malformed_iff_mem lib getenv err.key).mpr (List.mem_map_of_mem herr)⟩

variable {lib getenv} in
theorem ReadFrom.unique {c other : Config} (h : ReadFrom lib getenv c) (hother : ReadFrom lib getenv other) :
    c = other :=
  congrArg Prod.fst (h.parsed.symm.trans hother.parsed)

variable {lib getenv} in
theorem readFrom_of_load {c : Config} (h : load lib getenv = .ok c) :
    ReadFrom lib getenv c ∧ Valid c := by
  have herrs : (parsed lib getenv).2 = [] := by
    by_contra hne
    unfold load at h
    rw [if_pos hne] at h
    cases h
  obtain ⟨read, hread⟩ := exists_readFrom_of_parsed lib getenv herrs
  rw [hread.load] at h
  split at h
  case isTrue => cases h
  case isFalse hnone =>
    obtain rfl := Except.ok.inj h
    exact ⟨hread, hread.violations_eq_nil_iff.mp (not_not.mp hnone)⟩

variable {lib getenv} in
theorem load_of_readFrom {c : Config} (hread : ReadFrom lib getenv c) (hvalid : Valid c) :
    load lib getenv = .ok c := by
  rw [hread.load, if_neg (not_not.mpr (hread.violations_eq_nil_iff.mpr hvalid))]

/-- Load returns exactly the valid configuration that the environment reads as. -/
theorem load_eq_ok_iff (c : Config) :
    load lib getenv = .ok c ↔ ReadFrom lib getenv c ∧ Valid c :=
  ⟨readFrom_of_load, fun h ↦ load_of_readFrom h.1 h.2⟩

/-- What a failed start reports: each variable that cannot be read, once and in order, or else
everything that does not fit together. -/
theorem load_eq_error_iff (err : LoadError) :
    load lib getenv = .error err ↔
      (err = .parsing (parsed lib getenv).2 ∧ (parsed lib getenv).2.map EnvError.key =
        envKeys.filter (malformed lib getenv) ∧ ∃ key, malformed lib getenv key = true) ∨
      ∃ c, ReadFrom lib getenv c ∧ ¬Valid c ∧ err = .validating c.violations := by
  rw [exists_malformed_iff]
  by_cases herrs : (parsed lib getenv).2 = []
  · obtain ⟨c, hread⟩ := exists_readFrom_of_parsed lib getenv herrs
    rw [hread.load]
    constructor
    · intro h
      split at h
      case isTrue hviolated =>
        have hinvalid : ¬Valid c := fun hvalid ↦ hviolated (hread.violations_eq_nil_iff.mpr hvalid)
        exact Or.inr ⟨c, hread, hinvalid, (Except.error.inj h).symm⟩
      case isFalse => cases h
    · rintro (⟨-, -, hreported⟩ | ⟨other, hother, hinvalid, rfl⟩)
      · exact absurd herrs hreported
      · obtain rfl := hread.unique hother
        exact if_pos fun hnone ↦ hinvalid (hread.violations_eq_nil_iff.mp hnone)
  · have hload : load lib getenv = .error (.parsing (parsed lib getenv).2) := if_pos herrs
    rw [hload]
    constructor
    · intro h
      exact Or.inl ⟨(Except.error.inj h).symm, keys_parsed lib getenv, herrs⟩
    · rintro (⟨rfl, -, -⟩ | ⟨other, hother, -, -⟩)
      · rfl
      · exact absurd (congrArg Prod.snd hother.parsed) herrs

-- Nothing is set: only the key has no default.
example : load lib (fun _ ↦ []) = .error (.parsing [⟨.encryptionKey, " is required"⟩]) := rfl

end Spec

end Huntarr2.Configuration
