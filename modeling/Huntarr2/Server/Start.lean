import Huntarr2.Config.Load
import Huntarr2.Instance.Concurrent
import Huntarr2.Scheduler.Schedule
import Huntarr2.Server.Routes

/-!
# Starting the server

What a loaded configuration gives the server: a key that every API key is encrypted and read back under,
credentials that are required if they are set and only then, and a scheduler with the interval that was
configured, as long as its nanoseconds are a 64-bit number.
-/

namespace Huntarr2.Start

open Huntarr2.Configuration Encrypt GoStd Scheduling Clock

/-- The parts of the server that the configuration decides. -/
structure Server where
  encryptionKey : Bytes
  scheduler : Scheduler
  handler : Routes.Request → Routes.Answer

/-- The interval between ticks, in 64-bit arithmetic. -/
def tickInterval (c : Config) : Duration := wrap64 (c.schedulerTickSecs * second)

/-- `New`. -/
def new (c : Config) (now : Time) : Except String Server :=
  match Scheduling.new (tickInterval c) now with
  | .error err => .error s!"creating scheduler: {err}"
  | .ok sched => .ok ⟨c.encryptionKey, sched, Routes.serve c.authUsername c.authPassword⟩

theorem wrap64_eq_iff (value : ℤ) : wrap64 value = value ↔ minInt64 ≤ value ∧ value ≤ maxInt64 := by
  constructor
  · intro h
    have hlow : -((2 ^ 64 : ℕ) / 2 : ℤ) ≤ wrap64 value := Int.le_bmod (by decide)
    have hhigh : wrap64 value < ((2 ^ 64 : ℕ) + 1 : ℤ) / 2 := Int.bmod_lt (by decide)
    rw [h] at hlow hhigh
    unfold minInt64 maxInt64
    omega
  · exact fun h ↦ wrap64_of_bounds h.1 h.2

/-- The scheduler ticks as configured up to 292 years. -/
theorem tickInterval_eq_iff {c : Config} (htick : 5 ≤ c.schedulerTickSecs) :
    tickInterval c = c.schedulerTickSecs * second ↔ c.schedulerTickSecs ≤ 9223372036 := by
  unfold tickInterval
  rw [wrap64_eq_iff]
  unfold minInt64 maxInt64 second
  omega

theorem new_of_interval {c : Config} (hpos : 0 < tickInterval c) (now : Time) : ∃ sched,
    new c now = .ok ⟨c.encryptionKey, sched, Routes.serve c.authUsername c.authPassword⟩ := by
  unfold new Scheduling.new
  rw [if_neg hpos.not_ge]
  exact ⟨_, rfl⟩

/-- A key of a configuration that loads encrypts. -/
theorem encrypt_of_loaded {lib : Libraries} {getenv : Environment} {c : Config}
    (h : ReadFrom lib getenv c) (gcm : GCM) (text : Text) (nonce : Nonce) : ∃ enc,
    encrypt gcm lib.base64 text c.encryptionKey (.ok nonce) = .ok enc ∧
      decrypt gcm lib.base64 enc c.encryptionKey = .ok text := by
  have hlength : ¬c.encryptionKey.length ≠ keyLength :=
    not_not.mpr (length_of_decodeKey lib h.encryptionKey)
  have henc : encrypt gcm lib.base64 text c.encryptionKey (.ok nonce) = .ok _ := if_neg hlength
  exact ⟨_, henc, decrypt_of_encrypt gcm lib.base64 henc⟩

/-- The check of the middleware is the one of `AuthEnabled` where the configuration is valid. -/
theorem authEnabled_iff {c : Config} (hvalid : Valid c) :
    c.authEnabled = true ↔ ¬(c.authUsername = [] ∧ c.authPassword = []) := by
  have hcredentials := hvalid.credentials
  unfold Config.authEnabled
  rw [Bool.and_eq_true, decide_eq_true_iff, decide_eq_true_iff]
  tauto

theorem serve_unauthorised_iff {c : Config} (hvalid : Valid c) (request : Routes.Request) :
    Routes.serve c.authUsername c.authPassword request = .unauthorised ↔
      c.authEnabled = true ∧ request.url.path ≠ "/api/health" ∧
        request.credentials ≠ some (c.authUsername, c.authPassword) := by
  rw [authEnabled_iff hvalid]
  constructor
  · intro h
    have hset : ¬(c.authUsername = [] ∧ c.authPassword = []) := by
      intro hnone
      unfold Routes.serve Routes.withBasicAuth at h
      rw [if_pos hnone] at h
      cases h
    have hhealth : request.url.path ≠ "/api/health" := by
      intro hpath
      rw [Routes.serve_of_health hpath] at h
      cases h
    have hcredentials : request.credentials ≠ some (c.authUsername, c.authPassword) := by
      intro hsame
      rw [Routes.serve_of_credentials hsame] at h
      cases h
    exact ⟨hset, hhealth, hcredentials⟩
  · exact fun ⟨hset, hhealth, hcredentials⟩ ↦ Routes.serve_of_refused hset hhealth hcredentials

/-- A configuration that was loaded starts a server: the scheduler ticks at the configured interval if
its nanoseconds fit 64 bits, and the credentials and the key of the server are the configured ones. -/
theorem start_of_loaded {lib : Libraries} {getenv : Environment} {c : Config}
    (h : load lib getenv = .ok c) (now : Time) :
    (tickInterval c = c.schedulerTickSecs * second ↔ c.schedulerTickSecs ≤ 9223372036) ∧
      (c.schedulerTickSecs ≤ 9223372036 → ∃ server, new c now = .ok server ∧
        (∀ request, server.handler request = .unauthorised ↔
          c.authEnabled = true ∧ request.url.path ≠ "/api/health" ∧
            request.credentials ≠ some (c.authUsername, c.authPassword)) ∧
        server.encryptionKey = c.encryptionKey ∧
        ∀ gcm text nonce, ∃ enc,
          encrypt gcm lib.base64 text server.encryptionKey (.ok nonce) = .ok enc ∧
            decrypt gcm lib.base64 enc server.encryptionKey = .ok text) := by
  obtain ⟨hread, hvalid⟩ := readFrom_of_load h
  have hinterval := tickInterval_eq_iff hvalid.schedulerTickSecs
  refine ⟨hinterval, fun hmost ↦ ?_⟩
  have hpos : 0 < tickInterval c := by
    have htick := hvalid.schedulerTickSecs
    rw [hinterval.mpr hmost]
    exact Int.mul_pos (by omega) (by decide)
  obtain ⟨sched, hnew⟩ := new_of_interval hpos now
  exact ⟨_, hnew, serve_unauthorised_iff hvalid, rfl, encrypt_of_loaded hread⟩

/-! ## A deployment -/

def demoLibraries : Libraries where
  base64 := Instances.plainBase64
  parseLevel _ := none
  quote raw := "\"" ++ String.ofList raw ++ "\""

def demoEnvironment : Environment
  | .encryptionKey => hexText (List.replicate 32 7)
  | .authUsername => "admin"
  | .authPassword => "secret"
  | _ => []

def demoConfig : Config :=
  ⟨9706, 1, "/config/huntarr2.db", 30, List.replicate 32 7, "admin", "secret"⟩

theorem readFrom_demo : ReadFrom demoLibraries demoEnvironment demoConfig where
  port := reads_unset demoEnvironment rfl
  logLevel := reads_unset demoEnvironment rfl
  databasePath := rfl
  schedulerTickSecs := reads_unset demoEnvironment rfl
  encryptionKey := decodeKey_hexText demoLibraries rfl
  authUsername := by decide
  authPassword := by decide

theorem valid_demo : Valid demoConfig := ⟨by decide, by decide, by decide⟩

theorem start_of_loaded_demo :
    load demoLibraries demoEnvironment = .ok demoConfig ∧ demoConfig.schedulerTickSecs ≤ 9223372036 ∧
      ∃ server, new demoConfig zeroTime = .ok server ∧
        server.handler Routes.sampleRequest = .unauthorised := by
  have hload := load_of_readFrom readFrom_demo valid_demo
  have hmost : demoConfig.schedulerTickSecs ≤ 9223372036 := by decide
  obtain ⟨server, hnew, hhandler, -⟩ := (start_of_loaded hload zeroTime).2 hmost
  exact ⟨hload, hmost, server, hnew, (hhandler Routes.sampleRequest).mpr (by decide)⟩

end Huntarr2.Start
