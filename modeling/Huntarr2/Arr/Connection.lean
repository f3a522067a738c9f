import Huntarr2.Arr.History
import Huntarr2.Instance.Store

/-!
# Connecting to an application

The adapter configuration of every application type, and the connection test, which tells the two
generations of Whisparr apart by the major version the server reports.
-/

namespace Huntarr2.Arr

open GoStd Instances

/-! ## Adapter configurations -/

/-- Which library a `fetchLibrary` function reads. -/
inductive LibraryKind
  | movies
  | series
  | albums
  deriving DecidableEq, Repr

/-- `appConfig`. -/
structure AppConfig where
  name : String
  apiVersion : String
  commandKey : String
  idField : String
  versionMajor : ℤ
  fetchLibrary : LibraryKind
  fetchHistory : HistoryConfig

/-- `appConfigs`. -/
def appConfig : AppType → AppConfig
  | .sonarr => ⟨"sonarr", "v3", "EpisodeSearch", "episodeIds", 0, .series, sonarrHistory⟩
  | .radarr => ⟨"radarr", "v3", "MoviesSearch", "movieIds", 0, .movies, radarrHistory⟩
  | .lidarr => ⟨"lidarr", "v1", "AlbumSearch", "albumIds", 0, .albums, lidarrHistory⟩
  | .whisparrV2 => ⟨"whisparr-v2", "v3", "EpisodeSearch", "episodeIds", 2, .series, sonarrHistory⟩
  | .whisparrV3 => ⟨"whisparr-v3", "v3", "MoviesSearch", "movieIds", 3, .movies, whisparrV3History⟩

/-- `NewApp`, on the text a row holds. -/
def newApp (appType : String) : Except String AppConfig :=
  match allAppTypes.find? fun known ↦ known.text = appType with
  | some known => .ok (appConfig known)
  | none => .error ("application type \"" ++ appType ++ "\" is not supported")

/-- Every application type that a stored instance may have is supported. -/
theorem newApp_isOk_iff (appType : String) : (newApp appType).isOk = validAppType appType := by
  have hfound : (allAppTypes.find? fun known ↦ known.text = appType).isSome =
      validAppType appType := by
    unfold validAppType
    rw [Bool.eq_iff_iff, List.find?_isSome]
    simp
  unfold newApp
  rw [← hfound]
  cases allAppTypes.find? fun known ↦ known.text = appType <;> rfl

/-! ## The connection test -/

/-- `SystemStatus`. -/
structure SystemStatus where
  appName : Text
  version : Text
  deriving DecidableEq, Repr

/-- `majorVersion`. -/
def majorVersion (version : Text) : ℤ :=
  match atoi (version.takeWhile (· ≠ '.')) with
  | some major => if major < 0 then 0 else major
  | none => 0

/-- The errors of a connection test. -/
inductive ConnectionError
  | client (message : String)
  | unreachable (message : String)
  | versionMismatch (message : String)
  deriving DecidableEq, Repr

/-- The error of a server of another major version. -/
def versionMismatch (version : Text) (want : ℤ) (appType : String) : ConnectionError :=
  .versionMismatch ("application version mismatch: the server reports version " ++
    String.ofList version ++ s!"; expected a v{want} server for {appType}")

/-- `TestConnection`, where the server answers `status`. -/
def testConnection (appType : String) (status : Except String SystemStatus) :
    Except ConnectionError Unit :=
  match newApp appType with
  | .error err => .error (.client s!"creating app client: {err}")
  | .ok cfg =>
    match status with
    | .error err => .error (.unreachable s!"testing connection: {err}")
    | .ok sys =>
      if 0 < cfg.versionMajor ∧ 0 < majorVersion sys.version ∧
          majorVersion sys.version ≠ cfg.versionMajor then
        .error (versionMismatch sys.version cfg.versionMajor appType)
      else .ok ()

end Huntarr2.Arr
