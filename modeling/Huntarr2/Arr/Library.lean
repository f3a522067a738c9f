import Huntarr2.Arr.Service
import Huntarr2.Arr.History
import Huntarr2.Foundation.Skipping
import Mathlib.Data.List.Flatten

/-!
# Libraries fetched in parts

A Sonarr library is fetched series by series and a Lidarr library album by album. A request that fails
skips its entry, unless the context is done. The entry then contributes nothing, because nothing is
known about its files; an item that is only known to exist would be searched for as missing.
-/

namespace Huntarr2.Arr

open HistoryRecordResponse (twoDigits)

/-! ## Responses -/

structure SeriesResponse where
  id : ℤ
  title : String
  titleSlug : String
  qualityProfileID : ℤ
  monitored : Bool
  deriving DecidableEq, Repr

/-- An episode, with the quality ID of its file if it has one. -/
structure EpisodeResponse where
  id : ℤ
  episodeNumber : ℤ
  seasonNumber : ℤ
  hasFile : Bool
  monitored : Bool
  episodeFile : Option ℤ
  deriving DecidableEq, Repr

structure ArtistResponse where
  artistName : String
  titleSlug : String
  qualityProfileID : ℤ
  deriving DecidableEq, Repr

structure AlbumResponse where
  id : ℤ
  title : String
  monitored : Bool
  artist : ArtistResponse
  trackFileCount : ℤ
  deriving DecidableEq, Repr

/-- The quality ID of a track file. -/
structure TrackFileResponse where
  quality : ℤ
  deriving DecidableEq, Repr

/-! ## Requests -/

/-- What an instance answers to the request for the list of a path, and to the request made for the
list's entry of an index. A request that fails may find the context done. -/
structure LibraryClient (α β : Type) where
  list : String → Except String (List α)
  details : ℕ → String → Except String (List β)
  contextDone : ℕ → Bool

/-- The errors of a library fetch: that of the list, and that of an entry's request with the title of
the entry. -/
inductive LibraryError
  | listing (message : String)
  | entry (message title err : String)
  deriving DecidableEq, Repr

/-- The part of the loop around a request for an entry. -/
def LibraryClient.request {α β : Type} (client : LibraryClient α β) (i : ℕ)
    (path message title : String) (items : List β → List LibraryItem) :
    Turn LibraryError LibraryItem :=
  match client.details i path with
  | .error err => if client.contextDone i then .aborted (.entry message title err) else .skipped
  | .ok details => .kept (items details)

/-! ## Sonarr -/

/-- The item of an episode. -/
def SeriesResponse.episodeItem (series : SeriesResponse) (episode : EpisodeResponse) : LibraryItem where
  id := episode.id
  label := series.title ++ " S" ++ twoDigits episode.seasonNumber ++ "E" ++
    twoDigits episode.episodeNumber
  detailPath := "/series/" ++ series.titleSlug
  qualityProfileID := series.qualityProfileID
  currentQualityIDs := episode.episodeFile.toList
  hasFile := episode.hasFile
  monitored := episode.monitored

def episodePath (apiVersion : String) (series : SeriesResponse) : String :=
  s!"/api/{apiVersion}/episode?seriesId={series.id}&includeEpisodeFile=true"

/-- One turn of the loop of `fetchSonarrLibrary`. -/
def seriesTurn (apiVersion : String) (client : LibraryClient SeriesResponse EpisodeResponse)
    (entry : SeriesResponse × ℕ) : Turn LibraryError LibraryItem :=
  let (series, i) := entry
  if !series.monitored then .kept []
  else client.request i (episodePath apiVersion series) "fetching episodes for series" series.title
    fun episodes ↦ episodes.map series.episodeItem

/-- `fetchSonarrLibrary`. -/
def fetchSonarrLibrary (apiVersion : String) (client : LibraryClient SeriesResponse EpisodeResponse) :
    Except LibraryError (List LibraryItem) :=
  match client.list s!"/api/{apiVersion}/series" with
  | .error err => .error (.listing s!"fetching sonarr series: {err}")
  | .ok seriesList => Turn.collect (seriesTurn apiVersion client) seriesList.zipIdx

/-! ## Lidarr -/

def AlbumResponse.hasFile (album : AlbumResponse) : Bool := 0 < album.trackFileCount

/-- The item of an album before its track files are known. -/
def AlbumResponse.item (album : AlbumResponse) : LibraryItem where
  id := album.id
  label := album.artist.artistName ++ " - " ++ album.title
  detailPath := "/artist/" ++ album.artist.titleSlug
  qualityProfileID := album.artist.qualityProfileID
  currentQualityIDs := []
  hasFile := album.hasFile
  monitored := album.monitored

def trackPath (apiVersion : String) (album : AlbumResponse) : String :=
  s!"/api/{apiVersion}/trackfile?albumId={album.id}"

/-- One turn of the loop of `fetchLidarrLibrary`. -/
def albumTurn (apiVersion : String) (client : LibraryClient AlbumResponse TrackFileResponse)
    (entry : AlbumResponse × ℕ) : Turn LibraryError LibraryItem :=
  let (album, i) := entry
  if album.hasFile then
    client.request i (trackPath apiVersion album) "fetching track files for album" album.title
      fun tracks ↦ [{ album.item with currentQualityIDs := tracks.map (·.quality) }]
  else .kept [album.item]

/-- `fetchLidarrLibrary`. -/
def fetchLidarrLibrary (apiVersion : String) (client : LibraryClient AlbumResponse TrackFileResponse) :
    Except LibraryError (List LibraryItem) :=
  match client.list s!"/api/{apiVersion}/album" with
  | .error err => .error (.listing s!"fetching lidarr albums: {err}")
  | .ok albums => Turn.collect (albumTurn apiVersion client) albums.zipIdx

/-! ## What failures change -/

/-- The items of a series whose request succeeds. -/
def SeriesResponse.items (series : SeriesResponse) (episodes : List EpisodeResponse) :
    List LibraryItem :=
  if series.monitored then episodes.map series.episodeItem else []

/-- The item of an album whose request succeeds; without files none is made. -/
def AlbumResponse.items (album : AlbumResponse) (tracks : List TrackFileResponse) :
    List LibraryItem :=
  [{ album.item with
    currentQualityIDs := if album.hasFile then tracks.map (·.quality) else [] }]

section Failures

variable {α β : Type}

/-- An instance with this list and these contents, whose requests fail by a pattern. -/
def LibraryClient.answering (entries : List α) (content : ℕ → List β) (failures : ℕ → Option String)
    (contextDone : ℕ → Bool) : LibraryClient α β where
  list _ := .ok entries
  details i _ :=
    match failures i with
    | some err => .error err
    | none => .ok (content i)
  contextDone := contextDone

/-- The first pattern fails wherever the second does. -/
def FailsWherever (first second : ℕ → Option String) : Prop :=
  ∀ i, second i ≠ none → first i ≠ none

/-- The items of the entries, in order, without those whose request failed. -/
def fetchedItems (requests : α → Bool) (items : α → List β → List LibraryItem) (entries : List α)
    (content : ℕ → List β) (failures : ℕ → Option String) : List LibraryItem :=
  entries.zipIdx.flatMap fun (entry, i) ↦
    if requests entry ∧ failures i ≠ none then [] else items entry (content i)

/-- What failed requests do to a fetch, where `requests` says which entries make a request and
`items` what an entry offers. -/
structure OnlyRemoves (fetch : LibraryClient α β → Except LibraryError (List LibraryItem))
    (requests : α → Bool) (items : α → List β → List LibraryItem) : Prop where
  /-- While the context is live, failed entries contribute nothing and the others all they have. -/
  live : ∀ entries content failures contextDone, (∀ i, contextDone i = false) →
    fetch (.answering entries content failures contextDone) =
      .ok (fetchedItems requests items entries content failures)
  /-- More failures remove items from the library and from both candidate lists. -/
  fewer : ∀ entries content first second contextDone, (∀ i, contextDone i = false) →
    FailsWherever first second →
    ∃ fewer more, fetch (.answering entries content first contextDone) = .ok fewer ∧
      fetch (.answering entries content second contextDone) = .ok more ∧ fewer.Sublist more ∧
      (∀ profiles,
        (filterUpgradeable fewer profiles).1.Sublist (filterUpgradeable more profiles).1) ∧
      (filterMissing fewer).Sublist (filterMissing more)
  /-- A request that fails while the context is done ends the fetch. -/
  aborts : ∀ entries content failures contextDone, ∀ entry ∈ entries.zipIdx,
    requests entry.1 → failures entry.2 ≠ none → contextDone entry.2 = true →
    ∃ err, fetch (.answering entries content failures contextDone) = .error err

/-- The turn asks for the details of an entry, or has its items without them. -/
def AsksFor (requests : α → Bool) (items : α → List β → List LibraryItem)
    (turn : LibraryClient α β → α × ℕ → Turn LibraryError LibraryItem) : Prop :=
  ∀ client entry i,
    (requests entry → ∃ path message title,
      turn client (entry, i) = client.request i path message title (items entry)) ∧
    (requests entry = false → ∀ details, turn client (entry, i) = .kept (items entry details))

variable {requests : α → Bool} {items : α → List β → List LibraryItem}
  {turn : LibraryClient α β → α × ℕ → Turn LibraryError LibraryItem}

theorem upgradeable_sublist {fewer more : List LibraryItem} (h : fewer.Sublist more)
    (profiles : KeyedTable ℤ QualityProfile) :
    (filterUpgradeable fewer profiles).1.Sublist (filterUpgradeable more profiles).1 := by
  rw [filterUpgradeable_fst, filterUpgradeable_fst]
  exact (h.filter _).map _

theorem missing_sublist {fewer more : List LibraryItem} (h : fewer.Sublist more) :
    (filterMissing fewer).Sublist (filterMissing more) := by
  rw [filterMissing_eq, filterMissing_eq]
  exact (h.filter _).map _

/-- An entry whose request fails contributes nothing, whatever it would have offered. -/
theorem fetchedItems_sublist (requests : α → Bool) (items : α → List β → List LibraryItem)
    (entries : List α) (content : ℕ → List β) {first second : ℕ → Option String}
    (h : FailsWherever first second) :
    (fetchedItems requests items entries content first).Sublist
      (fetchedItems requests items entries content second) := by
  refine List.Sublist.flatMap_right _ fun (entry, i) _ ↦ ?_
  dsimp only
  by_cases hfirst : requests entry ∧ first i ≠ none
  · rw [if_pos hfirst]
    exact List.nil_sublist _
  · rw [if_neg hfirst, if_neg fun hsecond ↦ hfirst ⟨hsecond.1, h i hsecond.2⟩]

theorem request_answering (entries : List α) (content : ℕ → List β) (failures : ℕ → Option String)
    (contextDone : ℕ → Bool) (i : ℕ) (path message title : String)
    (keep : List β → List LibraryItem) :
    (LibraryClient.answering entries content failures contextDone).request i path message title keep =
      match failures i with
      | some err => if contextDone i then .aborted (.entry message title err) else .skipped
      | none => .kept (keep (content i)) := by
  unfold LibraryClient.request LibraryClient.answering
  cases hfailure : failures i <;> simp only [hfailure]

/-- A turn while the context is live. -/
theorem turn_of_live (h : AsksFor requests items turn) (entries : List α) (content : ℕ → List β)
    (failures : ℕ → Option String) {contextDone : ℕ → Bool} (entry : α) {i : ℕ}
    (hlive : contextDone i = false) :
    turn (.answering entries content failures contextDone) (entry, i) =
      if requests entry ∧ failures i ≠ none then .skipped else .kept (items entry (content i)) := by
  obtain ⟨hrequest, hwithout⟩ := h (.answering entries content failures contextDone) entry i
  by_cases hasks : requests entry
  · obtain ⟨path, message, title, hturn⟩ := hrequest hasks
    rw [hturn, request_answering, hlive]
    cases failures i with
    | none => simp
    | some err => simp [hasks]
  · rw [hwithout (by simpa using hasks) (content i), if_neg fun hboth ↦ hasks hboth.1]

theorem onlyRemoves_of_turn (h : AsksFor requests items turn)
    {fetch : LibraryClient α β → Except LibraryError (List LibraryItem)}
    (hfetch : ∀ client entries, (∀ path, client.list path = .ok entries) →
      fetch client = Turn.collect (turn client) entries.zipIdx) :
    OnlyRemoves fetch requests items := by
  have hlive (entries : List α) (content : ℕ → List β) (failures : ℕ → Option String)
      (contextDone : ℕ → Bool) (hdone : ∀ i, contextDone i = false) :
      fetch (.answering entries content failures contextDone) =
        .ok (fetchedItems requests items entries content failures) := by
    have hturn (entry : α × ℕ) := turn_of_live h entries content failures entry.1 (hdone entry.2)
    rw [hfetch _ entries fun _ ↦ rfl, Turn.collect_eq_flatMap]
    · refine congrArg Except.ok (List.flatMap_congr fun (entry, i) _ ↦ ?_)
      rw [hturn (entry, i)]
      dsimp only
      split_ifs <;> rfl
    · intro entry _ err
      rw [hturn entry]
      split_ifs <;> simp
  refine ⟨hlive, fun entries content first second contextDone hdone hfails ↦ ?_, ?_⟩
  · have hsublist := fetchedItems_sublist requests items entries content hfails
    exact ⟨_, _, hlive entries content first contextDone hdone,
      hlive entries content second contextDone hdone, hsublist, upgradeable_sublist hsublist,
      missing_sublist hsublist⟩
  · intro entries content failures contextDone (entry, i) hentry hasks hfailed hdone
    obtain ⟨path, message, title, hturn⟩ :=
      (h (.answering entries content failures contextDone) entry i).1 hasks
    obtain ⟨err, herr⟩ := Option.ne_none_iff_exists'.mp hfailed
    have haborted : turn (.answering entries content failures contextDone) (entry, i) =
        .aborted (.entry message title err) := by
      rw [hturn, request_answering, herr]
      exact if_pos hdone
    rw [hfetch _ entries fun _ ↦ rfl]
    exact Turn.collect_error_of_aborted hentry haborted

end Failures

theorem seriesTurn_asksFor (apiVersion : String) :
    AsksFor SeriesResponse.monitored SeriesResponse.items (seriesTurn apiVersion) := by
  intro client series i
  refine ⟨fun hmonitored ↦
    ⟨episodePath apiVersion series, "fetching episodes for series", series.title, ?_⟩,
    fun hunmonitored details ↦ ?_⟩
  · have hitems : series.items = fun episodes ↦ episodes.map series.episodeItem :=
      funext fun _ ↦ if_pos hmonitored
    unfold seriesTurn
    dsimp only
    rw [hitems, hmonitored]
    rfl
  · unfold seriesTurn SeriesResponse.items
    dsimp only
    rw [hunmonitored]
    rfl

theorem albumTurn_asksFor (apiVersion : String) :
    AsksFor AlbumResponse.hasFile AlbumResponse.items (albumTurn apiVersion) := by
  intro client album i
  unfold AlbumResponse.items albumTurn
  refine ⟨fun hfile ↦
    ⟨trackPath apiVersion album, "fetching track files for album", album.title, ?_⟩,
    fun hnone details ↦ ?_⟩
  · dsimp only
    simp only [if_pos hfile]
  · simp only [hnone, Bool.false_eq_true, if_false]
    rfl

/-- Failed requests only remove candidates, from both kinds of library. -/
theorem fetches_onlyRemove (apiVersion : String) :
    OnlyRemoves (fetchSonarrLibrary apiVersion) SeriesResponse.monitored SeriesResponse.items ∧
      OnlyRemoves (fetchLidarrLibrary apiVersion) AlbumResponse.hasFile AlbumResponse.items := by
  refine ⟨onlyRemoves_of_turn (seriesTurn_asksFor apiVersion) fun client entries hlist ↦ ?_,
    onlyRemoves_of_turn (albumTurn_asksFor apiVersion) fun client entries hlist ↦ ?_⟩
  · unfold fetchSonarrLibrary
    rw [hlist]
  · unfold fetchLidarrLibrary
    rw [hlist]

end Huntarr2.Arr
