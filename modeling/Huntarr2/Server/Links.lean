import Huntarr2.Arr.HistorySpec
import Huntarr2.Arr.MediaCover
import Huntarr2.Server.Pages
import Huntarr2.Server.Routes

/-!
# Where the links of the pages lead

The pages build their requests from instance IDs and poster paths. Each of them is routed to the handler
that the page means, and the handler gets the ID and the path back as they were.
-/

namespace Huntarr2.Routes

open Activity Arr GoStd Pages Percent

/-! ## Segments of the requests -/

/-- The characters of UUIDs and of the names of media covers, but for the point. -/
def segmentLetters : Text := decimalDigits ++ lowerLetters ++ ("-" : Text)

/-- A text that starts with one of these letters and else has points at most is plain. -/
theorem plain_of_letters {c : Char} {text : Text} (hc : c ∈ segmentLetters)
    (htext : ∀ d ∈ text, d ∈ segmentLetters ∨ d = '.') : Plain (c :: text) := by
  have hkept : ∀ d ∈ segmentLetters, pathByte d = some d ∧ d ≠ '/' ∧ d ≠ '.' :=
    forall_mem_of_all (by decide)
  have hletters : ∀ d ∈ c :: text, pathByte d = some d ∧ d ≠ '/' := by
    intro d hd
    have hletter : d ∈ segmentLetters ∨ d = '.' :=
      (List.mem_cons.mp hd).elim (fun heq ↦ Or.inl (heq ▸ hc)) (htext d)
    rcases hletter with hletter | rfl
    · exact ⟨(hkept d hletter).1, (hkept d hletter).2.1⟩
    · decide
  have hfirst : c ≠ '.' := (hkept c hc).2.2
  exact
    { nonempty := List.cons_ne_nil _ _
      kept := fun d hd ↦ (hletters d hd).1
      slash := fun hslash ↦ (hletters _ hslash).2 rfl
      dot := fun heq ↦ hfirst (List.cons.inj heq).1
      dots := fun heq ↦ hfirst (List.cons.inj heq).1 }

theorem plain_of_forall_letters {text : Text} (hnonempty : text ≠ [])
    (htext : ∀ c ∈ text, c ∈ segmentLetters) : Plain text := by
  cases text with
  | nil => exact absurd rfl hnonempty
  | cons c text =>
    rw [List.forall_mem_cons] at htext
    exact plain_of_letters htext.1 fun d hd ↦ Or.inl (htext.2 d hd)

/-- The words between the slashes, and the names of files. -/
theorem plain_word (text : Text)
    (h : (text.head?.any (segmentLetters.contains ·) &&
      text.tail.all fun c ↦ segmentLetters.contains c || c == '.') = true) : Plain text := by
  cases text with
  | nil => cases h
  | cons first rest =>
    rw [Bool.and_eq_true, List.all_eq_true] at h
    refine plain_of_letters (List.contains_iff_mem.mp h.1) fun c hc ↦ ?_
    exact (Bool.or_eq_true _ _ ▸ h.2 c hc).imp List.contains_iff_mem.mp eq_of_beq

theorem plain_uuidText (id : UUID) : Plain (uuidText id).toList := by
  have hletters : ∀ c ∈ '-' :: hexDigits, c ∈ segmentLetters := forall_mem_of_all (by decide)
  exact plain_of_forall_letters (uuidText_ne_nil id) fun c hc ↦ hletters c (mem_uuidText hc)

theorem digit_segmentLetter {c : Char} (h : c ∈ decimalDigits) : c ∈ segmentLetters :=
  List.mem_append_left _ (List.mem_append_left _ h)

theorem lower_segmentLetter {c : Char} (h : c ∈ lowerLetters) : c ∈ segmentLetters :=
  List.mem_append_left _ (List.mem_append_right _ h)

/-- The file of a media cover, which has a point in front of its extension. -/
theorem plain_file (cover : CoverPath) :
    Plain (cover.kind.1 ++ (cover.sizeText ++ '.' :: cover.format.text)) := by
  have hrest : ∀ d ∈ cover.sizeText ++ '.' :: cover.format.text, d ∈ segmentLetters ∨ d = '.' := by
    intro d hd
    rcases List.mem_append.mp hd with hsize | hextension
    · rcases cover.mem_sizeText hsize with rfl | hdigit
      · exact Or.inl (List.mem_append_right _ (List.mem_singleton_self _))
      · exact Or.inl (digit_segmentLetter hdigit)
    · rcases List.mem_cons.mp hextension with rfl | hformat
      · exact Or.inr rfl
      · exact Or.inl (lower_segmentLetter (CoverPath.mem_format hformat))
  obtain ⟨kind, hnonempty, hkind⟩ := cover.kind
  cases kind with
  | nil => exact absurd rfl hnonempty
  | cons c kind =>
    rw [List.forall_mem_cons] at hkind
    refine plain_of_letters (lower_segmentLetter hkind.1) fun d hd ↦ ?_
    rcases List.mem_append.mp hd with hletter | hlater
    · exact Or.inl (lower_segmentLetter (hkind.2 d hletter))
    · exact hrest d hlater

/-- The segments of a media cover's path are plain. -/
theorem plain_segments (cover : CoverPath) : ∀ segment ∈ cover.segments, Plain segment := by
  have hid : Plain cover.id.1 :=
    plain_of_forall_letters cover.id.2.1 fun c hc ↦ digit_segmentLetter (cover.id.2.2 c hc)
  have hfile := plain_file cover
  unfold CoverPath.segments
  cases cover.folder with
  | root => exact List.forall_mem_cons.mpr ⟨hid, List.forall_mem_singleton.mpr hfile⟩
  | artist | album =>
    exact List.forall_mem_cons.mpr
      ⟨plain_word _ rfl, List.forall_mem_cons.mpr ⟨hid, List.forall_mem_singleton.mpr hfile⟩⟩

/-- A media cover's path has two segments at least. -/
theorem exists_segments (cover : CoverPath) : ∃ first second more,
    cover.segments = first :: second :: more ∧ first ++ pathText (second :: more) = cover.text := by
  have htext := cover.intercalate_segments
  unfold CoverPath.segments at htext ⊢
  cases hfolder : cover.folder with
  | root | artist | album =>
    rw [hfolder] at htext
    refine ⟨_, _, _, rfl, ?_⟩
    rw [← intercalate_pathText]
    exact htext

/-! ## Requests of the pages -/

/-- The scripts and the picture that the pages load. -/
inductive StaticFile
  | tailwind
  | alpineFocus
  | alpine
  | connections
  | settings
  | logs
  | scheduler
  | logo

/-- The file below `/static`. -/
def StaticFile.texts : StaticFile → List Text
  | .tailwind => ["js", "tailwind-4.3.3.js"]
  | .alpineFocus => ["js", "alpine-focus-3.16.1.min.js"]
  | .alpine => ["js", "alpine-3.16.1.min.js"]
  | .connections => ["js", "connections.js"]
  | .settings => ["js", "settings.js"]
  | .logs => ["js", "logs.js"]
  | .scheduler => ["js", "scheduler.js"]
  | .logo => ["images", "logo.png"]

/-- The requests that the pages make, the files they load, and the links between them. -/
inductive PageRequest
  | home
  | staticFile (file : StaticFile)
  | connections
  | settings
  | logs
  | createInstance
  | getInstance (id : UUID)
  | updateInstance (id : UUID)
  | deleteInstance (id : UUID)
  | testInstance (id : UUID)
  | getSettings
  | updateSettings
  | deleteSettings
  | listActivity
  | schedulerStatus
  | poster (id : UUID) (cover : CoverPath)

/-- The URL of the home page. -/
def rootURL : RequestURL where
  path := ['/']
  rawPath := []
  decoded := fun hraw ↦ absurd rfl hraw
  bytes := forall_mem_of_all (by decide)

namespace PageRequest

def method : PageRequest → String
  | .createInstance | .testInstance _ => "POST"
  | .updateInstance _ | .updateSettings => "PUT"
  | .deleteInstance _ | .deleteSettings => "DELETE"
  | _ => "GET"

/-- The path between its slashes; the home page has nothing there. -/
def texts : PageRequest → List Text
  | .home => []
  | .staticFile file => "static" :: file.texts
  | .connections => ["connections"]
  | .settings => ["settings"]
  | .logs => ["logs"]
  | .createInstance => ["api", "instances"]
  | .getInstance id | .updateInstance id | .deleteInstance id =>
    ["api", "instances", (uuidText id).toList]
  | .testInstance id => ["api", "instances", (uuidText id).toList, "test"]
  | .getSettings | .updateSettings | .deleteSettings => ["api", "settings"]
  | .listActivity => ["api", "activity"]
  | .schedulerStatus => ["api", "scheduler", "status"]
  | .poster id cover => "api" :: "instances" :: (uuidText id).toList :: "mediacover" :: cover.segments

/-- The path that the page writes. -/
def path : PageRequest → Text
  | .home => ['/']
  | request => pathText request.texts

/-- The handler that the page means. -/
def endpoint : PageRequest → Endpoint
  | .home => .homePage
  | .staticFile _ => .staticFiles
  | .connections => .connectionsPage
  | .settings => .settingsPage
  | .logs => .logsPage
  | .createInstance => .createInstance
  | .getInstance _ => .getInstance
  | .updateInstance _ => .updateInstance
  | .deleteInstance _ => .deleteInstance
  | .testInstance _ => .testInstance
  | .getSettings => .getSettings
  | .updateSettings => .updateSettings
  | .deleteSettings => .deleteSettings
  | .listActivity => .listActivity
  | .schedulerStatus => .schedulerStatus
  | .poster _ _ => .instanceMediaCover

/-- What the handler gets from the path. -/
def values : PageRequest → List Text
  | .getInstance id | .updateInstance id | .deleteInstance id | .testInstance id =>
    [(uuidText id).toList]
  | .poster id cover => [(uuidText id).toList, cover.text]
  | _ => []

theorem plain (request : PageRequest) : ∀ text ∈ request.texts, Plain text := by
  have hpair {first second : Text} (hfirst : Plain first) (hsecond : Plain second) :
      ∀ text ∈ [first, second], Plain text :=
    List.forall_mem_cons.mpr ⟨hfirst, List.forall_mem_singleton.mpr hsecond⟩
  have hapi : Plain "api" := plain_word _ rfl
  have hinstances : Plain "instances" := plain_word _ rfl
  cases request with
  | home => exact List.forall_mem_nil _
  | staticFile file =>
    refine List.forall_mem_cons.mpr ⟨plain_word _ rfl, ?_⟩
    cases file <;> exact hpair (plain_word _ rfl) (plain_word _ rfl)
  | connections | settings | logs => exact List.forall_mem_singleton.mpr (plain_word _ rfl)
  | createInstance | getSettings | updateSettings | deleteSettings | listActivity =>
    exact hpair hapi (plain_word _ rfl)
  | schedulerStatus =>
    exact List.forall_mem_cons.mpr ⟨hapi, hpair (plain_word _ rfl) (plain_word _ rfl)⟩
  | getInstance id | updateInstance id | deleteInstance id =>
    exact List.forall_mem_cons.mpr ⟨hapi, hpair hinstances (plain_uuidText id)⟩
  | testInstance id =>
    exact List.forall_mem_cons.mpr ⟨hapi, List.forall_mem_cons.mpr
      ⟨hinstances, hpair (plain_uuidText id) (plain_word _ rfl)⟩⟩
  | poster id cover =>
    simp only [texts, List.forall_mem_cons]
    exact ⟨hapi, hinstances, plain_uuidText id, plain_word _ rfl, plain_segments cover⟩

/-- The URL that the page means. -/
def url : PageRequest → RequestURL
  | .home => rootURL
  | request => plainURL request.texts request.plain

theorem url_path (request : PageRequest) : request.url.path = request.path := by
  cases request <;> rfl

theorem bytes_path (request : PageRequest) : ∀ c ∈ request.path, c.toNat < 256 :=
  request.url_path ▸ request.url.bytes

theorem texts_ne_nil {request : PageRequest} (h : request ≠ .home) : request.texts ≠ [] := by
  cases request with
  | home => exact absurd rfl h
  | _ => exact List.cons_ne_nil _ _

theorem url_eq_plainURL {request : PageRequest} (h : request ≠ .home) :
    request.url = plainURL request.texts request.plain := by
  cases request with
  | home => exact absurd rfl h
  | _ => rfl

theorem path_eq_pathText {request : PageRequest} (h : request ≠ .home) :
    request.path = pathText request.texts := by
  cases request with
  | home => exact absurd rfl h
  | _ => rfl

/-- The server reads the URL that the page means. -/
theorem ofText?_path (request : PageRequest) :
    RequestURL.ofText? request.path request.bytes_path = some request.url := by
  by_cases hhome : request = .home
  · subst hhome
    rfl
  · have hread : ∀ text htext, text = pathText request.texts →
        RequestURL.ofText? text htext = some request.url := by
      rintro _ _ rfl
      rw [url_eq_plainURL hhome]
      exact ofText?_pathText request.plain
    exact hread _ _ (path_eq_pathText hhome)

theorem rooted_url (request : PageRequest) : request.url.escapedPath.head? = some '/' := by
  by_cases hhome : request = .home
  · rw [hhome]
    rfl
  · rw [url_eq_plainURL hhome, escapedPath_plainURL]
    cases htexts : request.texts with
    | nil => exact absurd htexts (texts_ne_nil hhome)
    | cons text texts => rfl

/-- The request as the server reads it. -/
def sent (request : PageRequest) (credentials : Option (Text × Text)) : Request where
  method := request.method
  url := request.url
  credentials := credentials
  rooted := Or.inl request.rooted_url

end PageRequest

/-! ## Routing -/

/-- Below `/api` the inner mux decides. -/
theorem route_api {segment : Text} {texts : List Text}
    (h : ∀ text ∈ ("api" : Text) :: segment :: texts, Plain text) {request : Request}
    (hurl : request.url = plainURL (("api" : Text) :: segment :: texts) h) :
    route request = dispatch apiRoutes request.method (pathText (segment :: texts)) := by
  have hescaped := escapedPath_plainURL h
  have hinner := (List.forall_mem_cons.mp h).2
  have hstar : pathText (("api" : Text) :: segment :: texts) ≠ ['*'] :=
    fun heq ↦ absurd (List.cons.inj heq).1 (by decide)
  have hfound (slash : Bool) :
      findTexts siteRoutes request.method slash (("api" : Text) :: segment :: texts) =
        some (⟨none, [.literal "api", .rest false], .api⟩, []) := rfl
  have hsite : dispatch siteRoutes request.method (pathText (("api" : Text) :: segment :: texts)) =
      .handled .api [] := by
    refine dispatch_texts h (hfound false) (Or.inr fun found hslash ↦ ?_)
    obtain rfl := Option.some.inj ((hfound true).symm.trans hslash)
    exact ⟨false, rfl, by simp⟩
  have hstrip : (plainURL (("api" : Text) :: segment :: texts) h).strip? "/api" (by decide) =
      some (plainURL (segment :: texts) hinner) := by
    unfold RequestURL.strip?
    rw [dif_pos ⟨List.cons_ne_nil _ _, List.prefix_append _ _, Or.inl rfl⟩]
    exact congrArg some (RequestURL.ext rfl rfl)
  unfold route
  rw [hurl, hescaped, if_neg hstar, hsite]
  dsimp only
  rw [hstrip]
  dsimp only
  rw [escapedPath_plainURL]

/-- A page's own path, or a file's, is handled by the outer mux. -/
theorem route_page {text : Text} {texts : List Text} (h : ∀ other ∈ text :: texts, Plain other)
    {request : Request} (hurl : request.url = plainURL (text :: texts) h) {endpoint : Endpoint}
    {segments : List Segment} {method : Option String}
    (hfound : findTexts siteRoutes request.method false (text :: texts) =
      some (⟨method, segments, .endpoint endpoint⟩, []))
    (hexact : exactMatch segments (pathText (text :: texts)) = true ∨
      ∀ found, findTexts siteRoutes request.method true (text :: texts) = some found →
        ∃ named, found.1.segments.getLast? = some (.rest named) ∧
          found.1.segments.length ≠ (text :: texts).length + 1) :
    route request = .handled endpoint [] := by
  have hescaped := escapedPath_plainURL h
  have hstar : pathText (text :: texts) ≠ ['*'] := fun heq ↦ absurd (List.cons.inj heq).1 (by decide)
  unfold route
  rw [hurl, hescaped, if_neg hstar, dispatch_texts h hfound hexact]

/-- The files are below a route that takes the rest of a path. -/
theorem route_file (file : StaticFile) {request : Request}
    (hurl : request.url = plainURL _ (PageRequest.staticFile file).plain)
    (hmethod : request.method = "GET") :
    route request = .handled .staticFiles [] := by
  obtain ⟨folder, name, htexts⟩ : ∃ folder name, file.texts = [folder, name] := by
    cases file <;> exact ⟨_, _, rfl⟩
  have hplain := (PageRequest.staticFile file).plain
  have hpath : (PageRequest.staticFile file).texts = [("static" : Text), folder, name] :=
    congrArg (("static" : Text) :: ·) htexts
  have hfound (slash : Bool) : findTexts siteRoutes "GET" slash [("static" : Text), folder, name] =
      some (⟨some "GET", [.literal "static", .rest false], .endpoint .staticFiles⟩, []) := rfl
  rw [hpath] at hplain
  refine route_page hplain (hurl.trans (RequestURL.ext (congrArg pathText hpath) rfl))
    (hmethod ▸ hfound false) (Or.inr fun found hslash ↦ ?_)
  rw [hmethod] at hslash
  obtain rfl := Option.some.inj ((hfound true).symm.trans hslash)
  exact ⟨false, rfl, by simp⟩

/-- A path below `/api` that a route of the inner mux matches. -/
theorem route_endpoint {segment : Text} {texts : List Text}
    (h : ∀ text ∈ ("api" : Text) :: segment :: texts, Plain text) {request : Request}
    (hurl : request.url = plainURL (("api" : Text) :: segment :: texts) h) {endpoint : Endpoint}
    {segments : List Segment} {method : Option String} {values : List Text}
    (hfound : findTexts apiRoutes request.method false (segment :: texts) =
      some (⟨method, segments, endpoint⟩, values))
    (hexact : exactMatch segments (pathText (segment :: texts)) = true ∨
      ∀ found, findTexts apiRoutes request.method true (segment :: texts) = some found →
        ∃ named, found.1.segments.getLast? = some (.rest named) ∧
          found.1.segments.length ≠ (segment :: texts).length + 1) :
    route request = .handled endpoint values :=
  (route_api h hurl).trans (dispatch_texts (List.forall_mem_cons.mp h).2 hfound hexact)

/-- Every request of the pages is routed to the handler it means, with the ID and the path in it. -/
theorem route_sent (request : PageRequest) (credentials : Option (Text × Text)) :
    route (request.sent credentials) = .handled request.endpoint request.values := by
  have hplain := request.plain
  cases request with
  | home => rfl
  | staticFile file => exact route_file file rfl rfl
  | connections => exact route_page hplain rfl rfl (Or.inl rfl)
  | settings => exact route_page hplain rfl rfl (Or.inl rfl)
  | logs => exact route_page hplain rfl rfl (Or.inl rfl)
  | createInstance => exact route_endpoint hplain rfl rfl (Or.inl rfl)
  | getInstance id => exact route_endpoint hplain rfl rfl (Or.inl rfl)
  | updateInstance id => exact route_endpoint hplain rfl rfl (Or.inl rfl)
  | deleteInstance id => exact route_endpoint hplain rfl rfl (Or.inl rfl)
  | testInstance id => exact route_endpoint hplain rfl rfl (Or.inl rfl)
  | getSettings => exact route_endpoint hplain rfl rfl (Or.inl rfl)
  | updateSettings => exact route_endpoint hplain rfl rfl (Or.inl rfl)
  | deleteSettings => exact route_endpoint hplain rfl rfl (Or.inl rfl)
  | listActivity => exact route_endpoint hplain rfl rfl (Or.inl rfl)
  | schedulerStatus => exact route_endpoint hplain rfl rfl (Or.inl rfl)
  | poster id cover =>
    obtain ⟨first, second, more, hsegments, htext⟩ := exists_segments cover
    have hrest : first ++ slashedText false (second :: more) = cover.text := by
      rw [← htext]
      exact congrArg _ (List.append_nil _)
    let below (segments : List Text) : List Text :=
      ("instances" : Text) :: (uuidText id).toList :: ("mediacover" : Text) :: segments
    let route : Route Endpoint :=
      ⟨some "GET", [.literal "instances", .wildcard, .literal "mediacover", .rest true],
        .instanceMediaCover⟩
    have hfound (slash : Bool) : findTexts apiRoutes "GET" slash (below (first :: second :: more)) =
        some (route, [(uuidText id).toList, first ++ slashedText slash (second :: more)]) := rfl
    have htexts : (PageRequest.poster id cover).texts =
        ("api" : Text) :: below (first :: second :: more) :=
      congrArg (fun segments ↦ ("api" : Text) :: below segments) hsegments
    rw [htexts] at hplain
    have hroute := hfound false
    rw [hrest] at hroute
    refine route_endpoint hplain ?_ hroute (Or.inr fun found hslash ↦ ?_)
    · exact RequestURL.ext (congrArg pathText htexts) rfl
    · obtain rfl := Option.some.inj ((hfound true).symm.trans hslash)
      exact ⟨true, rfl, by simp [route]⟩

/-- Every request of the pages is read as it was meant, and is served with the credentials by the
handler it means. -/
theorem page_request_served (request : PageRequest) (username password : Text) :
    RequestURL.ofText? request.path request.bytes_path =
        some (request.sent (some (username, password))).url ∧
      serve username password (request.sent (some (username, password))) =
        .routed (.handled request.endpoint request.values) := by
  refine ⟨request.ofText?_path, ?_⟩
  rw [serve_of_credentials rfl, route_sent]

/-! ## Posters -/

/-- The path of a poster, as the dashboard writes it. -/
theorem posterURL_text (id : UUID) (cover : CoverPath) :
    ("/api/instances/" ++ uuidText id ++ "/mediacover/").toList ++ cover.text =
      pathText (PageRequest.poster id cover).texts := by
  have hcover : pathText cover.segments = '/' :: cover.text := by
    obtain ⟨first, second, more, hsegments, htext⟩ := exists_segments cover
    rw [hsegments, ← htext]
    rfl
  have hrest : pathText (("mediacover" : Text) :: cover.segments) = "/mediacover/" ++ cover.text := by
    rw [pathText_cons, hcover]
    rfl
  have hpath : pathText (PageRequest.poster id cover).texts =
      ("/api/instances/" : Text) ++ ((uuidText id).toList ++ (("/mediacover/" : Text) ++ cover.text)) :=
    congrArg (fun rest ↦ ("/api/instances/" : Text) ++ ((uuidText id).toList ++ rest)) hrest
  rw [hpath, String.toList_append, String.toList_append, List.append_assoc, List.append_assoc]

/-- The poster of a stored upgrade that the dashboard shows. -/
theorem posterURL_eq {inst : Instance} {record : HistoryRecord} {row : Row} {entry : Recorded}
    {instMap : KeyedTable String Instances.FullInstance} {id : UUID}
    (hupgrade : record.isUpgrade = true)
    (hdetails : row.details = (Scheduling.importEntry inst record).details)
    (hinstance : row.instanceID = some id) (hread : scanEntry row = .ok entry) :
    (homeUpgrade entry instMap).posterURL =
      if record.mediaCoverPath = "" then ""
      else "/api/instances/" ++ uuidText id ++ "/mediacover/" ++ record.mediaCoverPath := by
  have hdecoded (key : String) : (entry.details.getD ∅).lookup key =
      (KeyedTable.lastValue key (Scheduling.historyDetails inst record)).map DetailValue.decoded := by
    rw [scanEntry_ok] at hread
    obtain rfl := Except.ok.inj hread
    dsimp only
    rw [hdetails]
    exact (KeyedTable.lookup_mapValues _ _ _).trans (congrArg _ (KeyedTable.lookup_ofPairs _ _))
  have hcover := text_eq_of_omitted hdecoded (writes_historyDetails inst hupgrade).mediaCover
  have hid : entry.instanceID = some id := by
    rw [scanEntry_ok] at hread
    obtain rfl := Except.ok.inj hread
    exact hinstance
  unfold homeUpgrade
  dsimp only
  rw [hid, hcover]
  exact ite_not _ _ _

/-- The posters of a poll's records have the paths of the responses. -/
theorem cover_of_poll {cfg : HistoryConfig} {since : Time} {deletePage : Page} {pages : List (ℤ × Page)}
    {files : FileLookups} {records : List HistoryRecord}
    (hids : ∀ page ∈ pages, ∀ responses, page.2 = .ok responses →
      ∀ response ∈ responses, response.NonnegativeIDs)
    (hpoll : fetchArrHistory cfg since deletePage pages files = .ok records)
    {record : HistoryRecord} (hrecord : record ∈ records) :
    record.mediaCoverPath = "" ∨ ∃ cover : CoverPath, record.mediaCoverPath.toList = cover.text := by
  obtain ⟨page, hpage, responses, hok, response, hmem, hreports⟩ := exists_reported hpoll hrecord
  rw [hreports.mediaCoverPath]
  have haccepted := mediaCoverPath_accepted (hids page hpage responses hok response hmem)
  refine haccepted.imp_right fun haccepts ↦ ?_
  obtain ⟨cover, hcover⟩ := accepts_mediaCoverPathPattern_iff.mp haccepts
  exact ⟨cover, hcover.symm⟩

/-- The poster of every upgrade that a poll reports reaches the application it came from: what the
dashboard shows of the stored row is a path that a browser's request is read from, this is routed with
the credentials to the handler of the posters with the instance's ID and the path of the poll, and
the path is the one that the adapter asks the application for first. -/
theorem poster_served {cfg : HistoryConfig} {since : Time} {deletePage : Page}
    {pages : List (ℤ × Page)} {files : FileLookups} {records : List HistoryRecord}
    (hids : ∀ page ∈ pages, ∀ responses, page.2 = .ok responses →
      ∀ response ∈ responses, response.NonnegativeIDs)
    (hpoll : fetchArrHistory cfg since deletePage pages files = .ok records)
    {record : HistoryRecord} (hrecord : record ∈ records) (hupgrade : record.isUpgrade = true)
    {inst : Instance} {row : Row} {entry : Recorded} {id : UUID}
    (hdetails : row.details = (Scheduling.importEntry inst record).details)
    (hinstance : row.instanceID = some id) (hread : scanEntry row = .ok entry)
    (instMap : KeyedTable String Instances.FullInstance) (username password : Text)
    (name apiVersion : String) (getBytes : ℕ → Text → ℕ → Except CoverError MediaCover) :
    let shown := homeUpgrade entry instMap
    let path := record.mediaCoverPath.toList
    path = [] ∧ shown.posterURL = "" ∨ ∃ request : Request,
      (∃ hbytes, RequestURL.ofText? shown.posterURL.toList hbytes = some request.url) ∧
      request.method = "GET" ∧ request.credentials = some (username, password) ∧
      serve username password request =
        .routed (.handled .instanceMediaCover [(uuidText id).toList, path]) ∧
      (mediaCover name apiVersion getBytes path).1.head? =
        some (mediaCoverRoot apiVersion ++ path) := by
  dsimp only
  rw [posterURL_eq hupgrade hdetails hinstance hread]
  rcases cover_of_poll hids hpoll hrecord with hnone | ⟨cover, hcover⟩
  · rw [hnone]
    exact Or.inl ⟨rfl, rfl⟩
  · have hnonempty : record.mediaCoverPath ≠ "" := by
      obtain ⟨first, second, more, -, htext⟩ := exists_segments cover
      intro hnil
      rw [hnil, ← htext] at hcover
      exact pathText_ne_nil _ _ (List.append_eq_nil_iff.mp hcover.symm).2
    have hurl : ("/api/instances/" ++ uuidText id ++ "/mediacover/" ++ record.mediaCoverPath).toList =
        pathText (PageRequest.poster id cover).texts := by
      rw [String.toList_append, hcover]
      exact posterURL_text id cover
    rw [if_neg hnonempty, hcover, hurl]
    refine Or.inr ⟨(PageRequest.poster id cover).sent (some (username, password)),
      ⟨_, ofText?_pathText (PageRequest.poster id cover).plain⟩, rfl, rfl, ?_, ?_⟩
    · rw [serve_of_credentials rfl, route_sent]
      rfl
    · rw [mediaCover_requests]
      split <;> rfl

/-- An import of a movie with a poster. -/
def sampleImported : HistoryRecordResponse :=
  { sampleImport 9 1 20 with movie := some ⟨3, "movie", "Movie", 2024, "", ["poster"]⟩ }

/-- The deletion of the file that the import replaced. -/
def sampleDeleted : HistoryRecordResponse :=
  { sampleImport 8 1 15 with data := AList.singleton "reason" "upgrade" }

def sampleUpgrade : HistoryRecord :=
  toHistoryRecord radarrHistory (upgradedItems radarrHistory 10 (.ok [sampleDeleted])) sampleImported

theorem isUpgrade_sampleUpgrade : sampleUpgrade.isUpgrade = true := by
  have hmem : (1 : ℤ) ∈ upgradedItems radarrHistory 10 (.ok [sampleDeleted]) :=
    mem_upgradedItems.mpr ⟨sampleDeleted, List.mem_singleton_self _, by decide +kernel, by decide, rfl⟩
  exact AList.lookup_isSome.mpr hmem

theorem poll_sampleUpgrade : fetchArrHistory radarrHistory 10 (.ok [sampleDeleted])
    [(3, .ok [sampleImported])] (fun _ _ ↦ .error "") = .ok [sampleUpgrade] := by
  refine (fetchArrHistory_answered radarrHistory 10 (.ok [sampleDeleted])
    [(3, [sampleImported])] _).trans ?_
  have hkept : keptImports radarrHistory.itemIDField (importsAfter 10 [(3, [sampleImported])]) =
    [sampleImported] := rfl
  rw [hkept]
  exact congrArg (fun record ↦ Except.ok [record]) (ite_self _)

def sampleUpgradeRow : Row :=
  { sampleRow with details := (Scheduling.importEntry sampleInstance sampleUpgrade).details }

theorem poster_served_upgrade : ∃ (posterURL : String) (request : Request),
    (∃ hbytes, RequestURL.ofText? posterURL.toList hbytes = some request.url) ∧
      serve "admin" "secret" request =
        .routed (.handled .instanceMediaCover [(uuidText 1).toList, "3/poster-250.jpg"]) := by
  have hids : ∀ page ∈ [((3 : ℤ), (Except.ok [sampleImported] : Page))], ∀ responses,
      page.2 = .ok responses → ∀ response ∈ responses, response.NonnegativeIDs := by
    simp [sampleImported, sampleImport, HistoryRecordResponse.NonnegativeIDs]
  have hdetails : sampleUpgradeRow.details =
      (Scheduling.importEntry sampleInstance sampleUpgrade).details := rfl
  obtain ⟨hnone, -⟩ | ⟨request, hurl, -, -, hserved, -⟩ := poster_served hids poll_sampleUpgrade
    (List.mem_singleton_self _) isUpgrade_sampleUpgrade hdetails rfl
    (scanEntry_ok _) ∅ "admin" "secret" "Radarr" "v3" fun _ _ _ ↦ .error (.rejected "" [])
  · exact absurd hnone (by decide)
  · exact ⟨_, request, hurl, hserved⟩

end Huntarr2.Routes
