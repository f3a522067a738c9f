import Huntarr2.GoStd.ServeMux

/-!
# Routes and basic authentication

Two muxes route a request: the outer one on its whole path, the inner one on what follows `/api`. The
authentication before them compares the decoded path with the path of the health check, the muxes
match the escaped one; they agree, so nothing but the health check runs without the credentials.
-/

namespace Huntarr2.Routes

open GoStd Percent

/-! ## Routes -/

inductive Endpoint
  | health
  | listInstances
  | createInstance
  | getInstance
  | updateInstance
  | deleteInstance
  | testInstance
  | arrStatus
  | instanceSearch
  | instanceMediaCover
  | getSettings
  | updateSettings
  | deleteSettings
  | listActivity
  | schedulerStatus
  | staticFiles
  | homePage
  | connectionsPage
  | settingsPage
  | logsPage
  deriving DecidableEq, Repr

/-- The routes of `NewRouter`. -/
def apiRoutes : List (Route Endpoint) :=
  [⟨some "GET", [.literal "health"], .health⟩,
    ⟨some "GET", [.literal "instances"], .listInstances⟩,
    ⟨some "POST", [.literal "instances"], .createInstance⟩,
    ⟨some "GET", [.literal "instances", .wildcard], .getInstance⟩,
    ⟨some "PUT", [.literal "instances", .wildcard], .updateInstance⟩,
    ⟨some "DELETE", [.literal "instances", .wildcard], .deleteInstance⟩,
    ⟨some "POST", [.literal "instances", .wildcard, .literal "test"], .testInstance⟩,
    ⟨some "GET", [.literal "arr", .literal "status"], .arrStatus⟩,
    ⟨some "POST", [.literal "instances", .wildcard, .literal "search"], .instanceSearch⟩,
    ⟨some "GET", [.literal "instances", .wildcard, .literal "mediacover", .rest true],
      .instanceMediaCover⟩,
    ⟨some "GET", [.literal "settings"], .getSettings⟩,
    ⟨some "PUT", [.literal "settings"], .updateSettings⟩,
    ⟨some "DELETE", [.literal "settings"], .deleteSettings⟩,
    ⟨some "GET", [.literal "activity"], .listActivity⟩,
    ⟨some "GET", [.literal "scheduler", .literal "status"], .schedulerStatus⟩]

/-- A handler of the outer mux. -/
inductive Site
  | api
  | endpoint (endpoint : Endpoint)
  deriving DecidableEq, Repr

/-- The routes of `registerRoutes`. -/
def siteRoutes : List (Route Site) :=
  [⟨none, [.literal "api", .rest false], .api⟩,
    ⟨some "GET", [.literal "static", .rest false], .endpoint .staticFiles⟩,
    ⟨some "GET", [.literal "/"], .endpoint .homePage⟩,
    ⟨some "GET", [.literal "connections"], .endpoint .connectionsPage⟩,
    ⟨some "GET", [.literal "settings"], .endpoint .settingsPage⟩,
    ⟨some "GET", [.literal "logs"], .endpoint .logsPage⟩]

/-- A request as the server reads it: its target starts with a slash, is empty, or is `*`. -/
structure Request where
  method : String
  url : RequestURL
  credentials : Option (Text × Text)
  rooted : url.escapedPath.head? = some '/' ∨ url.escapedPath = [] ∨ url.escapedPath = ['*']

/-- The outer mux, and the inner one behind `StripPrefix`. -/
def route (request : Request) : Dispatch Endpoint :=
  if request.url.escapedPath = ['*'] then .badRequest
  else match dispatch siteRoutes request.method request.url.escapedPath with
    | .handled .api _ =>
      match request.url.strip? "/api" (by decide) with
      | some rest => dispatch apiRoutes request.method rest.escapedPath
      | none => .notFound
    | .handled (.endpoint endpoint) values => .handled endpoint values
    | .redirected => .redirected
    | .notFound => .notFound
    | .methodNotAllowed => .methodNotAllowed
    | .badRequest => .badRequest

/-! ## Authentication -/

inductive Answer
  | unauthorised
  | routed (dispatch : Dispatch Endpoint)
  deriving DecidableEq, Repr

/-- `withBasicAuth`. -/
def withBasicAuth (next : Request → Answer) (username password : Text) (request : Request) : Answer :=
  if username = [] ∧ password = [] then next request
  else if request.url.path = "/api/health" then next request
  else match request.credentials with
    | some (user, pass) => if user = username ∧ pass = password then next request else .unauthorised
    | none => .unauthorised

/-- The server's handler. -/
def serve (username password : Text) : Request → Answer :=
  withBasicAuth (fun request ↦ .routed (route request)) username password

theorem serve_of_credentials {username password : Text} {request : Request}
    (h : request.credentials = some (username, password)) :
    serve username password request = .routed (route request) := by
  unfold serve withBasicAuth
  have hsame : username = username ∧ password = password := ⟨rfl, rfl⟩
  rw [h]
  dsimp only
  rw [if_pos hsame, ite_self, ite_self]

theorem serve_of_health {username password : Text} {request : Request}
    (h : request.url.path = "/api/health") :
    serve username password request = .routed (route request) := by
  unfold serve withBasicAuth
  rw [if_pos h, ite_self]

theorem serve_of_refused {username password : Text} {request : Request}
    (hset : ¬(username = [] ∧ password = [])) (hhealth : request.url.path ≠ "/api/health")
    (hcredentials : request.credentials ≠ some (username, password)) :
    serve username password request = .unauthorised := by
  unfold serve withBasicAuth
  rw [if_neg hset, if_neg hhealth]
  cases h : request.credentials with
  | none => rfl
  | some pair =>
    refine if_neg fun hsame ↦ hcredentials ?_
    rw [h, ← hsame.1, ← hsame.2]

/-- The escaped path of a request for a path that starts with a slash starts with one. -/
theorem Request.head_escapedPath (request : Request) {c d : Char} {rest : Text}
    (hpath : request.url.path = c :: d :: rest) : request.url.escapedPath.head? = some '/' := by
  have hdecodes := decode_of_decodes request.url.decodes_escapedPath
  rw [hpath] at hdecodes
  rcases request.rooted with hroot | hnil | hstar
  · exact hroot
  · rw [hnil] at hdecodes
    cases hdecodes
  · rw [hstar] at hdecodes
    cases hdecodes

/-- The inner mux answers the stripped path of the health check with the health check. -/
theorem health_of_stripped {url inner : RequestURL} (hpath : url.path = "/api/health")
    (hstrip : url.strip? "/api" (by decide) = some inner) {segments : List Segment}
    (hmatch : (matchSegments (.literal "api" :: segments) url.escapedPath).isSome = true)
    {method : String} {endpoint : Endpoint} {values : List Text}
    (h : dispatch apiRoutes method inner.escapedPath = .handled endpoint values) :
    endpoint = .health := by
  have hinner : inner.path = "/health" := by
    have happend := (RequestURL.strip?_eq_some hstrip).2.1
    rw [hpath] at happend
    have hsplit : ("/api/health" : Text) = ("/api" : Text) ++ ("/health" : Text) := rfl
    exact (List.append_cancel_left (hsplit.symm.trans happend)).symm
  have hstar : inner.path ≠ ['*'] := by
    rw [hinner]
    decide
  have hescaped := RequestURL.escapedPath_strip hstrip (forall_mem_of_all (by decide)) hstar
  have hopens : Opens apiRoutes (fun text endpoint ↦
      decide (endpoint = .health ∨ ¬text <+: "health")) = true := by decide +kernel
  have hdecodes := inner.decodes_escapedPath
  rw [hinner] at hdecodes
  rw [hescaped] at hmatch
  have hroot : inner.escapedPath.head? = some '/' := by
    refine (rooted_of_literal (by decide) (by decide) (by decide) hmatch).1.resolve_left fun hnil ↦ ?_
    rw [hnil] at hdecodes
    cases hdecodes
  obtain ⟨text, _, rest, haccepts, hvalue, -, -⟩ :=
    open_of_handled hopens hdecodes hroot (by decide) h
  have hstarts : text <+: "health" := ⟨rest, (List.cons.inj hvalue).2.symm⟩
  exact (of_decide_eq_true haccepts).resolve_right (not_not.mpr hstarts)

/-- Whatever handles a request for the path of the health check is the health check. -/
theorem endpoint_of_health {request : Request} (hpath : request.url.path = "/api/health")
    {endpoint : Endpoint} {values : List Text} (h : route request = .handled endpoint values) :
    endpoint = .health := by
  have hroot : request.url.escapedPath.head? = some '/' := request.head_escapedPath hpath
  have hdecodes := request.url.decodes_escapedPath
  have hstar : request.url.escapedPath ≠ ['*'] := fun heq ↦ by
    rw [heq] at hroot
    cases hroot
  have hopens : Opens siteRoutes (fun text site ↦
      decide (site = .api ∧ text = "api" ∨ ¬text <+: "api/health")) = true := by decide +kernel
  unfold route at h
  rw [if_neg hstar] at h
  cases hsite : dispatch siteRoutes request.method request.url.escapedPath with
  | handled site siteValues =>
    obtain ⟨text, segments, rest, haccepts, hvalue, -, hmatch⟩ :=
      open_of_handled hopens hdecodes hroot (by rw [hpath]; decide) hsite
    rw [hpath] at hvalue
    have hstarts : text <+: "api/health" := ⟨rest, (List.cons.inj hvalue).2.symm⟩
    obtain ⟨rfl, rfl⟩ := (of_decide_eq_true haccepts).resolve_right (not_not.mpr hstarts)
    rw [hsite] at h
    dsimp only at h
    cases hstrip : request.url.strip? "/api" (by decide) with
    | none =>
      rw [hstrip] at h
      cases h
    | some inner =>
      rw [hstrip] at h
      exact health_of_stripped hpath hstrip (congrArg Option.isSome hmatch) h
  | redirected | notFound | methodNotAllowed | badRequest =>
    rw [hsite] at h
    cases h

/-- Nothing but the health check runs without the credentials. Where any are configured, the server
refuses exactly the requests that do not have them and whose path is not the health check's; what
handles any other request, in whatever encoding and by whatever method, is the health check, or the
request has the credentials. -/
theorem serve_authorised {username password : Text} (hset : ¬(username = [] ∧ password = []))
    (request : Request) :
    (serve username password request = .unauthorised ↔
      request.url.path ≠ "/api/health" ∧ request.credentials ≠ some (username, password)) ∧
    (request.credentials = some (username, password) →
      serve username password request = .routed (route request)) ∧
    ∀ endpoint values, serve username password request = .routed (.handled endpoint values) →
      endpoint = .health ∨ request.credentials = some (username, password) := by
  by_cases hcredentials : request.credentials = some (username, password)
  · rw [serve_of_credentials hcredentials]
    exact ⟨iff_of_false nofun fun h ↦ h.2 hcredentials, fun _ ↦ rfl, fun _ _ _ ↦ Or.inr hcredentials⟩
  · by_cases hhealth : request.url.path = "/api/health"
    · rw [serve_of_health hhealth]
      refine ⟨iff_of_false nofun fun h ↦ h.1 hhealth, fun h ↦ absurd h hcredentials, ?_⟩
      exact fun endpoint values h ↦ Or.inl (endpoint_of_health hhealth (Answer.routed.inj h))
    · rw [serve_of_refused hset hhealth hcredentials]
      exact ⟨iff_of_true rfl ⟨hhealth, hcredentials⟩, fun h ↦ absurd h hcredentials, nofun⟩

/-- A request for the settings in another encoding, with another user's name. -/
def sampleRequest : Request where
  method := "GET"
  url :=
    { path := "/api/settings"
      rawPath := "/api/%73ettings"
      decoded := fun _ ↦ decodes_of_decode (by decide +kernel)
      bytes := forall_mem_of_all (by decide) }
  credentials := some ("user", "secret")
  rooted := Or.inl rfl

theorem serve_authorised_settings :
    serve "admin" "secret" sampleRequest = .unauthorised ∧
      sampleRequest.url.escapedPath = "/api/%73ettings" :=
  ⟨(serve_authorised (by decide) sampleRequest).1.mpr ⟨by decide, by decide⟩, rfl⟩

end Huntarr2.Routes
