import Huntarr2.Api.Instances
import Huntarr2.Instance.Concurrent

/-!
# Pages that list the instances

The data of the pages for connections, settings and logs, and what their visitors and the clients of
the instances API can learn about the stored API keys together: nothing that they did not know.
-/

namespace Huntarr2.Pages

open Api Arr Encrypt GoStd Instances Lockstep

/-! ## Page data -/

/-- `ConnectionInstance`. -/
structure ConnectionInstance where
  id : String
  name : Text
  appType : String
  baseURL : Text
  hasAPIKey : Bool
  deriving DecidableEq, Repr

/-- `LogsInstance`. -/
structure LogsInstance where
  id : String
  name : Text
  deriving DecidableEq, Repr

/-- `SettingsInstance`. -/
structure SettingsInstance where
  id : String
  name : Text
  appType : String
  deriving DecidableEq, Repr

def connectionInstance (inst : FullInstance) : ConnectionInstance :=
  ⟨uuidText inst.id, inst.name, inst.appType, inst.baseURL, inst.apiKey ≠ []⟩

def logsInstance (inst : FullInstance) : LogsInstance := ⟨uuidText inst.id, inst.name⟩

def settingsInstance (inst : FullInstance) : SettingsInstance :=
  ⟨uuidText inst.id, inst.name, appTypeLabel inst.appType⟩

/-- The list of a page; where the instances cannot be read it stays empty. -/
def pageInstances {α : Type} (service : Service) (table : Instances.Table)
    (failure : Option String) (shown : FullInstance → α) : List α :=
  match listInstances service table failure with
  | .error _ => []
  | .ok insts => insts.map shown

/-- `handleConnectionsPage`, the data of its page. -/
def handleConnectionsPage (service : Service) (table : Instances.Table) (failure : Option String) :
    List ConnectionInstance :=
  pageInstances service table failure connectionInstance

/-- `handleSettingsPage`, the data of its page. -/
def handleSettingsPage (service : Service) (table : Instances.Table) (failure : Option String) :
    List SettingsInstance :=
  pageInstances service table failure settingsInstance

/-- `handleLogsPage`, the data of its page. -/
def handleLogsPage (service : Service) (table : Instances.Table) (failure : Option String) :
    List LogsInstance :=
  pageInstances service table failure logsInstance

/-- A page shows of related instances the same. -/
theorem pageInstances_alike {α : Type} {service : Service} {table table' : Instances.Table}
    {shown : FullInstance → α} (hshown : ∀ inst inst', DifferInKnownKeys inst inst' →
      shown inst = shown inst')
    (h : Tables (RowsAlike service) table table') (failure : Option String) :
    pageInstances service table failure shown = pageInstances service table' failure shown := by
  unfold pageInstances
  generalize listInstances service table failure = result,
    listInstances service table' failure = result', listInstances_alike h failure = hresult
  cases hresult with
  | error err => rfl
  | ok hinsts =>
    dsimp only
    induction hinsts with
    | nil => rfl
    | cons hinst _ ih => rw [List.map_cons, List.map_cons, hshown _ _ hinst, ih]

/-- The connections page tells that there is a key. -/
theorem connectionInstance_alike {inst inst' : FullInstance} (h : DifferInKnownKeys inst inst') :
    connectionInstance inst = connectionInstance inst' := by
  obtain ⟨key', rfl, hkey, hkey'⟩ := h
  have hnonempty {key : Text} (hknown : trimSpace key ≠ []) : key ≠ [] :=
    fun hnil ↦ hknown (by rw [hnil]; rfl)
  unfold connectionInstance
  dsimp only
  rw [decide_eq_true (hnonempty hkey), decide_eq_true (hnonempty hkey')]

/-! ## Everything a client sees of the instances -/

/-- A request to the instances API, or a visit of a page that lists them. -/
inductive Visit
  | api (request : InstanceRequest)
  | connections (failure : Option String)
  | settings (failure : Option String)
  | logs (failure : Option String)

inductive Shown
  | api (reply : InstanceReply)
  | connections (list : List ConnectionInstance)
  | settings (list : List SettingsInstance)
  | logs (list : List LogsInstance)
  deriving DecidableEq, Repr

/-- What a visit shows, and the table afterwards. -/
def visit (service : Service) (table : Instances.Table) : Visit → Shown × Instances.Table
  | .api request =>
    let done := handleInstances service table request
    (.api done.1, done.2)
  | .connections failure => (.connections (handleConnectionsPage service table failure), table)
  | .settings failure => (.settings (handleSettingsPage service table failure), table)
  | .logs failure => (.logs (handleLogsPage service table failure), table)

/-- Visits that differ at most in the API keys they write. -/
inductive VisitsAlike : Visit → Visit → Prop
  | api {request request' : InstanceRequest} (h : RequestsAlike request request') :
    VisitsAlike (.api request) (.api request')
  | page (visited : Visit) (h : ∀ request, visited ≠ .api request) : VisitsAlike visited visited

theorem visit_alike {service : Service} {table table' : Instances.Table}
    (h : Tables (RowsAlike service) table table') {visited visited' : Visit}
    (hvisit : VisitsAlike visited visited') :
    (visit service table visited).1 = (visit service table' visited').1 ∧
      Tables (RowsAlike service) (visit service table visited).2
        (visit service table' visited').2 := by
  cases hvisit with
  | api hrequest =>
    obtain ⟨hreply, htables⟩ := handleInstances_alike h hrequest
    exact ⟨congrArg Shown.api hreply, htables⟩
  | page visited hpage =>
    cases visited with
    | api request => exact absurd rfl (hpage request)
    | connections failure =>
      exact ⟨congrArg Shown.connections (pageInstances_alike
        (fun _ _ ↦ connectionInstance_alike) h failure), h⟩
    | settings failure =>
      exact ⟨congrArg Shown.settings (pageInstances_alike
        (fun _ _ ⟨_, hinst, _⟩ ↦ by rw [hinst]; rfl) h failure), h⟩
    | logs failure =>
      exact ⟨congrArg Shown.logs (pageInstances_alike
        (fun _ _ ⟨_, hinst, _⟩ ↦ by rw [hinst]; rfl) h failure), h⟩

/-- The API keys never leave the store: two runs of requests and page visits that differ in the keys
they write, and in nothing else that is sent, are shown the same throughout. -/
theorem shown_conceals_apiKeys (service : Service) {visits visits' : List Visit}
    (h : List.Forall₂ VisitsAlike visits visits') :
    replies (visit service) ∅ visits = replies (visit service) ∅ visits' := by
  have hstep (table table' : Instances.Table) (visited visited' : Visit)
      (htables : Tables (RowsAlike service) table table') (hvisit : VisitsAlike visited visited') :=
    visit_alike htables hvisit
  exact replies_eq hstep h tables_empty

/-- An instance is created with one of two keys, read back and listed. -/
def keyVisits (apiKey : String) : List Visit :=
  [.api (.create (some ⟨"Sonarr".toList, "sonarr", "http://sonarr:8989".toList, apiKey.toList, 0⟩)
    ⟨.ok demoNonce, 1, noon, none⟩),
    .api (.get (some 1) none), .connections none]

theorem shown_conceals_two_keys :
    replies (visit demoService) ∅ (keyVisits "first") =
      replies (visit demoService) ∅ (keyVisits "2nd") := by
  apply shown_conceals_apiKeys
  refine .cons (.api ?_) (.cons (.api (.same _ ?_ ?_)) (.cons (.page _ ?_) .nil))
  · exact .create _ _ "2nd".toList _
      (fun body hbody ↦ by rw [← Option.some.inj hbody]; exact iff_of_false (by decide) (by decide))
      (.ok trivial)
  · exact fun _ _ h ↦ by cases h
  · exact fun _ _ _ _ h ↦ by cases h
  · exact fun _ h ↦ by cases h

end Huntarr2.Pages
