import Huntarr2.Foundation.Machine
import Huntarr2.Instance.Store

/-!
# What the instance store gives back

A ledger keeps, for every stored instance, the request that created it and the accepted updates since.
After any run of calls the store gives back what the ledgers say: the last name and URL, the last
positive timeout and the last API key that was not blank, all within the validator's bounds.
-/

namespace Huntarr2.Instances

open Clock Encrypt GoStd

/-! ## What the validator accepts -/

/-- The bounds of a stored instance. -/
structure Service.Valid (service : Service) (inst : FullInstance) : Prop where
  name_ne_nil : inst.name ≠ []
  name_trimmed : trimSpace inst.name = inst.name
  appType_valid : validAppType inst.appType = true
  baseURL_accepted : (service.parseURL inst.baseURL).any URL.accepted = true
  apiKey_ne_nil : inst.apiKey ≠ []
  apiKey_trimmed : trimSpace inst.apiKey = inst.apiKey
  timeoutMs_pos : 1 ≤ inst.timeoutMs
  timeoutMs_le : inst.timeoutMs ≤ maxTimeoutMs

/-- What the validator accepts it trims, and it is valid unless its timeout is zero. -/
theorem valid_of_validate {service : Service} {inst checked : FullInstance}
    (h : service.validate inst = .ok checked) :
    checked = { inst with name := trimSpace inst.name, apiKey := trimSpace inst.apiKey } ∧
      (inst.timeoutMs ≠ 0 → service.Valid checked) := by
  unfold Service.validate at h
  split at h
  case isTrue => cases h
  case isFalse hname =>
    split at h
    case isTrue => cases h
    case isFalse happ =>
      split at h
      case isTrue => cases h
      case isFalse hurl =>
        split at h
        case isTrue => cases h
        case isFalse hkey =>
          split at h
          case isTrue => cases h
          case isFalse htimeout =>
            obtain rfl := Except.ok.inj h
            refine ⟨rfl, fun hzero ↦ ?_⟩
            exact
              { name_ne_nil := fun hnil ↦ hname (List.isEmpty_iff.mpr hnil)
                name_trimmed := trimSpace_trimSpace inst.name
                appType_valid := by simpa using happ
                baseURL_accepted := by simpa using hurl
                apiKey_ne_nil := fun hnil ↦ hkey (List.isEmpty_iff.mpr hnil)
                apiKey_trimmed := trimSpace_trimSpace inst.apiKey
                timeoutMs_pos := by dsimp only; omega
                timeoutMs_le := by dsimp only; omega }

theorem validate_eq_ok {service : Service} {inst : FullInstance} (hname : trimSpace inst.name ≠ [])
    (happ : validAppType inst.appType = true)
    (hurl : (service.parseURL inst.baseURL).any URL.accepted = true)
    (hkey : trimSpace inst.apiKey ≠ []) (hnonneg : 0 ≤ inst.timeoutMs)
    (hle : inst.timeoutMs ≤ maxTimeoutMs) :
    service.validate inst =
      .ok { inst with name := trimSpace inst.name, apiKey := trimSpace inst.apiKey } := by
  unfold Service.validate
  rw [if_neg (by simpa using hname), if_neg (by simpa using happ), if_neg (by simpa using hurl),
    if_neg (by simpa using hkey), if_neg (by omega)]

/-! ## What a repository call leaves in the table -/

/-- The error of a result. -/
def failureOf {α : Type*} : Except Error α → Option Error
  | .error err => some err
  | .ok _ => none

section Repository

variable {service : Service} {table : Table}

theorem getInstance_eq {id : UUID} {row : Row} {inst : FullInstance}
    (hlookup : table.lookup id = some row) (hrow : hydrateInstance service id row = .ok inst) :
    getInstance service table id none = .ok inst := by
  unfold getInstance
  rw [hlookup]
  dsimp only
  rw [hrow]

theorem lookup_of_getInstance {id : UUID} {failure : Option String} {inst : FullInstance}
    (h : getInstance service table id failure = .ok inst) :
    ∃ row, table.lookup id = some row ∧ hydrateInstance service id row = .ok inst := by
  unfold getInstance at h
  cases failure with
  | some err => cases h
  | none =>
    cases hlookup : table.lookup id with
    | none => simp [hlookup] at h
    | some row =>
      simp only [hlookup] at h
      cases hrow : hydrateInstance service id row with
      | error err => simp [hrow] at h
      | ok found =>
        simp only [hrow] at h
        exact ⟨row, rfl, by rw [hrow, Except.ok.inj h]⟩

/-- A row with readable times and an encrypted key is hydrated with them. -/
theorem hydrateInstance_eq {id : UUID} {row : Row} {created updated : Timestamp} {apiKey : Text}
    {nonce : Except String Nonce} (hcreated : parseRFC3339Nano row.createdAt = some created)
    (hupdated : parseRFC3339Nano row.updatedAt = some updated)
    (hkey : encrypt service.gcm service.base64 apiKey service.encryptionKey nonce =
      .ok row.apiKeyEnc) :
    hydrateInstance service id row = .ok ⟨id, row.name, row.appType, row.baseURL, apiKey,
      row.timeoutMs, created, updated⟩ := by
  unfold hydrateInstance
  rw [hcreated, hupdated, decrypt_of_encrypt _ _ hkey]

/-- What was hydrated came from a row with these columns. -/
theorem columns_of_hydrateInstance {id : UUID} {row : Row} {inst : FullInstance}
    (h : hydrateInstance service id row = .ok inst) :
    inst.id = id ∧ inst.appType = row.appType ∧
      parseRFC3339Nano row.createdAt = some inst.createdAt := by
  unfold hydrateInstance at h
  split at h
  case h_1 => cases h
  case h_2 created hcreated =>
    split at h
    case h_1 => cases h
    case h_2 updated hupdated =>
      split at h
      case h_1 => cases h
      case h_2 decrypted hkey =>
        obtain rfl := Except.ok.inj h
        exact ⟨rfl, rfl, hcreated⟩

theorem parse_format_utc (time : UTCTime) : parseRFC3339Nano time.1.formatRFC3339Nano = some time.1 :=
  parse_formatRFC3339Nano_utc time.1 time.2

theorem parse_strftime_utc (time : UTCTime) :
    ∃ reading, parseRFC3339Nano (strftime (wallMillis time)) = some reading := by
  apply parse_strftime
  have hwall := time.1.wall_lt
  have hnanos := time.1.nanos_lt
  unfold wallMillis
  omega

theorem not_mem_of_insertFailure {inst : FullInstance} {failure : Option String}
    (h : insertFailure table inst failure = none) : inst.id ∉ table := by
  intro hmem
  unfold insertFailure at h
  cases failure with
  | some err => cases h
  | none =>
    dsimp only at h
    rw [if_pos hmem] at h
    cases h

/-- An insertion fails and changes nothing, or it adds a row that is read back as the instance with its
ID and times. -/
theorem insertInstance_cases (service : Service) (table : Table) (inst : FullInstance) (io : CreateIO) :
    (∃ err, insertInstance service table inst io = (.error err, table)) ∨
      ∃ id row, id ∉ table ∧
        insertInstance service table inst io =
          (.ok { inst with id := id, createdAt := io.now.1, updatedAt := io.now.1 },
            table.insert id row) ∧
        hydrateInstance service id row =
          .ok { inst with id := id, createdAt := io.now.1, updatedAt := io.now.1 } := by
  unfold insertInstance
  split
  case h_1 err hkey => exact Or.inl ⟨_, rfl⟩
  case h_2 encryptedKey hkey =>
    dsimp only
    split
    case h_1 err hfailure => exact Or.inl ⟨_, rfl⟩
    case h_2 hsuccess =>
      exact Or.inr ⟨_, _, not_mem_of_insertFailure hsuccess, rfl, hydrateInstance_eq
        (parse_format_utc io.now) (parse_format_utc io.now) hkey⟩

/-- An update fails and changes nothing, or it replaces a row by one that is read back as the instance
with the app type and the creation time of the old row. -/
theorem updateInstance_cases (service : Service) (table : Table) (inst : FullInstance) (io : UpdateIO) :
    (∃ err, updateInstance service table inst io = (.error err, table)) ∨
      ∃ row changed, table.lookup inst.id = some row ∧
        updateInstance service table inst io =
          (.ok { inst with updatedAt := io.now.1 }, table.insert inst.id changed) ∧
        ∀ before, hydrateInstance service inst.id row = .ok before → ∃ updated,
          hydrateInstance service inst.id changed = .ok { inst with
            appType := before.appType, createdAt := before.createdAt, updatedAt := updated } := by
  unfold updateInstance
  split
  case h_1 err hkey => exact Or.inl ⟨_, rfl⟩
  case h_2 encryptedKey hkey =>
    split
    case h_1 err hfailure => exact Or.inl ⟨_, rfl⟩
    case h_2 =>
      split
      case h_1 hmissing => exact Or.inl ⟨_, rfl⟩
      case h_2 row hlookup =>
        refine Or.inr ⟨row, _, hlookup, rfl, fun before hbefore ↦ ?_⟩
        obtain ⟨-, happ, hcreated⟩ := columns_of_hydrateInstance hbefore
        obtain ⟨updated, hupdated⟩ := parse_strftime_utc io.triggerAt
        rw [happ]
        exact ⟨updated, hydrateInstance_eq hcreated hupdated hkey⟩

theorem deleteInstance_cases (table : Table) (id : UUID) (failure : Option String) :
    (∃ err, deleteInstance table id failure = (.error err, table)) ∨
      deleteInstance table id failure = (.ok (), table.erase id) := by
  unfold deleteInstance
  cases failure with
  | some err => exact Or.inl ⟨_, rfl⟩
  | none =>
    dsimp only
    split
    · exact Or.inr rfl
    · exact Or.inl ⟨_, rfl⟩

end Repository

/-! ## Calls and ledgers -/

inductive Call
  | create (inst : FullInstance) (io : CreateIO)
  | update (id : UUID) (inst : FullInstance) (getFailure : Option String) (io : UpdateIO)
  | delete (id : UUID) (failure : Option String)

/-- The error of a call, if it returns one, and the table afterwards. -/
def Service.call (service : Service) (table : Table) : Call → Option Error × Table
  | .create inst io =>
    (failureOf (service.create table inst io).1, (service.create table inst io).2)
  | .update id inst getFailure io =>
    (failureOf (service.update table id inst getFailure io).1,
      (service.update table id inst getFailure io).2)
  | .delete id failure =>
    (failureOf (Service.delete table id failure).1, (Service.delete table id failure).2)

/-- The accepted requests for one instance: the one that created it, with its time, and the updates
since, oldest first. -/
structure Ledger where
  created : FullInstance
  createdAt : UTCTime
  updates : List FullInstance

namespace Ledger

variable (ledger : Ledger)

def requests : List FullInstance := ledger.created :: ledger.updates

def lastRequest : FullInstance := ledger.updates.getLastD ledger.created

/-- The last API key of a request that is not blank, trimmed. -/
def lastKey : Text :=
  ((ledger.requests.map fun request ↦ trimSpace request.apiKey).filter (· ≠ [])).getLastD []

/-- The last timeout of a request that is positive, or the default. -/
def lastTimeout : ℤ :=
  ((ledger.requests.map fun request ↦ request.timeoutMs).filter (0 < ·)).getLastD defaultTimeoutMs

/-- The ledger says so of the instance. -/
structure Describes (id : UUID) (inst : FullInstance) : Prop where
  id_eq : inst.id = id
  name_eq : inst.name = trimSpace ledger.lastRequest.name
  appType_eq : inst.appType = ledger.created.appType
  baseURL_eq : inst.baseURL = ledger.lastRequest.baseURL
  apiKey_eq : inst.apiKey = ledger.lastKey
  timeoutMs_eq : inst.timeoutMs = ledger.lastTimeout
  createdAt_eq : inst.createdAt = ledger.createdAt.1

/-- One more accepted update. -/
def add (request : FullInstance) : Ledger := { ledger with updates := ledger.updates ++ [request] }

/-- The last value that is kept, when there is one more. -/
theorem getLastD_filter_concat {α β : Type*} (value : α → β) (kept : β → Bool) (default : β)
    (list : List α) (next : α) :
    (((list ++ [next]).map value).filter kept).getLastD default =
      if kept (value next) then value next else ((list.map value).filter kept).getLastD default := by
  rw [List.map_append, List.filter_append, List.map_singleton]
  split
  case isTrue hkept => rw [List.filter_cons_of_pos hkept, List.filter_nil, List.getLastD_concat]
  case isFalse hdropped =>
    rw [List.filter_cons_of_neg hdropped, List.filter_nil, List.append_nil]

theorem lastKey_new {request : FullInstance} (now : UTCTime) (hkey : trimSpace request.apiKey ≠ []) :
    lastKey ⟨request, now, []⟩ = trimSpace request.apiKey :=
  (getLastD_filter_concat _ _ _ [] request).trans (if_pos (decide_eq_true hkey))

theorem lastTimeout_new (request : FullInstance) (now : UTCTime) :
    lastTimeout ⟨request, now, []⟩ =
      if 0 < request.timeoutMs then request.timeoutMs else defaultTimeoutMs := by
  have hlast := getLastD_filter_concat (fun request : FullInstance ↦ request.timeoutMs) (0 < ·)
    defaultTimeoutMs [] request
  simp only [decide_eq_true_eq] at hlast
  exact hlast

theorem lastRequest_add (request : FullInstance) : (ledger.add request).lastRequest = request := by
  unfold lastRequest add
  exact List.getLastD_concat

theorem lastKey_add (request : FullInstance) :
    (ledger.add request).lastKey =
      if trimSpace request.apiKey ≠ [] then trimSpace request.apiKey else ledger.lastKey := by
  unfold lastKey requests add
  rw [← List.cons_append, getLastD_filter_concat]
  simp only [decide_eq_true_eq]

theorem lastTimeout_add (request : FullInstance) :
    (ledger.add request).lastTimeout =
      if 0 < request.timeoutMs then request.timeoutMs else ledger.lastTimeout := by
  unfold lastTimeout requests add
  rw [← List.cons_append, getLastD_filter_concat]
  simp only [decide_eq_true_eq]

end Ledger

/-- The table, with the ledgers of its instances. -/
structure State where
  table : Table
  ledgers : KeyedTable UUID Ledger

/-- Before the first call. -/
def State.initial : State := ⟨∅, ∅⟩

/-- What an accepted call enters into the ledgers. -/
def enter (service : Service) (state : State) : Call → KeyedTable UUID Ledger
  | .create inst io =>
    match (service.create state.table inst io).1 with
    | .error _ => state.ledgers
    | .ok stored => state.ledgers.insert stored.id ⟨inst, io.now, []⟩
  | .update id inst getFailure io =>
    match (service.update state.table id inst getFailure io).1, state.ledgers.lookup id with
    | .ok _, some ledger => state.ledgers.insert id (ledger.add inst)
    | _, _ => state.ledgers
  | .delete id failure =>
    match (Service.delete state.table id failure).1 with
    | .error _ => state.ledgers
    | .ok _ => state.ledgers.erase id

/-- A call, with its entry in the ledgers. -/
def step (service : Service) (state : State) (call : Call) : State :=
  ⟨(service.call state.table call).2, enter service state call⟩

/-! ## The invariant -/

/-- A creation fails and changes nothing, or it adds the valid instance that its ledger describes. -/
theorem create_cases (service : Service) (table : Table) (inst : FullInstance) (io : CreateIO) :
    (∃ err, service.create table inst io = (.error err, table)) ∨
      ∃ stored row, stored.id ∉ table ∧
        service.create table inst io = (.ok stored, table.insert stored.id row) ∧
        hydrateInstance service stored.id row = .ok stored ∧ service.Valid stored ∧
        Ledger.Describes ⟨inst, io.now, []⟩ stored.id stored := by
  unfold Service.create
  dsimp only
  generalize hrequest : (if inst.timeoutMs = 0 then { inst with timeoutMs := defaultTimeoutMs }
    else inst) = request
  have htimeout : request.timeoutMs ≠ 0 ∧ (request.timeoutMs = if inst.timeoutMs = 0 then
      defaultTimeoutMs else inst.timeoutMs) := by
    rw [← hrequest]
    split
    case isTrue hzero => exact ⟨show defaultTimeoutMs ≠ 0 by decide, rfl⟩
    case isFalse hgiven => exact ⟨hgiven, rfl⟩
  have hkept : request.name = inst.name ∧ request.appType = inst.appType ∧
      request.baseURL = inst.baseURL ∧ request.apiKey = inst.apiKey := by
    rw [← hrequest]
    split <;> exact ⟨rfl, rfl, rfl, rfl⟩
  split
  case h_1 err hinvalid => exact Or.inl ⟨err, rfl⟩
  case h_2 checked hchecked =>
    cases insertInstance_cases service table checked io with
    | inl hfailed => exact Or.inl hfailed
    | inr hinserted =>
      obtain ⟨id, row, hfresh, hinsert, hrow⟩ := hinserted
      obtain ⟨hshape, hvalid⟩ := valid_of_validate hchecked
      have hvalid := hvalid htimeout.1
      subst hshape
      obtain ⟨hname, happ, hurl, hkey⟩ := hkept
      refine Or.inr ⟨_, row, hfresh, hinsert, hrow, { hvalid with }, ?_⟩
      exact
        { id_eq := rfl
          name_eq := congrArg trimSpace hname
          appType_eq := happ
          baseURL_eq := hurl
          apiKey_eq := by
            have hnonblank := hvalid.apiKey_ne_nil
            dsimp only at hnonblank ⊢
            rw [hkey] at hnonblank ⊢
            exact (Ledger.lastKey_new io.now hnonblank).symm
          timeoutMs_eq := by
            have hpos := hvalid.timeoutMs_pos
            dsimp only at hpos ⊢
            rw [Ledger.lastTimeout_new, htimeout.2]
            rw [htimeout.2] at hpos
            split
            case isTrue hzero => rw [if_neg (by omega)]
            case isFalse hgiven =>
              rw [if_neg hgiven] at hpos
              rw [if_pos (by omega)]
          createdAt_eq := rfl }

/-- The changed instance as the validator leaves it. -/
def changedInstance (existing inst : FullInstance) : FullInstance :=
  { Service.applyChanges existing inst with
    name := trimSpace inst.name
    apiKey := trimSpace (Service.applyChanges existing inst).apiKey }

/-- The write of an update fails and changes nothing, or it replaces the row by one that is read back
as the instance read before with the changes, and valid as this one was. The row may have changed since
it was read, but not in its app type and creation time. -/
theorem writeChanges_cases (service : Service) (table : Table) {existing current : FullInstance}
    (inst : FullInstance) (io : UpdateIO) (hvalid : service.Valid existing)
    (hcurrent : getInstance service table existing.id none = .ok current)
    (happ : current.appType = existing.appType) (hcreated : current.createdAt = existing.createdAt) :
    (∃ err, service.writeChanges table existing inst io = (.error err, table)) ∨
      ∃ changed stored row, service.writeChanges table existing inst io =
          (.ok changed, table.insert existing.id row) ∧
        hydrateInstance service existing.id row = .ok stored ∧ service.Valid stored ∧
        stored = { changedInstance existing inst with updatedAt := stored.updatedAt } := by
  unfold Service.writeChanges
  split
  case h_1 err hinvalid => exact Or.inl ⟨err, rfl⟩
  case h_2 checked hchecked =>
    obtain ⟨hshape, hchanged⟩ := valid_of_validate hchecked
    have htimeout : (Service.applyChanges existing inst).timeoutMs ≠ 0 := by
      have hpos := hvalid.timeoutMs_pos
      unfold Service.applyChanges
      dsimp only
      split <;> omega
    have hchanged := hchanged htimeout
    have hid : checked.id = existing.id := by rw [hshape]; rfl
    cases updateInstance_cases service table checked io with
    | inl hfailed => exact Or.inl hfailed
    | inr hupdated =>
      obtain ⟨row, changed, hlookup, hupdate, hrow⟩ := hupdated
      obtain ⟨found, hfound, hhydrated⟩ := lookup_of_getInstance hcurrent
      rw [hid] at hlookup hupdate hrow
      rw [hfound] at hlookup
      obtain rfl := Option.some.inj hlookup
      obtain ⟨updated, hstored⟩ := hrow current hhydrated
      subst hshape
      rw [happ, hcreated] at hstored
      exact Or.inr ⟨_, _, changed, hupdate, hstored, { hchanged with }, rfl⟩

/-- An accepted update of a described instance leaves it described by its ledger with this update. -/
theorem Ledger.Describes.add {service : Service} {ledger : Ledger} {id : UUID}
    {existing inst stored : FullInstance} (h : ledger.Describes id existing)
    (hvalid : service.Valid existing)
    (hstored : stored = { changedInstance existing inst with updatedAt := stored.updatedAt }) :
    (ledger.add inst).Describes id stored := by
  rw [hstored]
  exact
    { id_eq := h.id_eq
      name_eq := by rw [Ledger.lastRequest_add]; rfl
      appType_eq := h.appType_eq
      baseURL_eq := by rw [Ledger.lastRequest_add]; rfl
      apiKey_eq := by
        rw [Ledger.lastKey_add, ← h.apiKey_eq]
        unfold changedInstance Service.applyChanges
        dsimp only
        split
        case isTrue => exact trimSpace_trimSpace _
        case isFalse => exact hvalid.apiKey_trimmed
      timeoutMs_eq := by
        rw [Ledger.lastTimeout_add, ← h.timeoutMs_eq]
        rfl
      createdAt_eq := h.createdAt_eq }

/-- The row of an instance is what its ledger describes, and there is one only with a ledger. -/
def Matches (service : Service) (id : UUID) : Option Ledger → Option Row → Prop
  | none, none => True
  | some ledger, some row => ∃ inst, hydrateInstance service id row = .ok inst ∧
      ledger.Describes id inst ∧ service.Valid inst
  | _, _ => False

def Kept (service : Service) (state : State) : Prop :=
  ∀ id, Matches service id (state.ledgers.lookup id) (state.table.lookup id)

namespace Kept

variable {service : Service} {state : State}

theorem initial : Kept service State.initial := fun _ ↦ trivial

theorem insert (h : Kept service state) {id : UUID} {ledger : Ledger} {row : Row}
    (hnew : Matches service id (some ledger) (some row)) :
    Kept service ⟨state.table.insert id row, state.ledgers.insert id ledger⟩ := by
  intro other
  rw [KeyedTable.lookup_insert_eq, KeyedTable.lookup_insert_eq]
  by_cases hsame : other = id
  · rw [if_pos hsame, if_pos hsame, hsame]
    exact hnew
  · rw [if_neg hsame, if_neg hsame]
    exact h other

theorem erase (h : Kept service state) (id : UUID) :
    Kept service ⟨state.table.erase id, state.ledgers.erase id⟩ := by
  intro other
  rw [KeyedTable.lookup_erase_eq, KeyedTable.lookup_erase_eq]
  by_cases hsame : other = id
  · rw [if_pos hsame, if_pos hsame]
    trivial
  · rw [if_neg hsame, if_neg hsame]
    exact h other

/-- An instance that can be read is valid and has a ledger that describes it. -/
theorem of_getInstance (h : Kept service state) {id : UUID} {failure : Option String}
    {inst : FullInstance} (hget : getInstance service state.table id failure = .ok inst) :
    ∃ ledger, state.ledgers.lookup id = some ledger ∧ ledger.Describes id inst ∧
      service.Valid inst := by
  obtain ⟨row, hlookup, hrow⟩ := lookup_of_getInstance hget
  have hmatches := h id
  rw [hlookup] at hmatches
  cases hledger : state.ledgers.lookup id with
  | none =>
    rw [hledger] at hmatches
    exact hmatches.elim
  | some ledger =>
    rw [hledger] at hmatches
    obtain ⟨found, hfound, hdescribes, hvalid⟩ := hmatches
    obtain rfl := Except.ok.inj (hfound.symm.trans hrow)
    exact ⟨ledger, rfl, hdescribes, hvalid⟩

theorem step (h : Kept service state) (call : Call) : Kept service (step service state call) := by
  cases call with
  | create inst io =>
    unfold Instances.step enter Service.call
    dsimp only
    rcases create_cases service state.table inst io with ⟨err, hfailed⟩ |
      ⟨stored, row, _, hcreated, hrow, hvalid, hdescribes⟩
    · rw [hfailed]
      exact h
    · rw [hcreated]
      exact h.insert ⟨stored, hrow, hdescribes, hvalid⟩
  | update id inst getFailure io =>
    unfold Instances.step enter Service.call Service.update
    dsimp only
    cases hget : getInstance service state.table id getFailure with
    | error err => exact h
    | ok existing =>
      obtain ⟨ledger, hledger, hdescribes, hvalid⟩ := h.of_getInstance hget
      obtain ⟨row, hlookup, hrow⟩ := lookup_of_getInstance hget
      have hid := hdescribes.id_eq
      subst hid
      rcases writeChanges_cases service state.table inst io hvalid (getInstance_eq hlookup hrow) rfl
        rfl with ⟨err, hfailed⟩ | ⟨changed, stored, row, hwritten, hstored, hnext, hshape⟩
      · dsimp only
        rw [hfailed]
        exact h
      · dsimp only
        rw [hwritten, hledger]
        exact h.insert ⟨stored, hstored, hdescribes.add hvalid hshape, hnext⟩
  | delete id failure =>
    unfold Instances.step enter Service.call Service.delete
    dsimp only
    rcases deleteInstance_cases state.table id failure with ⟨err, hfailed⟩ | hdeleted
    · rw [hfailed]
      exact h
    · rw [hdeleted]
      exact h.erase id

theorem run (service : Service) (calls : List Call) :
    Kept service (calls.foldl (Instances.step service) State.initial) := by
  have hrun : Machine.Along (Instances.step service) (fun _ _ ↦ True) State.initial calls :=
    fun _ _ ↦ trivial
  exact Machine.invariant_of_along (fun _ call h _ ↦ h.step call) hrun initial

end Kept

/-- A call that returns an error leaves the table as it was. -/
theorem table_of_failed_call (service : Service) (table : Table) (call : Call) {err : Error}
    (h : (service.call table call).1 = some err) : (service.call table call).2 = table := by
  cases call with
  | create inst io =>
    unfold Service.call at h ⊢
    dsimp only at h ⊢
    rcases create_cases service table inst io with ⟨err, hfailed⟩ | ⟨stored, row, _, hcreated, _⟩
    · exact congrArg Prod.snd hfailed
    · rw [hcreated] at h
      cases h
  | update id inst getFailure io =>
    unfold Service.call Service.update Service.writeChanges at h ⊢
    dsimp only at h ⊢
    cases hget : getInstance service table id getFailure with
    | error err => rfl
    | ok existing =>
      rw [hget] at h
      dsimp only at h ⊢
      cases hchecked : service.validate (Service.applyChanges existing inst) with
      | error err => rfl
      | ok checked =>
        rw [hchecked] at h
        dsimp only at h ⊢
        rcases updateInstance_cases service table checked io with
          ⟨err, hfailed⟩ | ⟨row, changed, _, hupdated, _⟩
        · exact congrArg Prod.snd hfailed
        · rw [hupdated] at h
          cases h
  | delete id failure =>
    unfold Service.call Service.delete at h ⊢
    rcases deleteInstance_cases table id failure with ⟨err, hfailed⟩ | hdeleted
    · exact congrArg Prod.snd hfailed
    · dsimp only at h
      rw [hdeleted] at h
      cases h

/-- While an instance is stored its ledger keeps the request that created it. -/
theorem created_of_step {service : Service} {state : State} (h : Kept service state) (call : Call)
    {id : UUID} {before after : Ledger} (hbefore : state.ledgers.lookup id = some before)
    (hafter : (step service state call).ledgers.lookup id = some after) :
    after.created = before.created ∧ after.createdAt = before.createdAt := by
  have hsame : state.ledgers.lookup id = some after →
      after.created = before.created ∧ after.createdAt = before.createdAt := by
    intro hkept
    obtain rfl := Option.some.inj (hkept.symm.trans hbefore)
    exact ⟨rfl, rfl⟩
  change (enter service state call).lookup id = some after at hafter
  cases call with
  | create inst io =>
    unfold enter at hafter
    dsimp only at hafter
    rcases create_cases service state.table inst io with ⟨err, hfailed⟩ |
      ⟨stored, row, hfresh, hcreated, -⟩
    · rw [hfailed] at hafter
      exact hsame hafter
    · rw [hcreated, KeyedTable.lookup_insert_eq] at hafter
      split at hafter
      case isTrue hid =>
        have hmatches := h id
        rw [hbefore, hid, AList.lookup_eq_none.mpr hfresh] at hmatches
        exact hmatches.elim
      case isFalse => exact hsame hafter
  | update other inst getFailure io =>
    unfold enter at hafter
    dsimp only at hafter
    split at hafter
    case h_1 ledger _ hledger =>
      rw [KeyedTable.lookup_insert_eq] at hafter
      split at hafter
      case isTrue hid =>
        subst hid
        obtain rfl := Option.some.inj (hledger.symm.trans hbefore)
        obtain rfl := Option.some.inj hafter
        exact ⟨rfl, rfl⟩
      case isFalse => exact hsame hafter
    case h_2 => exact hsame hafter
  | delete other failure =>
    unfold enter at hafter
    dsimp only at hafter
    split at hafter
    case h_1 => exact hsame hafter
    case h_2 =>
      rw [KeyedTable.lookup_erase_eq] at hafter
      split at hafter
      case isTrue => cases hafter
      case isFalse => exact hsame hafter

/-- After every run of calls the store gives back exactly the instances that have a ledger, as their
ledgers describe them and within the validator's bounds. A call that returns an error leaves the table
as it was, and no call changes the ID, the app type or the creation time of a stored instance. -/
theorem store_reads_back (service : Service) (calls : List Call) :
    let final := calls.foldl (step service) State.initial
    (∀ id, match final.ledgers.lookup id with
      | none => getInstance service final.table id none = .error .notFound
      | some ledger => ∃ inst, getInstance service final.table id none = .ok inst ∧
          ledger.Describes id inst ∧ service.Valid inst) ∧
      (∀ call err, (service.call final.table call).1 = some err →
        (service.call final.table call).2 = final.table) ∧
      ∀ call id before after, getInstance service final.table id none = .ok before →
        getInstance service (service.call final.table call).2 id none = .ok after →
          after.id = before.id ∧ after.appType = before.appType ∧
            after.createdAt = before.createdAt := by
  intro final
  have hkept : Kept service final := Kept.run service calls
  refine ⟨fun id ↦ ?_, fun call err ↦ table_of_failed_call service final.table call, ?_⟩
  · have hmatches := hkept id
    cases hlookup : final.table.lookup id with
    | none =>
      rw [hlookup] at hmatches
      cases hledger : final.ledgers.lookup id with
      | none =>
        dsimp only
        unfold getInstance
        rw [hlookup]
      | some ledger =>
        rw [hledger] at hmatches
        exact hmatches.elim
    | some row =>
      rw [hlookup] at hmatches
      cases hledger : final.ledgers.lookup id with
      | none =>
        rw [hledger] at hmatches
        exact hmatches.elim
      | some ledger =>
        rw [hledger] at hmatches
        obtain ⟨inst, hrow, hdescribes, hvalid⟩ := hmatches
        exact ⟨inst, getInstance_eq hlookup hrow, hdescribes, hvalid⟩
  · intro call id before after hbefore hafter
    obtain ⟨old, hold, hbefore, -⟩ := hkept.of_getInstance hbefore
    have hnext : getInstance service (step service final call).table id none = .ok after := hafter
    obtain ⟨new, hnew, hafter, -⟩ := (hkept.step call).of_getInstance hnext
    obtain ⟨hcreated, hcreatedAt⟩ := created_of_step hkept call hold hnew
    exact ⟨hafter.id_eq.trans hbefore.id_eq.symm,
      by rw [hafter.appType_eq, hcreated, ← hbefore.appType_eq],
      by rw [hafter.createdAt_eq, hcreatedAt, ← hbefore.createdAt_eq]⟩

end Huntarr2.Instances
