import Huntarr2.Foundation.ReadModifyWrite
import Huntarr2.Foundation.Utf8
import Huntarr2.Instance.ReadBack

/-!
# Concurrent updates of one instance

An update reads the instance and writes it back in two statements. A pair of updates is run on every
interleaving of these and compared with the abstract machine that reads, merges and writes.
-/

namespace Huntarr2.Instances

open Clock Encrypt GoStd

/-! ## Two updates, statement by statement -/

/-- A call of `Service.Update`, with what its environment answers. -/
structure UpdateCall where
  inst : FullInstance
  getFailure : Option String
  io : UpdateIO

/-- How far a call is. -/
inductive Progress
  | called
  | read (existing : FullInstance)
  | returned (result : Except Error FullInstance)

def Progress.succeeded : Progress → Bool
  | .returned (.ok _) => true
  | _ => false

structure Updates where
  table : Table
  progress : Bool → Progress

/-- Both calls are made. -/
def Updates.initial (table : Table) : Updates := ⟨table, fun _ ↦ .called⟩

section Interleaving

variable (service : Service) (id : UUID) (calls : Bool → UpdateCall)

/-- The next repository step of a call: its Get, or its Update statement. -/
def repositoryStep (state : Updates) (client : Bool) : Updates :=
  let call := calls client
  match state.progress client with
  | .called =>
    match getInstance service state.table id call.getFailure with
    | .error err =>
      { state with progress := Function.update state.progress client (.returned (.error err)) }
    | .ok existing =>
      { state with progress := Function.update state.progress client (.read existing) }
  | .read existing =>
    let (result, table) := service.writeChanges state.table existing call.inst call.io
    ⟨table, Function.update state.progress client (.returned result)⟩
  | .returned _ => state

/-- Both calls on an interleaving of their steps. -/
def interleaved (table : Table) (schedule : List Bool) : Updates :=
  schedule.foldl (repositoryStep service id calls) (Updates.initial table)

/-- `Service.Update` of the one call and then of the other. -/
def oneAfterTheOther (table : Table) (first : Bool) : Table :=
  [first, !first].foldl (fun table client ↦
    (service.update table id (calls client).inst (calls client).getFailure (calls client).io).2) table

/-- The two steps of a call with nothing between them are `Service.Update`. -/
theorem repositoryStep_repositoryStep {state : Updates} {client : Bool}
    (h : state.progress client = .called) :
    repositoryStep service id calls (repositoryStep service id calls state client) client =
      ⟨(service.update state.table id (calls client).inst (calls client).getFailure
          (calls client).io).2,
        Function.update state.progress client (.returned (service.update state.table id
          (calls client).inst (calls client).getFailure (calls client).io).1)⟩ := by
  unfold Service.update
  cases hget : getInstance service state.table id (calls client).getFailure with
  | error err =>
    have hread : repositoryStep service id calls state client = { state with
        progress := Function.update state.progress client (.returned (.error err)) } := by
      unfold repositoryStep
      simp only [h, hget]
    rw [hread]
    unfold repositoryStep
    simp only [Function.update_self]
  | ok existing =>
    have hread : repositoryStep service id calls state client = { state with
        progress := Function.update state.progress client (.read existing) } := by
      unfold repositoryStep
      simp only [h, hget]
    rw [hread]
    unfold repositoryStep
    simp only [Function.update_self, Function.update_idem]

theorem oneAfterTheOther_eq (table : Table) (first : Bool) :
    oneAfterTheOther service id calls table first =
      (interleaved service id calls table [first, first, !first, !first]).table := by
  have hcalled : (Updates.initial table).progress first = .called := rfl
  unfold interleaved
  change _ = (repositoryStep service id calls (repositoryStep service id calls
    (repositoryStep service id calls (repositoryStep service id calls (Updates.initial table) first)
      first) !first) !first).table
  rw [repositoryStep_repositoryStep service id calls hcalled, repositoryStep_repositoryStep]
  · rfl
  · dsimp only
    rw [Function.update_of_ne (Bool.not_ne_self first)]
    rfl

end Interleaving

/-! ## What an update stores and when it succeeds -/

/-- The stored fields an update may change. -/
structure Fields where
  name : Text
  baseURL : Text
  apiKey : Text
  timeoutMs : ℤ
  deriving DecidableEq

def FullInstance.fields (inst : FullInstance) : Fields :=
  ⟨inst.name, inst.baseURL, inst.apiKey, inst.timeoutMs⟩

def storedFields (service : Service) (table : Table) (id : UUID) : Option Fields :=
  match getInstance service table id none with
  | .error _ => none
  | .ok inst => some inst.fields

/-- What an accepted request makes of the fields it found. -/
def mergeFields (found : Fields) (request : FullInstance) : Fields where
  name := trimSpace request.name
  baseURL := request.baseURL
  apiKey := if trimSpace request.apiKey ≠ [] then trimSpace request.apiKey else found.apiKey
  timeoutMs := if 0 < request.timeoutMs then request.timeoutMs else found.timeoutMs

theorem fields_changedInstance {service : Service} {existing : FullInstance}
    (hvalid : service.Valid existing) (inst : FullInstance) :
    (changedInstance existing inst).fields = mergeFields existing.fields inst := by
  have hkey : trimSpace (Service.applyChanges existing inst).apiKey =
      if trimSpace inst.apiKey ≠ [] then trimSpace inst.apiKey else existing.apiKey := by
    unfold Service.applyChanges
    dsimp only
    split
    case isTrue => exact trimSpace_trimSpace _
    case isFalse => exact hvalid.apiKey_trimmed
  unfold changedInstance FullInstance.fields mergeFields
  dsimp only
  rw [hkey]
  rfl

/-- What makes a call succeed on a valid instance, whatever its fields are. -/
structure Service.Accepts (service : Service) (call : UpdateCall) : Prop where
  reads : call.getFailure = none
  name_ne_nil : trimSpace call.inst.name ≠ []
  baseURL_accepted : (service.parseURL call.inst.baseURL).any URL.accepted = true
  timeoutMs_le : call.inst.timeoutMs ≤ maxTimeoutMs
  encrypts : service.encryptionKey.length = keyLength ∧ ∃ nonce, call.io.nonce = .ok nonce
  writes : call.io.failure = none

section Writes

variable {service : Service} {table : Table} {existing : FullInstance} {call : UpdateCall}

theorem validate_of_accepts (hvalid : service.Valid existing) (h : service.Accepts call) :
    service.validate (Service.applyChanges existing call.inst) =
      .ok (changedInstance existing call.inst) := by
  have hpos := hvalid.timeoutMs_pos
  have hle := hvalid.timeoutMs_le
  have hgiven := h.timeoutMs_le
  apply validate_eq_ok
  case hname => exact h.name_ne_nil
  case happ => exact hvalid.appType_valid
  case hurl => exact h.baseURL_accepted
  case hkey =>
    unfold Service.applyChanges
    dsimp only
    split
    case isTrue hkey => rwa [trimSpace_trimSpace]
    case isFalse =>
      rw [hvalid.apiKey_trimmed]
      exact hvalid.apiKey_ne_nil
  case hnonneg =>
    unfold Service.applyChanges
    dsimp only
    split <;> omega
  case hle =>
    unfold Service.applyChanges
    dsimp only
    split <;> omega

/-- An accepted write of a valid instance does not fail. -/
theorem writeChanges_of_accepts (hvalid : service.Valid existing) (h : service.Accepts call)
    (hstored : existing.id ∈ table) :
    ∃ changed, (service.writeChanges table existing call.inst call.io).1 = .ok changed := by
  obtain ⟨hlength, nonce, hnonce⟩ := h.encrypts
  obtain ⟨row, hrow⟩ := Option.isSome_iff_exists.mp (AList.lookup_isSome.mpr hstored)
  have hlookup : table.lookup (changedInstance existing call.inst).id = some row := hrow
  unfold Service.writeChanges
  rw [validate_of_accepts hvalid h]
  unfold updateInstance encrypt
  dsimp only
  rw [hnonce, h.writes, if_neg (not_not.mpr hlength)]
  dsimp only
  rw [hlookup]
  exact ⟨_, rfl⟩

/-- A call that read a valid instance and whose write did not fail is an accepted one. -/
theorem accepts_of_writeChanges (hvalid : service.Valid existing) (hreads : call.getFailure = none)
    {changed : FullInstance}
    (h : (service.writeChanges table existing call.inst call.io).1 = .ok changed) :
    service.Accepts call := by
  unfold Service.writeChanges at h
  split at h
  case h_1 => cases h
  case h_2 checked hchecked =>
    obtain ⟨hshape, hchanged⟩ := valid_of_validate hchecked
    have hpos := hvalid.timeoutMs_pos
    have htimeout : (Service.applyChanges existing call.inst).timeoutMs ≠ 0 := by
      unfold Service.applyChanges
      dsimp only
      split <;> omega
    have hchanged := hchanged htimeout
    unfold updateInstance encrypt at h
    split at h
    case h_1 => cases h
    case h_2 encryptedKey hkey =>
      split at hkey
      case isTrue => cases hkey
      case isFalse hlength =>
        split at hkey
        case h_1 => cases hkey
        case h_2 nonce hnonce =>
          split at h
          case h_1 => cases h
          case h_2 hwrites =>
            subst hshape
            exact
              { reads := hreads
                name_ne_nil := hchanged.name_ne_nil
                baseURL_accepted := hchanged.baseURL_accepted
                timeoutMs_le := by
                  have hle := hchanged.timeoutMs_le
                  unfold Service.applyChanges at hle
                  dsimp only at hle
                  unfold maxTimeoutMs at hle ⊢
                  split at hle <;> omega
                encrypts := ⟨not_not.mp hlength, nonce, hnonce⟩
                writes := hwrites }

end Writes

/-! ## The simulation -/

section Simulation

variable {service : Service} {origin : FullInstance} {calls : Bool → UpdateCall}

/-- A valid reading of the instance `origin` with these fields. -/
structure Reading (service : Service) (origin : FullInstance) (fields : Fields)
    (inst : FullInstance) : Prop where
  id_eq : inst.id = origin.id
  appType_eq : inst.appType = origin.appType
  createdAt_eq : inst.createdAt = origin.createdAt
  valid : service.Valid inst
  fields_eq : inst.fields = fields

/-- A call that has read the instance fails to write if it is not accepted. Otherwise the store holds
its request merged into what it read. -/
theorem Reading.write {table : Table} {call : UpdateCall} {existing current : FullInstance}
    {snapshot fields : Fields} (hexisting : Reading service origin snapshot existing)
    (hreads : call.getFailure = none) (hcurrent : Reading service origin fields current)
    (hget : getInstance service table origin.id none = .ok current) :
    (∃ err, service.writeChanges table existing call.inst call.io = (.error err, table) ∧
        ¬service.Accepts call) ∨
      ∃ changed stored after,
        service.writeChanges table existing call.inst call.io = (.ok changed, after) ∧
        service.Accepts call ∧ getInstance service after origin.id none = .ok stored ∧
        Reading service origin (mergeFields snapshot call.inst) stored := by
  rw [← hexisting.id_eq] at hget ⊢
  rcases writeChanges_cases service table call.inst call.io hexisting.valid hget
    (hcurrent.appType_eq.trans hexisting.appType_eq.symm)
    (hcurrent.createdAt_eq.trans hexisting.createdAt_eq.symm) with
    ⟨err, hfailed⟩ | ⟨changed, stored, row, hwritten, hrow, hvalid, hshape⟩
  · refine Or.inl ⟨err, hfailed, fun haccepts ↦ ?_⟩
    obtain ⟨row, hlookup, -⟩ := lookup_of_getInstance hget
    have hmem : existing.id ∈ table :=
      AList.lookup_isSome.mp (Option.isSome_iff_exists.mpr ⟨row, hlookup⟩)
    obtain ⟨changed, hchanged⟩ := writeChanges_of_accepts hexisting.valid haccepts hmem
    rw [hfailed] at hchanged
    cases hchanged
  · refine Or.inr ⟨changed, stored, _, hwritten,
      accepts_of_writeChanges hexisting.valid hreads (congrArg Prod.fst hwritten),
      getInstance_eq (AList.lookup_insert _) hrow, ?_⟩
    exact
      { id_eq := hshape ▸ hexisting.id_eq
        appType_eq := hshape ▸ hexisting.appType_eq
        createdAt_eq := hshape ▸ hexisting.createdAt_eq
        valid := hvalid
        fields_eq := by
          rw [hshape, ← hexisting.fields_eq]
          exact fields_changedInstance hexisting.valid call.inst }

/-- The call is as far as the client, and it has not failed. -/
def Follows (service : Service) (origin : FullInstance) (call : UpdateCall) :
    Progress → ReadModifyWrite.Phase Fields → Prop
  | .called, .waiting => True
  | .read existing, .holding snapshot =>
    call.getFailure = none ∧ Reading service origin snapshot existing
  | .returned (.ok _), .done => service.Accepts call
  | _, _ => False

/-- The store holds the shared value, and the calls follow the clients. -/
structure Simulates (service : Service) (origin : FullInstance) (calls : Bool → UpdateCall)
    (state : Updates) (clients : ReadModifyWrite.State Bool Fields) : Prop where
  stored : ∃ current, getInstance service state.table origin.id none = .ok current ∧
    Reading service origin clients.value current
  follows : ∀ client, Follows service origin (calls client) (state.progress client)
    (clients.phase client)

/-- A call that is not accepted has failed. -/
def Failed (service : Service) (calls : Bool → UpdateCall) (state : Updates) : Prop :=
  ∃ client err, ¬service.Accepts (calls client) ∧ state.progress client = .returned (.error err)

theorem Follows.update {progress : Bool → Progress} {phase : Bool → ReadModifyWrite.Phase Fields}
    {client : Bool} {next : Progress} {nextPhase : ReadModifyWrite.Phase Fields}
    (h : ∀ client, Follows service origin (calls client) (progress client) (phase client))
    (hnext : Follows service origin (calls client) next nextPhase) (other : Bool) :
    Follows service origin (calls other) (Function.update progress client next other)
      (Function.update phase client nextPhase other) := by
  by_cases hsame : other = client
  · subst hsame
    rw [Function.update_self, Function.update_self]
    exact hnext
  · rw [Function.update_of_ne hsame, Function.update_of_ne hsame]
    exact h other

/-- A call and its client have both not begun, both read, or both finished. -/
theorem Follows.cases {call : UpdateCall} {progress : Progress}
    {phase : ReadModifyWrite.Phase Fields} (h : Follows service origin call progress phase) :
    (progress = .called ∧ phase = .waiting) ∨
      (∃ existing snapshot, progress = .read existing ∧ phase = .holding snapshot ∧
        call.getFailure = none ∧ Reading service origin snapshot existing) ∨
      ∃ changed, progress = .returned (.ok changed) ∧ phase = .done ∧ service.Accepts call := by
  unfold Follows at h
  split at h
  · exact Or.inl ⟨rfl, rfl⟩
  · exact Or.inr (Or.inl ⟨_, _, rfl, rfl, h⟩)
  · exact Or.inr (Or.inr ⟨_, rfl, rfl, h⟩)
  · exact h.elim

/-- A step leaves the other call as far as it was, and a call that returned stays so. -/
theorem progress_of_returned {state : Updates} {client other : Bool} {id : UUID}
    {result : Except Error FullInstance} (h : state.progress other = .returned result) :
    (repositoryStep service id calls state client).progress other = .returned result := by
  by_cases hsame : other = client
  · subst hsame
    unfold repositoryStep
    simp only [h]
  · unfold repositoryStep
    dsimp only
    split
    case h_1 =>
      split
      · rw [← h]
        exact Function.update_of_ne hsame _ _
      · rw [← h]
        exact Function.update_of_ne hsame _ _
    case h_2 =>
      rw [← h]
      exact Function.update_of_ne hsame _ _
    case h_3 => exact h

theorem Failed.step {state : Updates} (h : Failed service calls state) (id : UUID) (client : Bool) :
    Failed service calls (repositoryStep service id calls state client) := by
  obtain ⟨failed, err, hrejected, herror⟩ := h
  exact ⟨failed, err, hrejected, progress_of_returned herror⟩

/-- One step of a call is the same step of its client, unless a call that is not accepted fails. -/
theorem Simulates.step {state : Updates} {clients : ReadModifyWrite.State Bool Fields}
    (h : Simulates service origin calls state clients) (client : Bool) :
    Simulates service origin calls (repositoryStep service origin.id calls state client)
        (ReadModifyWrite.step mergeFields (fun client ↦ (calls client).inst) clients client) ∨
      Failed service calls (repositoryStep service origin.id calls state client) := by
  obtain ⟨current, hget, hcurrent⟩ := h.stored
  unfold repositoryStep ReadModifyWrite.step
  dsimp only
  rcases (h.follows client).cases with ⟨hprogress, hphase⟩ |
    ⟨existing, snapshot, hprogress, hphase, hreads, hexisting⟩ |
      ⟨changed, hprogress, hphase, haccepts⟩
  -- The call reads.
  · rw [hprogress, hphase]
    cases hreads : (calls client).getFailure with
    | none =>
      rw [hget]
      exact Or.inl
        { stored := ⟨current, hget, hcurrent⟩
          follows := Follows.update h.follows ⟨hreads, hcurrent⟩ }
    | some err =>
      refine Or.inr ⟨client, _, fun haccepts ↦ ?_, Function.update_self client _ _⟩
      rw [haccepts.reads] at hreads
      cases hreads
  -- The call writes.
  · rw [hprogress, hphase]
    dsimp only
    rcases hexisting.write hreads hcurrent hget with
      ⟨err, hfailed, hrejected⟩ | ⟨changed, stored, after, hwritten, haccepts, hstored, hreading⟩
    · rw [hfailed]
      exact Or.inr ⟨client, err, hrejected, Function.update_self client _ _⟩
    · rw [hwritten]
      exact Or.inl
        { stored := ⟨stored, hstored, hreading⟩
          follows := Follows.update h.follows haccepts }
  -- The call has returned, and nothing happens.
  · rw [hprogress, hphase]
    exact Or.inl h

variable {table : Table} (hget : getInstance service table origin.id none = .ok origin)
  (hvalid : service.Valid origin)

include hget hvalid

variable (calls) in
/-- Both calls on a schedule simulate their clients on it, unless a call that is not accepted fails. -/
theorem simulates_interleaved (schedule : List Bool) :
    Simulates service origin calls (interleaved service origin.id calls table schedule)
        (schedule.foldl (ReadModifyWrite.step mergeFields fun client ↦ (calls client).inst)
          (.initial origin.fields)) ∨
      Failed service calls (interleaved service origin.id calls table schedule) := by
  have hinitial : Simulates service origin calls (Updates.initial table)
      (ReadModifyWrite.State.initial origin.fields) :=
    { stored := ⟨origin, hget, ⟨rfl, rfl, rfl, hvalid, rfl⟩⟩
      follows := fun _ ↦ trivial }
  unfold interleaved
  refine List.foldl_rel (r := fun state clients ↦ Simulates service origin calls state clients ∨
    Failed service calls state) (Or.inl hinitial) ?_
  intro client _ state clients hstate
  rcases hstate with hsimulates | hfailed
  · exact hsimulates.step client
  · exact Or.inr (hfailed.step origin.id client)

/-- Calls that succeed are accepted ones. -/
theorem accepts_of_succeeded {schedule : List Bool} (hsucceeded : ∀ client,
      ((interleaved service origin.id calls table schedule).progress client).succeeded = true)
    (client : Bool) : service.Accepts (calls client) := by
  rcases simulates_interleaved calls hget hvalid schedule with
    hsimulates | ⟨failed, err, -, herror⟩
  · have hclient := hsucceeded client
    rcases (hsimulates.follows client).cases with ⟨hprogress, -⟩ |
      ⟨existing, snapshot, hprogress, -⟩ | ⟨changed, -, -, haccepts⟩
    · rw [hprogress] at hclient
      cases hclient
    · rw [hprogress] at hclient
      cases hclient
    · exact haccepts
  · have hfailed := hsucceeded failed
    rw [herror] at hfailed
    cases hfailed

/-- Accepted calls leave what their clients compute. -/
theorem storedFields_interleaved (haccepts : ∀ client, service.Accepts (calls client))
    (schedule : List Bool) :
    storedFields service (interleaved service origin.id calls table schedule).table origin.id =
      some (ReadModifyWrite.outcome mergeFields (fun client ↦ (calls client).inst) origin.fields
        schedule) := by
  rcases simulates_interleaved calls hget hvalid schedule with
    hsimulates | ⟨failed, err, hrejected, -⟩
  · obtain ⟨current, hcurrent, hreading⟩ := hsimulates.stored
    unfold storedFields
    rw [hcurrent]
    exact congrArg some hreading.fields_eq
  · exact absurd (haccepts failed) hrejected

end Simulation

/-! ## Serialisability -/

/-- The stored fields are those after one of the calls and then the other. -/
def Serialisable (service : Service) (id : UUID) (calls : Bool → UpdateCall) (table : Table)
    (schedule : List Bool) : Prop :=
  ∃ first, storedFields service (interleaved service id calls table schedule).table id =
    storedFields service (oneAfterTheOther service id calls table first) id

instance (service : Service) (id : UUID) (calls : Bool → UpdateCall) (table : Table)
    (schedule : List Bool) : Decidable (Serialisable service id calls table schedule) :=
  inferInstanceAs (Decidable (∃ first,
    storedFields service (interleaved service id calls table schedule).table id =
      storedFields service (oneAfterTheOther service id calls table first) id))

/-- What the later request leaves blank the earlier one does not change. -/
structure NothingReverted (found : Fields) (earlier later : FullInstance) : Prop where
  apiKey : trimSpace later.apiKey ≠ [] ∨ trimSpace earlier.apiKey = [] ∨
    trimSpace earlier.apiKey = found.apiKey
  timeoutMs : 0 < later.timeoutMs ∨ earlier.timeoutMs ≤ 0 ∨ earlier.timeoutMs = found.timeoutMs

theorem mergeFields_mergeFields_eq_iff (found : Fields) (earlier later : FullInstance) :
    mergeFields found later = mergeFields (mergeFields found earlier) later ↔
      NothingReverted found earlier later := by
  unfold mergeFields
  dsimp only
  rw [Fields.mk.injEq]
  constructor
  · rintro ⟨-, -, hkey, htimeout⟩
    exact ⟨by grind, by grind⟩
  · rintro ⟨hkey, htimeout⟩
    exact ⟨rfl, rfl, by grind, by grind⟩

theorem nothingReverted_of_merge_swapped {found : Fields} {earlier later : FullInstance}
    (h : mergeFields found later = mergeFields (mergeFields found later) earlier) :
    NothingReverted found earlier later := by
  unfold mergeFields at h
  dsimp only at h
  rw [Fields.mk.injEq] at h
  obtain ⟨-, -, hkey, htimeout⟩ := h
  exact ⟨by grind, by grind⟩

/-- Two updates of a stored instance that both succeed are serialisable exactly when they do not
overlap or the later write reverts nothing. -/
theorem serialisable_iff (service : Service) (history : List Call) (id : UUID)
    (calls : Bool → UpdateCall) (schedule : List Bool) (existing : FullInstance)
    (hschedule : ReadModifyWrite.IsInterleaving schedule)
    (hstored : getInstance service (history.foldl (step service) State.initial).table id none =
      .ok existing)
    (hsucceeded : ∀ client, ((interleaved service id calls
      (history.foldl (step service) State.initial).table schedule).progress client).succeeded =
        true) :
    Serialisable service id calls (history.foldl (step service) State.initial).table schedule ↔
      (ReadModifyWrite.Overlapping schedule → NothingReverted existing.fields
        (calls !ReadModifyWrite.lastWriter schedule).inst
        (calls (ReadModifyWrite.lastWriter schedule)).inst) := by
  obtain ⟨ledger, -, hdescribes, hvalid⟩ := (Kept.run service history).of_getInstance hstored
  obtain rfl := hdescribes.id_eq
  generalize (history.foldl (step service) State.initial).table = table at hstored hsucceeded ⊢
  have haccepts := accepts_of_succeeded hstored hvalid hsucceeded
  have hserial (first : Bool) : storedFields service
      (oneAfterTheOther service existing.id calls table first) existing.id =
        some (mergeFields (mergeFields existing.fields (calls first).inst) (calls !first).inst) := by
    rw [oneAfterTheOther_eq, storedFields_interleaved hstored hvalid haccepts]
    exact congrArg some (ReadModifyWrite.outcome_adjacent existing.fields [first, !first]
      (by cases first <;> decide))
  unfold Serialisable
  simp only [storedFields_interleaved hstored hvalid haccepts, hserial, Option.some.injEq]
  generalize hlast : ReadModifyWrite.lastWriter schedule = last
  by_cases hoverlapping : ReadModifyWrite.Overlapping schedule
  · rw [ReadModifyWrite.outcome_of_overlapping hschedule hoverlapping, hlast]
    constructor
    · rintro ⟨first, hsame⟩ -
      by_cases hfirst : first = last
      · subst hfirst
        exact nothingReverted_of_merge_swapped hsame
      · obtain rfl := Bool.eq_not_of_ne hfirst
        rw [Bool.not_not] at hsame
        exact (mergeFields_mergeFields_eq_iff _ _ _).mp hsame
    · intro h
      refine ⟨!last, ?_⟩
      rw [Bool.not_not]
      exact (mergeFields_mergeFields_eq_iff _ _ _).mpr (h hoverlapping)
  · rw [ReadModifyWrite.outcome_of_not_overlapping hschedule hoverlapping, hlast]
    refine ⟨fun _ h ↦ absurd h hoverlapping, fun _ ↦ ⟨!last, ?_⟩⟩
    rw [Bool.not_not]

/-! ## A key that is set and lost -/

/-- Three bytes for every character. -/
def charBytes (c : Char) : Bytes :=
  [UInt8.ofNat (c.toNat / 65536), UInt8.ofNat (c.toNat / 256), UInt8.ofNat c.toNat]

def bytesText : Bytes → Text
  | high :: middle :: low :: bytes =>
    Char.ofNat (high.toNat * 65536 + middle.toNat * 256 + low.toNat) :: bytesText bytes
  | _ => []

theorem bytesText_charBytes (text : Text) : bytesText (text.flatMap charBytes) = text := by
  induction text with
  | nil => rfl
  | cons c text ih =>
    have hsmall : c.toNat < 16777216 := by
      have hvalid := c.valid
      unfold UInt32.isValidChar Nat.isValidChar at hvalid
      change c.val.toNat < _
      omega
    change Char.ofNat _ :: bytesText (text.flatMap charBytes) = _
    rw [ih, UInt8.toNat_ofNat', UInt8.toNat_ofNat', UInt8.toNat_ofNat',
      show c.toNat / 65536 % 256 * 65536 + c.toNat / 256 % 256 * 256 + c.toNat % 256 = c.toNat by
        omega, Char.ofNat_toNat]

/-- A cipher and an encoding that meet their laws. -/
def plainGCM : GCM where
  sealText _ _ plaintext := plaintext.flatMap charBytes
  openSealed _ _ sealed := some (bytesText sealed)
  openSealed_sealText _ _ plaintext := congrArg some (bytesText_charBytes plaintext)

def plainBase64 : Base64 where
  encode data := data.map fun byte ↦ Char.ofNat byte.toNat
  decode text := some (text.map fun c ↦ UInt8.ofNat c.toNat)
  decode_encode data := by
    rw [List.map_map]
    refine congrArg some ((List.map_congr_left fun byte _ ↦ ?_).trans (List.map_id data))
    exact (congrArg UInt8.ofNat (toNat_byteChar byte)).trans (UInt8.ofNat_toNat)
  decode_nil := rfl

theorem noon_wall_lt : 63902908800 < maxWall := by decide

def noon : UTCTime := ⟨⟨63902908800, 0, 0, noon_wall_lt, zero_nanos_lt, zero_offset_le⟩, rfl⟩

/-- A service that knows one host. -/
def demoService : Service where
  parseURL text :=
    if text = "http://sonarr:8989".toList then some ⟨"http", "sonarr:8989"⟩ else none
  gcm := plainGCM
  base64 := plainBase64
  encryptionKey := List.replicate 32 7

/-- A request with this API key that keeps the timeout. -/
def demoRequest (apiKey : String) : FullInstance :=
  ⟨0, "Sonarr".toList, "sonarr", "http://sonarr:8989".toList, apiKey.toList, 0, noon.1, noon.1⟩

def demoNonce : Nonce := ⟨List.replicate 12 3, rfl⟩

/-- One instance, created with the key `old`. -/
def demoHistory : List Call := [.create (demoRequest "old") ⟨.ok demoNonce, 1, noon, none⟩]

def demoTable : Table := (demoHistory.foldl (step demoService) State.initial).table

/-- A call that keeps the key, and one that sets a new key. -/
def demoCalls (client : Bool) : UpdateCall :=
  ⟨demoRequest (if client then "new" else ""), none, ⟨.ok demoNonce, noon, none, noon⟩⟩

/-- The stored instance, as it was created. -/
def demoInstance : FullInstance :=
  ⟨1, "Sonarr".toList, "sonarr", "http://sonarr:8989".toList, "old".toList, 30000, noon.1, noon.1⟩

/-- The call that sets a key writes last, so nothing is lost. -/
theorem serialisable_new_key_last :
    Serialisable demoService 1 demoCalls demoTable [true, false, false, true] :=
  (serialisable_iff demoService demoHistory 1 demoCalls [true, false, false, true] demoInstance
    (by decide) (by decide +kernel) (by decide)).mpr
    fun _ ↦ ⟨Or.inl (by decide), Or.inr (Or.inl (by decide))⟩

/-- A new key is set while another update with a blank key is under way: both calls succeed, the old key
is stored again, and no order of the calls does that. -/
theorem new_key_reverted :
    ReadModifyWrite.IsInterleaving [false, true, true, false] ∧
      (∀ client, ((interleaved demoService 1 demoCalls demoTable
        [false, true, true, false]).progress client).succeeded = true) ∧
      (storedFields demoService (interleaved demoService 1 demoCalls demoTable
        [false, true, true, false]).table 1).map Fields.apiKey = some "old".toList ∧
      ¬Serialisable demoService 1 demoCalls demoTable [false, true, true, false] :=
  ⟨by decide, by decide, by decide, by decide +kernel⟩

end Huntarr2.Instances
