import Huntarr2.Foundation.Machine
import Huntarr2.Settings.Service

/-!
# Resolution over runs of the settings service

The purpose of the store, stated without tables: an edit history in which the last value written to a
scope and key, and not removed since, is the one in force. The table after any run of service calls
holds exactly the last values of the accepted edits, every stored value is one the validator accepted,
and so resolving an instance reads its last value, else the global one, else the default.
-/

namespace Huntarr2.Settings

open Database

/-! ## The abstract store -/

/-- A change to one scope and key. -/
inductive Edit
  | write (scope : Option UUID) (key value : Text)
  | clear (scope : Option UUID) (key : Text)
  deriving DecidableEq, Repr

def Edit.scope : Edit → Option UUID
  | .write scope _ _ => scope
  | .clear scope _ => scope

/-- The value in force after an edit. -/
def Edit.after (scope : Option UUID) (key : Text) (current : Option Text) : Edit → Option Text
  | .write s k value => if s = scope ∧ k = key then some value else current
  | .clear s k => if s = scope ∧ k = key then none else current

/-- The last value written to a scope and key and not removed since. -/
def lastValue (edits : List Edit) (scope : Option UUID) (key : Text) : Option Text :=
  edits.foldl (Edit.after scope key) none

/-! ## Runs of calls -/

/-- A call of the service with the database errors it meets. -/
inductive Call
  | set (instanceID : Option UUID) (key value : Text) (failure : Option String)
  | setBatch (instanceID : Option UUID) (entries : List SettingEntry) (faults : TxFaults)
  | remove (instanceID : Option UUID) (key : Text) (failure : Option String)
  | removeBatch (instanceID : Option UUID) (keys : List Text) (faults : TxFaults)

/-- The result of a call and the table afterwards. -/
def Call.run (table : Table) : Call → Except Error Unit × Table
  | .set instanceID key value failure => Service.set table instanceID key value failure
  | .setBatch instanceID entries faults => Service.setBatch table instanceID entries faults
  | .remove instanceID key failure => Service.remove table instanceID key failure
  | .removeBatch instanceID keys faults => Service.removeBatch table instanceID keys faults

def Call.step (table : Table) (call : Call) : Table := (call.run table).2

def Call.scope : Call → Option UUID
  | .set instanceID .. | .setBatch instanceID .. | .remove instanceID .. |
    .removeBatch instanceID .. => instanceID

/-- The edits a call asks for. -/
def Call.edits : Call → List Edit
  | .set instanceID key value _ => [.write instanceID key value]
  | .setBatch instanceID entries _ =>
    entries.map fun entry ↦ .write instanceID entry.key entry.value
  | .remove instanceID key _ => [.clear instanceID key]
  | .removeBatch instanceID keys _ => keys.map fun key ↦ .clear instanceID key

/-- The edits of the calls of a run that reported success. -/
def acceptedEdits (table : Table) (calls : List Call) : List Edit :=
  (Machine.trail Call.step table calls).flatMap fun (table, call) ↦
    match (call.run table).1 with
    | .ok _ => call.edits
    | .error _ => []

/-- The change an edit makes to the table. -/
def Edit.apply (table : Table) : Edit → Table
  | .write scope key value => upsertRow table ⟨scope, key, value⟩
  | .clear scope key => deleteRow table scope key

theorem lookup_apply (table : Table) (edit : Edit) (scope : Option UUID) (key : Text) :
    (edit.apply table).lookup (scope, key) = edit.after scope key (table.lookup (scope, key)) := by
  cases edit with
  | write s k value =>
    simp only [Edit.apply, upsertRow, Edit.after, KeyedTable.lookup_insert_eq, Prod.mk.injEq]
    congr 1
    exact propext ⟨fun h ↦ ⟨h.1.symm, h.2.symm⟩, fun h ↦ ⟨h.1.symm, h.2.symm⟩⟩
  | clear s k =>
    simp only [Edit.apply, deleteRow, Edit.after, KeyedTable.lookup_erase_eq, Prod.mk.injEq]
    congr 1
    exact propext ⟨fun h ↦ ⟨h.1.symm, h.2.symm⟩, fun h ↦ ⟨h.1.symm, h.2.symm⟩⟩

theorem lookup_foldl_apply (edits : List Edit) (table : Table) (scope : Option UUID) (key : Text) :
    (edits.foldl Edit.apply table).lookup (scope, key) =
      edits.foldl (Edit.after scope key) (table.lookup (scope, key)) := by
  induction edits generalizing table with
  | nil => rfl
  | cons edit edits ih => rw [List.foldl_cons, List.foldl_cons, ih, lookup_apply]

def Edit.key : Edit → Text
  | .write _ key _ => key
  | .clear _ key => key

/-- Edits of other scopes and keys leave a value in force. -/
theorem foldl_after_of_untouched {edits : List Edit} {scope : Option UUID} {key : Text}
    (h : ∀ edit ∈ edits, ¬(edit.scope = scope ∧ edit.key = key)) (current : Option Text) :
    edits.foldl (Edit.after scope key) current = current := by
  induction edits generalizing current with
  | nil => rfl
  | cons edit edits ih =>
    obtain ⟨hfirst, hrest⟩ := List.forall_mem_cons.mp h
    rw [List.foldl_cons, ih hrest]
    cases edit with
    | write s k value => exact if_neg hfirst
    | clear s k => exact if_neg hfirst

/-- Edits of which all that touch a scope and key agree leave what they agree on. -/
theorem foldl_after_of_agree {edits : List Edit} {edit : Edit} (hmem : edit ∈ edits)
    (hagree : ∀ other ∈ edits, other.scope = edit.scope → other.key = edit.key → other = edit)
    (current : Option Text) :
    edits.foldl (Edit.after edit.scope edit.key) current =
      edit.after edit.scope edit.key current := by
  have hconstant (first second : Option Text) :
      edit.after edit.scope edit.key first = edit.after edit.scope edit.key second := by
    cases edit with
    | write s k value => simp [Edit.after, Edit.scope, Edit.key]
    | clear s k => simp [Edit.after, Edit.scope, Edit.key]
  induction edits generalizing current with
  | nil => exact absurd hmem List.not_mem_nil
  | cons first edits ih =>
    obtain ⟨hfirst, hrest⟩ := List.forall_mem_cons.mp hagree
    rw [List.foldl_cons]
    by_cases hlater : edit ∈ edits
    · rw [ih hlater hrest]
      exact hconstant _ _
    · obtain rfl := (List.mem_cons.mp hmem).resolve_right hlater
      refine foldl_after_of_untouched (fun other hother htouched ↦ hlater ?_) _
      rwa [← hrest other hother htouched.1 htouched.2]

/-! ## One call -/

/-- The writes among the edits carry values the validator accepts. -/
def Edit.Accepted : Edit → Prop
  | .write _ key value => validateEntry key value = .ok ()
  | .clear _ _ => True

theorem upsert_cases (table : Table) (setting : Setting) (failure : Option String) :
    (∃ err, upsert table setting failure = (.error err, table)) ∨
      upsert table setting failure = (.ok (), upsertRow table setting) := by
  unfold upsert autocommit
  cases hexec : execUpsert table setting failure with
  | error err => exact Or.inl ⟨err, rfl⟩
  | ok changed => exact Or.inr (by rw [execUpsert_ok hexec])

theorem delete_cases (table : Table) (instanceID : Option UUID) (key : Text)
    (failure : Option String) :
    (∃ err, delete table instanceID key failure = (.error err, table)) ∨
      delete table instanceID key failure = (.ok (), deleteRow table instanceID key) := by
  unfold delete autocommit
  cases hexec : execDelete instanceID table key failure with
  | error err => exact Or.inl ⟨err, rfl⟩
  | ok changed => exact Or.inr (by rw [execDelete_ok hexec])

theorem upsertBatch_cases (table : Table) (settings : List Setting) (faults : TxFaults) :
    (∃ err, upsertBatch table settings faults = (.error err, table)) ∨
      upsertBatch table settings faults = (.ok (), settings.foldl upsertRow table) := by
  unfold upsertBatch
  rcases withTx_cases table faults fun tx ↦ execAll tx execUpsert faults settings with
    herr | ⟨changed, hexec, hok⟩
  · exact Or.inl herr
  · rw [hok, execAll_eq_foldl (fun _ _ _ _ h ↦ execUpsert_ok h) hexec]
    exact Or.inr rfl

theorem deleteBatch_cases (table : Table) (instanceID : Option UUID) (keys : List Text)
    (faults : TxFaults) :
    (∃ err, deleteBatch table instanceID keys faults = (.error err, table)) ∨
      deleteBatch table instanceID keys faults =
        (.ok (), keys.foldl (fun table key ↦ deleteRow table instanceID key) table) := by
  unfold deleteBatch
  rcases withTx_cases table faults fun tx ↦ execAll tx (execDelete instanceID) faults keys with
    herr | ⟨changed, hexec, hok⟩
  · exact Or.inl herr
  · rw [hok, execAll_eq_foldl (fun _ _ _ _ h ↦ execDelete_ok h) hexec]
    exact Or.inr rfl

theorem forM_ok {α : Type} {check : α → Except Error Unit} {elements : List α}
    (h : forM elements check = .ok ()) : ∀ element ∈ elements, check element = .ok () := by
  induction elements with
  | nil => simp
  | cons first rest ih =>
    rw [List.forM_cons] at h
    cases hfirst : check first with
    | error err => simp [hfirst, bind, Except.bind] at h
    | ok _ =>
      simp only [hfirst, bind, Except.bind] at h
      exact List.forall_mem_cons.mpr ⟨hfirst, ih h⟩

/-- A call either reports an error and changes nothing, or all its edits are acceptable and are
carried out in order. -/
theorem run_cases (table : Table) (call : Call) :
    (∃ err, call.run table = (.error err, table)) ∨
      call.run table = (.ok (), call.edits.foldl Edit.apply table) ∧
        ∀ edit ∈ call.edits, edit.Accepted := by
  cases call with
  | set instanceID key value failure =>
    simp only [Call.run, Service.set]
    cases hvalid : validateEntry key value with
    | error err => exact Or.inl ⟨err, rfl⟩
    | ok _ =>
      rcases upsert_cases table ⟨instanceID, key, value⟩ failure with ⟨err, herr⟩ | hok
      · exact Or.inl ⟨.repository err, by simp only [herr, passOn, Except.mapError]⟩
      · refine Or.inr ⟨by simp only [hok, passOn, Except.mapError]; rfl, ?_⟩
        simpa [Call.edits, Edit.Accepted] using hvalid
  | setBatch instanceID entries faults =>
    simp only [Call.run, Service.setBatch]
    cases hvalid : forM entries fun entry ↦ validateEntry entry.key entry.value with
    | error err => exact Or.inl ⟨err, rfl⟩
    | ok _ =>
      rcases upsertBatch_cases table
        (entries.map fun entry ↦ ⟨instanceID, entry.key, entry.value⟩) faults with ⟨err, herr⟩ | hok
      · exact Or.inl ⟨.repository err, by simp only [herr, passOn, Except.mapError]⟩
      · refine Or.inr ⟨?_, ?_⟩
        · simp only [hok, passOn, Except.mapError, Call.edits, List.foldl_map]
          rfl
        · simpa [Call.edits, Edit.Accepted] using forM_ok hvalid
  | remove instanceID key failure =>
    simp only [Call.run, Service.remove]
    cases hvalid : Service.checkKey key with
    | error err => exact Or.inl ⟨err, rfl⟩
    | ok _ =>
      rcases delete_cases table instanceID key failure with ⟨err, herr⟩ | hok
      · exact Or.inl ⟨.repository err, by simp only [herr, passOn, Except.mapError]⟩
      · refine Or.inr ⟨by simp only [hok, passOn, Except.mapError]; rfl, ?_⟩
        simp [Call.edits, Edit.Accepted]
  | removeBatch instanceID keys faults =>
    simp only [Call.run, Service.removeBatch]
    cases hvalid : forM keys Service.checkKey with
    | error err => exact Or.inl ⟨err, rfl⟩
    | ok _ =>
      rcases deleteBatch_cases table instanceID keys faults with ⟨err, herr⟩ | hok
      · exact Or.inl ⟨.repository err, by simp only [herr, passOn, Except.mapError]⟩
      · refine Or.inr ⟨?_, ?_⟩
        · simp only [hok, passOn, Except.mapError, Call.edits, List.foldl_map]
          rfl
        · simp [Call.edits, Edit.Accepted]

/-! ## Runs -/

/-- Every stored value is one the validator accepted. -/
def Validated (table : Table) : Prop :=
  ∀ scope key value, table.lookup (scope, key) = some value → validateEntry key value = .ok ()

theorem Validated.apply {table : Table} {edit : Edit} (htable : Validated table)
    (hedit : edit.Accepted) : Validated (edit.apply table) := by
  intro scope key value hlookup
  rw [lookup_apply] at hlookup
  cases edit with
  | write s k v =>
    simp only [Edit.after] at hlookup
    split at hlookup
    case isTrue hkey =>
      rw [← hkey.2, ← Option.some.inj hlookup]
      exact hedit
    case isFalse => exact htable scope key value hlookup
  | clear s k =>
    simp only [Edit.after] at hlookup
    split at hlookup
    case isTrue => simp at hlookup
    case isFalse => exact htable scope key value hlookup

theorem Validated.step {table : Table} (htable : Validated table) (call : Call) :
    Validated (call.step table) := by
  unfold Call.step
  rcases run_cases table call with ⟨err, herr⟩ | ⟨hok, hedits⟩
  · rwa [herr]
  · rw [hok]
    exact List.foldlRecOn call.edits Edit.apply htable
      fun table hvalidated edit hedit ↦ hvalidated.apply (hedits edit hedit)

/-- The table after a run of calls from an empty one. -/
def tableAfter (calls : List Call) : Table := calls.foldl Call.step ∅

theorem validated_tableAfter (calls : List Call) : Validated (tableAfter calls) := by
  have hempty : Validated ∅ := fun scope key value h ↦ by simp at h
  exact List.foldlRecOn calls Call.step hempty fun table htable call _ ↦ htable.step call

/-- The table after a run is the table its accepted edits make. -/
theorem foldl_step_eq (calls : List Call) (table : Table) :
    calls.foldl Call.step table = (acceptedEdits table calls).foldl Edit.apply table := by
  induction calls generalizing table with
  | nil => rfl
  | cons call calls ih =>
    rw [List.foldl_cons, ih]
    unfold acceptedEdits
    rw [Machine.trail_cons, List.flatMap_cons, List.foldl_append]
    congr 1
    unfold Call.step
    rcases run_cases table call with ⟨err, herr⟩ | ⟨hok, _⟩
    · simp only [herr, List.foldl_nil]
    · simp only [hok]

/-- The table holds exactly the last accepted values. -/
theorem lookup_tableAfter (calls : List Call) (scope : Option UUID) (key : Text) :
    (tableAfter calls).lookup (scope, key) = lastValue (acceptedEdits ∅ calls) scope key := by
  unfold tableAfter lastValue
  rw [foldl_step_eq, lookup_foldl_apply, AList.lookup_empty]

/-! ## Resolution -/

theorem validateValue_of_validateEntry {key value : Text} (h : validateEntry key value = .ok ()) :
    validateValue key value = .ok () := by
  unfold validateEntry at h
  split at h
  · cases h
  · exact h

/-- Overrides among which those of a key all have one value set the field to it, and overrides without
the key leave the field alone. -/
theorem field_applyOverrides {settings : List Setting} {key : Key} (value : Text)
    (hvalue : ∀ setting ∈ settings, setting.key = key.name → setting.value = value)
    (resolved : Resolved) :
    (applyOverrides resolved settings).field key =
      if ∃ setting ∈ settings, setting.key = key.name then key.read value (resolved.field key)
      else resolved.field key := by
  unfold applyOverrides
  induction settings generalizing resolved with
  | nil => exact (if_neg (by simp)).symm
  | cons setting settings ih =>
    obtain ⟨hfirst, hrest⟩ := List.forall_mem_cons.mp hvalue
    rw [List.foldl_cons, ih hrest]
    by_cases hkey : setting.key = key.name
    · have hself : (applyOverride resolved setting).field key =
          key.read value (resolved.field key) := by
        rw [← hfirst hkey, ← field_applyOverride_self resolved setting.instanceID, ← hkey]
      rw [hself, key.read_read, ite_self, if_pos ⟨setting, List.mem_cons_self, hkey⟩]
    · rw [field_applyOverride_of_ne resolved setting hkey]
      refine if_congr ?_ rfl rfl
      simp [hkey]

/-- A scope with a value for a key reads it into the field; one without leaves the field alone. -/
theorem field_listScope (table : Table) (scope : Option UUID) (key : Key) (resolved : Resolved) :
    (applyOverrides resolved (listScope table scope)).field key =
      match table.lookup (scope, key.name) with
      | some value => key.read value (resolved.field key)
      | none => resolved.field key := by
  cases hlookup : table.lookup (scope, key.name) with
  | some value =>
    rw [field_applyOverrides value]
    · exact if_pos ⟨⟨scope, key.name, value⟩, mem_listScope.mpr ⟨rfl, hlookup⟩, rfl⟩
    · intro setting hsetting hkey
      obtain ⟨-, hfound⟩ := mem_listScope.mp hsetting
      rw [hkey, hlookup] at hfound
      exact (Option.some.inj hfound).symm
  | none =>
    have habsent : ∀ setting ∈ listScope table scope, setting.key ≠ key.name := by
      intro setting hsetting hkey
      obtain ⟨-, hfound⟩ := mem_listScope.mp hsetting
      rw [hkey, hlookup] at hfound
      cases hfound
    rw [field_applyOverrides [] fun setting hsetting hkey ↦
      absurd hkey (habsent setting hsetting)]
    exact if_neg fun ⟨setting, hsetting, hkey⟩ ↦ habsent setting hsetting hkey

/-- The field of a validated table's resolution: the instance's value, else the global one, else the
default. -/
theorem field_resolve {table : Table} (htable : Validated table) (instanceID : UUID) (key : Key) :
    ∃ resolved, Service.resolve table instanceID none none = .ok resolved ∧
      match (table.lookup (some instanceID, key.name)).or (table.lookup (none, key.name)) with
      | some value => key.parse value = some (resolved.field key)
      | none => resolved.field key = defaults.field key := by
  refine ⟨_, rfl, ?_⟩
  have hvalid {scope : Option UUID} {value : Text}
      (hlookup : table.lookup (scope, key.name) = some value) :
      validateValue key.name value = .ok () :=
    validateValue_of_validateEntry (htable scope key.name value hlookup)
  rw [field_listScope, field_listScope]
  cases hinstance : table.lookup (some instanceID, key.name) with
  | some value => exact key.parse_of_valid (hvalid hinstance) _
  | none =>
    rw [Option.none_or]
    cases hglobal : table.lookup (none, key.name) with
    | some value => exact key.parse_of_valid (hvalid hglobal) _
    | none => rfl

/-- Resolved settings of a validated table are in the validator's bounds. -/
theorem resolve_valid {table : Table} (htable : Validated table) {instanceID : UUID}
    {globalFailure instanceFailure : Option String} {resolved : Resolved}
    (h : Service.resolve table instanceID globalFailure instanceFailure = .ok resolved) :
    resolved.Valid := by
  have hscope (scope : Option UUID) {start : Resolved} (hstart : start.Valid) :
      (applyOverrides start (listScope table scope)).Valid := by
    refine List.foldlRecOn (listScope table scope) applyOverride hstart ?_
    intro current hcurrent setting hsetting
    obtain ⟨_, hlookup⟩ := mem_listScope.mp hsetting
    exact hcurrent.applyOverride
      (validateValue_of_validateEntry (htable scope setting.key setting.value hlookup))
  unfold Service.resolve listGlobal listByInstance at h
  cases globalFailure with
  | some err => cases h
  | none =>
    cases instanceFailure with
    | some err => cases h
    | none =>
      rw [← Except.ok.inj h]
      exact hscope (some instanceID) (hscope none defaults_valid)

/-! ## Scopes -/

/-- An edit in one scope does not change what another scope lists. -/
theorem listScope_apply (table : Table) (edit : Edit) {scope other : Option UUID}
    (hscope : edit.scope = scope) (hother : other ≠ scope) :
    listScope (edit.apply table) other = listScope table other := by
  have hkey (key : Text) (value : Text) :
      decide ((⟨(scope, key), value⟩ : Sigma fun _ : Option UUID × Text ↦ Text).1.1 = other) =
        false := decide_eq_false hother.symm
  subst hscope
  cases edit with
  | write s k v =>
    unfold listScope Edit.apply upsertRow
    rw [KeyedTable.filter_entries_insert table (s, k) v (hkey k)]
  | clear s k =>
    unfold listScope Edit.apply deleteRow
    rw [KeyedTable.filter_entries_erase table (s, k) (hkey k)]

theorem scope_of_mem_edits {call : Call} {edit : Edit} (h : edit ∈ call.edits) :
    edit.scope = call.scope := by
  cases call with
  | set instanceID key value failure => rw [List.mem_singleton.mp h]; rfl
  | setBatch instanceID entries faults =>
    obtain ⟨entry, _, rfl⟩ := List.mem_map.mp h
    rfl
  | remove instanceID key failure => rw [List.mem_singleton.mp h]; rfl
  | removeBatch instanceID keys faults =>
    obtain ⟨key, _, rfl⟩ := List.mem_map.mp h
    rfl

theorem listScope_foldl {edits : List Edit} {scope other : Option UUID}
    (hscope : ∀ edit ∈ edits, edit.scope = scope) (hother : other ≠ scope) (table : Table) :
    listScope (edits.foldl Edit.apply table) other = listScope table other := by
  refine List.foldlRecOn (motive := fun changed ↦ listScope changed other = listScope table other)
    edits Edit.apply rfl ?_
  intro changed hchanged edit hedit
  rw [listScope_apply changed edit (hscope edit hedit) hother, hchanged]

theorem listScope_run (table : Table) (call : Call) {other : Option UUID}
    (hother : other ≠ call.scope) : listScope (call.run table).2 other = listScope table other := by
  rcases run_cases table call with ⟨err, herr⟩ | ⟨hok, _⟩
  · rw [herr]
  · rw [hok]
    exact listScope_foldl (fun edit hedit ↦ scope_of_mem_edits hedit) hother table

/-- A call for one instance changes neither the global settings nor any other instance's. -/
theorem resolve_run_of_scope (table : Table) (call : Call) {instanceID : UUID}
    (hscope : call.scope = some instanceID) (globalFailure instanceFailure : Option String) :
    (∀ other, other ≠ instanceID →
      Service.resolve (call.run table).2 other globalFailure instanceFailure =
        Service.resolve table other globalFailure instanceFailure) ∧
      Service.resolveGlobal (call.run table).2 globalFailure =
        Service.resolveGlobal table globalFailure := by
  have hnone : none ≠ call.scope := by simp [hscope]
  have hglobal := listScope_run table call hnone
  constructor
  · intro other hother
    have hsome : some other ≠ call.scope := by simpa [hscope] using hother
    have hinstance := listScope_run table call hsome
    simp only [Service.resolve, listGlobal, listByInstance, hglobal, hinstance]
  · simp only [Service.resolveGlobal, listGlobal, hglobal]

/-- The store and its resolution agree over every run: a field resolves to the last accepted value of
the instance, else to the last accepted global value, else to the default; a rejected or failed call
changes nothing; and calls for one instance do not reach any other. -/
theorem resolve_eq_last_accepted (calls : List Call) :
    (∀ (instanceID : UUID) (key : Key), ∃ resolved,
      Service.resolve (tableAfter calls) instanceID none none = .ok resolved ∧
        match (lastValue (acceptedEdits ∅ calls) (some instanceID) key.name).or
          (lastValue (acceptedEdits ∅ calls) none key.name) with
        | some value => key.parse value = some (resolved.field key)
        | none => resolved.field key = defaults.field key) ∧
    (∀ (call : Call) (err : Error), (call.run (tableAfter calls)).1 = .error err →
      (call.run (tableAfter calls)).2 = tableAfter calls) ∧
    (∀ (call : Call) (instanceID : UUID), call.scope = some instanceID →
      ∀ globalFailure instanceFailure : Option String,
      (∀ other, other ≠ instanceID →
        Service.resolve (call.run (tableAfter calls)).2 other globalFailure instanceFailure =
          Service.resolve (tableAfter calls) other globalFailure instanceFailure) ∧
        Service.resolveGlobal (call.run (tableAfter calls)).2 globalFailure =
          Service.resolveGlobal (tableAfter calls) globalFailure) := by
  refine ⟨fun instanceID key ↦ ?_, fun call err herr ↦ ?_, fun call instanceID hscope _ _ ↦ ?_⟩
  · rw [← lookup_tableAfter, ← lookup_tableAfter]
    exact field_resolve (validated_tableAfter calls) instanceID key
  · rcases run_cases (tableAfter calls) call with ⟨err, herr'⟩ | ⟨hok, _⟩
    · rw [herr']
    · rw [hok] at herr
      cases herr
  · exact resolve_run_of_scope (tableAfter calls) call hscope _ _

/-- An instance's batch size stands over the global one, and a batch with an invalid entry is not
written. -/
theorem resolve_eq_last_accepted_batch_size :
    let calls : List Call := [.set none "batch_size".toList "5".toList none,
      .set (some 1) "batch_size".toList "7".toList none]
    let rejected : Call := .setBatch none
      [⟨"batch_size".toList, "9".toList⟩, ⟨"search_limit".toList, "0".toList⟩] TxFaults.none
    (∃ resolved, Service.resolve (tableAfter calls) 1 none none = .ok resolved ∧
      resolved.batchSize = 7) ∧
      (rejected.run (tableAfter calls)).2 = tableAfter calls := by
  intro calls rejected
  obtain ⟨hresolve, hrejected, -⟩ := resolve_eq_last_accepted calls
  constructor
  · obtain ⟨resolved, hresolved, hfield⟩ := hresolve 1 .batchSize
    have hlast : (lastValue (acceptedEdits ∅ calls) (some 1) Key.batchSize.name).or
        (lastValue (acceptedEdits ∅ calls) none Key.batchSize.name) = some "7".toList := by
      simp only [calls]
      decide
    rw [hlast] at hfield
    have hparse : GoStd.atoi "7".toList = some 7 := by decide
    exact ⟨resolved, hresolved, (Option.some.inj (hparse.symm.trans hfield)).symm⟩
  · exact hrejected rejected (.invalidValue "search_limit".toList "0".toList) rfl

end Huntarr2.Settings
