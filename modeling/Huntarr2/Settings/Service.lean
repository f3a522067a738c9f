import Huntarr2.Database.Transaction
import Huntarr2.Foundation.KeyedTable
import Huntarr2.Settings.Settings
import Mathlib.Data.List.Sort

/-!
# The settings store and service

The two partial unique indexes of the settings table allow at most one row per instance and key and
at most one global row per key, so the table is keyed by an optional instance and a key. Every
operation takes the database errors it meets.
-/

namespace Huntarr2.Settings

open Database

/-- The settings table; the row ID and the update time play no part in any result. -/
abbrev Table := KeyedTable (Option UUID × Text) Text

/-- `%q` of a text without characters that need escaping. -/
def quoted (text : Text) : String := "\"" ++ String.ofList text ++ "\""

/-! ## Repository -/

/-- The rows of one scope in the order of their keys. -/
def listScope (table : Table) (scope : Option UUID) : List Setting :=
  let rows := table.entries.filter fun row ↦ row.1.1 = scope
  (rows.map fun row ↦ (⟨row.1.1, row.1.2, row.2⟩ : Setting)).insertionSort fun first second ↦
    first.key ≤ second.key

/-- `SQLiteRepository.ListGlobal`. -/
def listGlobal (table : Table) (failure : Option String) : Except String (List Setting) :=
  match failure with
  | some err => .error s!"querying global settings: {err}"
  | none => .ok (listScope table none)

/-- `SQLiteRepository.ListByInstance`. -/
def listByInstance (table : Table) (instanceID : UUID) (failure : Option String) :
    Except String (List Setting) :=
  match failure with
  | some err => .error s!"querying instance settings: {err}"
  | none => .ok (listScope table (some instanceID))

/-- The upsert under the unique index of the setting's scope. -/
def upsertRow (table : Table) (setting : Setting) : Table :=
  table.insert (setting.instanceID, setting.key) setting.value

/-- `execUpsert`. -/
def execUpsert (table : Table) (setting : Setting) (failure : Option String) :
    Except String Table :=
  match failure, setting.instanceID with
  | some err, none => .error s!"upserting global setting {quoted setting.key}: {err}"
  | some err, some _ => .error s!"upserting instance setting {quoted setting.key}: {err}"
  | none, _ => .ok (upsertRow table setting)

/-- A single statement outside a transaction. -/
def autocommit (table : Table) (result : Except String Table) : Except String Unit × Table :=
  match result with
  | .ok changed => (.ok (), changed)
  | .error err => (.error err, table)

/-- `SQLiteRepository.Upsert`. -/
def upsert (table : Table) (setting : Setting) (failure : Option String) :
    Except String Unit × Table :=
  autocommit table (execUpsert table setting failure)

/-- `SQLiteRepository.UpsertBatch`. -/
def upsertBatch (table : Table) (settings : List Setting) (faults : TxFaults) :
    Except String Unit × Table :=
  withTx table faults fun tx ↦ execAll tx execUpsert faults settings

def deleteRow (table : Table) (instanceID : Option UUID) (key : Text) : Table :=
  table.erase (instanceID, key)

/-- The DELETE of the instance's scope. -/
def execDelete (instanceID : Option UUID) (table : Table) (key : Text) (failure : Option String) :
    Except String Table :=
  match failure, instanceID with
  | some err, none => .error s!"deleting global setting {quoted key}: {err}"
  | some err, some _ => .error s!"deleting instance setting {quoted key}: {err}"
  | none, _ => .ok (deleteRow table instanceID key)

/-- `SQLiteRepository.Delete`. -/
def delete (table : Table) (instanceID : Option UUID) (key : Text) (failure : Option String) :
    Except String Unit × Table :=
  autocommit table (execDelete instanceID table key failure)

/-- `SQLiteRepository.DeleteBatch`. -/
def deleteBatch (table : Table) (instanceID : Option UUID) (keys : List Text) (faults : TxFaults) :
    Except String Unit × Table :=
  withTx table faults fun tx ↦ execAll tx (execDelete instanceID) faults keys

/-! ## Service -/

/-- A repository result as the service passes it on. -/
def passOn (result : Except String Unit × Table) : Except Error Unit × Table :=
  (result.1.mapError Error.repository, result.2)

/-- `SettingEntry`. -/
structure SettingEntry where
  key : Text
  value : Text
  deriving DecidableEq, Repr

namespace Service

/-- `Service.Set`. -/
def set (table : Table) (instanceID : Option UUID) (key value : Text) (failure : Option String) :
    Except Error Unit × Table :=
  match validateEntry key value with
  | .error err => (.error err, table)
  | .ok _ => passOn (upsert table ⟨instanceID, key, value⟩ failure)

/-- `Service.SetBatch`: every entry is validated before anything is written. -/
def setBatch (table : Table) (instanceID : Option UUID) (entries : List SettingEntry)
    (faults : TxFaults) : Except Error Unit × Table :=
  match forM entries fun entry ↦ validateEntry entry.key entry.value with
  | .error err => (.error err, table)
  | .ok _ =>
    passOn (upsertBatch table (entries.map fun entry ↦ ⟨instanceID, entry.key, entry.value⟩) faults)

/-- The check of a key before it is removed. -/
def checkKey (key : Text) : Except Error Unit :=
  if !validKey key then .error (.unknownKey key) else .ok ()

/-- `Service.Remove`. -/
def remove (table : Table) (instanceID : Option UUID) (key : Text) (failure : Option String) :
    Except Error Unit × Table :=
  match checkKey key with
  | .error err => (.error err, table)
  | .ok _ => passOn (delete table instanceID key failure)

/-- `Service.RemoveBatch`. -/
def removeBatch (table : Table) (instanceID : Option UUID) (keys : List Text) (faults : TxFaults) :
    Except Error Unit × Table :=
  match forM keys checkKey with
  | .error err => (.error err, table)
  | .ok _ => passOn (deleteBatch table instanceID keys faults)

/-- `Service.Resolve`, with the errors of its two reads. -/
def resolve (table : Table) (instanceID : UUID) (globalFailure instanceFailure : Option String) :
    Except String Resolved :=
  match listGlobal table globalFailure with
  | .error err => .error s!"loading global settings: {err}"
  | .ok global =>
    match listByInstance table instanceID instanceFailure with
    | .error err => .error s!"loading instance settings: {err}"
    | .ok perInst => .ok (applyOverrides (applyOverrides defaults global) perInst)

/-- `Service.ResolveGlobal`. -/
def resolveGlobal (table : Table) (globalFailure : Option String) : Except String Resolved :=
  match listGlobal table globalFailure with
  | .error err => .error s!"loading global settings: {err}"
  | .ok global => .ok (applyOverrides defaults global)

end Service

/-! ## What the operations do to the table -/

theorem mem_listScope {table : Table} {scope : Option UUID} {setting : Setting} :
    setting ∈ listScope table scope ↔
      setting.instanceID = scope ∧ table.lookup (scope, setting.key) = some setting.value := by
  unfold listScope
  simp only [List.mem_insertionSort, List.mem_map, List.mem_filter, decide_eq_true_eq]
  constructor
  · rintro ⟨⟨⟨instanceID, key⟩, value⟩, ⟨hrow, rfl⟩, rfl⟩
    exact ⟨rfl, AList.mem_lookup_iff.mpr hrow⟩
  · rintro ⟨rfl, hlookup⟩
    exact ⟨⟨(setting.instanceID, setting.key), setting.value⟩,
      ⟨AList.mem_lookup_iff.mp hlookup, rfl⟩, rfl⟩

theorem execUpsert_ok {table changed : Table} {setting : Setting} {failure : Option String}
    (h : execUpsert table setting failure = .ok changed) : changed = upsertRow table setting := by
  unfold execUpsert at h
  split at h
  · cases h
  · cases h
  · exact (Except.ok.inj h).symm

theorem execDelete_ok {instanceID : Option UUID} {table changed : Table} {key : Text}
    {failure : Option String} (h : execDelete instanceID table key failure = .ok changed) :
    changed = deleteRow table instanceID key := by
  unfold execDelete at h
  split at h
  · cases h
  · cases h
  · exact (Except.ok.inj h).symm

end Huntarr2.Settings
