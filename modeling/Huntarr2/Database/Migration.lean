import Huntarr2.Instance.Store

/-!
# The migration that splits the app type whisparr

Migration 002 rebuilds the instances table, which four tables reference, outside a transaction. The
database is the rows of the five tables with what the statements read and change: the enforcement of
foreign keys, the name of the table and the names the references use, its CHECK constraint, its index
and its trigger.
-/

namespace Huntarr2.Migrations

/-! ## Tables -/

/-- The names the instances table bears. -/
inductive TableName
  | instances
  | instancesNew
  | instancesOld
  deriving DecidableEq, Repr

/-- A row of the instances table. A column holds a value of type `V`, or NULL where no constraint
forbids it; a TEXT primary key may be NULL. -/
structure InstanceRow (V : Type*) where
  id : Option V
  name : V
  appType : String
  baseURL : V
  apiKeyEnc : V
  timeoutMs : V
  createdAt : V
  updatedAt : V
  deriving DecidableEq

/-- A table with the columns of `instances` and the app types its CHECK constraint lists. -/
@[ext]
structure InstancesTable (V : Type*) where
  appTypes : List String
  rows : List (InstanceRow V)
  unique : (rows.filterMap InstanceRow.id).Nodup
  checked : ∀ row ∈ rows, row.appType ∈ appTypes

/-- A table that was just created. -/
def InstancesTable.empty {V : Type*} (appTypes : List String) : InstancesTable V where
  appTypes := appTypes
  rows := []
  unique := List.nodup_nil
  checked _ hrow := absurd hrow List.not_mem_nil

structure SettingRow (V : Type*) where
  id : Option V
  instanceID : Option V
  settingKey : V
  value : V
  updatedAt : V
  deriving DecidableEq

structure CooldownRow (V : Type*) where
  instanceID : V
  itemID : V
  searchedAt : V
  deriving DecidableEq

structure PollStateRow (V : Type*) where
  instanceID : Option V
  lastPolled : V
  updatedAt : V
  deriving DecidableEq

structure ActivityRow (V : Type*) where
  id : Option V
  instanceID : Option V
  level : V
  action : V
  message : V
  details : Option V
  createdAt : V
  deriving DecidableEq

/-- A table with a column that `REFERENCES` the named table. -/
structure ReferencingTable (ρ : Type*) where
  references : TableName
  rows : List ρ
  deriving DecidableEq

structure Database (V : Type*) where
  foreignKeys : Bool
  inTransaction : Bool
  tables : TableName → Option (InstancesTable V)
  /-- The table of `idx_instances_app_type`. -/
  appTypeIndex : Option TableName
  /-- The table of `trg_instances_updated_at`. -/
  updatedAtTrigger : Option TableName
  settings : ReferencingTable (SettingRow V)
  searchCooldowns : ReferencingTable (CooldownRow V)
  historyPollState : ReferencingTable (PollStateRow V)
  activityLog : ReferencingTable (ActivityRow V)

/-! ## Statements -/

/-- The statements of the migration. `CASE app_type WHEN … THEN … ELSE app_type END` is the list of its
branches. -/
inductive Statement
  | pragmaForeignKeys (on : Bool)
  | createTable (name : TableName) (appTypes : List String)
  | insertSelect (target source : TableName) (branches : List (String × String))
  | dropTable (name : TableName)
  | renameTable (old new : TableName)
  | createIndex (on : TableName)
  | createTrigger (on : TableName)

/-- The value of the CASE expression. -/
def caseAppType (branches : List (String × String)) (appType : String) : String :=
  (branches.lookup appType).getD appType

/-- The selected row. -/
def InstanceRow.select {V : Type*} (branches : List (String × String)) (row : InstanceRow V) :
    InstanceRow V :=
  { row with appType := caseAppType branches row.appType }

section Execution

variable {V : Type*} [DecidableEq V]

/-- `ON DELETE CASCADE`. -/
def ReferencingTable.cascade {ρ : Type*} (table : ReferencingTable ρ) (instanceID : ρ → Option V)
    (name : TableName) (deleted : List V) : ReferencingTable ρ :=
  if table.references = name then
    { table with rows := table.rows.filter fun row ↦ (instanceID row).all (· ∉ deleted) }
  else table

/-- `ON DELETE SET NULL`, of the activity log. -/
def ReferencingTable.setNull (table : ReferencingTable (ActivityRow V)) (name : TableName)
    (deleted : List V) : ReferencingTable (ActivityRow V) :=
  if table.references = name then
    { table with rows := table.rows.map fun row ↦
        if row.instanceID.any (· ∈ deleted) then { row with instanceID := none } else row }
  else table

/-- The references of a table follow a table that is renamed. -/
def ReferencingTable.rename {ρ : Type*} (table : ReferencingTable ρ) (old new : TableName) :
    ReferencingTable ρ :=
  if table.references = old then { table with references := new } else table

/-- The implicit `DELETE FROM` of a dropped table, where foreign keys are enforced. -/
def Database.deleteReferences (db : Database V) (name : TableName) (deleted : List V) : Database V :=
  { db with
    settings := db.settings.cascade SettingRow.instanceID name deleted
    searchCooldowns := db.searchCooldowns.cascade (some ∘ CooldownRow.instanceID) name deleted
    historyPollState := db.historyPollState.cascade PollStateRow.instanceID name deleted
    activityLog := db.activityLog.setNull name deleted }

/-- The rows are inserted if the primary key and the CHECK constraint allow all of them. -/
def InstancesTable.insertRows (table : InstancesTable V) (rows : List (InstanceRow V)) :
    Except String (InstancesTable V) :=
  if hunique : ((table.rows ++ rows).filterMap InstanceRow.id).Nodup then
    if hchecked : ∀ row ∈ table.rows ++ rows, row.appType ∈ table.appTypes then
      .ok ⟨table.appTypes, table.rows ++ rows, hunique, hchecked⟩
    else .error "CHECK constraint failed"
  else .error "UNIQUE constraint failed"

/-- One statement. The pragma does nothing inside a transaction. -/
def exec (db : Database V) : Statement → Except String (Database V)
  | .pragmaForeignKeys on =>
    .ok (if db.inTransaction then db else { db with foreignKeys := on })
  | .createTable name appTypes =>
    match db.tables name with
    | some _ => .error "table already exists"
    | none => .ok { db with
        tables := Function.update db.tables name (some (.empty appTypes)) }
  | .insertSelect target source branches =>
    match db.tables target, db.tables source with
    | some table, some selected =>
      match table.insertRows (selected.rows.map (InstanceRow.select branches)) with
      | .error err => .error err
      | .ok filled => .ok { db with tables := Function.update db.tables target (some filled) }
    | _, _ => .error "no such table"
  | .dropTable name =>
    match db.tables name with
    | none => .error "no such table"
    | some table =>
      let db := if db.foreignKeys then
        db.deleteReferences name (table.rows.filterMap InstanceRow.id) else db
      .ok { db with
        tables := Function.update db.tables name none
        appTypeIndex := db.appTypeIndex.filter (· ≠ name)
        updatedAtTrigger := db.updatedAtTrigger.filter (· ≠ name) }
  | .renameTable old new =>
    match db.tables old, db.tables new with
    | some table, none => .ok { db with
        tables := Function.update (Function.update db.tables old none) new (some table)
        appTypeIndex := db.appTypeIndex.map fun name ↦ if name = old then new else name
        updatedAtTrigger := db.updatedAtTrigger.map fun name ↦ if name = old then new else name
        settings := db.settings.rename old new
        searchCooldowns := db.searchCooldowns.rename old new
        historyPollState := db.historyPollState.rename old new
        activityLog := db.activityLog.rename old new }
    | none, _ => .error "no such table"
    | some _, some _ => .error "there is already another table with this name"
  | .createIndex on =>
    match db.tables on, db.appTypeIndex with
    | some _, none => .ok { db with appTypeIndex := some on }
    | none, _ => .error "no such table"
    | some _, some _ => .error "index idx_instances_app_type already exists"
  | .createTrigger on =>
    match db.tables on, db.updatedAtTrigger with
    | some _, none => .ok { db with updatedAtTrigger := some on }
    | none, _ => .error "no such table"
    | some _, some _ => .error "trigger trg_instances_updated_at already exists"

/-- The statements in order, up to the first that fails. -/
def execAll (db : Database V) : List Statement → Except String Unit × Database V
  | [] => (.ok (), db)
  | statement :: statements =>
    match exec db statement with
    | .error err => (.error err, db)
    | .ok db => execAll db statements

/-- A migration file. -/
structure Migration where
  noTransaction : Bool
  up : List Statement
  down : List Statement

/-- One direction of a migration, in a transaction unless the file says otherwise. -/
def Migration.run (migration : Migration) (statements : List Statement) (db : Database V) :
    Except String Unit × Database V :=
  if migration.noTransaction then execAll db statements
  else match execAll { db with inTransaction := true } statements with
    | (.error err, _) => (.error err, db)
    | (.ok (), changed) => (.ok (), { changed with inTransaction := false })

end Execution

/-! ## The schema and its migration -/

/-- The CHECK constraint of migration 001. -/
def initialAppTypes : List String := ["sonarr", "radarr", "lidarr", "whisparr"]

/-- `002_whisparr_app_type_split.sql`. -/
def whisparrAppTypeSplit : Migration where
  noTransaction := true
  up :=
    [.pragmaForeignKeys false,
      .createTable .instancesNew ["sonarr", "radarr", "lidarr", "whisparr-v2", "whisparr-v3"],
      .insertSelect .instancesNew .instances [("whisparr", "whisparr-v2")],
      .dropTable .instances,
      .renameTable .instancesNew .instances,
      .createIndex .instances,
      .createTrigger .instances,
      .pragmaForeignKeys true]
  down :=
    [.pragmaForeignKeys false,
      .createTable .instancesOld ["sonarr", "radarr", "lidarr", "whisparr"],
      .insertSelect .instancesOld .instances
        [("whisparr-v2", "whisparr"), ("whisparr-v3", "whisparr")],
      .dropTable .instances,
      .renameTable .instancesOld .instances,
      .createIndex .instances,
      .createTrigger .instances,
      .pragmaForeignKeys true]

/-! ## Rebuilding the table -/

section Rebuilding

variable {V : Type*}

/-- The statements both directions have in common. -/
def rebuild (temporary : TableName) (appTypes : List String) (branches : List (String × String)) :
    List Statement :=
  [.pragmaForeignKeys false,
    .createTable temporary appTypes,
    .insertSelect temporary .instances branches,
    .dropTable .instances,
    .renameTable temporary .instances,
    .createIndex .instances,
    .createTrigger .instances,
    .pragmaForeignKeys true]

theorem filterMap_id_select (rows : List (InstanceRow V)) (branches : List (String × String)) :
    (rows.map (InstanceRow.select branches)).filterMap InstanceRow.id =
      rows.filterMap InstanceRow.id := by
  rw [List.filterMap_map]
  rfl

/-- The table with the selected rows. -/
def InstancesTable.select (table : InstancesTable V) (appTypes : List String)
    (branches : List (String × String))
    (h : ∀ row ∈ table.rows, caseAppType branches row.appType ∈ appTypes) : InstancesTable V where
  appTypes := appTypes
  rows := table.rows.map (InstanceRow.select branches)
  unique := by
    rw [filterMap_id_select]
    exact table.unique
  checked := by
    intro row hrow
    obtain ⟨old, hold, rfl⟩ := List.mem_map.mp hrow
    exact h old hold

/-- What a table must be for its rebuilding. -/
structure Database.Rebuildable (db : Database V) (table : InstancesTable V) : Prop where
  autocommit : db.inTransaction = false
  stored : db.tables .instances = some table
  alone : ∀ name, name ≠ .instances → db.tables name = none
  appTypeIndex_eq : db.appTypeIndex = some .instances
  updatedAtTrigger_eq : db.updatedAtTrigger = some .instances
  settings_references : db.settings.references = .instances
  searchCooldowns_references : db.searchCooldowns.references = .instances
  historyPollState_references : db.historyPollState.references = .instances
  activityLog_references : db.activityLog.references = .instances

/-- The database with another instances table, and with foreign keys enforced. -/
def Database.withInstances (db : Database V) (table : InstancesTable V) : Database V :=
  { db with
    foreignKeys := true
    tables := Function.update db.tables .instances (some table) }

theorem ReferencingTable.rename_of_ne {ρ : Type*} {table : ReferencingTable ρ} {old new : TableName}
    (h : table.references ≠ old) : table.rename old new = table := if_neg h

variable [DecidableEq V]

theorem execAll_cons {db changed : Database V} {statement : Statement} {statements : List Statement}
    (h : exec db statement = .ok changed) :
    execAll db (statement :: statements) = execAll changed statements := by
  rw [execAll, h]

theorem insertRows_empty {appTypes : List String} {table : InstancesTable V}
    {branches : List (String × String)}
    (h : ∀ row ∈ table.rows, caseAppType branches row.appType ∈ appTypes) :
    (InstancesTable.empty appTypes).insertRows (table.rows.map (InstanceRow.select branches)) =
      .ok (table.select appTypes branches h) := by
  have hunique : (((InstancesTable.empty appTypes).rows ++
      table.rows.map (InstanceRow.select branches)).filterMap InstanceRow.id).Nodup :=
    (table.select appTypes branches h).unique
  have hchecked : ∀ row ∈ (InstancesTable.empty appTypes).rows ++
      table.rows.map (InstanceRow.select branches), row.appType ∈ appTypes :=
    (table.select appTypes branches h).checked
  exact (dif_pos hunique).trans (dif_pos hchecked)

section Statements

variable {db : Database V} {name other : TableName} {table : InstancesTable V}

theorem exec_pragmaForeignKeys (h : db.inTransaction = false) (on : Bool) :
    exec db (.pragmaForeignKeys on) = .ok { db with foreignKeys := on } := by
  rw [exec, h]
  rfl

theorem exec_createTable (h : db.tables name = none) (appTypes : List String) :
    exec db (.createTable name appTypes) =
      .ok { db with tables := Function.update db.tables name (some (.empty appTypes)) } := by
  rw [exec, h]

theorem exec_insertSelect {selected filled : InstancesTable V} {branches : List (String × String)}
    (htable : db.tables name = some table) (hselected : db.tables other = some selected)
    (hfilled : table.insertRows (selected.rows.map (InstanceRow.select branches)) = .ok filled) :
    exec db (.insertSelect name other branches) =
      .ok { db with tables := Function.update db.tables name (some filled) } := by
  rw [exec, htable, hselected]
  dsimp only
  rw [hfilled]

/-- Where foreign keys are not enforced, dropping a table does not touch the referencing tables. -/
theorem exec_dropTable (hoff : db.foreignKeys = false) (h : db.tables name = some table) :
    exec db (.dropTable name) = .ok { db with
      tables := Function.update db.tables name none
      appTypeIndex := db.appTypeIndex.filter (· ≠ name)
      updatedAtTrigger := db.updatedAtTrigger.filter (· ≠ name) } := by
  rw [exec, h]
  dsimp only
  rw [if_neg (by rw [hoff]; decide)]

/-- Renaming a table that nothing references, indexes or triggers on. -/
theorem exec_renameTable (hold : db.tables name = some table) (hnew : db.tables other = none)
    (hindex : db.appTypeIndex = none) (htrigger : db.updatedAtTrigger = none)
    (hsettings : db.settings.references ≠ name)
    (hcooldowns : db.searchCooldowns.references ≠ name)
    (hpollState : db.historyPollState.references ≠ name)
    (hactivity : db.activityLog.references ≠ name) :
    exec db (.renameTable name other) = .ok { db with
      tables := Function.update (Function.update db.tables name none) other (some table) } := by
  rw [exec, hold, hnew]
  dsimp only
  rw [hindex, htrigger, ReferencingTable.rename_of_ne hsettings,
    ReferencingTable.rename_of_ne hcooldowns, ReferencingTable.rename_of_ne hpollState,
    ReferencingTable.rename_of_ne hactivity]
  rfl

theorem exec_createIndex (h : db.tables name = some table) (hnone : db.appTypeIndex = none) :
    exec db (.createIndex name) = .ok { db with appTypeIndex := some name } := by
  rw [exec, h, hnone]

theorem exec_createTrigger (h : db.tables name = some table) (hnone : db.updatedAtTrigger = none) :
    exec db (.createTrigger name) = .ok { db with updatedAtTrigger := some name } := by
  rw [exec, h, hnone]

end Statements

/-- The rebuilding succeeds and replaces the table by its selection; nothing else changes, except that
foreign keys are enforced afterwards. -/
theorem execAll_rebuild {db : Database V} {table : InstancesTable V} (hdb : db.Rebuildable table)
    (temporary : TableName) (htemporary : temporary ≠ .instances) {appTypes : List String}
    {branches : List (String × String)}
    (h : ∀ row ∈ table.rows, caseAppType branches row.appType ∈ appTypes) :
    execAll db (rebuild temporary appTypes branches) =
      (.ok (), db.withInstances (table.select appTypes branches h)) := by
  obtain ⟨foreignKeys, inTransaction, tables, appTypeIndex, updatedAtTrigger, settings,
    searchCooldowns, historyPollState, activityLog⟩ := db
  obtain ⟨rfl, hstored, halone, rfl, rfl, hsettings, hcooldowns, hpollState, hactivity⟩ := hdb
  dsimp only at hstored halone hsettings hcooldowns hpollState hactivity
  have hfree : tables temporary = none := halone temporary htemporary
  have hunreferenced {references : TableName} (href : references = .instances) :
      references ≠ temporary := fun hsame ↦ htemporary (hsame.symm.trans href)
  unfold rebuild
  rw [execAll_cons (exec_pragmaForeignKeys rfl false),
    execAll_cons (exec_createTable hfree appTypes),
    execAll_cons (exec_insertSelect (Function.update_self _ _ _)
      ((Function.update_of_ne htemporary.symm _ _).trans hstored) (insertRows_empty h))]
  dsimp only
  rw [Function.update_idem]
  rw [execAll_cons (exec_dropTable rfl ((Function.update_of_ne htemporary.symm _ _).trans hstored))]
  have hfilled : Function.update (Function.update tables temporary
      (some (table.select appTypes branches h))) .instances none temporary =
        some (table.select appTypes branches h) := by
    rw [Function.update_of_ne htemporary, Function.update_self]
  have hdropped : Function.update (Function.update tables temporary
      (some (table.select appTypes branches h))) .instances none .instances = none :=
    Function.update_self _ _ _
  rw [execAll_cons (exec_renameTable hfilled hdropped rfl rfl (hunreferenced hsettings)
    (hunreferenced hcooldowns) (hunreferenced hpollState) (hunreferenced hactivity))]
  have hrenamed : Function.update (Function.update (Function.update (Function.update tables temporary
      (some (table.select appTypes branches h))) .instances none) temporary none) .instances
        (some (table.select appTypes branches h)) =
      Function.update tables .instances (some (table.select appTypes branches h)) := by
    funext name
    grind
  have hrebuilt : Function.update tables .instances (some (table.select appTypes branches h))
      .instances = some (table.select appTypes branches h) := Function.update_self _ _ _
  dsimp only
  rw [hrenamed, execAll_cons (exec_createIndex hrebuilt rfl),
    execAll_cons (exec_createTrigger hrebuilt rfl), execAll_cons (exec_pragmaForeignKeys rfl true)]
  rfl

end Rebuilding

/-! ## What the migration preserves -/

section Preservation

variable {V : Type*}

/-- A reference is NULL or the ID of a row of the table it names. -/
def Database.Resolves (db : Database V) (name : TableName) : Option V → Prop
  | none => True
  | some id => ∃ table, db.tables name = some table ∧ some id ∈ table.rows.map InstanceRow.id

structure Database.ReferencesResolve (db : Database V) : Prop where
  settings : ∀ row ∈ db.settings.rows, db.Resolves db.settings.references row.instanceID
  searchCooldowns : ∀ row ∈ db.searchCooldowns.rows,
    db.Resolves db.searchCooldowns.references (some row.instanceID)
  historyPollState : ∀ row ∈ db.historyPollState.rows,
    db.Resolves db.historyPollState.references row.instanceID
  activityLog : ∀ row ∈ db.activityLog.rows, db.Resolves db.activityLog.references row.instanceID

/-- What migration 001 promises about the instances table and the references to it. -/
structure Database.SatisfiesInitialSchema (db : Database V) (table : InstancesTable V) : Prop
    extends db.Rebuildable table where
  appTypes_eq : table.appTypes = initialAppTypes
  resolves : db.ReferencesResolve

/-- The row with the app type whisparr read as its second version. -/
def splitWhisparr (row : InstanceRow V) : InstanceRow V :=
  if row.appType = "whisparr" then { row with appType := "whisparr-v2" } else row

variable {db : Database V} {table rebuilt : InstancesTable V}

@[simp]
theorem Database.withInstances_instances (db : Database V) (table : InstancesTable V) :
    (db.withInstances table).tables .instances = some table := by
  unfold Database.withInstances
  dsimp only
  rw [Function.update_self]

theorem Database.Rebuildable.withInstances (h : db.Rebuildable table) (rebuilt : InstancesTable V) :
    (db.withInstances rebuilt).Rebuildable rebuilt :=
  { h with
    stored := db.withInstances_instances rebuilt
    alone := fun name hname ↦ (Function.update_of_ne hname _ _).trans (h.alone name hname) }

/-- A rebuilt table with the IDs of the old one keeps all references valid. -/
theorem Database.ReferencesResolve.withInstances (h : db.ReferencesResolve)
    (hdb : db.Rebuildable table)
    (hids : rebuilt.rows.map InstanceRow.id = table.rows.map InstanceRow.id) :
    (db.withInstances rebuilt).ReferencesResolve := by
  have hkept (reference : Option V) (hresolves : db.Resolves .instances reference) :
      (db.withInstances rebuilt).Resolves .instances reference := by
    cases reference with
    | none => trivial
    | some id =>
      obtain ⟨found, hfound, hmem⟩ := hresolves
      rw [hdb.stored] at hfound
      obtain rfl := Option.some.inj hfound
      exact ⟨rebuilt, db.withInstances_instances rebuilt, hids ▸ hmem⟩
  obtain ⟨hsettings, hcooldowns, hpollState, hactivity⟩ := h
  rw [hdb.settings_references] at hsettings
  rw [hdb.searchCooldowns_references] at hcooldowns
  rw [hdb.historyPollState_references] at hpollState
  rw [hdb.activityLog_references] at hactivity
  exact
    { settings := fun row hrow ↦ hdb.settings_references ▸ hkept _ (hsettings row hrow)
      searchCooldowns := fun row hrow ↦
        hdb.searchCooldowns_references ▸ hkept _ (hcooldowns row hrow)
      historyPollState := fun row hrow ↦
        hdb.historyPollState_references ▸ hkept _ (hpollState row hrow)
      activityLog := fun row hrow ↦ hdb.activityLog_references ▸ hkept _ (hactivity row hrow) }

theorem map_id_select (table : InstancesTable V) (appTypes : List String)
    (branches : List (String × String))
    (h : ∀ row ∈ table.rows, caseAppType branches row.appType ∈ appTypes) :
    (table.select appTypes branches h).rows.map InstanceRow.id = table.rows.map InstanceRow.id :=
  List.map_map

theorem select_up (row : InstanceRow V) :
    row.select [("whisparr", "whisparr-v2")] = splitWhisparr row := by
  unfold InstanceRow.select splitWhisparr caseAppType
  by_cases hwhisparr : row.appType = "whisparr"
  · rw [if_pos hwhisparr, hwhisparr]
    rfl
  · rw [if_neg hwhisparr, List.lookup_cons, beq_false_of_ne hwhisparr]
    rfl

/-- What the Down statements select from the selection of the Up statements. -/
theorem select_down_select_up {row : InstanceRow V} (h : row.appType ∈ initialAppTypes) :
    (row.select [("whisparr", "whisparr-v2")]).select
      [("whisparr-v2", "whisparr"), ("whisparr-v3", "whisparr")] = row := by
  have hback : ∀ appType ∈ initialAppTypes,
      caseAppType [("whisparr-v2", "whisparr"), ("whisparr-v3", "whisparr")]
        (caseAppType [("whisparr", "whisparr-v2")] appType) = appType := by decide
  unfold InstanceRow.select
  dsimp only
  rw [hback row.appType h]

/-- On a database with the schema of migration 001 the Up statements succeed. They change the app type
whisparr of the instances and nothing else, all app types are valid then and all references resolve. The
Down statements succeed after them and restore the database, with foreign keys enforced. -/
theorem whisparrAppTypeSplit_preserves [DecidableEq V] (db : Database V) (table : InstancesTable V)
    (h : db.SatisfiesInitialSchema table) :
    ∃ up migrated,
      whisparrAppTypeSplit.run whisparrAppTypeSplit.up db = (.ok (), up) ∧
      up.tables .instances = some migrated ∧
      migrated.rows = table.rows.map splitWhisparr ∧
      (∀ row ∈ migrated.rows, Instances.validAppType row.appType = true) ∧
      up.settings = db.settings ∧ up.searchCooldowns = db.searchCooldowns ∧
      up.historyPollState = db.historyPollState ∧ up.activityLog = db.activityLog ∧
      up.ReferencesResolve ∧
      whisparrAppTypeSplit.run whisparrAppTypeSplit.down up =
        (.ok (), { db with foreignKeys := true }) ∧
      Database.ReferencesResolve { db with foreignKeys := true } := by
  have hup : ∀ row ∈ table.rows, caseAppType [("whisparr", "whisparr-v2")] row.appType ∈
      ["sonarr", "radarr", "lidarr", "whisparr-v2", "whisparr-v3"] := by
    have hcase : ∀ appType ∈ initialAppTypes, caseAppType [("whisparr", "whisparr-v2")] appType ∈
        ["sonarr", "radarr", "lidarr", "whisparr-v2", "whisparr-v3"] := by decide
    exact fun row hrow ↦ hcase row.appType (h.appTypes_eq ▸ table.checked row hrow)
  have hdown : ∀ row ∈ (table.select _ _ hup).rows,
      caseAppType [("whisparr-v2", "whisparr"), ("whisparr-v3", "whisparr")] row.appType ∈
        ["sonarr", "radarr", "lidarr", "whisparr"] := by
    have hcase : ∀ appType ∈ ["sonarr", "radarr", "lidarr", "whisparr-v2", "whisparr-v3"],
        caseAppType [("whisparr-v2", "whisparr"), ("whisparr-v3", "whisparr")] appType ∈
          ["sonarr", "radarr", "lidarr", "whisparr"] := by decide
    exact fun row hrow ↦ hcase row.appType ((table.select _ _ hup).checked row hrow)
  have hrestored : (table.select _ _ hup).select _ _ hdown = table := by
    apply InstancesTable.ext
    · exact h.appTypes_eq.symm
    · change (table.rows.map _).map _ = table.rows
      rw [List.map_map]
      refine (List.map_congr_left fun row hrow ↦ ?_).trans (List.map_id table.rows)
      exact select_down_select_up (h.appTypes_eq ▸ table.checked row hrow)
  have hmigrated := h.toRebuildable.withInstances (table.select _ _ hup)
  have hback : (db.withInstances (table.select _ _ hup)).withInstances table =
      { db with foreignKeys := true } := by
    unfold Database.withInstances
    rw [Function.update_idem, ← h.stored, Function.update_eq_self]
  refine ⟨db.withInstances (table.select _ _ hup), table.select _ _ hup,
    execAll_rebuild h.toRebuildable .instancesNew (by decide) hup, db.withInstances_instances _,
    ?_, ?_, rfl, rfl, rfl, rfl,
    h.resolves.withInstances h.toRebuildable (map_id_select _ _ _ _), ?_, ?_⟩
  · exact List.map_congr_left fun row _ ↦ select_up row
  · intro row hrow
    have hvalid : ∀ appType ∈ ["sonarr", "radarr", "lidarr", "whisparr-v2", "whisparr-v3"],
        Instances.validAppType appType = true := by decide
    exact hvalid row.appType ((table.select _ _ hup).checked row hrow)
  · have hrun := execAll_rebuild hmigrated .instancesOld (by decide) hdown
    rw [hrestored, hback] at hrun
    exact hrun
  · obtain ⟨hsettings, hcooldowns, hpollState, hactivity⟩ := h.resolves
    exact ⟨hsettings, hcooldowns, hpollState, hactivity⟩

/-! A database with two instances and a row in every table that references them. -/

def sampleInstances : InstancesTable ℕ where
  appTypes := initialAppTypes
  rows :=
    [⟨some 1, 10, "sonarr", 11, 12, 30000, 14, 15⟩,
      ⟨some 2, 20, "whisparr", 21, 22, 5000, 24, 25⟩]
  unique := by decide
  checked := by decide

def sampleDatabase : Database ℕ where
  foreignKeys := true
  inTransaction := false
  tables := Function.update (fun _ ↦ none) .instances (some sampleInstances)
  appTypeIndex := some .instances
  updatedAtTrigger := some .instances
  settings := ⟨.instances, [⟨some 30, some 2, 31, 32, 33⟩, ⟨some 34, none, 31, 35, 33⟩]⟩
  searchCooldowns := ⟨.instances, [⟨2, 40, 41⟩]⟩
  historyPollState := ⟨.instances, [⟨some 1, 50, 51⟩]⟩
  activityLog := ⟨.instances, [⟨some 60, some 2, 61, 62, 63, none, 64⟩]⟩

theorem sampleDatabase_satisfiesInitialSchema :
    sampleDatabase.SatisfiesInitialSchema sampleInstances where
  autocommit := rfl
  stored := rfl
  alone name hname := by
    cases name with
    | instances => exact absurd rfl hname
    | instancesNew => rfl
    | instancesOld => rfl
  appTypeIndex_eq := rfl
  updatedAtTrigger_eq := rfl
  settings_references := rfl
  searchCooldowns_references := rfl
  historyPollState_references := rfl
  activityLog_references := rfl
  appTypes_eq := rfl
  resolves := by
    have hresolves (id : ℕ) (hid : id ∈ [1, 2]) : sampleDatabase.Resolves .instances (some id) :=
      ⟨sampleInstances, rfl, by revert id; decide⟩
    exact
      { settings := List.forall_mem_cons.mpr ⟨hresolves 2 (by decide),
          List.forall_mem_singleton.mpr trivial⟩
        searchCooldowns := List.forall_mem_singleton.mpr (hresolves 2 (by decide))
        historyPollState := List.forall_mem_singleton.mpr (hresolves 1 (by decide))
        activityLog := List.forall_mem_singleton.mpr (hresolves 2 (by decide)) }

/-- The migration of the sample database. -/
theorem whisparrAppTypeSplit_preserves_sample :
    ∃ up migrated,
      whisparrAppTypeSplit.run whisparrAppTypeSplit.up sampleDatabase = (.ok (), up) ∧
      up.tables .instances = some migrated ∧
      migrated.rows = sampleInstances.rows.map splitWhisparr ∧
      up.settings = sampleDatabase.settings ∧
      whisparrAppTypeSplit.run whisparrAppTypeSplit.down up =
        (.ok (), { sampleDatabase with foreignKeys := true }) := by
  obtain ⟨up, migrated, hup, hmigrated, hrows, -, hsettings, -, -, -, -, hdown, -⟩ :=
    whisparrAppTypeSplit_preserves sampleDatabase sampleInstances
      sampleDatabase_satisfiesInitialSchema
  exact ⟨up, migrated, hup, hmigrated, hrows, hsettings, hdown⟩

end Preservation

end Huntarr2.Migrations
