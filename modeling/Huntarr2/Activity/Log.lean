import Huntarr2.Clock.Timestamp
import Huntarr2.Foundation.KeyedTable
import Huntarr2.GoStd.Float64
import Huntarr2.Instance.Instance
import Mathlib.Data.List.Sort

/-!
# The activity log

The activity log keeps its creation times as RFC 3339 text in UTC. Every query compares that text
with the text of its bounds. A row can only be built together with the UTC reading its text comes
from, so every row read from the table can be scanned back.
-/

namespace Huntarr2.Activity

open Clock

inductive Level
  | debug
  | info
  | warn
  | error
  deriving DecidableEq, Repr

inductive Action
  | searchCycle
  | searchSkip
  | rateLimit
  | healthCheck
  | upgradeDetected
  | downloadDetected
  deriving DecidableEq, Repr

/-- A value of the details map; a finite floating point number is a rational. -/
inductive DetailValue
  | text (value : String)
  | int (value : ℤ)
  | real (value : ℚ)
  | bool (value : Bool)
  | items (labelled : List (String × String))
  deriving DecidableEq, Repr

/-- `map[string]any` of an entry. -/
abbrev Details := KeyedTable String DetailValue

/-- A value after JSON has been written and read: every number is a `float64`. -/
def DetailValue.decoded : DetailValue → DetailValue
  | .int value => .real (GoStd.float64 value)
  | value => value

/-- The fields of an entry that its writer chooses. -/
structure Entry where
  instanceID : Option UUID
  level : Level
  action : Action
  message : String
  details : Option Details
  deriving DecidableEq

/-- A row of `activity_log`. -/
structure Row extends Entry where
  id : UUID
  createdAt : Text
  created_utc : ∃ time : Timestamp, time.offset = 0 ∧ time.formatRFC3339Nano = createdAt

/-! ## Writing -/

/-- `SQLiteRepository.Create`; `failure` is the error of the INSERT, if it has one. -/
def create (log : List Row) (entry : Entry) (id : UUID) (now : UTCTime) (failure : Option String) :
    Except String (List Row) :=
  match failure with
  | some err => .error s!"creating activity entry: {err}"
  | none =>
    .ok (log ++ [{ entry with
      id := id
      createdAt := now.1.formatRFC3339Nano
      created_utc := ⟨now.1, now.2, rfl⟩ }])

/-- `SQLiteRepository.DeleteBefore`: the rows kept and the number removed. -/
def deleteBefore (log : List Row) (before : Timestamp) : List Row × ℕ :=
  (log.filter fun row ↦ !decide (row.createdAt < before.formatRFC3339Nano),
    (log.filter fun row ↦ decide (row.createdAt < before.formatRFC3339Nano)).length)

/-- `Service.Prune` at the process clock `now` in the process time zone `zone`. -/
def prune (log : List Row) (zone : ℤ → ℤ) (now retention : ℤ) : Option (List Row × ℕ) :=
  let before := now - retention
  (Timestamp.ofInstant before (zone before)).map fun before ↦ deleteBefore log before

/-! ## Reading -/

/-- An entry as `scanEntry` returns it. -/
structure Recorded extends Entry where
  id : UUID
  createdAt : Timestamp
  deriving DecidableEq

/-- `scanEntry`. The details column holds the JSON text of the details. -/
def scanEntry (row : Row) : Except String Recorded :=
  match parseRFC3339Nano row.createdAt with
  | some time => .ok { row.toEntry with
      details := row.details.map (·.mapValues DetailValue.decoded)
      id := row.id
      createdAt := time }
  | none => .error "parsing created_at"

/-- `ListParams`; an empty level or action is `none`. -/
structure ListParams where
  level : Option Level
  instanceID : Option UUID
  action : Option Action
  search : String
  since : Option Timestamp
  untilTime : Option Timestamp
  limit : ℤ
  offset : ℤ

/-- `patternCompare` of SQLite for `LIKE`: `%` stands for any text, `_` for any character, and ASCII
letters match in either case. -/
def patternCompare : Text → Text → Bool
  | [], text => text.isEmpty
  | '%' :: pattern, text => text.tails.any (patternCompare pattern)
  | '_' :: pattern, _ :: text => patternCompare pattern text
  | c :: pattern, d :: text => asciiLower c = asciiLower d && patternCompare pattern text
  | _ :: _, [] => false

/-- A character as `patternCompare` reads it: U+FFFE and U+FFFF are read as U+FFFD. -/
def likeChar (c : Char) : Char :=
  if c.toNat = 0xFFFE ∨ c.toNat = 0xFFFF then Char.ofNat 0xFFFD else c

/-- A text as `patternCompare` reads it: it ends before its first NUL. -/
def likeText (text : Text) : Text := (text.takeWhile fun c ↦ c.toNat ≠ 0).map likeChar

/-- SQLite's `LIKE`. -/
def likeMatch (pattern text : Text) : Bool := patternCompare (likeText pattern) (likeText text)

/-- The conditions of `buildListQuery` before the search. -/
def fieldsMatch (params : ListParams) (row : Row) : Bool :=
  params.level.all (fun level ↦ row.level = level) &&
  params.instanceID.all (fun instanceID ↦ row.instanceID = some instanceID) &&
  params.action.all (fun action ↦ row.action = action)

/-- The conditions of `buildListQuery` that do not look at the creation time. -/
def filtersMatch (params : ListParams) (row : Row) : Bool :=
  fieldsMatch params row &&
  (params.search.isEmpty || likeMatch ('%' :: (params.search.toList ++ ['%'])) row.message.toList)

/-- The conditions of `buildListQuery` on the creation time. -/
def boundsMatch (params : ListParams) (row : Row) : Bool :=
  params.since.all (fun since ↦ since.formatRFC3339Nano ≤ row.createdAt) &&
  params.untilTime.all (fun untilTime ↦ row.createdAt < untilTime.formatRFC3339Nano)

/-- The WHERE clause of `buildListQuery`. -/
def buildListQuery (params : ListParams) (row : Row) : Bool :=
  filtersMatch params row && boundsMatch params row

/-- The rows that satisfy the query, in table order. -/
def selected (log : List Row) (params : ListParams) : List Row :=
  log.filter (buildListQuery params)

/-- How SQLite runs a query: it checks the time bounds in an index before the other conditions, or all
conditions as they are written. The planner chooses. -/
inductive Plan
  | boundsFirst
  | asWritten
  deriving DecidableEq, Repr

/-- The row gets as far as the search. -/
def Plan.reaches (plan : Plan) (params : ListParams) (row : Row) : Bool :=
  fieldsMatch params row &&
    match plan with
    | .boundsFirst => boundsMatch params row
    | .asWritten => true

/-- `SQLITE_MAX_LIKE_PATTERN_LENGTH`, in bytes. -/
def maxPatternLength : ℕ := 50000

/-- The pattern of the search is longer than SQLite takes. -/
def patternTooLong (params : ListParams) : Bool :=
  !params.search.isEmpty && decide (maxPatternLength < params.search.utf8ByteSize + 2)

/-- `LIKE` fails on the first row that gets to a pattern that is too long. -/
def searchFails (plan : Plan) (log : List Row) (params : ListParams) : Bool :=
  patternTooLong params && log.any (plan.reaches params)

/-- `SQLiteRepository.List`; SQLite rejects an OFFSET without a LIMIT. -/
def list (plan : Plan) (log : List Row) (params : ListParams) : Except String (List Recorded) :=
  let sorted := (selected log params).insertionSort fun first second ↦
    second.createdAt ≤ first.createdAt
  if params.limit ≤ 0 ∧ 0 < params.offset then
    .error "querying activity log: near \"OFFSET\": syntax error"
  else if searchFails plan log params then
    .error "querying activity log: LIKE or GLOB pattern too complex"
  else if params.limit ≤ 0 then sorted.mapM scanEntry
  else ((sorted.drop params.offset.toNat).take params.limit.toNat).mapM scanEntry

/-- `SQLiteRepository.Count`. -/
def count (plan : Plan) (log : List Row) (params : ListParams) : Except String ℕ :=
  if searchFails plan log params then
    .error "counting activity log entries: LIKE or GLOB pattern too complex"
  else .ok (selected log params).length

/-- One row of the statistics. -/
structure ActionStats where
  instanceID : Option UUID
  instanceName : String
  action : Action
  count : ℕ
  deriving DecidableEq, Repr

/-- The rows that `Stats` groups. -/
def statsRows (log : List Row) (since : Option Timestamp) : List Row :=
  log.filter fun row ↦ since.all fun since ↦ since.formatRFC3339Nano ≤ row.createdAt

/-- `SQLiteRepository.Stats`; `names` is the instances table it joins with. -/
def stats (log : List Row) (names : UUID → Option String) (since : Option Timestamp) :
    List ActionStats :=
  let group (row : Row) := (row.instanceID, row.action)
  let groups := ((statsRows log since).map group).dedup
  let rows := groups.map fun (instanceID, action) ↦
    { instanceID := instanceID
      instanceName := ((instanceID.bind names).getD "")
      action := action
      count := (statsRows log since).countP fun row ↦ group row = (instanceID, action) }
  rows.insertionSort fun first second ↦ second.count ≤ first.count

/-! ## Service -/

/-- `maxListLimit`. -/
def maxListLimit : ℤ := 500

/-- `Service.List`. -/
def Service.list (plan : Plan) (log : List Row) (params : ListParams) :
    Except String (List Recorded) :=
  let limit := if params.limit ≤ 0 then 50 else params.limit
  let limit := if maxListLimit < limit then maxListLimit else limit
  Activity.list plan log { params with limit := limit }

/-! ## Creation times -/

theorem Row.exists_parse (row : Row) : ∃ time : Timestamp,
    parseRFC3339Nano row.createdAt = some time ∧ time.offset = 0 ∧
      time.formatRFC3339Nano = row.createdAt := by
  obtain ⟨time, hutc, htext⟩ := row.created_utc
  have hparse := parse_formatRFC3339Nano_utc time hutc
  rw [htext] at hparse
  exact ⟨time, hparse, hutc, htext⟩

/-- The creation time of a row, read from its text. -/
def Row.creation (row : Row) : Timestamp :=
  (parseRFC3339Nano row.createdAt).get (by
    obtain ⟨time, hparse, _⟩ := row.exists_parse
    rw [hparse]
    rfl)

theorem Row.parse_createdAt (row : Row) : parseRFC3339Nano row.createdAt = some row.creation := by
  simp [Row.creation]

theorem Row.creation_utc (row : Row) : row.creation.offset = 0 := by
  obtain ⟨time, hparse, hutc, _⟩ := row.exists_parse
  rw [row.parse_createdAt] at hparse
  rw [Option.some.inj hparse, hutc]

theorem Row.format_creation (row : Row) : row.creation.formatRFC3339Nano = row.createdAt := by
  obtain ⟨time, hparse, _, htext⟩ := row.exists_parse
  rw [row.parse_createdAt] at hparse
  rw [Option.some.inj hparse, htext]

/-- Every row of the table can be scanned, and the entry returned carries its creation time. -/
theorem scanEntry_ok (row : Row) :
    scanEntry row = .ok { row.toEntry with
      details := row.details.map (·.mapValues DetailValue.decoded)
      id := row.id
      createdAt := row.creation } := by
  rw [scanEntry, row.parse_createdAt]

end Huntarr2.Activity
