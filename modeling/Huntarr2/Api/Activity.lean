import Huntarr2.Activity.LogPages
import Huntarr2.Activity.Search
import Huntarr2.Api.Settings
import Huntarr2.Clock.Strftime
import Huntarr2.GoStd.Query

/-!
# The activity log of the API

`GET /api/activity` reads its filters and its page from the query of the request, and replies the
entries of the page with the number of all that match.
-/

namespace Huntarr2.Api

open Activity Clock GoStd

/-! ## Parameters -/

def allLevels : List Level := [.debug, .info, .warn, .error]

def allActions : List Action :=
  [.searchCycle, .searchSkip, .rateLimit, .healthCheck, .upgradeDetected, .downloadDetected]

/-- The level of a text, if `ValidLevel` knows it. -/
def levelOfText (text : Text) : Option Level := allLevels.find? fun level ↦ level.text = text

/-- The action of a text, if `ValidAction` knows it. -/
def actionOfText (text : Text) : Option Action := allActions.find? fun action ↦ action.text = text

/-- `maxActivityLimit`. -/
def maxActivityLimit : ℤ := 500

/-- `maxActivityOffset`. -/
def maxActivityOffset : ℤ := 100000

/-- An optional parameter that has to be readable. -/
def optionalParameter {α : Type} (query : List (Text × Text)) (key : Text) (read : Text → Option α)
    (message : String) : Except ErrorReply (Option α) :=
  let v := getValue query key
  if v = [] then .ok none
  else
    match read v with
    | some value => .ok (some value)
    | none => .error (badRequest message)

/-- An optional number with bounds; zero where it is missing. -/
def numberParameter (query : List (Text × Text)) (key : String) (least most : ℤ) :
    Except ErrorReply ℤ :=
  let v := getValue query key
  if v = [] then .ok 0
  else
    match atoi v with
    | none => .error (badRequest s!"invalid {key}")
    | some n =>
      if n < least then .error (badRequest s!"invalid {key}")
      else if most < n then .error (badRequest s!"{key} must not exceed {most}")
      else .ok n

/-- A search text in other bytes than UTF-8 is kept byte by byte. -/
def searchParameter (query : List (Text × Text)) : String :=
  let v := getValue query "search"
  String.ofList ((bytesText? v).getD v)

/-- The parameters of `handleListActivity`; `parseUUID` is `uuid.Parse`. -/
def listParams (parseUUID : Text → Option UUID) (query : List (Text × Text)) :
    Except ErrorReply ListParams := do
  let level ← optionalParameter query "level" levelOfText "unrecognised level"
  let instanceID ← optionalParameter query "instanceId" parseUUID "invalid UUID"
  let action ← optionalParameter query "action" actionOfText "unrecognised action"
  let since ← optionalParameter query "since" parseRFC3339Nano "invalid since timestamp"
  let untilTime ← optionalParameter query "until" parseRFC3339Nano "invalid until timestamp"
  let limit ← numberParameter query "limit" 1 maxActivityLimit
  let offset ← numberParameter query "offset" 0 maxActivityOffset
  return ⟨level, instanceID, action, searchParameter query, since, untilTime, limit, offset⟩

/-! ## The handler -/

/-- `activityListResponse`. -/
structure ActivityListResponse where
  entries : List Recorded
  total : ℕ
  deriving DecidableEq

/-- How the database takes a query: the plan of its planner, and the failure of the query, if it has
one. -/
structure QueryRun where
  plan : Plan
  failure : Option String
  deriving DecidableEq, Repr

/-- `handleListActivity`: it lists from one state of the log and counts in a later one. -/
def handleListActivity (listed counted : List Row) (parseUUID : Text → Option UUID)
    (query : List (Text × Text)) (listing counting : QueryRun) :
    Except ErrorReply ActivityListResponse := do
  let params ← listParams parseUUID query
  match listing.failure, Service.list listing.plan listed params with
  | some _, _ | _, .error _ => .error (internalServerError "failed to list activity entries")
  | none, .ok entries =>
    match counting.failure, count counting.plan counted params with
    | some _, _ | _, .error _ => .error (internalServerError "failed to count activity entries")
    | none, .ok total => .ok ⟨entries, total⟩

section Parameters

theorem levelOfText_text (level : Level) : levelOfText level.text = some level := by
  cases level <;> rfl

theorem actionOfText_text (action : Action) : actionOfText action.text = some action := by
  cases action <;> rfl

variable {query : List (Text × Text)}

theorem optionalParameter_missing {α : Type} {key : Text} {read : Text → Option α} {message : String}
    (h : getValue query key = []) : optionalParameter query key read message = .ok none :=
  if_pos h

theorem optionalParameter_read {α : Type} {key : Text} {read : Text → Option α} {message : String}
    {value : α} (hnonempty : getValue query key ≠ [])
    (hread : read (getValue query key) = some value) :
    optionalParameter query key read message = .ok (some value) := by
  unfold optionalParameter
  dsimp only
  rw [if_neg hnonempty, hread]

/-- A number is read back from its text as far as it fits. -/
theorem atoi_decimal (value : ℕ) :
    atoi (decimal value) = if (value : ℤ) ≤ maxInt64 then some (value : ℤ) else none := by
  cases hdigits : decimal value with
  | nil => exact absurd hdigits (decimal_ne_nil value)
  | cons c text =>
    have hvalue := digitsValue_decimal value
    rw [hdigits] at hvalue
    have hc := isSome_of_digitsValue hvalue c List.mem_cons_self
    have hsome : ¬(c :: text).isEmpty = true := Bool.false_ne_true
    have hlow : minInt64 ≤ (value : ℤ) := (show minInt64 ≤ 0 by decide).trans (Int.natCast_nonneg _)
    unfold atoi parseInt64
    rw [splitSign_of_digit hc]
    dsimp only
    rw [if_neg hsome, hvalue, Option.bind_some, one_mul]
    exact if_congr (and_iff_right hlow) rfl rfl

theorem numberParameter_decimal {key : String} {least most : ℤ} {value : ℕ}
    (h : getValue query key = decimal value) (hleast : least ≤ value) (hmost : (value : ℤ) ≤ most)
    (hfits : most ≤ maxInt64) : numberParameter query key least most = .ok (value : ℤ) := by
  unfold numberParameter
  dsimp only
  rw [h, if_neg (decimal_ne_nil value), atoi_decimal, if_pos (hmost.trans hfits)]
  dsimp only
  rw [if_neg (not_lt.mpr hleast), if_neg (not_lt.mpr hmost)]

/-- A number above the bound is refused, also where it does not fit. -/
theorem numberParameter_exceeds {key : String} {least most : ℤ} {value : ℕ}
    (h : getValue query key = decimal value) (hmost : most < (value : ℤ)) :
    ∃ message, numberParameter query key least most = .error (badRequest message) := by
  unfold numberParameter
  dsimp only
  rw [h, if_neg (decimal_ne_nil value), atoi_decimal]
  by_cases hfits : (value : ℤ) ≤ maxInt64
  · rw [if_pos hfits]
    dsimp only
    by_cases hleast : (value : ℤ) < least
    · exact ⟨_, if_pos hleast⟩
    · exact ⟨_, (if_neg hleast).trans (if_pos hmost)⟩
  · rw [if_neg hfits]
    exact ⟨_, rfl⟩

end Parameters

end Huntarr2.Api
