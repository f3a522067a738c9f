import Huntarr2.Activity.Log
import Huntarr2.Arr.Arr
import Huntarr2.Cooldown.Repository
import Huntarr2.Scheduler.Schedule

/-!
# The scheduling pass

One tick of the scheduler as the source computes it, as a function of the state before it and of what
its environment answers. The world holds the scheduler's fields, the two tables it writes, and a trace
of what it did: every command, log entry and clock reading in order. The trace is an observation, no
decision reads it.
-/

namespace Huntarr2.Scheduling

open Activity Arr Cooldown GoStd Settings

/-! ## Observations -/

/-- A search command that an instance accepted. -/
structure Command where
  instanceID : UUID
  itemIDs : List ℤ
  sentAt : Time
  cooldown : Duration
  deriving DecidableEq, Repr

/-- The end of a search cycle: the inputs and the result of its schedule update. -/
structure Cycle where
  instanceID : UUID
  tickStart : Time
  base : Duration
  previous : Duration
  totalItems : ℤ
  batchSize : ℤ
  endedAt : Time
  interval : Duration
  deriving DecidableEq, Repr

inductive Event
  | created (now : Time)
  | tickStarted (now : Time)
  | disabled (instanceID : UUID)
  | windowChecked (instanceID : UUID) (now : Time)
  | filtered (instanceID : UUID) (now : Time)
  | searched (command : Command)
  | recorded (instanceID : UUID) (itemIDs : List ℤ) (now : Time)
  | cycled (cycle : Cycle)
  | logged (entry : Entry)
  | pollChecked (now : Time)
  | pollStarted (instanceID : UUID) (now : Time)
  | pollRecorded (instanceID : UUID) (now : Time)
  | expired (now : Time)

/-- The clock reading of an event. -/
def Event.time? : Event → Option Time
  | .created now | .tickStarted now | .windowChecked _ now | .filtered _ now | .recorded _ _ now |
    .pollChecked now | .pollStarted _ now | .pollRecorded _ now | .expired now => some now
  | .searched command => some command.sentAt
  | .cycled cycle => some cycle.endedAt
  | .disabled _ | .logged _ => none

/-- The clock readings of a trace. -/
def clock (trace : List Event) : List Time := trace.filterMap Event.time?

/-- The clock never goes back. -/
def Monotone (trace : List Event) : Prop := (clock trace).Pairwise (· ≤ ·)

instance (trace : List Event) : Decidable (Monotone trace) :=
  inferInstanceAs (Decidable ((clock trace).Pairwise (· ≤ ·)))

def Event.command? : Event → Option Command
  | .searched command => some command
  | _ => none

/-- The search commands of a trace. -/
def commands (trace : List Event) : List Command := trace.filterMap Event.command?

def Event.cycle? : Event → Option Cycle
  | .cycled cycle => some cycle
  | _ => none

/-- The ends of the search cycles of a trace. -/
def cycles (trace : List Event) : List Cycle := trace.filterMap Event.cycle?

structure World where
  sched : Scheduler
  cooldowns : Cooldown.Table
  polls : PollTable
  zone : Zone
  trace : List Event

def World.emit (world : World) (event : Event) : World :=
  { world with trace := world.trace ++ [event] }

/-- `logActivity`; a failure to persist the entry is only reported. -/
def World.log (world : World) (entry : Entry) : World := world.emit (.logged entry)

def World.setSchedule (world : World) (schedule : InstanceSchedule) : World :=
  { world with
    sched := { world.sched with
      schedules := world.sched.schedules.insert schedule.instanceID schedule } }

/-! ## Log entries -/

/-- A details map with the given keys. -/
def details (pairs : List (String × DetailValue)) : Option Details :=
  some (pairs.foldl (fun details pair ↦ details.insert pair.1 pair.2) ∅)

def rateLimitEntry (limit : ℤ) : Entry :=
  { instanceID := none, level := .info, action := .rateLimit
    message := s!"hourly search limit reached ({limit})", details := none }

def outsideWindowEntry (inst : Instance) (resolved : Resolved) : Entry :=
  { instanceID := some inst.id, level := .debug, action := .searchSkip
    message := "outside search window"
    details := details [("instanceName", .text inst.name),
      ("windowStart", .text (String.ofList resolved.searchWindowStart)),
      ("windowEnd", .text (String.ofList resolved.searchWindowEnd))] }

def fetchFailedEntry (inst : Instance) (err : String) : Entry :=
  { instanceID := some inst.id, level := .error, action := .searchCycle
    message := "failed to fetch upgradeable items"
    details := details [("instanceName", .text inst.name), ("error", .text err)] }

def noItemsEntry (inst : Instance) (stats : FilterStats) (searchMissing : Bool) : Entry :=
  { instanceID := some inst.id, level := .debug, action := .searchCycle
    message := "no searchable items"
    details := details [("instanceName", .text inst.name),
      ("libraryTotal", .int stats.libraryTotal), ("noFile", .int stats.noFile),
      ("unmonitored", .int stats.unmonitored), ("noProfile", .int stats.noProfile),
      ("upgradeBlocked", .int stats.upgradeBlocked), ("unknownQuality", .int stats.unknownQuality),
      ("atOrAbove", .int stats.atOrAbove), ("searchMissing", .bool searchMissing)] }

def allCoolingEntry (inst : Instance) (totalItems coolingDown : ℕ) : Entry :=
  { instanceID := some inst.id, level := .debug, action := .searchSkip
    message := "all items in cooldown"
    details := details [("instanceName", .text inst.name), ("totalItems", .int totalItems),
      ("coolingDown", .int coolingDown), ("upgradeableAll", .int totalItems)] }

def searchFailedEntry (inst : Instance) (err : String) (searchedItems : List (String × String)) :
    Entry :=
  { instanceID := some inst.id, level := .error, action := .searchCycle
    message := "search command failed"
    details := details [("instanceName", .text inst.name), ("instanceBaseURL", .text inst.baseURL),
      ("error", .text err), ("searchedItems", .items searchedItems)] }

def searchedEntry (inst : Instance) (result : UpgradeResult) (batchSize : ℤ)
    (searched coolingDown totalItems : ℕ) (searchedItems : List (String × String)) : Entry :=
  { instanceID := some inst.id, level := .info, action := .searchCycle
    message := s!"searched {searched} items for {inst.name}"
    details := details [("instanceName", .text inst.name), ("instanceBaseURL", .text inst.baseURL),
      ("searched", .int searched), ("skipped", .int (min (totalItems : ℤ) batchSize - searched)),
      ("coolingDown", .int coolingDown), ("upgradeableAll", .int result.items.length),
      ("missingAll", .int result.missingItems.length), ("candidateTotal", .int totalItems),
      ("libraryTotal", .int result.stats.libraryTotal), ("searchedItems", .items searchedItems)] }

/-- `historyDetails`: empty and unknown values are left out. -/
def historyDetails (inst : Instance) (record : HistoryRecord) : List (String × DetailValue) :=
  let putString (key value : String) : List (String × DetailValue) :=
    if value ≠ "" then [(key, .text value)] else []
  let putInt (key : String) (value : ℤ) : List (String × DetailValue) :=
    if value ≠ 0 then [(key, .int value)] else []
  let putScore (key : String) (value : Option ℤ) : List (String × DetailValue) :=
    (value.map fun score ↦ (key, DetailValue.int score)).toList
  [("instanceName", .text inst.name), ("instanceBaseURL", .text inst.baseURL),
    ("itemLabel", .text record.itemLabel), ("itemDetailPath", .text record.detailPath),
    ("quality", .text record.quality)] ++
  putString "releaseTitle" record.releaseTitle ++ putString "releaseGroup" record.releaseGroup ++
  putString "mediaCover" record.mediaCoverPath ++ putInt "size" record.size ++
  putScore "customFormatScore" record.customFormatScore ++
  (if record.isUpgrade then
    putString "previousQuality" record.previousQuality ++ putInt "previousSize" record.previousSize ++
      putScore "previousCustomFormatScore" record.previousCustomFormatScore
  else []) ++
  match record.mediaInfo with
  | none => []
  | some info =>
    putString "resolution" info.resolution ++ putString "videoCodec" info.videoCodec ++
    putInt "videoBitDepth" info.videoBitDepth ++ putInt "videoBitrate" info.videoBitrate ++
    putString "videoDynamicRange" info.videoDynamicRangeType ++
    putString "audioCodec" info.audioCodec ++
    (if info.audioChannels ≠ 0 then [("audioChannels", .real info.audioChannels)] else []) ++
    putInt "audioBitrate" info.audioBitrate ++ putString "audioBitrateText" info.audioBitrateText ++
    putString "audioBits" info.audioBits ++ putString "audioSampleRate" info.audioSampleRate ++
    putString "runTime" info.runTime

def importEntry (inst : Instance) (record : HistoryRecord) : Entry :=
  { instanceID := some inst.id, level := .info
    action := if record.isUpgrade then .upgradeDetected else .downloadDetected
    message := (if record.isUpgrade then "quality upgrade" else "new download") ++ " detected: " ++
      record.itemLabel
    details := details (historyDetails inst record) }

/-! ## A search cycle -/

/-- What the environment answers during a search cycle, with the clock at each call. -/
structure CycleIO where
  upgradeable : Except String UpgradeResult
  filterAt : Time
  filterFailure : Option String
  searchAt : Time
  searchFailure : Option String
  recordAt : Time
  recordFailure : Option String

/-- The search candidates of a fetch: upgradeable items first, then missing ones. -/
def candidates (result : UpgradeResult) (searchMissing : Bool) : List UpgradeItem :=
  if searchMissing then result.items ++ result.missingItems else result.items

/-- The first `batchSize` candidates that are not cooling down. -/
def selectBatch (itemIDs coolingDown : List ℤ) (batchSize : ℤ) : List ℤ :=
  let searchIDs := excludeIDs itemIDs coolingDown
  if batchSize < searchIDs.length then searchIDs.take batchSize.toNat else searchIDs

/-- The label and the path of each searched item; a later candidate with the same ID wins. -/
def searchedItems (items : List UpgradeItem) (searchIDs : List ℤ) : List (String × String) :=
  searchIDs.map fun id ↦
    match items.reverse.find? fun item ↦ item.id = id with
    | some item => (item.label, item.detailPath)
    | none => ("", "")

/-- `runInstanceCycle`: the world afterwards, the number of items searched and of candidates. The batch
size is at least one in validated settings, so the slice is in range and `Search` gets an ID. -/
def runInstanceCycle (world : World) (inst : Instance) (resolved : Resolved) (cancelled : Bool)
    (io : CycleIO) : World × ℕ × ℕ :=
  if cancelled then (world, 0, 0)
  else match io.upgradeable with
    | .error err => (world.log (fetchFailedEntry inst err), 0, 0)
    | .ok result =>
      let items := candidates result resolved.searchMissing
      let totalItems := items.length
      if totalItems = 0 then
        (world.log (noItemsEntry inst result.stats resolved.searchMissing), 0, 0)
      else
        let itemIDs := items.map (·.id)
        let world := world.emit (.filtered inst.id io.filterAt)
        match filterCoolingDown world.cooldowns inst.id itemIDs resolved.cooldownPeriod io.filterAt
          io.filterFailure with
        | .error _ => (world, 0, totalItems)
        | .ok coolingDown =>
          let searchIDs := selectBatch itemIDs coolingDown resolved.batchSize
          if (excludeIDs itemIDs coolingDown).isEmpty then
            (world.log (allCoolingEntry inst totalItems coolingDown.length), 0, totalItems)
          else match io.searchFailure with
            | some err =>
              (world.log (searchFailedEntry inst err (searchedItems items searchIDs)), 0, totalItems)
            | none =>
              let world := world.emit (.searched
                ⟨inst.id, searchIDs, io.searchAt, resolved.cooldownPeriod⟩)
              let world := { world.emit (.recorded inst.id searchIDs io.recordAt) with
                cooldowns := (recordSearches world.cooldowns inst.id searchIDs io.recordAt
                  io.recordFailure).2 }
              (world.log (searchedEntry inst result resolved.batchSize searchIDs.length
                coolingDown.length totalItems (searchedItems items searchIDs)),
                searchIDs.length, totalItems)

/-! ## One instance's turn -/

/-- Settings that the validator's bounds hold for. -/
abbrev Validated := { resolved : Resolved // resolved.Valid }

/-- What the environment answers during one instance's turn. -/
structure TurnIO where
  settings : Except String Validated
  windowAt : Time
  cycle : CycleIO
  cycleEnd : Time

/-- The interval the next one is computed from. -/
def previousInterval (resolved : Resolved) (sched : Option InstanceSchedule) : Duration :=
  match sched with
  | some sched => if 0 < sched.interval then sched.interval else resolved.searchInterval
  | none => resolved.searchInterval

/-- The schedule and counter update after a cycle. -/
def finishTurn (world : World) (now : Time) (inst : Instance) (resolved : Resolved)
    (sched : Option InstanceSchedule) (searched totalItems : ℕ) (cycleEnd : Time) : World :=
  let prevInterval := previousInterval resolved sched
  let nextInterval :=
    computeNextInterval resolved.searchInterval prevInterval totalItems resolved.batchSize
  let world := world.setSchedule
    (newInstanceSchedule inst.id inst.name (cycleEnd + nextInterval) true nextInterval)
  let world := { world with
    sched := { world.sched with searchCount := world.sched.searchCount + searched } }
  world.emit (.cycled
    { instanceID := inst.id, tickStart := now, base := resolved.searchInterval
      previous := prevInterval, totalItems := totalItems, batchSize := resolved.batchSize
      endedAt := cycleEnd, interval := nextInterval })

/-- The loop body of `tick` after the limit check. -/
def takeTurn (world : World) (now : Time) (inst : Instance) (cancelled : Bool) (io : TurnIO) :
    World :=
  match io.settings with
  | .error _ => world
  | .ok ⟨resolved, _⟩ =>
    if !resolved.enabled then
      (world.setSchedule (newInstanceSchedule inst.id inst.name zeroTime false 0)).emit
        (.disabled inst.id)
    else
      let sched := world.sched.schedules.lookup inst.id
      if sched.any fun sched ↦ now < sched.nextSearchAt then world
      else
        let world := world.emit (.windowChecked inst.id io.windowAt)
        if !inSearchWindow world.zone resolved.searchWindowStart resolved.searchWindowEnd
          io.windowAt then world.log (outsideWindowEntry inst resolved)
        else
          let (world, searched, totalItems) :=
            runInstanceCycle world inst resolved cancelled io.cycle
          finishTurn world now inst resolved sched searched totalItems io.cycleEnd

/-! ## History polls and pruning -/

/-- What the environment answers during one instance's history poll. -/
structure PollIO where
  lastPolledFailure : Option String
  startedAt : Time
  history : Time → Except String (List HistoryRecord)
  recordAt : Time
  recordFailure : Option String

/-- `pollInstanceHistory`. -/
def pollInstanceHistory (world : World) (inst : Instance) (io : PollIO) : World :=
  match lastPolled world.polls inst.id io.lastPolledFailure with
  | .error _ => world
  | .ok last =>
    let world := if last = zeroTime then world.emit (.pollStarted inst.id io.startedAt) else world
    let since := if last = zeroTime then io.startedAt - firstPollLookback else last
    match io.history since with
    | .error _ => world
    | .ok records =>
      let world := records.foldl (fun world record ↦ world.log (importEntry inst record)) world
      { world.emit (.pollRecorded inst.id io.recordAt) with
        polls := (recordPoll world.polls world.zone inst.id io.recordAt io.recordFailure).2 }

/-- What the environment answers while the scheduler prunes. -/
structure PruneIO where
  pruneFailure : Option String
  expireAt : Time
  expireFailure : Option String

/-- `pruneActivityLog`; a done context makes the deletion of activity entries fail. -/
def pruneActivityLog (world : World) (now : Time) (cancelled : Bool) (io : PruneIO) : World :=
  if ¬world.sched.lastPrunedAt + pruneInterval < now then world
  else if cancelled ∨ io.pruneFailure.isSome then world
  else
    { world.emit (.expired io.expireAt) with
      cooldowns := (deleteExpired world.cooldowns cooldownRetention io.expireAt io.expireFailure).2
      sched := { world.sched with lastPrunedAt := now } }

/-! ## The tick -/

/-- What the environment answers during a tick. The context is done from a program point on: the
turn of the instance at position k has the points 2k and 2k + 1, its poll has the point 2n + k and
pruning the point 3n, for n listed instances. -/
structure TickIO where
  now : Time
  globalSettings : Except String Validated
  instances : Except String InstanceList
  cancelledFrom : Option ℕ
  turn : UUID → TurnIO
  pollAt : Time
  poll : UUID → PollIO
  prune : PruneIO

def TickIO.cancelled (io : TickIO) (point : ℕ) : Bool := io.cancelledFrom.any fun start ↦ start ≤ point

/-- A list of one instance. -/
def soloList : InstanceList where
  insts := [⟨1, "movies", "http://movies"⟩]
  nodup := List.nodup_singleton _

/-- A library of upgradeable items with the given IDs. -/
def library (itemIDs : List ℤ) : UpgradeResult where
  items := itemIDs.map fun itemID ↦ ⟨itemID, "item", "/item"⟩
  missingItems := []
  stats := ⟨itemIDs.length, 0, 0, 0, 0, 0, 0, itemIDs.length⟩

/-- A search cycle at one moment in which every call succeeds. -/
def smoothCycle (now : Time) (result : UpgradeResult) : CycleIO where
  upgradeable := .ok result
  filterAt := now
  filterFailure := none
  searchAt := now
  searchFailure := none
  recordAt := now
  recordFailure := none

/-- A tick at one moment in which every call succeeds, no history is reported and every instance has
the same settings and library. -/
def smoothTick (now : Time) (settings : Validated) (list : InstanceList)
    (result : UpgradeResult) : TickIO where
  now := now
  globalSettings := .ok settings
  instances := .ok list
  cancelledFrom := none
  turn := fun _ ↦
    { settings := .ok settings
      windowAt := now
      cycle := smoothCycle now result
      cycleEnd := now }
  pollAt := now
  poll := fun _ ↦
    { lastPolledFailure := none
      startedAt := now
      history := fun _ ↦ .ok []
      recordAt := now
      recordFailure := none }
  prune := { pruneFailure := none, expireAt := now, expireFailure := none }

/-- The counter reset at the start of a tick. -/
def startTick (world : World) (now : Time) : World :=
  let world := world.emit (.tickStarted now)
  if world.sched.hourResetAt < now then
    { world with
      sched := { world.sched with searchCount := 0, hourResetAt := nextHourBoundary now } }
  else world

/-- The loop over the instances from position `index` on; the flag says that the context was done and
the tick returns. -/
def searchLoop (io : TickIO) (limit : ℤ) : World → ℕ → List Instance → World × Bool
  | world, _, [] => (world, false)
  | world, index, inst :: insts =>
    if io.cancelled (2 * index) then (world, true)
    else if limit ≤ world.sched.searchCount then (world.log (rateLimitEntry limit), false)
    else
      searchLoop io limit
        (takeTurn world io.now inst (io.cancelled (2 * index + 1)) (io.turn inst.id)) (index + 1) insts

/-- Removes the schedules of instances that are not listed any more. -/
def removeUnlisted (world : World) (insts : List Instance) : World :=
  { world with
    sched := { world.sched with
      schedules := world.sched.schedules.deleteWhere fun id _ ↦ id ∉ insts.map (·.id) } }

/-- The loop of `pollUpgradeHistory` from program point `point` on. -/
def pollLoop (io : TickIO) : World → ℕ → List Instance → World
  | world, _, [] => world
  | world, point, inst :: insts =>
    if io.cancelled point then world
    else pollLoop io (pollInstanceHistory world inst (io.poll inst.id)) (point + 1) insts

/-- A history poll is due. -/
def pollDue (world : World) (now : Time) : Bool :=
  world.sched.lastHistoryPoll + historyPollInterval < now

/-- The check of `pollUpgradeHistory`, which remembers a due poll's time. -/
def checkPoll (world : World) (now : Time) : World :=
  let checked := world.emit (.pollChecked now)
  if pollDue world now then { checked with sched := { checked.sched with lastHistoryPoll := now } }
  else checked

/-- `pollUpgradeHistory`. -/
def pollUpgradeHistory (world : World) (io : TickIO) (insts : List Instance) : World :=
  if pollDue world io.pollAt then
    pollLoop io (checkPoll world io.pollAt) (2 * insts.length) insts
  else checkPoll world io.pollAt

def setHourlyLimit (world : World) (limit : ℤ) : World :=
  { world with sched := { world.sched with hourlyLimit := limit } }

/-- `tick`. -/
def tick (world : World) (io : TickIO) : World :=
  let world := startTick world io.now
  match io.globalSettings with
  | .error _ => world
  | .ok ⟨globalSettings, _⟩ =>
    let world := setHourlyLimit world globalSettings.searchLimit
    match io.instances with
    | .error _ => world
    | .ok ⟨insts, _⟩ =>
      let (world, returned) := searchLoop io globalSettings.searchLimit world 0 insts
      if returned then world
      else
        let world := removeUnlisted world insts
        let world := pollUpgradeHistory world io insts
        pruneActivityLog world io.now (io.cancelled (3 * insts.length)) io.prune

/-- The world a new scheduler starts in, over tables that may hold earlier rows. -/
def World.start (sched : Scheduler) (cooldowns : Cooldown.Table) (polls : PollTable) (zone : Zone)
    (now : Time) : World :=
  { sched := sched, cooldowns := cooldowns, polls := polls, zone := zone, trace := [.created now] }

end Huntarr2.Scheduling
