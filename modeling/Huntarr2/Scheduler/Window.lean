import Huntarr2.Scheduler.Effects

/-!
# The search window

The window is tested once, before a turn fetches the library. The command goes out later, by as much as
the fetch and the cooldown filter take. Whether it still falls into the window is a question about this
delay and about the time the window had left at the test.
-/

namespace Huntarr2.Scheduling

open Activity Arr Cooldown GoStd Settings

/-! ## Minutes of the day -/

/-- The minutes of a day. -/
def dayMinutes : ℤ := 1440

/-- The minutes the local clock has counted. -/
def localMinute (zone : Zone) (time : Time) : ℤ := (time / second + zone.offset time) / 60

theorem minuteOfDay_eq (zone : Zone) (time : Time) :
    zone.minuteOfDay time = localMinute zone time % dayMinutes := by
  unfold Zone.minuteOfDay localMinute dayMinutes
  omega

/-- The half-open window from the first bound to the second, past midnight if the first is later. -/
def InWindow (windowStart windowEnd minute : ℤ) : Prop :=
  if windowStart ≤ windowEnd then windowStart ≤ minute ∧ minute < windowEnd
  else windowStart ≤ minute ∨ minute < windowEnd

instance (windowStart windowEnd minute : ℤ) : Decidable (InWindow windowStart windowEnd minute) :=
  inferInstanceAs (Decidable (if windowStart ≤ windowEnd then
    windowStart ≤ minute ∧ minute < windowEnd else windowStart ≤ minute ∨ minute < windowEnd))

/-- The length of the window. -/
def openMinutes (windowStart windowEnd : ℤ) : ℤ := (windowEnd - windowStart) % dayMinutes

/-- The minutes until the window closes, counted at a minute inside it. -/
def minutesLeft (windowStart windowEnd minute : ℤ) : ℤ :=
  openMinutes windowStart windowEnd - (minute - windowStart) % dayMinutes

/-- A minute is inside the window when it is less than the window's length after its start. -/
theorem inWindow_iff {windowStart windowEnd minute : ℤ}
    (hstart : 0 ≤ windowStart ∧ windowStart < dayMinutes)
    (hend : 0 ≤ windowEnd ∧ windowEnd < dayMinutes) (hminute : 0 ≤ minute ∧ minute < dayMinutes) :
    InWindow windowStart windowEnd minute ↔ 0 < minutesLeft windowStart windowEnd minute := by
  unfold InWindow minutesLeft openMinutes dayMinutes at *
  split
  case isTrue hforward => omega
  case isFalse hwrapped => omega

/-- A delay after a minute inside the window leads out of it exactly if it ends in the closed part of
the day. -/
theorem inWindow_after_iff {windowStart windowEnd minute delay : ℤ}
    (hstart : 0 ≤ windowStart ∧ windowStart < dayMinutes)
    (hend : 0 ≤ windowEnd ∧ windowEnd < dayMinutes) (hminute : 0 ≤ minute ∧ minute < dayMinutes)
    (hopen : InWindow windowStart windowEnd minute) :
    InWindow windowStart windowEnd ((minute + delay) % dayMinutes) ↔
      delay % dayMinutes < minutesLeft windowStart windowEnd minute ∨
        minutesLeft windowStart windowEnd minute +
          (dayMinutes - openMinutes windowStart windowEnd) ≤ delay % dayMinutes := by
  have hbounds : 0 ≤ (minute + delay) % dayMinutes ∧ (minute + delay) % dayMinutes < dayMinutes :=
    ⟨Int.emod_nonneg _ (by decide), Int.emod_lt_of_pos _ (by decide)⟩
  rw [inWindow_iff hstart hend hminute] at hopen
  rw [inWindow_iff hstart hend hbounds]
  unfold minutesLeft openMinutes dayMinutes at *
  omega

theorem parseHHMM_bounds {text : Text} {minutes : ℤ} (h : parseHHMM text = some minutes) :
    0 ≤ minutes ∧ minutes < dayMinutes := by
  unfold parseHHMM Settings.parseHHMM at h
  unfold dayMinutes
  split at h
  case isTrue => cases h
  case isFalse =>
    split at h
    case isTrue => cases h
    case isFalse =>
      cases hhours : atoi (text.take 2) with
      | none => simp [hhours] at h
      | some hours =>
        simp only [hhours, Option.bind_eq_bind, Option.bind_some] at h
        split at h
        case isTrue => cases h
        case isFalse hhour =>
          cases hrest : atoi (text.drop 3) with
          | none => simp [hrest] at h
          | some rest =>
            simp only [hrest, Option.bind_some] at h
            split at h
            case isTrue => cases h
            case isFalse hminute =>
              cases h
              omega

/-- The code's test of a window with two valid bounds. -/
theorem inSearchWindow_eq_true_iff {zone : Zone} {startText endText : Text}
    {windowStart windowEnd : ℤ} (hstart : parseHHMM startText = some windowStart)
    (hend : parseHHMM endText = some windowEnd) (now : Time) :
    inSearchWindow zone startText endText now = true ↔
      InWindow windowStart windowEnd (zone.minuteOfDay now) := by
  have hempty : ¬(startText.isEmpty = true ∧ endText.isEmpty = true) := by
    rintro ⟨hnone, -⟩
    unfold parseHHMM at hstart
    rw [if_pos hnone] at hstart
    cases hstart
  unfold inSearchWindow InWindow
  rw [if_neg hempty, hstart, hend]
  dsimp only
  split <;> simp

/-! ## The command of a turn -/

/-- A turn that gets as far as a command sends exactly this one. -/
theorem commands_takeTurn_of_sends {world : World} {now : Time} {inst : Instance} {cancelled : Bool}
    {io : TurnIO} {resolved : Validated} {result : UpgradeResult} {coolingDown : List ℤ}
    (hreaches : Reaches world now inst io resolved)
    (hsends : Sends world.cooldowns inst resolved.1 cancelled io.cycle result coolingDown) :
    commands ((takeTurn world now inst cancelled io).trace.drop world.trace.length) =
      [sentCommand inst resolved.1 io.cycle result coolingDown] := by
  have hdue : ¬(world.sched.schedules.lookup inst.id).any (fun sched ↦ now < sched.nextSearchAt) := by
    rw [Option.any_eq_true_iff_get]
    rintro ⟨hsome, hwaiting⟩
    exact absurd (of_decide_eq_true hwaiting) (not_lt.mpr (hreaches.due _ (Option.get_mem hsome)))
  have hcycle : Sends (world.emit (.windowChecked inst.id io.windowAt)).cooldowns inst resolved.1
      cancelled io.cycle result coolingDown := hsends
  obtain ⟨entry, totalItems, hrun⟩ := runInstanceCycle_of_sends hcycle
  have hopen : inSearchWindow (world.emit (.windowChecked inst.id io.windowAt)).zone
      resolved.1.searchWindowStart resolved.1.searchWindowEnd io.windowAt = true := hreaches.inWindow
  unfold takeTurn
  rw [hreaches.settings]
  dsimp only
  rw [if_neg (by simp [hreaches.enabled]), if_neg hdue, if_neg (by simp [hopen]), hrun]
  simp only [finishTurn, World.setSchedule, World.emit, afterCommand, World.append, List.append_assoc,
    List.drop_left]
  rfl

/-! ## Sending in the window -/

/-- The commands that a turn with a window of two valid bounds sends are sent inside this window. -/
def SearchesInWindow (world : World) : Step → Prop
  | .turn now inst cancelled io => ∀ resolved, io.settings = .ok resolved →
      ∀ windowStart windowEnd, parseHHMM resolved.1.searchWindowStart = some windowStart →
        parseHHMM resolved.1.searchWindowEnd = some windowEnd →
        ∀ command ∈ commands ((takeTurn world now inst cancelled io).trace.drop world.trace.length),
          InWindow windowStart windowEnd (world.zone.minuteOfDay command.sentAt)
  | _ => True

/-- The minutes on the local clock from the window test of a turn to its command, modulo a day. -/
def sendingDelay (zone : Zone) (io : TurnIO) : ℤ :=
  (localMinute zone io.cycle.searchAt - localMinute zone io.windowAt) % dayMinutes

/-- If the step is a turn that sends a command, the delay of the command is shorter than the time the
window had left at its test, or it reaches past the closed part of the day. -/
def SendsInTime (world : World) : Step → Prop
  | .turn now inst cancelled io => ∀ resolved result coolingDown,
      Reaches world now inst io resolved →
      Sends world.cooldowns inst resolved.1 cancelled io.cycle result coolingDown →
      ∀ windowStart windowEnd, parseHHMM resolved.1.searchWindowStart = some windowStart →
        parseHHMM resolved.1.searchWindowEnd = some windowEnd →
        sendingDelay world.zone io <
            minutesLeft windowStart windowEnd (world.zone.minuteOfDay io.windowAt) ∨
          minutesLeft windowStart windowEnd (world.zone.minuteOfDay io.windowAt) +
              (dayMinutes - openMinutes windowStart windowEnd) ≤ sendingDelay world.zone io
  | _ => True

/-- The command of a turn is inside the window exactly if its delay does not end in the closed part. -/
theorem inWindow_searchAt_iff {world : World} {now : Time} {inst : Instance} {io : TurnIO}
    {resolved : Validated} (hreaches : Reaches world now inst io resolved)
    {windowStart windowEnd : ℤ} (hstart : parseHHMM resolved.1.searchWindowStart = some windowStart)
    (hend : parseHHMM resolved.1.searchWindowEnd = some windowEnd) :
    InWindow windowStart windowEnd (world.zone.minuteOfDay io.cycle.searchAt) ↔
      sendingDelay world.zone io <
          minutesLeft windowStart windowEnd (world.zone.minuteOfDay io.windowAt) ∨
        minutesLeft windowStart windowEnd (world.zone.minuteOfDay io.windowAt) +
            (dayMinutes - openMinutes windowStart windowEnd) ≤ sendingDelay world.zone io := by
  have hopen := (inSearchWindow_eq_true_iff hstart hend io.windowAt).mp hreaches.inWindow
  have hminute : 0 ≤ world.zone.minuteOfDay io.windowAt ∧
      world.zone.minuteOfDay io.windowAt < dayMinutes := by
    rw [minuteOfDay_eq]
    exact ⟨Int.emod_nonneg _ (by decide), Int.emod_lt_of_pos _ (by decide)⟩
  have hsent : world.zone.minuteOfDay io.cycle.searchAt =
      (world.zone.minuteOfDay io.windowAt +
        (localMinute world.zone io.cycle.searchAt - localMinute world.zone io.windowAt)) %
        dayMinutes := by
    rw [minuteOfDay_eq, minuteOfDay_eq, Int.emod_add_emod]
    congr 1
    ring
  rw [hsent]
  exact inWindow_after_iff (parseHHMM_bounds hstart) (parseHHMM_bounds hend) hminute hopen

theorem searchesInWindow_iff (world : World) (step : Step) :
    SearchesInWindow world step ↔ SendsInTime world step := by
  cases step with
  | turn now inst cancelled io =>
    constructor
    · intro h resolved result coolingDown hreaches hsends windowStart windowEnd hstart hend
      refine (inWindow_searchAt_iff hreaches hstart hend).mp ?_
      refine h resolved hreaches.settings windowStart windowEnd hstart hend
        (sentCommand inst resolved.1 io.cycle result coolingDown) ?_
      rw [commands_takeTurn_of_sends hreaches hsends]
      exact List.mem_singleton_self _
    · intro h resolved hsettings windowStart windowEnd hstart hend
      apply takeTurn_cases (motive := fun after ↦
        ∀ command ∈ commands (after.trace.drop world.trace.length),
          InWindow windowStart windowEnd (world.zone.minuteOfDay command.sentAt))
      case idle => simp [commands]
      case disabled => simp [afterDisabled, World.append, World.setSchedule, commands, Event.command?]
      case closed => simp [World.append, commands, Event.command?]
      case quiet =>
        intro other events totalItems _ hquiet command hmem
        have hnone : commands events = [] := commands_of_quiet hquiet
        simp only [afterCycle, World.append, List.append_assoc, List.drop_left,
          List.cons_append] at hmem
        change command ∈ commands (events ++ [_]) at hmem
        rw [commands_append, hnone] at hmem
        exact absurd hmem List.not_mem_nil
      case sent =>
        intro other result coolingDown entry totalItems hreaches hsends _ command hmem
        rw [turnTrace_sent, List.drop_left] at hmem
        have hcommand : command = sentCommand inst other.1 io.cycle result coolingDown :=
          List.mem_singleton.mp hmem
        have hsame : other = resolved := Except.ok.inj (hreaches.settings.symm.trans hsettings)
        subst hsame
        rw [hcommand]
        exact (inWindow_searchAt_iff hreaches hstart hend).mpr
          (h other result coolingDown hreaches hsends windowStart windowEnd hstart hend)
  | _ => exact Iff.rfl

end Huntarr2.Scheduling
