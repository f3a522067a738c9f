import Huntarr2.Clock.Timestamp
import Huntarr2.Foundation.KeyedTable
import Huntarr2.GoStd.Duration
import Huntarr2.Instance.Instance

/-!
# Poll state

The time of an instance's last history poll is kept as RFC 3339 text in the process time zone. A poll
time that could be written is read back as the same instant.
-/

namespace Huntarr2.Arr

open Clock GoStd

/-- The process time zone: the seconds east of UTC at each point in time. Zones have whole minutes
and stay within a day of UTC. -/
structure Zone where
  offset : Time → ℤ
  minutes : ∀ time, 60 ∣ offset time
  bounded : ∀ time, (offset time).natAbs < 90000

def Zone.utc : Zone := ⟨fun _ ↦ 0, fun _ ↦ dvd_zero 60, fun _ ↦ by simp⟩

/-- Minutes since midnight on the local clock. -/
def Zone.minuteOfDay (zone : Zone) (time : Time) : ℤ :=
  (time / second + zone.offset time) % 86400 / 60

/-- `time.Format(time.RFC3339Nano)` in the process time zone. Outside the years 0 to 9999 the text
cannot be read back, and the empty text stands for it. -/
def Zone.format (zone : Zone) (time : Time) : Text :=
  match Timestamp.ofInstant time (zone.offset time) with
  | some reading => reading.formatRFC3339Nano
  | none => []

/-- `history_poll_state`: the text of the last poll by instance. -/
abbrev PollTable := KeyedTable UUID Text

/-- `LastPolled`; an instance without a row has the zero time. -/
def lastPolled (table : PollTable) (instanceID : UUID) (failure : Option String) :
    Except String Time :=
  match failure with
  | some err => .error s!"querying poll state: {err}"
  | none =>
    match table.lookup instanceID with
    | none => .ok zeroTime
    | some raw =>
      match parseRFC3339Nano raw with
      | some reading => .ok reading.instant
      | none => .error "parsing last_polled"

/-- `RecordPoll`. -/
def recordPoll (table : PollTable) (zone : Zone) (instanceID : UUID) (polledAt : Time)
    (failure : Option String) : Except String Unit × PollTable :=
  match failure with
  | some err => (.error s!"recording poll state: {err}", table)
  | none => (.ok (), table.insert instanceID (zone.format polledAt))

/-- What can be read back from a poll time is the poll time itself. -/
theorem instant_of_parse_format {zone : Zone} {time : Time} {reading : Timestamp}
    (h : parseRFC3339Nano (zone.format time) = some reading) : reading.instant = time := by
  unfold Zone.format at h
  cases hreading : Timestamp.ofInstant time (zone.offset time) with
  | none =>
    have hempty : parseRFC3339Nano [] = none := by decide
    simp [hreading, hempty] at h
  | some written =>
    obtain ⟨hinstant, hoffset⟩ := Timestamp.instant_ofInstant hreading
    rw [hreading] at h
    have hparse := parse_formatRFC3339Nano written (hoffset ▸ zone.bounded time)
      (hoffset ▸ zone.minutes time)
    simp only [hparse, Option.some.injEq] at h
    rw [← h, hinstant]

/-- After a recorded poll the last poll time is the recorded one, or it cannot be read. -/
theorem lastPolled_recordPoll {table : PollTable} {zone : Zone} {instanceID : UUID}
    {polledAt time : Time} {failure : Option String}
    (h : lastPolled (recordPoll table zone instanceID polledAt none).2 instanceID failure = .ok time) :
    time = polledAt := by
  unfold lastPolled recordPoll at h
  cases failure with
  | some err => cases h
  | none =>
    simp only [AList.lookup_insert] at h
    cases hparse : parseRFC3339Nano (zone.format polledAt) with
    | none => simp [hparse] at h
    | some reading =>
      simp only [hparse, Except.ok.injEq] at h
      rw [← h, instant_of_parse_format hparse]

theorem lookup_recordPoll_of_ne {table : PollTable} {zone : Zone} {instanceID other : UUID}
    (hother : other ≠ instanceID) (polledAt : Time) (failure : Option String) :
    (recordPoll table zone instanceID polledAt failure).2.lookup other = table.lookup other := by
  cases failure with
  | some err => rfl
  | none => exact AList.lookup_insert_ne hother

end Huntarr2.Arr
