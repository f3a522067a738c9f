import Huntarr2.Clock.Civil
import Huntarr2.Clock.Digits
import Mathlib.Data.List.DropRight

/-!
# RFC 3339 timestamps as text

A `Timestamp` is an instant together with the UTC offset it is shown in, restricted to what RFC 3339
can write: years 0 to 9999 of the wall clock. It is stored by its wall-clock reading, so formatting
only lays out digits. Formatting drops trailing zeros of the fraction and writes the offset, parsing
reads all of it back. The order of the texts is the order of the wall-clock seconds, then of the
remaining characters; it is not in general the order of the instants.
-/

namespace Huntarr2.Clock

/-! ## Wall-clock seconds -/

/-- Seconds in the years 0 to 9999. -/
def maxWall : ℕ := 86400 * 3652425

/-- Wall-clock seconds of 1 January 1970. -/
def epochWall : ℕ := 86400 * 719528

/-- `2006-01-02T15:04:05` for seconds counted from the start of year 0. -/
def dateTimeText (wall : ℕ) : Text :=
  let date := CivilDate.ofDay (wall / 86400)
  pad 4 date.year ++ '-' :: (pad 2 date.month ++ '-' :: (pad 2 date.day ++
    'T' :: (pad 2 (wall % 86400 / 3600) ++ ':' :: (pad 2 (wall % 3600 / 60) ++
      ':' :: pad 2 (wall % 60)))))

@[simp]
theorem length_dateTimeText (wall : ℕ) : (dateTimeText wall).length = 19 := by
  simp [dateTimeText]

theorem pad_append_lt_iff {width first second : ℕ} (hfirst : first < 10 ^ width)
    (hsecond : second < 10 ^ width) (x y : Text) :
    pad width first ++ x < pad width second ++ y ↔ first < second ∨ first = second ∧ x < y := by
  rw [append_lt_append_iff (by simp), pad_lt_pad_iff hfirst hsecond]
  constructor
  · rintro (h | ⟨h, hxy⟩)
    · exact Or.inl h
    · exact Or.inr ⟨pad_injective hfirst hsecond h, hxy⟩
  · rintro (h | ⟨rfl, hxy⟩)
    · exact Or.inl h
    · exact Or.inr ⟨rfl, hxy⟩

theorem year_lt_of_wall {wall : ℕ} (h : wall < maxWall) :
    (CivilDate.ofDay (wall / 86400)).year < 10000 := by
  apply CivilDate.year_lt
  have hlimit : daysBeforeYear 10000 = 3652425 := rfl
  rw [hlimit]
  unfold maxWall at h
  omega

theorem dateTimeText_lt {first second : ℕ} (hsecond : second < maxWall) (hlt : first < second) :
    dateTimeText first < dateTimeText second := by
  have hyear := year_lt_of_wall (hlt.trans hsecond)
  have hyear' := year_lt_of_wall hsecond
  have hmonth (wall : ℕ) := CivilDate.month_le (wall / 86400)
  have hday (wall : ℕ) := CivilDate.day_le (wall / 86400)
  unfold dateTimeText
  rw [pad_append_lt_iff (by omega) (by omega), List.cons_lt_cons_self,
    pad_append_lt_iff (by have := hmonth first; omega) (by have := hmonth second; omega),
    List.cons_lt_cons_self,
    pad_append_lt_iff (by have := hday first; omega) (by have := hday second; omega),
    List.cons_lt_cons_self, pad_append_lt_iff (by omega) (by omega), List.cons_lt_cons_self,
    pad_append_lt_iff (by omega) (by omega), List.cons_lt_cons_self,
    pad_lt_pad_iff (by omega) (by omega)]
  rcases Nat.lt_or_ge (first / 86400) (second / 86400) with hdays | hdays
  · rcases CivilDate.ofDay_lt hdays with h | ⟨hy, h | ⟨hm, h⟩⟩
    · exact Or.inl h
    · exact Or.inr ⟨hy, Or.inl h⟩
    · exact Or.inr ⟨hy, Or.inr ⟨hm, Or.inl h⟩⟩
  · have hsame : first / 86400 = second / 86400 := by omega
    refine Or.inr ⟨by rw [hsame], Or.inr ⟨by rw [hsame], Or.inr ⟨by rw [hsame], ?_⟩⟩⟩
    omega

theorem dateTimeText_lt_iff {first second : ℕ} (hfirst : first < maxWall) (hsecond : second < maxWall) :
    dateTimeText first < dateTimeText second ↔ first < second := by
  refine ⟨fun h ↦ ?_, dateTimeText_lt hsecond⟩
  by_contra hge
  rcases (not_lt.mp hge).lt_or_eq with hlt | rfl
  · exact absurd h (lt_asymm (dateTimeText_lt hfirst hlt))
  · exact absurd h (lt_irrefl _)

theorem dateTimeText_injective {first second : ℕ} (hfirst : first < maxWall)
    (hsecond : second < maxWall) (h : dateTimeText first = dateTimeText second) : first = second := by
  rcases lt_trichotomy first second with hlt | heq | hgt
  · exact absurd h (ne_of_lt (dateTimeText_lt hsecond hlt))
  · exact heq
  · exact absurd h.symm (ne_of_lt (dateTimeText_lt hfirst hgt))

/-! ## Timestamps -/

/-- A clock reading: wall-clock seconds since the start of year 0, nanoseconds, and seconds east of
UTC. The largest offset that is read is `+24:60`. -/
@[ext]
structure Timestamp where
  wall : ℕ
  nanos : ℕ
  offset : ℤ
  wall_lt : wall < maxWall
  nanos_lt : nanos < 1000000000
  offset_le : offset.natAbs ≤ 90000
  deriving DecidableEq

theorem zero_nanos_lt : 0 < 1000000000 := by decide

theorem zero_offset_le : (0 : ℤ).natAbs ≤ 90000 := by decide

/-- Nanoseconds since the Unix epoch. -/
def Timestamp.instant (time : Timestamp) : ℤ :=
  ((time.wall : ℤ) - epochWall - time.offset) * 1000000000 + time.nanos

/-- `time.Now().UTC()`. -/
abbrev UTCTime := { time : Timestamp // time.offset = 0 }

/-- The reading a clock in the given zone shows at an instant, when RFC 3339 can write it. -/
def Timestamp.ofInstant (instant offset : ℤ) : Option Timestamp :=
  let wall := instant / 1000000000 + epochWall + offset
  if h : 0 ≤ wall ∧ wall.toNat < maxWall ∧ offset.natAbs ≤ 90000 then
    some ⟨wall.toNat, (instant % 1000000000).toNat, offset, h.2.1, by omega, h.2.2⟩
  else none

theorem Timestamp.instant_ofInstant {instant offset : ℤ} {time : Timestamp}
    (h : Timestamp.ofInstant instant offset = some time) :
    time.instant = instant ∧ time.offset = offset := by
  unfold Timestamp.ofInstant at h
  dsimp only at h
  split at h
  case isTrue hrange =>
    obtain rfl := Option.some.inj h
    refine ⟨?_, rfl⟩
    unfold Timestamp.instant
    dsimp only
    omega
  case isFalse => simp at h

/-- Minutes since midnight on the wall clock. -/
def Timestamp.minuteOfDay (time : Timestamp) : ℕ := time.wall % 86400 / 60

/-- The fraction of a second: nothing for a whole second, else no trailing zeros. -/
def fractionText (nanos : ℕ) : Text :=
  if nanos = 0 then [] else '.' :: (pad 9 nanos).rdropWhile (· = '0')

/-- The zone is written in minutes; a part of a minute is cut off towards zero. -/
def zoneText (offset : ℤ) : Text :=
  if offset = 0 then ['Z']
  else
    let zone := offset.tdiv 60
    (if zone < 0 then '-' else '+') :: (pad 2 (zone.natAbs / 60) ++ ':' :: pad 2 (zone.natAbs % 60))

/-- `time.Format(time.RFC3339Nano)`. -/
def Timestamp.formatRFC3339Nano (time : Timestamp) : Text :=
  dateTimeText time.wall ++ (fractionText time.nanos ++ zoneText time.offset)

/-- Texts of timestamps compare by wall-clock second first; the zone is compared last, as text. -/
theorem Timestamp.format_lt_iff (first second : Timestamp) :
    first.formatRFC3339Nano < second.formatRFC3339Nano ↔
      first.wall < second.wall ∨ first.wall = second.wall ∧
        fractionText first.nanos ++ zoneText first.offset <
          fractionText second.nanos ++ zoneText second.offset := by
  unfold Timestamp.formatRFC3339Nano
  rw [append_lt_append_iff (by simp), dateTimeText_lt_iff first.wall_lt second.wall_lt]
  constructor
  · rintro (h | ⟨h, htail⟩)
    · exact Or.inl h
    · exact Or.inr ⟨dateTimeText_injective first.wall_lt second.wall_lt h, htail⟩
  · rintro (h | ⟨h, htail⟩)
    · exact Or.inl h
    · exact Or.inr ⟨by rw [h], htail⟩

/-! ## Reading a timestamp back -/

def readChar (expected : Char) : Text → Option Text
  | c :: text => if c = expected then some text else none
  | [] => none

@[simp]
theorem readChar_cons (c : Char) (text : Text) : readChar c (c :: text) = some text := by
  simp [readChar]

/-- `getnum` where the width is not fixed: one digit is enough. -/
def readShort (text : Text) : Option (ℕ × Text) :=
  (readDigits 2 0 text).or (readDigits 1 0 text)

def readDateTime (text : Text) : Option (ℕ × Text) := do
  let (year, text) ← readDigits 4 0 text
  let text ← readChar '-' text
  let (month, text) ← readDigits 2 0 text
  let text ← readChar '-' text
  let (day, text) ← readDigits 2 0 text
  let text ← readChar 'T' text
  let (hour, text) ← readShort text
  let text ← readChar ':' text
  let (minute, text) ← readDigits 2 0 text
  let text ← readChar ':' text
  let (second, text) ← readDigits 2 0 text
  let date : CivilDate := ⟨year, month, day⟩
  if date.Valid ∧ hour < 24 ∧ minute < 60 ∧ second < 60 then
    some (date.toDay * 86400 + hour * 3600 + minute * 60 + second, text)
  else none

/-- An optional fraction in nanoseconds, after a point or a comma. Digits after the ninth are
ignored. -/
def readFraction : Text → Option (ℕ × Text)
  | [] => some (0, [])
  | c :: text =>
    if c = '.' ∨ c = ',' then
      let digits := text.takeWhile fun c ↦ (digitValue c).isSome
      if digits.length = 0 then none
      else (readDigits 9 0 ((digits ++ List.replicate 9 '0').take 9)).map
        fun read ↦ (read.1, text.drop digits.length)
    else some (0, c :: text)

def readZone : Text → Option ℤ
  | ['Z'] => some 0
  | sign :: text => do
    let (hours, text) ← readDigits 2 0 text
    let text ← readChar ':' text
    let (minutes, text) ← readDigits 2 0 text
    if text = [] ∧ hours ≤ 24 ∧ minutes ≤ 60 then
      if sign = '+' then some ((hours * 60 + minutes) * 60 : ℕ)
      else if sign = '-' then some (-((hours * 60 + minutes) * 60 : ℕ))
      else none
    else none
  | [] => none

/-- `time.Parse(time.RFC3339Nano, text)`. -/
def parseRFC3339Nano (text : Text) : Option Timestamp := do
  let (wall, text) ← readDateTime text
  let (nanos, text) ← readFraction text
  let offset ← readZone text
  if h : wall < maxWall ∧ nanos < 1000000000 ∧ offset.natAbs ≤ 90000 then
    some ⟨wall, nanos, offset, h.1, h.2.1, h.2.2⟩
  else none

/-! ## Round trip -/

theorem readDigits_pad_zero (width value : ℕ) (rest : Text) (hvalue : value < 10 ^ width) :
    readDigits width 0 (pad width value ++ rest) = some (value, rest) := by
  rw [readDigits_pad width value 0 rest hvalue, Nat.zero_mul, Nat.zero_add]

theorem readShort_pad {value : ℕ} (hvalue : value < 10 ^ 2) (rest : Text) :
    readShort (pad 2 value ++ rest) = some (value, rest) := by
  unfold readShort
  rw [readDigits_pad_zero 2 value rest hvalue, Option.some_or]

theorem readDateTime_dateTimeText {wall : ℕ} (hwall : wall < maxWall) (rest : Text) :
    readDateTime (dateTimeText wall ++ rest) = some (wall, rest) := by
  have hyear := year_lt_of_wall hwall
  have hmonth := CivilDate.month_le (wall / 86400)
  have hday := CivilDate.day_le (wall / 86400)
  have hvalid := CivilDate.valid_ofDay (wall / 86400)
  have hdays := CivilDate.toDay_ofDay (wall / 86400)
  have htime : wall / 86400 * 86400 + wall % 86400 / 3600 * 3600 + wall % 3600 / 60 * 60 +
      wall % 60 = wall := by omega
  have hranges : wall % 86400 / 3600 < 24 ∧ wall % 3600 / 60 < 60 ∧ wall % 60 < 60 := by omega
  unfold dateTimeText readDateTime
  simp only [List.append_assoc, List.cons_append]
  rw [readDigits_pad_zero 4 _ _ (by omega)]
  simp only [Option.bind_eq_bind, Option.bind_some, readChar_cons]
  rw [readDigits_pad_zero 2 _ _ (by omega)]
  simp only [Option.bind_some, readChar_cons]
  rw [readDigits_pad_zero 2 _ _ (by omega)]
  simp only [Option.bind_some, readChar_cons]
  rw [readShort_pad (by omega)]
  simp only [Option.bind_some, readChar_cons]
  rw [readDigits_pad_zero 2 _ _ (by omega)]
  simp only [Option.bind_some, readChar_cons]
  rw [readDigits_pad_zero 2 _ _ (by omega)]
  simp only [Option.bind_some]
  rw [if_pos ⟨hvalid, hranges⟩, hdays, htime]

theorem pad_eq_replicate_iff {width value : ℕ} (hvalue : value < 10 ^ width) :
    (∀ c ∈ pad width value, c = '0') ↔ value = 0 := by
  have hzero : pad width 0 = List.replicate width '0' := by
    clear hvalue
    induction width with
    | zero => rfl
    | succ width ih =>
      rw [pad, Nat.zero_div, ih, List.replicate_succ']
      rfl
  constructor
  · intro h
    have heq : pad width value = pad width 0 := by
      rw [hzero]
      exact List.eq_replicate_iff.mpr ⟨length_pad width value, h⟩
    exact pad_injective hvalue (pow_pos (by norm_num) width) heq
  · rintro rfl c hc
    rw [hzero] at hc
    exact List.eq_of_mem_replicate hc

/-- Dropping trailing zeros and putting them back. -/
theorem rdropWhile_append_replicate (text : Text) :
    text.rdropWhile (· = '0') ++
      List.replicate (text.length - (text.rdropWhile (· = '0')).length) '0' = text := by
  have hsplit := List.rdropWhile_append_rtakeWhile (p := fun c : Char ↦ decide (c = '0')) (l := text)
  have hzeros : text.rtakeWhile (· = '0') =
      List.replicate (text.rtakeWhile (· = '0')).length '0' := by
    refine List.eq_replicate_iff.mpr ⟨rfl, fun c hc ↦ ?_⟩
    simpa using List.mem_rtakeWhile_imp hc
  have hlength := congrArg List.length hsplit
  rw [List.length_append] at hlength
  rw [show text.length - (text.rdropWhile (· = '0')).length =
    (text.rtakeWhile (· = '0')).length by omega, ← hzeros]
  exact hsplit

theorem isSome_digitValue_of_mem_pad {width value : ℕ} {c : Char} (h : c ∈ pad width value) :
    (digitValue c).isSome := by
  obtain ⟨d, hd, rfl⟩ := mem_pad h
  rw [digitValue_digit d hd]
  rfl

/-- Outside UTC a zone begins with its sign. -/
theorem zoneText_of_ne_zero {offset : ℤ} (hoffset : offset ≠ 0) :
    ∃ sign text, zoneText offset = sign :: text ∧ (sign = '-' ∨ sign = '+') := by
  refine ⟨if offset.tdiv 60 < 0 then '-' else '+', _, if_neg hoffset, ?_⟩
  exact ite_eq_or_eq _ _ _

/-- A zone begins with a character that is neither a digit nor in front of a fraction. -/
theorem zoneText_head (offset : ℤ) :
    ∃ c text, zoneText offset = c :: text ∧ ¬(c = '.' ∨ c = ',') ∧
      (digitValue c).isSome = false := by
  by_cases hzero : offset = 0
  · exact ⟨'Z', [], by rw [zoneText, if_pos hzero], by decide, by decide⟩
  · obtain ⟨sign, text, heq, rfl | rfl⟩ := zoneText_of_ne_zero hzero
    · exact ⟨'-', text, heq, by decide, by decide⟩
    · exact ⟨'+', text, heq, by decide, by decide⟩

/-- Up to nine digits are filled up with zeros. -/
theorem take_append_zeros {digits : Text} (h : digits.length ≤ 9) :
    (digits ++ List.replicate 9 '0').take 9 = digits ++ List.replicate (9 - digits.length) '0' := by
  rw [List.take_append, List.take_of_length_le h, List.take_replicate, min_eq_left (Nat.sub_le _ _)]

theorem readFraction_fractionText {nanos : ℕ} (hnanos : nanos < 1000000000) (offset : ℤ) :
    readFraction (fractionText nanos ++ zoneText offset) = some (nanos, zoneText offset) := by
  obtain ⟨c, zone, hzone, hpoint, hdigit⟩ := zoneText_head offset
  unfold fractionText
  by_cases hzero : nanos = 0
  · rw [if_pos hzero, hzero, List.nil_append, hzone]
    unfold readFraction
    exact if_neg hpoint
  · rw [if_neg hzero, List.cons_append]
    set digits := (pad 9 nanos).rdropWhile (· = '0') with hdigits
    have htake : (digits ++ zoneText offset).takeWhile (fun c ↦ (digitValue c).isSome) = digits := by
      rw [List.takeWhile_append_of_pos, hzone, List.takeWhile_cons_of_neg (by simp [hdigit]),
        List.append_nil]
      intro d hd
      exact isSome_digitValue_of_mem_pad ((List.rdropWhile_prefix _ _).subset hd)
    have hrestore := rdropWhile_append_replicate (pad 9 nanos)
    rw [length_pad, ← hdigits] at hrestore
    have hlength := congrArg List.length hrestore
    simp only [List.length_append, List.length_replicate, length_pad] at hlength
    have hpositive : digits.length ≠ 0 := by
      intro hempty
      have hall := List.rdropWhile_eq_nil_iff.mp (List.length_eq_zero_iff.mp hempty)
      have hnanos' : nanos < 10 ^ 9 := hnanos
      exact hzero ((pad_eq_replicate_iff hnanos').mp fun c hc ↦ by simpa using hall c hc)
    have hread := readDigits_pad_zero 9 nanos [] hnanos
    rw [List.append_nil] at hread
    simp only [readFraction, htake, true_or, if_true]
    rw [if_neg (by omega), take_append_zeros (by omega), hrestore, hread, List.drop_left]
    rfl

/-- A zone of whole minutes is read back. -/
theorem readZone_zoneText {offset : ℤ} (hoffset : offset.natAbs < 90000) (hminutes : 60 ∣ offset) :
    readZone (zoneText offset) = some offset := by
  obtain ⟨zone, rfl⟩ := hminutes
  have hzone : (60 * zone).tdiv 60 = zone := Int.mul_tdiv_cancel_left zone (by norm_num)
  unfold zoneText
  by_cases hzero : 60 * zone = 0
  · rw [if_pos hzero, hzero]
    rfl
  · rw [if_neg hzero]
    dsimp only
    rw [hzone]
    have hread := readDigits_pad_zero 2 (zone.natAbs % 60) [] (by omega)
    rw [List.append_nil] at hread
    have hranges : zone.natAbs / 60 ≤ 24 ∧ zone.natAbs % 60 ≤ 60 := by omega
    have hsplit : zone.natAbs / 60 * 60 + zone.natAbs % 60 = zone.natAbs := by omega
    unfold readZone
    split
    case h_1 heq => simp [pad] at heq
    case h_2 sign text _ heq =>
      obtain ⟨rfl, rfl⟩ := List.cons.inj heq
      simp only [readDigits_pad_zero 2 _ _ (show zone.natAbs / 60 < 10 ^ 2 by omega), hread,
        Option.bind_eq_bind, Option.bind_some, readChar_cons, hranges, and_self, if_true, hsplit]
      by_cases hneg : zone < 0
      · rw [if_pos hneg, if_neg (by decide), if_pos rfl]
        exact congrArg some (by omega)
      · rw [if_neg hneg, if_pos rfl]
        exact congrArg some (by omega)
    case h_3 heq => simp at heq

/-- A timestamp in a zone of whole minutes survives its text, zone included. -/
theorem parse_formatRFC3339Nano (time : Timestamp) (hoffset : time.offset.natAbs < 90000)
    (hminutes : 60 ∣ time.offset) :
    parseRFC3339Nano time.formatRFC3339Nano = some time := by
  unfold Timestamp.formatRFC3339Nano parseRFC3339Nano
  rw [readDateTime_dateTimeText time.wall_lt]
  simp only [Option.bind_eq_bind, Option.bind_some, readFraction_fractionText time.nanos_lt,
    readZone_zoneText hoffset hminutes]
  rw [dif_pos ⟨time.wall_lt, time.nanos_lt, time.offset_le⟩]

theorem parse_formatRFC3339Nano_utc (time : Timestamp) (hutc : time.offset = 0) :
    parseRFC3339Nano time.formatRFC3339Nano = some time := by
  refine parse_formatRFC3339Nano time ?_ ?_
  · rw [hutc]
    decide
  · rw [hutc]
    exact dvd_zero 60

-- An hour of one digit, a comma, ten digits after it, and an offset of 25 hours.
example : (parseRFC3339Nano "1970-01-02T1:00:00,1234567891+24:60").map (·.instant) =
    some 123456789 := by
  decide

end Huntarr2.Clock
