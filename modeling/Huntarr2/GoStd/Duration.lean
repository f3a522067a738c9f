import Huntarr2.GoStd.Float64

/-!
# Durations from text

`time.ParseDuration`: a sign and a sequence of decimal numbers with units. A duration is a number of
nanoseconds; a fraction of a unit is multiplied in floating point and cut off to whole nanoseconds.
-/

namespace Huntarr2.GoStd

/-- `time.Duration`, in nanoseconds. -/
abbrev Duration := ℤ

def second : Duration := 1000000000

def minute : Duration := 60 * second

def hour : Duration := 60 * minute

/-- A point in time, in nanoseconds since the Unix epoch. -/
abbrev Time := ℤ

/-- The zero `time.Time`, 1 January of year 1 in UTC. -/
def zeroTime : Time := -62135596800 * second

/-- The units `ParseDuration` knows. -/
def unitMap : List (Text × ℕ) :=
  [("ns", 1), ("us", 1000), ("µs", 1000), ("μs", 1000), ("ms", 1000000), ("s", 1000000000),
    ("m", 60000000000), ("h", 3600000000000)]

/-- The largest magnitude the accumulator may reach. -/
def maxMagnitude : ℕ := 2 ^ 63

def isDigit (c : Char) : Bool := (digitValue c).isSome

/-- The digits in front, with overflow reported as an error. -/
def leadingInt (text : Text) : Option (ℕ × Text) :=
  let digits := text.takeWhile isDigit
  (digitsValue digits).bind fun value ↦
    if value ≤ maxMagnitude then some (value, text.drop digits.length) else none

/-- The digits of a fraction that still fit, their scale, and the rest of the text. -/
def leadingFraction (text : Text) : ℕ × ℚ × Text :=
  let digits := text.takeWhile isDigit
  let kept := digits.foldl
    (fun (value, scale, overflow) c ↦
      let next := value * 10 + (digitValue c).getD 0
      if overflow || (2 ^ 63 - 1) / 10 < value || maxMagnitude < next then (value, scale, true)
      else (next, float64 (scale * 10), false))
    ((0 : ℕ), (1 : ℚ), false)
  (kept.1, kept.2.1, text.drop digits.length)

/-- A number with at least one digit: the value before the point, the fraction after it with its
scale, and the rest of the text. -/
def leadingNumber (text : Text) : Option (ℕ × ℕ × ℚ × Text) :=
  (leadingInt text).bind fun (value, rest) ↦
    let pre := rest.length != text.length
    match rest with
    | '.' :: tail =>
      let (fraction, scale, afterFraction) := leadingFraction tail
      let post := afterFraction.length != tail.length
      if pre || post then some (value, fraction, scale, afterFraction) else none
    | rest => if pre then some (value, 0, 1, rest) else none

/-- The unit up to the next digit or decimal point. -/
def leadingUnit (text : Text) : Option (ℕ × Text) :=
  let unitText := text.takeWhile fun c ↦ c != '.' && !isDigit c
  (unitMap.lookup unitText).map fun unit ↦ (unit, text.drop unitText.length)

/-- `uint64(float64(f) * (float64(unit) / scale))`. -/
def fractionNanos (fraction : ℕ) (scale : ℚ) (unit : ℕ) : ℕ :=
  if fraction = 0 then 0 else ⌊float64 (float64 fraction * float64 (unit / scale))⌋.toNat

/-- One number with its unit: its nanoseconds and the rest of the text. -/
def parseComponent (text : Text) : Option (ℕ × Text) :=
  (leadingNumber text).bind fun (value, fraction, scale, afterNumber) ↦
    (leadingUnit afterNumber).bind fun (unit, rest) ↦
      let total := value * unit + fractionNanos fraction scale unit
      if maxMagnitude / unit < value || maxMagnitude < total then none else some (total, rest)

/-- The components one after the other. Every component shortens the text, so its length is enough
fuel. -/
def parseComponents : ℕ → Text → ℕ → Option ℕ
  | _, [], total => some total
  | 0, _ :: _, _ => none
  | fuel + 1, text@(_ :: _), total =>
    (parseComponent text).bind fun (value, rest) ↦
      if maxMagnitude < total + value then none else parseComponents fuel rest (total + value)

/-- `time.ParseDuration`. -/
def parseDuration (text : Text) : Option Duration :=
  let (sign, text) := splitSign text
  if text = ['0'] then some 0
  else if text.isEmpty then none
  else (parseComponents text.length text 0).bind fun total ↦
    if sign = -1 then some (-total) else if maxInt64 < total then none else some total

theorem leadingInt_length_le {text rest : Text} {value : ℕ}
    (h : leadingInt text = some (value, rest)) : rest.length ≤ text.length := by
  unfold leadingInt at h
  obtain ⟨digits, _, hread⟩ := Option.bind_eq_some_iff.mp h
  split at hread
  case isTrue =>
    obtain ⟨-, rfl⟩ := Prod.mk.inj (Option.some.inj hread)
    rw [List.length_drop]
    exact Nat.sub_le _ _
  case isFalse => simp at hread

theorem leadingNumber_length_le {text rest : Text} {value fraction : ℕ} {scale : ℚ}
    (h : leadingNumber text = some (value, fraction, scale, rest)) : rest.length ≤ text.length := by
  unfold leadingNumber at h
  obtain ⟨⟨number, afterInt⟩, hint, hread⟩ := Option.bind_eq_some_iff.mp h
  have hafterInt := leadingInt_length_le hint
  dsimp only at hread
  split at hread
  case h_1 tail =>
    have hfraction : (leadingFraction tail).2.2.length ≤ tail.length := by simp [leadingFraction]
    split at hread
    case isTrue =>
      simp only [Option.some.injEq, Prod.mk.injEq] at hread
      rw [hread.2.2.2] at hfraction
      rw [List.length_cons] at hafterInt
      omega
    case isFalse => simp at hread
  case h_2 =>
    split at hread
    case isTrue =>
      simp only [Option.some.injEq, Prod.mk.injEq] at hread
      rwa [hread.2.2.2] at hafterInt
    case isFalse => simp at hread

theorem leadingUnit_shorter {text rest : Text} {unit : ℕ}
    (h : leadingUnit text = some (unit, rest)) : rest.length < text.length := by
  unfold leadingUnit at h
  obtain ⟨found, hfound, hread⟩ := Option.map_eq_some_iff.mp h
  obtain ⟨-, rfl⟩ := Prod.mk.inj hread
  cases htext : text.takeWhile fun c ↦ c != '.' && !isDigit c with
  | nil =>
    rw [htext] at hfound
    exact absurd hfound (by simp [show unitMap.lookup [] = none by decide])
  | cons c unitText =>
    have hlength := (List.takeWhile_prefix (l := text) fun c ↦ c != '.' && !isDigit c).length_le
    rw [htext, List.length_cons] at hlength
    rw [List.length_drop, List.length_cons]
    omega

/-- A component consumes at least its unit. -/
theorem parseComponent_shorter {text rest : Text} {value : ℕ}
    (h : parseComponent text = some (value, rest)) : rest.length < text.length := by
  unfold parseComponent at h
  obtain ⟨⟨number, fraction, scale, afterNumber⟩, hnumber, h⟩ := Option.bind_eq_some_iff.mp h
  obtain ⟨⟨unit, afterUnit⟩, hunit, h⟩ := Option.bind_eq_some_iff.mp h
  dsimp only at h
  split at h
  case isTrue => simp at h
  case isFalse =>
    obtain ⟨-, rfl⟩ := Prod.mk.inj (Option.some.inj h)
    exact (leadingUnit_shorter hunit).trans_le (leadingNumber_length_le hnumber)

/-- More fuel than characters changes nothing. -/
theorem parseComponents_fuel (fuel more : ℕ) (text : Text) (total : ℕ) (hfuel : text.length ≤ fuel) :
    parseComponents (fuel + more) text total = parseComponents fuel text total := by
  induction fuel generalizing text total with
  | zero =>
    rw [List.length_eq_zero_iff.mp (Nat.le_zero.mp hfuel)]
    simp only [parseComponents]
  | succ fuel ih =>
    cases text with
    | nil => simp only [parseComponents]
    | cons c text =>
      rw [Nat.add_right_comm]
      simp only [parseComponents]
      cases hcomponent : parseComponent (c :: text) with
      | none => rfl
      | some component =>
        have hshorter : component.2.length < (c :: text).length :=
          parseComponent_shorter hcomponent
        simp only [Option.bind_some]
        rw [ih component.2 _ (by rw [List.length_cons] at hfuel hshorter; omega)]

example : parseDuration "1h30m" = some (90 * minute) := by decide

-- The exact fraction falls short of 20 minutes by less than a nanosecond.
example : parseDuration "0.3333333333333333333h" = some (20 * minute) := by decide +kernel

end Huntarr2.GoStd
