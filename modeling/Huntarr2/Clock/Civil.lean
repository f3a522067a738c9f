import Mathlib.Tactic

/-!
# Civil dates

Day numbers count from 1 January of year 0 of the proleptic Gregorian calendar. A day number and its
year, month and day determine each other, and dates compare component by component exactly as their
day numbers do.
-/

namespace Huntarr2.Clock

/-! ## Blocks of given lengths -/

/-- Locate a position in consecutive blocks: the index of its block and the position inside it. -/
def locate : List ℕ → ℕ → ℕ × ℕ
  | [], position => (0, position)
  | block :: blocks, position =>
    if position < block then (0, position)
    else ((locate blocks (position - block)).1 + 1, (locate blocks (position - block)).2)

theorem locate_spec (blocks : List ℕ) (position : ℕ) (h : position < blocks.sum) :
    (locate blocks position).1 < blocks.length ∧
      (locate blocks position).2 < blocks.getD (locate blocks position).1 0 ∧
      (blocks.take (locate blocks position).1).sum + (locate blocks position).2 = position := by
  induction blocks generalizing position with
  | nil => simp at h
  | cons block blocks ih =>
    rw [List.sum_cons] at h
    unfold locate
    split
    case isTrue hin => simp [hin]
    case isFalse hout =>
      obtain ⟨hindex, hinner, hsum⟩ := ih (position - block) (by omega)
      refine ⟨by simpa using hindex, by simpa using hinner, ?_⟩
      simp only [List.take_succ_cons, List.sum_cons]
      omega

theorem locate_lt (blocks : List ℕ) (first second : ℕ) (h : first < second) :
    (locate blocks first).1 < (locate blocks second).1 ∨
      (locate blocks first).1 = (locate blocks second).1 ∧
        (locate blocks first).2 < (locate blocks second).2 := by
  induction blocks generalizing first second with
  | nil => exact Or.inr ⟨rfl, h⟩
  | cons block blocks ih =>
    unfold locate
    by_cases hsecond : second < block
    · rw [if_pos (h.trans hsecond), if_pos hsecond]
      exact Or.inr ⟨rfl, h⟩
    · by_cases hfirst : first < block
      · rw [if_pos hfirst, if_neg hsecond]
        exact Or.inl (Nat.succ_pos _)
      · rw [if_neg hfirst, if_neg hsecond]
        rcases ih (first - block) (second - block) (by omega) with hlt | ⟨heq, hlt⟩
        · exact Or.inl (Nat.succ_lt_succ hlt)
        · exact Or.inr ⟨congrArg (· + 1) heq, hlt⟩

/-! ## Years -/

def isLeap (year : ℕ) : Bool := year % 4 = 0 ∧ (year % 100 ≠ 0 ∨ year % 400 = 0)

/-- Days before 1 January of a year; year 0 is itself a leap year. -/
def daysBeforeYear (year : ℕ) : ℕ :=
  365 * year + (year + 3) / 4 + (year + 399) / 400 - (year + 99) / 100

def yearLength (year : ℕ) : ℕ := if isLeap year then 366 else 365

theorem daysBeforeYear_succ (year : ℕ) :
    daysBeforeYear (year + 1) = daysBeforeYear year + yearLength year := by
  have h4 : (year + 1 + 3) / 4 = (year + 3) / 4 + if year % 4 = 0 then 1 else 0 := by
    split <;> omega
  have h100 : (year + 1 + 99) / 100 = (year + 99) / 100 + if year % 100 = 0 then 1 else 0 := by
    split <;> omega
  have h400 : (year + 1 + 399) / 400 = (year + 399) / 400 + if year % 400 = 0 then 1 else 0 := by
    split <;> omega
  have hcentury : (year + 99) / 100 ≤ (year + 3) / 4 := by omega
  have hdiv4 : year % 100 = 0 → year % 4 = 0 := by omega
  have hdiv100 : year % 400 = 0 → year % 100 = 0 := by omega
  unfold daysBeforeYear
  rw [h4, h100, h400]
  generalize (year + 3) / 4 = fours at *
  generalize (year + 99) / 100 = hundreds at *
  generalize (year + 399) / 400 = fourHundreds at *
  unfold yearLength isLeap
  by_cases hfour : year % 4 = 0 <;> by_cases hhundred : year % 100 = 0 <;>
    by_cases hfourHundred : year % 400 = 0 <;> simp_all <;> omega

theorem daysBeforeYear_mono {first second : ℕ} (h : first ≤ second) :
    daysBeforeYear first ≤ daysBeforeYear second := by
  refine monotone_nat_of_le_succ (fun year ↦ ?_) h
  rw [daysBeforeYear_succ]
  exact Nat.le_add_right _ _

/-- A year begins within two days of the time the mean year length gives. -/
theorem daysBeforeYear_bounds (year : ℕ) :
    146097 * year ≤ 400 * daysBeforeYear year + 396 ∧
      400 * daysBeforeYear year ≤ 146097 * year + 699 := by
  unfold daysBeforeYear
  omega

/-- The year of a day, from the mean year length corrected by at most one. -/
def yearOfDay (day : ℕ) : ℕ :=
  let estimate := 400 * day / 146097
  if daysBeforeYear (estimate + 1) ≤ day then estimate + 1
  else if daysBeforeYear estimate ≤ day then estimate
  else estimate - 1

theorem yearOfDay_spec (day : ℕ) :
    daysBeforeYear (yearOfDay day) ≤ day ∧ day < daysBeforeYear (yearOfDay day + 1) := by
  unfold yearOfDay
  have hnext : day < daysBeforeYear (400 * day / 146097 + 2) := by
    have hbound := (daysBeforeYear_bounds (400 * day / 146097 + 2)).1
    omega
  dsimp only
  split
  case isTrue h => exact ⟨h, hnext⟩
  case isFalse h =>
    split
    case isTrue hle => exact ⟨hle, not_le.mp h⟩
    case isFalse hle =>
      have hpositive : 0 < 400 * day / 146097 := by
        by_contra hzero
        have hestimate : 400 * day / 146097 = 0 := by omega
        simp [hestimate, daysBeforeYear] at hle
      have hbound := (daysBeforeYear_bounds (400 * day / 146097 - 1)).2
      rw [Nat.sub_add_cancel hpositive]
      exact ⟨by omega, not_le.mp hle⟩

theorem yearOfDay_le {first second : ℕ} (h : first ≤ second) : yearOfDay first ≤ yearOfDay second := by
  by_contra hlt
  have hmono : daysBeforeYear (yearOfDay second + 1) ≤ daysBeforeYear (yearOfDay first) :=
    daysBeforeYear_mono (not_le.mp hlt)
  have hfirst := (yearOfDay_spec first).1
  have hsecond := (yearOfDay_spec second).2
  omega

/-! ## Dates -/

def monthLengths (year : ℕ) : List ℕ :=
  [31, if isLeap year then 29 else 28, 31, 30, 31, 30, 31, 31, 30, 31, 30, 31]

theorem monthLengths_sum (year : ℕ) : (monthLengths year).sum = yearLength year := by
  unfold monthLengths yearLength
  cases isLeap year <;> rfl

structure CivilDate where
  year : ℕ
  month : ℕ
  day : ℕ
  deriving DecidableEq, Repr

/-- The date of a day number. -/
def CivilDate.ofDay (day : ℕ) : CivilDate :=
  let year := yearOfDay day
  let position := locate (monthLengths year) (day - daysBeforeYear year)
  ⟨year, position.1 + 1, position.2 + 1⟩

/-- A date that the calendar has. -/
def CivilDate.Valid (date : CivilDate) : Prop :=
  1 ≤ date.month ∧ date.month ≤ 12 ∧ 1 ≤ date.day ∧
    date.day ≤ (monthLengths date.year).getD (date.month - 1) 0

instance (date : CivilDate) : Decidable date.Valid :=
  inferInstanceAs (Decidable (_ ∧ _))

/-- The day number of a date. -/
def CivilDate.toDay (date : CivilDate) : ℕ :=
  daysBeforeYear date.year + ((monthLengths date.year).take (date.month - 1)).sum + (date.day - 1)

theorem dayOfYear_lt (day : ℕ) :
    day - daysBeforeYear (yearOfDay day) < (monthLengths (yearOfDay day)).sum := by
  obtain ⟨hlow, hhigh⟩ := yearOfDay_spec day
  rw [daysBeforeYear_succ] at hhigh
  rw [monthLengths_sum]
  omega

theorem CivilDate.valid_ofDay (day : ℕ) : (CivilDate.ofDay day).Valid := by
  obtain ⟨hmonth, hday, _⟩ := locate_spec _ _ (dayOfYear_lt day)
  have hlength : (monthLengths (yearOfDay day)).length = 12 := rfl
  rw [hlength] at hmonth
  refine ⟨Nat.succ_pos _, hmonth, Nat.succ_pos _, ?_⟩
  exact Nat.succ_le_of_lt hday

theorem CivilDate.toDay_ofDay (day : ℕ) : (CivilDate.ofDay day).toDay = day := by
  obtain ⟨_, _, hsum⟩ := locate_spec _ _ (dayOfYear_lt day)
  have hlow := (yearOfDay_spec day).1
  simp only [CivilDate.ofDay, CivilDate.toDay, Nat.add_sub_cancel]
  omega

theorem CivilDate.month_le (day : ℕ) : (CivilDate.ofDay day).month ≤ 12 :=
  (CivilDate.valid_ofDay day).2.1

theorem CivilDate.day_le (day : ℕ) : (CivilDate.ofDay day).day ≤ 31 := by
  refine (CivilDate.valid_ofDay day).2.2.2.trans ?_
  have hmonth := CivilDate.month_le day
  generalize (CivilDate.ofDay day).month - 1 = index
  generalize (CivilDate.ofDay day).year = year
  unfold monthLengths
  cases isLeap year <;> rcases index with _ | _ | _ | _ | _ | _ | _ | _ | _ | _ | _ | _ | index <;> simp

theorem CivilDate.year_lt {day limit : ℕ} (h : day < daysBeforeYear limit) :
    (CivilDate.ofDay day).year < limit := by
  by_contra hge
  have hmono := daysBeforeYear_mono (not_lt.mp hge)
  have hlow := (yearOfDay_spec day).1
  simp only [CivilDate.ofDay] at hmono
  omega

/-- Dates compare by year, then month, then day. -/
theorem CivilDate.ofDay_lt {first second : ℕ} (h : first < second) :
    (CivilDate.ofDay first).year < (CivilDate.ofDay second).year ∨
      (CivilDate.ofDay first).year = (CivilDate.ofDay second).year ∧
        ((CivilDate.ofDay first).month < (CivilDate.ofDay second).month ∨
          (CivilDate.ofDay first).month = (CivilDate.ofDay second).month ∧
            (CivilDate.ofDay first).day < (CivilDate.ofDay second).day) := by
  rcases (yearOfDay_le h.le).lt_or_eq with hyear | hyear
  · exact Or.inl hyear
  · refine Or.inr ⟨hyear, ?_⟩
    have hlow := (yearOfDay_spec first).1
    have hinner : first - daysBeforeYear (yearOfDay first) <
        second - daysBeforeYear (yearOfDay first) := by omega
    have hlocate := locate_lt (monthLengths (yearOfDay first)) _ _ hinner
    simp only [CivilDate.ofDay, ← hyear]
    rcases hlocate with hmonth | ⟨hmonth, hday⟩
    · exact Or.inl (Nat.succ_lt_succ hmonth)
    · exact Or.inr ⟨congrArg (· + 1) hmonth, Nat.succ_lt_succ hday⟩

example : CivilDate.ofDay 719528 = ⟨1970, 1, 1⟩ := by decide

end Huntarr2.Clock
