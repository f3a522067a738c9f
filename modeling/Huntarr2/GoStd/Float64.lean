import Huntarr2.GoStd.Strconv
import Mathlib.Data.Int.Log
import Mathlib.Data.Rat.Floor

/-!
# Floating point numbers

A finite `float64` is a rational number. Conversions and quotients round to the nearest number with a
significand of 53 bits; the numbers the program meets are far from the ends of the exponent range.
-/

namespace Huntarr2.GoStd

/-- The nearest integer, and of two equally near ones the even one. -/
def roundHalfEven (value : ℚ) : ℤ :=
  let rest := value - ⌊value⌋
  if rest < 1 / 2 then ⌊value⌋
  else if 1 / 2 < rest then ⌊value⌋ + 1
  else if ⌊value⌋ % 2 = 0 then ⌊value⌋ else ⌊value⌋ + 1

/-- The nearest `float64`. -/
def float64 (value : ℚ) : ℚ :=
  let unit : ℚ := 2 ^ (Int.log 2 |value| - 52)
  roundHalfEven (value / unit) * unit

/-- `int64(value)`, as it is computed on amd64: cut off towards zero, and the least integer for a value
out of range. -/
def int64OfFloat (value : ℚ) : ℤ :=
  let cut := if 0 ≤ value then ⌊value⌋ else ⌈value⌉
  if minInt64 ≤ cut ∧ cut ≤ maxInt64 then cut else minInt64

/-- `math.Round`: half away from zero. -/
def mathRound (value : ℚ) : ℤ := if 0 ≤ value then ⌊value + 1 / 2⌋ else ⌈value - 1 / 2⌉

/-- `strconv.FormatFloat(value, 'f', 1, 64)`, for a value that is not negative. -/
def formatOneDecimal (value : ℚ) : String :=
  let tenths := (roundHalfEven (value * 10)).toNat
  toString (tenths / 10) ++ "." ++ toString (tenths % 10)

theorem roundHalfEven_intCast (value : ℤ) : roundHalfEven value = value := by
  unfold roundHalfEven
  rw [Int.floor_intCast, sub_self]
  exact if_pos (by norm_num)

/-- In the scale of its significand an integer up to 2^53 is an integer. -/
theorem exists_significand {value : ℤ} (h : |value| ≤ 2 ^ 53) : ∃ significand : ℤ,
    (value : ℚ) / 2 ^ (Int.log 2 |(value : ℚ)| - 52) = significand := by
  have hlog : Int.log 2 |(value : ℚ)| = Nat.log 2 value.natAbs := by
    rw [← Int.cast_abs, Int.abs_eq_natAbs, Int.cast_natCast, Int.log_natCast]
  rw [hlog]
  rcases Nat.lt_or_ge (Nat.log 2 value.natAbs) 53 with hsmall | hlarge
  · refine ⟨value * 2 ^ (52 - Nat.log 2 value.natAbs), ?_⟩
    have hexponent : (Nat.log 2 value.natAbs : ℤ) - 52 =
        -((52 - Nat.log 2 value.natAbs : ℕ) : ℤ) := by
      omega
    rw [hexponent, zpow_neg, zpow_natCast, div_inv_eq_mul]
    push_cast
    rfl
  · have hpower : 2 ^ 53 ≤ value.natAbs :=
      Nat.pow_le_of_le_log (by intro hzero; simp [hzero] at hlarge) hlarge
    have hvalue : value.natAbs = 2 ^ 53 := by
      rw [Int.abs_eq_natAbs] at h
      omega
    rw [hvalue, Nat.log_pow (by decide)]
    rcases Int.natAbs_eq value with hpos | hneg
    · refine ⟨2 ^ 52, ?_⟩
      rw [hpos, hvalue]
      norm_num
    · refine ⟨-2 ^ 52, ?_⟩
      rw [hneg, hvalue]
      norm_num

/-- Integers up to 2^53 are numbers. -/
theorem float64_intCast {value : ℤ} (h : |value| ≤ 2 ^ 53) : float64 value = value := by
  obtain ⟨significand, hscaled⟩ := exists_significand h
  have hunit : (2 : ℚ) ^ (Int.log 2 |(value : ℚ)| - 52) ≠ 0 := zpow_ne_zero _ two_ne_zero
  unfold float64
  dsimp only
  rw [hscaled, roundHalfEven_intCast, ← hscaled, div_mul_cancel₀ _ hunit]

theorem float64_zero : float64 0 = 0 := float64_intCast (show |(0 : ℤ)| ≤ 2 ^ 53 by decide)

theorem int64OfFloat_intCast {value : ℤ} (h : |value| ≤ 2 ^ 53) : int64OfFloat value = value := by
  have hbounds := abs_le.mp h
  unfold int64OfFloat
  rw [Int.floor_intCast, Int.ceil_intCast, ite_self]
  exact if_pos (by unfold minInt64 maxInt64; omega)

/-! ## Rounding errors -/

theorem abs_roundHalfEven_sub_le (value : ℚ) : |(roundHalfEven value : ℚ) - value| ≤ 1 / 2 := by
  have hfloor := Int.floor_le value
  have hceil := Int.lt_floor_add_one value
  unfold roundHalfEven
  dsimp only
  split_ifs <;> push_cast <;> rw [abs_le] <;> constructor <;> linarith

/-- Rounding to a multiple of a unit is off by at most half of it. -/
theorem abs_roundHalfEven_mul_sub_le {unit : ℚ} (hunit : 0 < unit) (value : ℚ) :
    |(roundHalfEven (value / unit) : ℚ) * unit - value| ≤ 1 / 2 * unit := by
  have hround := abs_roundHalfEven_sub_le (value / unit)
  calc |(roundHalfEven (value / unit) : ℚ) * unit - value|
      = |(roundHalfEven (value / unit) : ℚ) - value / unit| * unit := by
        rw [← abs_of_pos hunit, ← abs_mul, abs_of_pos hunit, sub_mul, div_mul_cancel₀ _ hunit.ne']
    _ ≤ 1 / 2 * unit := by gcongr

/-- A conversion is off by at most one part in 2^53. -/
theorem abs_float64_sub_le (value : ℚ) : |float64 value - value| ≤ |value| / 2 ^ 53 := by
  rcases eq_or_ne value 0 with rfl | hne
  · rw [float64_zero]
    norm_num
  · have hpos : 0 < (2 : ℚ) ^ (Int.log 2 |value| - 52) := zpow_pos (by norm_num) _
    have hunit : (2 : ℚ) ^ (Int.log 2 |value| - 52) ≤ |value| / 2 ^ 52 := by
      rw [zpow_sub₀ (by norm_num), show (2 : ℚ) ^ (52 : ℤ) = 2 ^ 52 by norm_num]
      gcongr
      exact Int.zpow_log_le_self (by norm_num) (abs_pos.mpr hne)
    have hround := abs_roundHalfEven_mul_sub_le hpos value
    unfold float64
    dsimp only
    generalize (2 : ℚ) ^ (Int.log 2 |value| - 52) = unit at hunit hround ⊢
    calc |(roundHalfEven (value / unit) : ℚ) * unit - value|
        ≤ 1 / 2 * unit := hround
      _ ≤ 1 / 2 * (|value| / 2 ^ 52) := by gcongr
      _ = |value| / 2 ^ 53 := by ring

/-- A conversion at most doubles the magnitude. -/
theorem abs_float64_le (value : ℚ) : |float64 value| ≤ 2 * |value| := by
  have hround := abs_float64_sub_le value
  have hshare : |value| / 2 ^ 53 ≤ |value| := div_le_self (abs_nonneg value) (by norm_num)
  calc |float64 value| = |(float64 value - value) + value| := by rw [sub_add_cancel]
    _ ≤ |float64 value - value| + |value| := abs_add_le _ _
    _ ≤ 2 * |value| := by linarith

theorem int64OfFloat_le_abs (value : ℚ) : (int64OfFloat value : ℚ) ≤ |value| := by
  have hnonneg := abs_nonneg value
  unfold int64OfFloat
  dsimp only
  split_ifs with hrange hpos hrange
  · exact (Int.floor_le value).trans (le_abs_self value)
  · exact le_trans (by unfold minInt64; norm_num) hnonneg
  · have hceil : ⌈value⌉ ≤ 0 := Int.ceil_le.mpr (by push_cast; linarith)
    exact le_trans (by exact_mod_cast hceil) hnonneg
  · exact le_trans (by unfold minInt64; norm_num) hnonneg

theorem int64OfFloat_of_between {value : ℚ} {whole : ℤ} (hnonneg : 0 ≤ whole)
    (hsmall : whole ≤ 2 ^ 53) (hle : (whole : ℚ) ≤ value) (hlt : value < whole + 1) :
    int64OfFloat value = whole := by
  have hfloor : ⌊value⌋ = whole := Int.floor_eq_iff.mpr ⟨hle, hlt⟩
  have hvalue : 0 ≤ value := le_trans (Int.cast_nonneg hnonneg) hle
  unfold int64OfFloat
  rw [if_pos hvalue, hfloor]
  exact if_pos (by unfold minInt64 maxInt64; omega)

/-! ## Numbers that need no rounding -/

/-- Scaling by a power of the base moves the exponent. -/
theorem log_mul_zpow {base : ℕ} (hbase : 1 < base) {value : ℚ} (hvalue : 0 < value) (shift : ℤ) :
    Int.log base (value * (base : ℚ) ^ shift) = Int.log base value + shift := by
  have hpos : (0 : ℚ) < base := by exact_mod_cast hbase.trans' one_pos
  have hscaled : 0 < value * (base : ℚ) ^ shift := mul_pos hvalue (zpow_pos hpos shift)
  have hle : (base : ℚ) ^ (Int.log base value + shift) ≤ value * (base : ℚ) ^ shift := by
    rw [zpow_add₀ hpos.ne']
    exact mul_le_mul_of_nonneg_right (Int.zpow_log_le_self hbase hvalue) (zpow_pos hpos shift).le
  have hlt : value * (base : ℚ) ^ shift < (base : ℚ) ^ (Int.log base value + shift + 1) := by
    rw [add_right_comm, zpow_add₀ hpos.ne' _ shift]
    exact mul_lt_mul_of_pos_right (Int.lt_zpow_succ_log_self hbase value) (zpow_pos hpos shift)
  have hlow := (Int.zpow_le_iff_le_log hbase hscaled).mp hle
  have hhigh := (Int.lt_zpow_iff_log_lt hbase hscaled).mp hlt
  omega

/-- A significand of 53 bits with any exponent is a number. -/
theorem float64_significand {significand : ℤ} (h : |significand| ≤ 2 ^ 53) (shift : ℤ) :
    float64 (significand * 2 ^ shift) = significand * 2 ^ shift := by
  rcases eq_or_ne significand 0 with rfl | hne
  · rw [Int.cast_zero, zero_mul, float64_zero]
  · obtain ⟨whole, hscaled⟩ := exists_significand h
    have hpos : (0 : ℚ) < |(significand : ℚ)| := abs_pos.mpr (Int.cast_ne_zero.mpr hne)
    have hlog := log_mul_zpow (by decide : 1 < 2) hpos shift
    have hshift : (0 : ℚ) < 2 ^ shift := zpow_pos two_pos shift
    have hexponent : Int.log 2 |(significand : ℚ) * 2 ^ shift| - 52 =
        Int.log 2 |(significand : ℚ)| - 52 + shift := by
      rw [abs_mul, abs_of_pos hshift]
      push_cast at hlog
      rw [hlog]
      ring
    have hunit : (2 : ℚ) ^ (Int.log 2 |(significand : ℚ)| - 52) ≠ 0 := zpow_ne_zero _ two_ne_zero
    unfold float64
    dsimp only
    rw [hexponent, zpow_add₀ two_ne_zero, mul_div_mul_right _ _ hshift.ne', hscaled,
      roundHalfEven_intCast, ← hscaled, ← mul_assoc, div_mul_cancel₀ _ hunit]

/-- What a conversion leaves has a significand of 53 bits. -/
theorem exists_float64 (value : ℚ) : ∃ significand shift : ℤ,
    |significand| ≤ 2 ^ 53 ∧ float64 value = significand * 2 ^ shift ∧
      shift = Int.log 2 |value| - 52 := by
  refine ⟨roundHalfEven (value / 2 ^ (Int.log 2 |value| - 52)), Int.log 2 |value| - 52, ?_, rfl, rfl⟩
  have hunit : (0 : ℚ) < 2 ^ (Int.log 2 |value| - 52) := zpow_pos two_pos _
  have hscaled : |value / 2 ^ (Int.log 2 |value| - 52)| < 2 ^ 53 := by
    rw [abs_div, abs_of_pos hunit, div_lt_iff₀ hunit]
    calc |value| < 2 ^ (Int.log 2 |value| + 1) := by
          exact_mod_cast Int.lt_zpow_succ_log_self (by decide) |value|
      _ = 2 ^ (53 + (Int.log 2 |value| - 52)) := by ring_nf
      _ = 2 ^ 53 * 2 ^ (Int.log 2 |value| - 52) := zpow_add₀ two_ne_zero 53 _
  have hround := abs_le.mp (abs_roundHalfEven_sub_le (value / 2 ^ (Int.log 2 |value| - 52)))
  obtain ⟨hlow, hhigh⟩ := abs_lt.mp hscaled
  have hle : (roundHalfEven (value / 2 ^ (Int.log 2 |value| - 52)) : ℚ) < 2 ^ 53 + 1 := by linarith
  have hge : -(2 ^ 53 + 1) < (roundHalfEven (value / 2 ^ (Int.log 2 |value| - 52)) : ℚ) := by
    linarith
  have hle' : roundHalfEven (value / 2 ^ (Int.log 2 |value| - 52)) < 2 ^ 53 + 1 := by
    exact_mod_cast hle
  have hge' : -(2 ^ 53 + 1) < roundHalfEven (value / 2 ^ (Int.log 2 |value| - 52)) := by
    exact_mod_cast hge
  exact abs_le.mpr ⟨by omega, by omega⟩

/-- A number is not rounded again. -/
theorem float64_float64 (value : ℚ) : float64 (float64 value) = float64 value := by
  obtain ⟨significand, shift, hbound, hvalue, -⟩ := exists_float64 value
  rw [hvalue]
  exact float64_significand hbound shift

/-- Integers are rounded to integers. -/
theorem exists_float64_intCast (value : ℤ) : ∃ whole : ℤ, float64 value = whole := by
  rcases le_or_gt |value| (2 ^ 53) with hsmall | hlarge
  · exact ⟨value, float64_intCast hsmall⟩
  · obtain ⟨significand, shift, -, hvalue, hshift⟩ := exists_float64 value
    have hlog : (53 : ℤ) ≤ Int.log 2 |(value : ℚ)| := by
      have hne : value ≠ 0 := by
        rintro rfl
        exact absurd hlarge (by decide)
      apply (Int.zpow_le_iff_le_log (by decide) (abs_pos.mpr (Int.cast_ne_zero.mpr hne))).mp
      exact_mod_cast hlarge.le
    obtain ⟨power, hpower⟩ := Int.eq_ofNat_of_zero_le (show 0 ≤ shift by omega)
    refine ⟨significand * 2 ^ power, ?_⟩
    rw [hvalue, hpower, zpow_natCast]
    push_cast
    rfl

theorem roundHalfEven_neg (value : ℚ) : roundHalfEven (-value) = -roundHalfEven value := by
  rcases eq_or_ne (value - ⌊value⌋) 0 with hwhole | hpart
  · have hvalue : value = (⌊value⌋ : ℤ) := by linarith
    rw [hvalue, ← Int.cast_neg, roundHalfEven_intCast, roundHalfEven_intCast]
  · have hpos : 0 < value - ⌊value⌋ :=
      lt_of_le_of_ne (sub_nonneg.mpr (Int.floor_le value)) hpart.symm
    have hfloor : ⌊-value⌋ = -⌊value⌋ - 1 := by
      rw [Int.floor_eq_iff]
      push_cast
      constructor <;> linarith [Int.lt_floor_add_one value]
    unfold roundHalfEven
    dsimp only
    rw [hfloor]
    push_cast
    split_ifs <;> first | omega | linarith

theorem float64_neg (value : ℚ) : float64 (-value) = -float64 value := by
  unfold float64
  dsimp only
  rw [abs_neg, neg_div, roundHalfEven_neg]
  push_cast
  ring

theorem roundHalfEven_of_close {value : ℚ} {whole : ℤ} (h : |value - whole| < 1 / 2) :
    roundHalfEven value = whole := by
  obtain ⟨hlow, hhigh⟩ := abs_lt.mp h
  obtain ⟨hroundLow, hroundHigh⟩ := abs_le.mp (abs_roundHalfEven_sub_le value)
  have hlt : (roundHalfEven value : ℚ) < whole + 1 := by linarith
  have hgt : (whole : ℚ) - 1 < roundHalfEven value := by linarith
  have hlt' : roundHalfEven value < whole + 1 := by exact_mod_cast hlt
  have hgt' : whole - 1 < roundHalfEven value := by exact_mod_cast hgt
  omega

/-- A value in the scale of its exponent. -/
theorem float64_of_scale {value : ℚ} {shift : ℤ} (hlow : 2 ^ 52 * 2 ^ shift ≤ value)
    (hhigh : value < 2 ^ 53 * 2 ^ shift) :
    float64 value = roundHalfEven (value / 2 ^ shift) * 2 ^ shift := by
  have hshift : (0 : ℚ) < 2 ^ shift := zpow_pos two_pos shift
  have hpos : 0 < value := lt_of_lt_of_le (by positivity) hlow
  have hpower (bits : ℕ) : (2 : ℚ) ^ bits * 2 ^ shift = ((2 : ℕ) : ℚ) ^ ((bits : ℤ) + shift) := by
    rw [Nat.cast_ofNat, zpow_add₀ two_ne_zero, zpow_natCast]
  rw [hpower] at hlow hhigh
  have hge := (Int.zpow_le_iff_le_log (by decide) hpos).mp hlow
  have hlt := (Int.lt_zpow_iff_log_lt (by decide) hpos).mp hhigh
  have hlog : Int.log 2 |value| - 52 = shift := by
    rw [abs_of_pos hpos]
    push_cast at hge hlt
    omega
  unfold float64
  dsimp only
  rw [hlog]

/-- A number is the nearest one to everything within five parts in 10^17 of it, so that seventeen
decimal digits tell it from the others. -/
theorem float64_of_close {value near : ℚ} (hpos : 0 < value) (hnumber : float64 value = value)
    (hclose : |near - value| ≤ value / (2 * 10 ^ 16)) : float64 near = value := by
  obtain ⟨significand, shift, -, hvalue, hshift⟩ := exists_float64 value
  rw [hnumber] at hvalue
  rw [abs_of_pos hpos] at hshift
  have hunit : (0 : ℚ) < 2 ^ shift := zpow_pos two_pos shift
  have hlow : (2 : ℚ) ^ 52 * 2 ^ shift ≤ value := by
    have hlog := Int.zpow_log_le_self (by decide : 1 < 2) hpos
    rwa [show Int.log 2 value = 52 + shift by omega, Nat.cast_ofNat,
      zpow_add₀ two_ne_zero] at hlog
  have hhigh : value < 2 ^ 53 * 2 ^ shift := by
    have hlog := Int.lt_zpow_succ_log_self (by decide : 1 < 2) value
    rwa [show Int.log 2 value + 1 = 53 + shift by omega, Nat.cast_ofNat,
      zpow_add₀ two_ne_zero] at hlog
  obtain ⟨scaled, hnear⟩ : ∃ scaled, near = scaled * 2 ^ shift :=
    ⟨near / 2 ^ shift, (div_mul_cancel₀ near hunit.ne').symm⟩
  have hscaledClose : |scaled - significand| ≤ significand / (2 * 10 ^ 16) := by
    rw [hnear, hvalue, ← sub_mul, abs_mul, abs_of_pos hunit, mul_div_right_comm] at hclose
    exact le_of_mul_le_mul_right hclose hunit
  rw [hvalue] at hlow hhigh ⊢
  have hleast : (2 : ℚ) ^ 52 ≤ significand := le_of_mul_le_mul_right hlow hunit
  have hlargest : (significand : ℚ) < 2 ^ 53 := lt_of_mul_lt_mul_right hhigh hunit.le
  have hlargest' : significand + 1 ≤ 2 ^ 53 := by exact_mod_cast hlargest
  have hlargest'' : (significand : ℚ) + 1 ≤ 2 ^ 53 := by exact_mod_cast hlargest'
  obtain ⟨hcloseLow, hcloseHigh⟩ := abs_le.mp hscaledClose
  rw [hnear]
  rcases le_or_gt (2 ^ 52) scaled with habove | hbelow
  · have hround : roundHalfEven scaled = significand :=
      roundHalfEven_of_close (abs_lt.mpr ⟨by linarith, by linarith⟩)
    rw [float64_of_scale (mul_le_mul_of_nonneg_right habove hunit.le)
      (mul_lt_mul_of_pos_right (by linarith) hunit), mul_div_cancel_right₀ _ hunit.ne', hround]
  · -- Below a power of two the numbers lie twice as close.
    have hpower : significand = 2 ^ 52 := by
      have hle : (significand : ℚ) < 2 ^ 52 + 1 := by linarith
      have hle' : significand < 2 ^ 52 + 1 := by exact_mod_cast hle
      have hge' : 2 ^ 52 ≤ significand := by exact_mod_cast hleast
      omega
    have hhalf : (2 : ℚ) ^ shift = 2 * 2 ^ (shift - 1) := by
      rw [zpow_sub_one₀ two_ne_zero]
      ring
    have hhalfPos : (0 : ℚ) < 2 ^ (shift - 1) := zpow_pos two_pos _
    rw [hpower] at hcloseLow hcloseHigh ⊢
    push_cast at hcloseLow hcloseHigh ⊢
    have hround : roundHalfEven (scaled * 2) = 2 ^ 53 := by
      apply roundHalfEven_of_close
      push_cast
      exact abs_lt.mpr ⟨by linarith, by linarith⟩
    rw [hhalf, ← mul_assoc, float64_of_scale
      (mul_le_mul_of_nonneg_right (by linarith) hhalfPos.le)
      (mul_lt_mul_of_pos_right (by linarith) hhalfPos), mul_div_cancel_right₀ _ hhalfPos.ne', hround]
    push_cast
    ring

example : formatOneDecimal (float64 (12150000 / 1000000)) = "12.2" := by decide +kernel

end Huntarr2.GoStd
