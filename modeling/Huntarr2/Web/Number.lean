import Huntarr2.GoStd.Float64

/-!
# Numbers in a browser

A number of a page is a finite `float64`. A page reads an integer of a reply as the nearest number, and
`String` writes a number with as few decimal digits as tell it from the others.
-/

namespace Huntarr2.Web

open GoStd

/-- A finite number; the two zeros are not told apart. -/
@[ext]
structure Number where
  value : ℚ
  rounded : float64 value = value
  deriving DecidableEq

namespace Number

/-- An integer of a reply, as a page reads it. -/
def ofInt (value : ℤ) : Number := ⟨float64 value, float64_float64 value⟩

def neg (number : Number) : Number :=
  ⟨-number.value, by rw [float64_neg, number.rounded]⟩

theorem neg_value_pos {number : Number} (hneg : number.value < 0) : 0 < number.neg.value :=
  neg_pos.mpr hneg

end Number

/-! ## Shortest digits -/

/-- The `k` digits of `s`, of which `n` stand in front of the decimal point. -/
structure Digits where
  s : ℕ
  k : ℕ
  n : ℤ
  deriving DecidableEq, Repr

def Digits.value (digits : Digits) : ℚ := digits.s * 10 ^ (digits.n - digits.k)

/-- The integers next to a value, the nearest one first. -/
def neighbours (value : ℚ) : List ℕ :=
  [(roundHalfEven value).toNat, ⌊value⌋.toNat, ⌈value⌉.toNat]

/-- The digits of this length that stand for a positive number, if there are some. -/
def withLength (value : ℚ) (k : ℕ) : Option Digits :=
  let n := Int.log 10 value + 1
  let unit : ℚ := 10 ^ (n - k)
  ((neighbours (value / unit)).find? fun s : ℕ ↦ float64 (s * unit) = value).map fun s ↦
    if s = 10 ^ k then ⟨1, 1, n + 1⟩ else ⟨s, k, n⟩

/-- The fewest digits that stand for a positive number. -/
def shortest (value : ℚ) : Option Digits := (List.range' 1 17).findSome? (withLength value)

/-- Digits of some length stand for the number. -/
theorem float64_of_withLength {value : ℚ} {k : ℕ} {digits : Digits}
    (h : withLength value k = some digits) : float64 digits.value = value := by
  obtain ⟨s, hfound, rfl⟩ := Option.map_eq_some_iff.mp h
  have hvalue : float64 (s * 10 ^ (Int.log 10 value + 1 - k)) = value := by
    simpa only [decide_eq_true_eq] using List.find?_some hfound
  by_cases hcarry : s = 10 ^ k
  · rw [if_pos hcarry]
    rw [hcarry] at hvalue
    unfold Digits.value
    push_cast at hvalue ⊢
    rw [← zpow_natCast, ← zpow_add₀ (by norm_num)] at hvalue
    rwa [one_mul, add_sub_cancel_right, ← add_sub_cancel (k : ℤ) (Int.log 10 value + 1)]
  · rwa [if_neg hcarry]

theorem isSome_withLength {value : ℚ} {k : ℕ} {s : ℕ}
    (hmem : s ∈ neighbours (value / 10 ^ (Int.log 10 value + 1 - k)))
    (hvalue : float64 (s * 10 ^ (Int.log 10 value + 1 - k)) = value) :
    (withLength value k).isSome = true := by
  unfold withLength
  dsimp only
  rw [Option.isSome_map, List.find?_isSome]
  exact ⟨s, hmem, decide_eq_true hvalue⟩

/-- Seventeen digits always stand for a number. -/
theorem isSome_withLength_seventeen {value : ℚ} (hpos : 0 < value)
    (hnumber : float64 value = value) : (withLength value 17).isSome = true := by
  have hlog := Int.zpow_log_le_self (by decide : 1 < 10) hpos
  rw [Nat.cast_ofNat] at hlog
  have hunit : (0 : ℚ) < 10 ^ (Int.log 10 value + 1 - (17 : ℕ)) := zpow_pos (by norm_num) _
  have hsmall : 10 ^ 16 * (10 : ℚ) ^ (Int.log 10 value + 1 - (17 : ℕ)) ≤ value := by
    rw [← zpow_natCast, ← zpow_add₀ (by norm_num)]
    rwa [show ((16 : ℕ) : ℤ) + (Int.log 10 value + 1 - (17 : ℕ)) = Int.log 10 value by
      push_cast; ring]
  refine isSome_withLength List.mem_cons_self ?_
  generalize (10 : ℚ) ^ (Int.log 10 value + 1 - (17 : ℕ)) = unit at hunit hsmall ⊢
  have hlarge : 10 ^ 16 ≤ value / unit := (le_div_iff₀ hunit).mpr hsmall
  have hnonneg : 0 ≤ roundHalfEven (value / unit) := by
    have hlow := (abs_le.mp (abs_roundHalfEven_sub_le (value / unit))).1
    have hcast : (0 : ℚ) ≤ roundHalfEven (value / unit) := by linarith
    exact_mod_cast hcast
  have hcast : ((roundHalfEven (value / unit)).toNat : ℚ) = roundHalfEven (value / unit) := by
    exact_mod_cast Int.toNat_of_nonneg hnonneg
  apply float64_of_close hpos hnumber
  calc |((roundHalfEven (value / unit)).toNat : ℚ) * unit - value|
      = |(roundHalfEven (value / unit) : ℚ) * unit - value| := by rw [hcast]
    _ ≤ 1 / 2 * unit := abs_roundHalfEven_mul_sub_le hunit value
    _ ≤ value / (2 * 10 ^ 16) := by linarith

theorem isSome_shortest {value : ℚ} (hpos : 0 < value) (hnumber : float64 value = value) :
    (shortest value).isSome = true := by
  unfold shortest
  rw [List.findSome?_isSome_iff]
  exact ⟨17, by decide, isSome_withLength_seventeen hpos hnumber⟩

namespace Number

/-- The digits of a positive number. -/
def digits (number : Number) (hpos : 0 < number.value) : Digits :=
  (shortest number.value).get (isSome_shortest hpos number.rounded)

/-- The digits are those of the least length that has some. -/
theorem digits_spec (number : Number) (hpos : 0 < number.value) :
    ∃ k, 1 ≤ k ∧ k ≤ 17 ∧ withLength number.value k = some (number.digits hpos) ∧
      ∀ fewer, 1 ≤ fewer → fewer < k → withLength number.value fewer = none := by
  have hshortest : shortest number.value = some (number.digits hpos) := (Option.some_get _).symm
  obtain ⟨before, k, after, hrange, hk, hbefore⟩ := List.findSome?_eq_some_iff.mp hshortest
  have hmem : k ∈ List.range' 1 17 := by simp [hrange]
  have hbounds := List.mem_range'_1.mp hmem
  refine ⟨k, hbounds.1, by omega, hk, fun fewer hfewer hlt ↦ hbefore fewer ?_⟩
  have hsorted : (before ++ k :: after).Pairwise (· < ·) := by
    rw [← hrange]
    exact List.pairwise_lt_range'
  have hfewerMem : fewer ∈ before ++ k :: after := by
    rw [← hrange]
    exact List.mem_range'_1.mpr ⟨hfewer, by omega⟩
  rcases List.mem_append.mp hfewerMem with hin | hin
  · exact hin
  · rcases List.mem_cons.mp hin with rfl | hafter
    · omega
    · have hcons := (List.pairwise_append.mp hsorted).2.1
      have hgt := List.rel_of_pairwise_cons hcons hafter
      omega

theorem float64_digits (number : Number) (hpos : 0 < number.value) :
    float64 (number.digits hpos).value = number.value := by
  obtain ⟨k, -, -, hk, -⟩ := number.digits_spec hpos
  exact float64_of_withLength hk

end Number

/-! ## Text -/

/-- The text of digits, with an exponent for very large and very small numbers. -/
def Digits.text (digits : Digits) : Text :=
  let written := decimal digits.s
  if digits.k ≤ digits.n ∧ digits.n ≤ 21 then
    written ++ List.replicate (digits.n - digits.k).toNat '0'
  else if 0 < digits.n ∧ digits.n ≤ 21 then
    written.take digits.n.toNat ++ '.' :: written.drop digits.n.toNat
  else if -6 < digits.n ∧ digits.n ≤ 0 then
    '0' :: '.' :: (List.replicate (-digits.n).toNat '0' ++ written)
  else
    let exponent := 'e' :: (if digits.n < 0 then '-' else '+') :: decimal (digits.n - 1).natAbs
    if digits.k = 1 then written ++ exponent
    else written.take 1 ++ '.' :: (written.drop 1 ++ exponent)

/-- `String` of a number. -/
def Number.text (number : Number) : Text :=
  if hpos : 0 < number.value then (number.digits hpos).text
  else if hneg : number.value < 0 then '-' :: (number.neg.digits (Number.neg_value_pos hneg)).text
  else ['0']

/-- A text with a character that is neither a digit nor a sign is no integer. -/
theorem integerValue_of_mem {text : Text} {c : Char} (hmem : c ∈ text) (hdigit : digitValue c = none)
    (hplus : c ≠ '+') (hminus : c ≠ '-') : integerValue text = none := by
  have hrest : c ∈ (splitSign text).2 := by
    unfold splitSign
    split
    · exact (List.mem_cons.mp hmem).resolve_left hplus
    · exact (List.mem_cons.mp hmem).resolve_left hminus
    · exact hmem
  have hnone : digitsValue (splitSign text).2 = none := by
    cases hvalue : digitsValue (splitSign text).2 with
    | none => rfl
    | some value =>
      have hsome := isSome_of_digitsValue hvalue c hrest
      rw [hdigit] at hsome
      cases hsome
  unfold integerValue
  dsimp only
  rw [hnone]
  exact ite_self _

namespace Digits

variable (digits : Digits)

/-- Digits with a decimal point or an exponent are no integer, whatever the sign in front. -/
theorem integerValue_text_of_not (h : ¬(digits.k ≤ digits.n ∧ digits.n ≤ 21)) (sign : Text) :
    integerValue (sign ++ digits.text) = none := by
  have hmark : '.' ∈ digits.text ∨ 'e' ∈ digits.text := by
    unfold text
    dsimp only
    rw [if_neg h]
    split_ifs
    all_goals simp
  rcases hmark with hpoint | hexponent
  · exact integerValue_of_mem (List.mem_append_right _ hpoint) (by decide) (by decide) (by decide)
  · exact integerValue_of_mem (List.mem_append_right _ hexponent) (by decide) (by decide) (by decide)

/-- The whole number that digits without a decimal point stand for. -/
def whole : ℕ := digits.s * 10 ^ (digits.n - digits.k).toNat

theorem cast_whole (h : digits.k ≤ digits.n) : (digits.whole : ℚ) = digits.value := by
  unfold whole value
  push_cast
  rw [← zpow_natCast, Int.toNat_of_nonneg (by omega)]

theorem digitsValue_text (h : digits.k ≤ digits.n ∧ digits.n ≤ 21) :
    digitsValue digits.text = some digits.whole := by
  unfold text
  dsimp only
  rw [if_pos h, digitsValue_append_zeros, digitsValue_decimal]
  rfl

theorem text_ne_nil (h : digits.k ≤ digits.n ∧ digits.n ≤ 21) : digits.text ≠ [] := by
  unfold text
  dsimp only
  rw [if_pos h]
  exact List.append_ne_nil_of_left_ne_nil (decimal_ne_nil _) _

theorem integerValue_text (h : digits.k ≤ digits.n ∧ digits.n ≤ 21) :
    integerValue digits.text = some (digits.whole : ℤ) := by
  have hvalue := digits.digitsValue_text h
  obtain ⟨c, rest, htext⟩ := List.exists_cons_of_ne_nil (digits.text_ne_nil h)
  have hdigit := isSome_of_digitsValue hvalue c (by rw [htext]; exact List.mem_cons_self)
  unfold integerValue
  rw [htext, splitSign_of_digit hdigit]
  dsimp only
  rw [← htext, hvalue, if_neg (by rw [htext]; simp), Option.map_some, one_mul]

theorem integerValue_neg_text (h : digits.k ≤ digits.n ∧ digits.n ≤ 21) :
    integerValue ('-' :: digits.text) = some (-digits.whole : ℤ) := by
  have hsign : splitSign ('-' :: digits.text) = (-1, digits.text) := rfl
  unfold integerValue
  rw [hsign]
  dsimp only
  rw [digits.digitsValue_text h, if_neg (by simp [digits.text_ne_nil h]), Option.map_some,
    neg_one_mul]

end Digits

namespace Number

theorem text_of_pos {number : Number} (hpos : 0 < number.value) :
    number.text = (number.digits hpos).text := dif_pos hpos

theorem text_of_neg {number : Number} (hneg : number.value < 0) :
    number.text = '-' :: (number.neg.digits (neg_value_pos hneg)).text := by
  unfold text
  rw [dif_neg hneg.not_gt, dif_pos hneg]

theorem text_of_zero {number : Number} (hzero : number.value = 0) : number.text = ['0'] := by
  unfold text
  rw [dif_neg (by rw [hzero]; exact lt_irrefl 0), dif_neg (by rw [hzero]; exact lt_irrefl 0)]

/-- Digits of a length are no longer than the part before the decimal point, if the length is not. -/
theorem length_of_withLength {value : ℚ} {k : ℕ} {digits : Digits}
    (h : withLength value k = some digits) (hk : (k : ℤ) ≤ Int.log 10 value + 1)
    (hlog : 0 ≤ Int.log 10 value) :
    digits.k ≤ digits.n ∧ digits.n ≤ Int.log 10 value + 2 := by
  obtain ⟨s, -, rfl⟩ := Option.map_eq_some_iff.mp h
  split_ifs
  · dsimp only
    omega
  · dsimp only
    omega

/-- An integer below 10^20 is written without a decimal point or an exponent. -/
theorem digits_of_whole {number : Number} (hpos : 0 < number.value) {whole : ℤ}
    (hwhole : number.value = whole) (hsmall : number.value < 10 ^ 20) :
    (number.digits hpos).k ≤ (number.digits hpos).n ∧ (number.digits hpos).n ≤ 21 := by
  have hone : ((10 : ℕ) : ℚ) ^ (0 : ℤ) ≤ number.value := by
    rw [hwhole] at hpos ⊢
    rw [zpow_zero]
    exact_mod_cast Int.cast_pos.mp hpos
  have hlog := (Int.zpow_le_iff_le_log (by decide) hpos).mp hone
  have hlarge : number.value < ((10 : ℕ) : ℚ) ^ (20 : ℤ) := by exact_mod_cast hsmall
  have hlog' := (Int.lt_zpow_iff_log_lt (by decide) hpos).mp hlarge
  obtain ⟨k, hk, -, hfound, hfewer⟩ := number.digits_spec hpos
  have hlength : (k : ℤ) ≤ Int.log 10 number.value + 1 := by
    by_contra hlonger
    obtain ⟨length, heq⟩ := Int.eq_ofNat_of_zero_le (show 0 ≤ Int.log 10 number.value + 1 by omega)
    have hnone := hfewer length (by omega) (by omega)
    have hround : (roundHalfEven (number.value / 10 ^ (Int.log 10 number.value + 1 - length))).toNat =
        whole.toNat := by
      rw [heq, sub_self, zpow_zero, div_one, hwhole, roundHalfEven_intCast]
    have hcast : ((whole.toNat : ℕ) : ℚ) = number.value := by
      rw [hwhole] at hpos ⊢
      exact_mod_cast Int.toNat_of_nonneg (Int.cast_pos.mp hpos).le
    have hsome : (withLength number.value length).isSome = true := by
      refine isSome_withLength (s := whole.toNat) ?_ ?_
      · rw [← hround]
        exact List.mem_cons_self
      · rw [heq, sub_self, zpow_zero, mul_one, hcast, number.rounded]
    rw [hnone] at hsome
    cases hsome
  have hshape := length_of_withLength hfound hlength hlog
  exact ⟨hshape.1, by omega⟩

/-- A number whose text is an integer is the one read for this integer. -/
theorem ofInt_of_text {number : Number} {value : ℤ} (h : integerValue number.text = some value) :
    ofInt value = number := by
  apply Number.ext
  change float64 value = number.value
  rcases lt_trichotomy number.value 0 with hneg | hzero | hpos
  · rw [text_of_neg hneg] at h
    generalize hdigits : number.neg.digits (neg_value_pos hneg) = digits at h
    by_cases hshort : digits.k ≤ digits.n ∧ digits.n ≤ 21
    · rw [digits.integerValue_neg_text hshort] at h
      rw [← Option.some.inj h]
      push_cast
      rw [digits.cast_whole hshort.1, float64_neg, ← hdigits, float64_digits]
      exact neg_neg _
    · have hnone : integerValue ('-' :: digits.text) = none :=
        digits.integerValue_text_of_not hshort ['-']
      rw [hnone] at h
      cases h
  · rw [text_of_zero hzero] at h
    have hvalue : value = 0 := (Option.some.inj h).symm
    rw [hvalue, hzero, Int.cast_zero, float64_zero]
  · rw [text_of_pos hpos] at h
    generalize hdigits : number.digits hpos = digits at h
    by_cases hshort : digits.k ≤ digits.n ∧ digits.n ≤ 21
    · rw [digits.integerValue_text hshort] at h
      rw [← Option.some.inj h, Int.cast_natCast, digits.cast_whole hshort.1, ← hdigits,
        float64_digits]
    · have hnone : integerValue digits.text = none := digits.integerValue_text_of_not hshort []
      rw [hnone] at h
      cases h

theorem neg_ofInt (value : ℤ) : (ofInt value).neg = ofInt (-value) := by
  apply Number.ext
  change -float64 value = float64 ((-value : ℤ) : ℚ)
  rw [Int.cast_neg, float64_neg]

theorem digits_ofInt {value : ℤ} (hbound : |value| ≤ 2 ^ 63) {number : Number}
    (hnumber : number = ofInt value) (hpos : 0 < number.value) :
    (number.digits hpos).k ≤ (number.digits hpos).n ∧ (number.digits hpos).n ≤ 21 := by
  obtain ⟨whole, hwhole⟩ := exists_float64_intCast value
  have hvalue : number.value = float64 value := by
    rw [hnumber]
    rfl
  have hcast : |(value : ℚ)| ≤ 2 ^ 63 := by exact_mod_cast hbound
  have hround := (abs_le.mp (abs_float64_sub_le (value : ℚ))).2
  have hle := le_abs_self (value : ℚ)
  refine digits_of_whole hpos (hvalue.trans hwhole) ?_
  rw [hvalue]
  linarith

/-- A 64-bit integer of a reply is written as an integer. -/
theorem exists_integerValue_ofInt {value : ℤ} (hbound : |value| ≤ 2 ^ 63) :
    ∃ written, integerValue (ofInt value).text = some written := by
  rcases lt_trichotomy (ofInt value).value 0 with hneg | hzero | hpos
  · have hshort := digits_ofInt (by rwa [abs_neg]) (neg_ofInt value) (neg_value_pos hneg)
    rw [text_of_neg hneg]
    exact ⟨_, Digits.integerValue_neg_text _ hshort⟩
  · rw [text_of_zero hzero]
    exact ⟨0, rfl⟩
  · rw [text_of_pos hpos]
    exact ⟨_, Digits.integerValue_text _ (digits_ofInt hbound rfl hpos)⟩

/-- Among the numbers that have the text of an integer of a reply there is only the one read for it. -/
theorem eq_ofInt_of_text {number : Number} {value : ℤ} (hbound : |value| ≤ 2 ^ 63)
    (h : number.text = (ofInt value).text) : number = ofInt value := by
  obtain ⟨written, hwritten⟩ := exists_integerValue_ofInt hbound
  have hnumber : integerValue number.text = some written := by rw [h, hwritten]
  rw [← ofInt_of_text hnumber, ofInt_of_text hwritten]

end Number

example : (Number.ofInt 12345678901234567890).text = "12345678901234567000".toList := by
  decide +kernel

example : (⟨1 / 4, by decide +kernel⟩ : Number).text = "0.25".toList := by decide +kernel

end Huntarr2.Web
