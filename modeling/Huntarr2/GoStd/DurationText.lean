import Huntarr2.GoStd.Duration

/-!
# Durations in hours, minutes and seconds

Text made of numbers of hours, minutes and seconds is read as their sum, and `time.Duration.Hours` and
its kin give the whole units of a duration without part of a second.
-/

namespace Huntarr2.GoStd

/-! ## A number in front of a unit -/

section Number

variable {digits rest : Text} {value : ℕ} {c : Char}

/-- A number in digits ends at the first character of its unit. -/
theorem takeWhile_isDigit_append (hreads : digitsValue digits = some value)
    (hdigit : isDigit c = false) : (digits ++ c :: rest).takeWhile isDigit = digits := by
  have hall : ∀ d ∈ digits, isDigit d = true := isSome_of_digitsValue hreads
  rw [List.takeWhile_append_of_pos hall, List.takeWhile_cons_of_neg (by rw [hdigit]; decide),
    List.append_nil]

theorem leadingInt_append (hreads : digitsValue digits = some value) (hdigit : isDigit c = false) :
    leadingInt (digits ++ c :: rest) =
      if value ≤ maxMagnitude then some (value, c :: rest) else none := by
  unfold leadingInt
  rw [takeWhile_isDigit_append hreads hdigit]
  dsimp only
  rw [hreads, Option.bind_some, List.drop_left]

theorem leadingNumber_append (hne : digits ≠ []) (hreads : digitsValue digits = some value)
    (hdigit : isDigit c = false) (hpoint : c ≠ '.') :
    leadingNumber (digits ++ c :: rest) =
      if value ≤ maxMagnitude then some (value, 0, 1, c :: rest) else none := by
  unfold leadingNumber
  rw [leadingInt_append hreads hdigit]
  by_cases hlarge : value ≤ maxMagnitude
  · have hpre : ((c :: rest).length != (digits ++ c :: rest).length) = true := by
      have hlength := List.length_pos_of_ne_nil hne
      rw [List.length_append, bne_iff_ne]
      omega
    rw [if_pos hlarge, if_pos hlarge, Option.bind_some]
    dsimp only
    split
    case h_1 tail htail => exact absurd (List.cons.inj htail).1 hpoint
    case h_2 => rw [hpre, if_pos rfl]
  · rw [if_neg hlarge, if_neg hlarge, Option.bind_none]

/-- A number with a unit is read unless it is too large. -/
theorem parseComponent_append {after : Text} {nanos : ℕ} (hne : digits ≠ [])
    (hreads : digitsValue digits = some value) (hdigit : isDigit c = false) (hpoint : c ≠ '.')
    (hunit : leadingUnit (c :: rest) = some (nanos, after)) (hpos : 0 < nanos) :
    parseComponent (digits ++ c :: rest) =
      if value * nanos ≤ maxMagnitude then some (value * nanos, after) else none := by
  have hle : value ≤ value * nanos := Nat.le_mul_of_pos_right _ hpos
  have hdiv : maxMagnitude / nanos < value ↔ maxMagnitude < value * nanos :=
    Nat.div_lt_iff_lt_mul hpos
  unfold parseComponent
  rw [leadingNumber_append hne hreads hdigit hpoint]
  by_cases hlarge : value ≤ maxMagnitude
  · rw [if_pos hlarge, Option.bind_some]
    dsimp only
    rw [hunit, Option.bind_some]
    dsimp only
    rw [show fractionNanos 0 1 nanos = 0 from rfl, Nat.add_zero]
    by_cases hamount : value * nanos ≤ maxMagnitude
    · rw [if_pos hamount, if_neg (by simp [hdiv, hamount])]
    · rw [if_neg hamount, if_pos (by simp [hdiv, Nat.lt_of_not_le hamount])]
  · rw [if_neg hlarge, if_neg (by omega)]
    rfl

/-- A round of the loop over text that is not empty. -/
theorem parseComponents_of_ne_nil {text : Text} (htext : text ≠ []) (fuel sum : ℕ) :
    parseComponents (fuel + 1) text sum = (parseComponent text).bind fun (value, rest) ↦
      if maxMagnitude < sum + value then none else parseComponents fuel rest (sum + value) := by
  cases text with
  | nil => exact absurd rfl htext
  | cons c text => rfl

theorem parseComponents_nil (fuel sum : ℕ) : parseComponents fuel [] sum = some sum := by
  cases fuel <;> rfl

/-- A duration without a sign is the total of its components, if this fits. -/
theorem parseDuration_of_digits (hne : digits ≠ []) (hreads : digitsValue digits = some value) :
    parseDuration (digits ++ c :: rest) =
      (parseComponents (digits ++ c :: rest).length (digits ++ c :: rest) 0).bind fun total ↦
        if maxInt64 < total then none else some (total : ℤ) := by
  obtain ⟨first, digits, rfl⟩ := List.exists_cons_of_ne_nil hne
  have hfirst : isDigit first = true := isSome_of_digitsValue hreads first List.mem_cons_self
  unfold parseDuration
  rw [List.cons_append, splitSign_of_digit hfirst]
  dsimp only
  rw [if_neg (by simp), if_neg (by simp)]
  rfl

end Number

/-! ## Reading components -/

/-- The units of a clock, in nanoseconds. -/
def clockUnits : List (Char × ℕ) := [('h', 3600000000000), ('m', 60000000000), ('s', 1000000000)]

/-- A number of hours, minutes or seconds, as it is written. -/
structure Component where
  digits : Text
  value : ℕ
  unit : Char
  nanos : ℕ
  digits_ne_nil : digits ≠ []
  reads : digitsValue digits = some value
  known : (unit, nanos) ∈ clockUnits

namespace Component

def text (component : Component) : Text := component.digits ++ [component.unit]

/-- The nanoseconds of a component. -/
def amount (component : Component) : ℕ := component.value * component.nanos

/-- A number in decimal digits with a unit. -/
def ofNumber (value : ℕ) (unit : Char) (nanos : ℕ) (known : (unit, nanos) ∈ clockUnits) :
    Component where
  digits := decimal value
  value := value
  unit := unit
  nanos := nanos
  digits_ne_nil := decimal_ne_nil value
  reads := digitsValue_decimal value
  known := known

/-- The components one after the other. -/
def allText (components : List Component) : Text := components.flatMap text

def total (components : List Component) : ℕ := (components.map amount).sum

variable (component : Component)

theorem isDigit_digits : ∀ c ∈ component.digits, isDigit c = true :=
  isSome_of_digitsValue component.reads

theorem unit_facts : isDigit component.unit = false ∧ component.unit ≠ '.' ∧
    unitMap.lookup [component.unit] = some component.nanos ∧ 1000000000 ∣ component.nanos ∧
      0 < component.nanos := by
  have hfacts : ∀ known ∈ clockUnits, isDigit known.1 = false ∧ known.1 ≠ '.' ∧
      unitMap.lookup [known.1] = some known.2 ∧ 1000000000 ∣ known.2 ∧ 0 < known.2 := by decide
  exact hfacts _ component.known

/-- A unit ends where the next component begins. -/
theorem takeWhile_unit (components : List Component) :
    (component.unit :: allText components).takeWhile (fun c ↦ c != '.' && !isDigit c) =
      [component.unit] := by
  obtain ⟨hdigit, hpoint, -⟩ := component.unit_facts
  rw [List.takeWhile_cons_of_pos (by simp [hdigit, hpoint])]
  cases components with
  | nil => rfl
  | cons next components =>
    cases hdigits : next.digits with
    | nil => exact absurd hdigits next.digits_ne_nil
    | cons c digits =>
      have hc : isDigit c = true := next.isDigit_digits c (by rw [hdigits]; exact List.mem_cons_self)
      have htext : allText (next :: components) =
          c :: (digits ++ next.unit :: allText components) := by
        simp [allText, text, hdigits]
      rw [htext, List.takeWhile_cons_of_neg (by simp [hc])]

theorem leadingUnit_text (components : List Component) :
    leadingUnit (component.unit :: allText components) =
      some (component.nanos, allText components) := by
  unfold leadingUnit
  rw [component.takeWhile_unit]
  dsimp only
  rw [component.unit_facts.2.2.1]
  rfl

/-- A component in front of others is read unless it is too large. -/
theorem parseComponent_text (components : List Component) :
    parseComponent (component.digits ++ component.unit :: allText components) =
      if component.amount ≤ maxMagnitude then some (component.amount, allText components)
      else none := by
  obtain ⟨hdigit, hpoint, -, -, hpos⟩ := component.unit_facts
  exact parseComponent_append component.digits_ne_nil component.reads hdigit hpoint
    (component.leadingUnit_text components) hpos

theorem allText_cons (components : List Component) :
    allText (component :: components) =
      component.digits ++ component.unit :: allText components := by
  simp [allText, text]

theorem total_cons (components : List Component) :
    total (component :: components) = component.amount + total components := by
  simp [total]

theorem allText_append (first second : List Component) :
    allText (first ++ second) = allText first ++ allText second := List.flatMap_append

theorem total_append (first second : List Component) :
    total (first ++ second) = total first + total second := by
  simp [total]

/-- Reading components adds their amounts, as long as the sum stays in range. -/
theorem parseComponents_allText (components : List Component) (fuel sum : ℕ)
    (hfuel : (allText components).length ≤ fuel) (hsum : sum ≤ maxMagnitude) :
    parseComponents fuel (allText components) sum =
      if sum + total components ≤ maxMagnitude then some (sum + total components) else none := by
  induction components generalizing fuel sum with
  | nil =>
    have hnil : allText [] = [] := rfl
    rw [hnil, show total [] = 0 from rfl, Nat.add_zero, if_pos hsum, parseComponents_nil]
  | cons component components ih =>
    rw [allText_cons, List.length_append, List.length_cons] at hfuel
    obtain ⟨fuel, rfl⟩ : ∃ less, fuel = less + 1 := ⟨fuel - 1, by omega⟩
    have hne : component.digits ++ component.unit :: allText components ≠ [] := by simp
    rw [allText_cons, parseComponents_of_ne_nil hne, component.parseComponent_text, total_cons]
    by_cases hamount : component.amount ≤ maxMagnitude
    · rw [if_pos hamount, Option.bind_some]
      dsimp only
      by_cases hnext : sum + component.amount ≤ maxMagnitude
      · rw [if_neg (not_lt.mpr hnext), ih fuel (sum + component.amount) (by omega) hnext,
          Nat.add_assoc]
      · rw [if_pos (not_le.mp hnext), if_neg (by omega)]
    · rw [if_neg hamount, if_neg (by omega), Option.bind_none]

theorem allText_ne_nil {components : List Component} (hne : components ≠ []) :
    allText components ≠ [] := by
  obtain ⟨component, rest, rfl⟩ := List.exists_cons_of_ne_nil hne
  rw [allText_cons]
  exact List.append_ne_nil_of_left_ne_nil component.digits_ne_nil _

theorem total_dvd (components : List Component) : 1000000000 ∣ total components := by
  induction components with
  | nil => exact dvd_zero _
  | cons component components ih =>
    rw [total_cons]
    exact dvd_add (dvd_mul_of_dvd_right component.unit_facts.2.2.2.1 _) ih

/-- Text of components is read as their total, if this is a duration. -/
theorem parseDuration_allText {components : List Component} (hne : components ≠ []) :
    parseDuration (allText components) =
      if (total components : ℤ) ≤ maxInt64 then some (total components : ℤ) else none := by
  obtain ⟨component, rest, rfl⟩ := List.exists_cons_of_ne_nil hne
  rw [allText_cons, parseDuration_of_digits component.digits_ne_nil component.reads,
    ← allText_cons, parseComponents_allText _ _ 0 le_rfl (Nat.zero_le _), Nat.zero_add]
  unfold maxMagnitude maxInt64
  by_cases hlarge : total (component :: rest) ≤ 2 ^ 63
  · rw [if_pos hlarge, Option.bind_some]
    split <;> rw [eq_comm]
    · exact if_neg (by omega)
    · exact if_pos (by omega)
  · rw [if_neg hlarge, if_neg (by omega)]
    rfl

end Component

/-! ## A single unit -/

theorem leadingUnit_of_lookup {unit : Text} {nanos : ℕ} (hunit : unitMap.lookup unit = some nanos)
    (hname : ∀ c ∈ unit, isDigit c = false ∧ c ≠ '.') : leadingUnit unit = some (nanos, []) := by
  have htake : unit.takeWhile (fun c ↦ c != '.' && !isDigit c) = unit := by
    rw [List.takeWhile_eq_self_iff]
    intro c hc
    simp [hname c hc]
  unfold leadingUnit
  rw [htake]
  dsimp only
  rw [hunit, List.drop_length]
  rfl

/-- A number with one unit of any name is read as that many units. -/
theorem parseDuration_single {digits unit : Text} {value nanos : ℕ} (hdigits : digits ≠ [])
    (hreads : digitsValue digits = some value) (hunit : unitMap.lookup unit = some nanos)
    (hname : ∀ c ∈ unit, isDigit c = false ∧ c ≠ '.') (hpos : 0 < nanos)
    (hsmall : value * nanos < maxMagnitude) :
    parseDuration (digits ++ unit) = some ((value * nanos : ℕ) : ℤ) := by
  cases unit with
  | nil => cases hunit
  | cons c rest =>
    obtain ⟨hdigit, hpoint⟩ := hname c List.mem_cons_self
    have hcomponent := parseComponent_append hdigits hreads hdigit hpoint
      (leadingUnit_of_lookup hunit hname) hpos
    rw [if_pos hsmall.le] at hcomponent
    have hne : digits ++ c :: rest ≠ [] := by simp
    have hlength : (digits ++ c :: rest).length = (digits.length + rest.length) + 1 := by simp; omega
    rw [parseDuration_of_digits hdigits hreads, hlength, parseComponents_of_ne_nil hne, hcomponent,
      Option.bind_some]
    dsimp only
    rw [Nat.zero_add, if_neg (not_lt.mpr hsmall.le), parseComponents_nil, Option.bind_some]
    refine if_neg ?_
    unfold maxMagnitude at hsmall
    unfold maxInt64
    omega

/-! ## Whole units -/

/-- `time.Duration.Hours`, `Minutes` and `Seconds`, for the unit they count. -/
def inUnits (unit duration : Duration) : ℚ :=
  float64 (float64 (duration.tdiv unit) + float64 (float64 (duration.tmod unit) / unit))

/-- A conversion of a nonnegative number, in multiples of a unit. -/
theorem float64_mul_between {value unit : ℚ} (hvalue : 0 ≤ value) (hunit : 0 < unit) :
    value * unit - value * unit / 2 ^ 53 ≤ float64 value * unit ∧
      float64 value * unit ≤ value * unit + value * unit / 2 ^ 53 := by
  have hround := abs_le.mp (abs_float64_sub_le value)
  rw [abs_of_nonneg hvalue] at hround
  constructor
  · have h := mul_le_mul_of_nonneg_right hround.1 hunit.le
    linarith
  · have h := mul_le_mul_of_nonneg_right hround.2 hunit.le
    linarith

/-- Both roundings together are off by less than the distance of the quotient from an integer. -/
theorem float64_quotient_between (whole rest unit : ℚ) (hwhole : 0 ≤ whole) (hlow : 1 ≤ rest)
    (hhigh : rest + 1 ≤ unit) (hbound : whole * unit + rest + unit + 1 ≤ 2 ^ 53) :
    whole ≤ float64 (whole + float64 (rest / unit)) ∧
      float64 (whole + float64 (rest / unit)) < whole + 1 := by
  have hunit : 0 < unit := by linarith
  have hpart := float64_mul_between (div_nonneg (by linarith) hunit.le : 0 ≤ rest / unit) hunit
  rw [div_mul_cancel₀ _ hunit.ne'] at hpart
  have hnonneg : 0 ≤ float64 (rest / unit) := by
    refine nonneg_of_mul_nonneg_left ?_ hunit
    linarith [hpart.1]
  have hsum := float64_mul_between (add_nonneg hwhole hnonneg) hunit
  rw [add_mul] at hsum
  have hscaled : 0 ≤ whole * unit := mul_nonneg hwhole hunit.le
  constructor
  · refine le_of_mul_le_mul_right ?_ hunit
    linarith [hsum.1, hpart.1, hpart.2]
  · refine lt_of_mul_lt_mul_right ?_ hunit.le
    rw [add_mul, one_mul]
    linarith [hsum.2, hpart.1, hpart.2]

/-- Below `2 ^ 53` nanoseconds a duration has as many whole units as its quotient says. -/
theorem int64OfFloat_inUnits {unit duration : ℤ} (hunit : 0 < unit) (hnonneg : 0 ≤ duration)
    (hsmall : duration + unit < 2 ^ 53) :
    int64OfFloat (inUnits unit duration) = duration / unit := by
  have hquotient : 0 ≤ duration / unit := Int.ediv_nonneg hnonneg hunit.le
  have hle : duration / unit ≤ duration := Int.ediv_le_self unit hnonneg
  have hrest := Int.emod_nonneg duration hunit.ne'
  have hrestlt := Int.emod_lt_of_pos duration hunit
  unfold inUnits
  rw [Int.tdiv_eq_ediv_of_nonneg hnonneg, Int.tmod_eq_emod_of_nonneg hnonneg,
    float64_intCast (abs_le.mpr ⟨by omega, by omega⟩),
    float64_intCast (abs_le.mpr ⟨by omega, by omega⟩)]
  rcases hrest.eq_or_lt with hzero | hpositive
  · rw [← hzero, Int.cast_zero, zero_div, float64_zero, add_zero,
      float64_intCast (abs_le.mpr ⟨by omega, by omega⟩),
      int64OfFloat_intCast (abs_le.mpr ⟨by omega, by omega⟩)]
  · have hsum : duration / unit * unit + duration % unit + unit + 1 ≤ 2 ^ 53 := by
      rw [Int.ediv_mul_add_emod]
      omega
    obtain ⟨hfloor, hnext⟩ := float64_quotient_between (duration / unit : ℤ) (duration % unit : ℤ)
      unit (by exact_mod_cast hquotient) (by exact_mod_cast hpositive)
      (by exact_mod_cast hrestlt) (by exact_mod_cast hsum)
    exact int64OfFloat_of_between hquotient (by omega) hfloor hnext

/-- The whole seconds of a duration in 64 bits. -/
theorem abs_tdiv_second_le {duration : Duration} (hlow : minInt64 ≤ duration)
    (hhigh : duration ≤ maxInt64) : |duration.tdiv second| ≤ 9223372036 := by
  have hless := Int.tdiv_le_tdiv (show 0 < second by decide) hlow
  have hmore := Int.tdiv_le_tdiv (show 0 < second by decide) hhigh
  rw [abs_le]
  exact ⟨le_trans (by decide) hless, hmore.trans (by decide)⟩

/-- A bound, not a sharp one, on the seconds of a duration in 64 bits. -/
theorem int64OfFloat_inUnits_second_le {duration : Duration} (hlow : minInt64 ≤ duration)
    (hhigh : duration ≤ maxInt64) : int64OfFloat (inUnits second duration) ≤ 20000000000 := by
  have hwhole := abs_tdiv_second_le hlow hhigh
  have hrest : |duration.tmod second| ≤ second := by
    have hless := Int.lt_tmod_of_pos duration (show 0 < second by decide)
    have hmore := Int.tmod_lt_of_pos duration (show 0 < second by decide)
    exact abs_le.mpr ⟨hless.le, hmore.le⟩
  have hpart : |(duration.tmod second : ℚ) / second| ≤ 1 := by
    rw [abs_div]
    refine div_le_one_of_le₀ ?_ (abs_nonneg _)
    exact_mod_cast hrest
  have hsum : |(duration.tdiv second : ℚ) + float64 ((duration.tmod second : ℚ) / second)| ≤
      9223372038 := by
    have hcast : |(duration.tdiv second : ℚ)| ≤ 9223372036 := by exact_mod_cast hwhole
    calc _ ≤ |(duration.tdiv second : ℚ)| + |float64 ((duration.tmod second : ℚ) / second)| :=
          abs_add_le _ _
      _ ≤ 9223372038 := by linarith [abs_float64_le ((duration.tmod second : ℚ) / second)]
  have hfloat := abs_float64_le
    ((duration.tdiv second : ℚ) + float64 ((duration.tmod second : ℚ) / second))
  have hbound := int64OfFloat_le_abs (inUnits second duration)
  unfold inUnits at hbound ⊢
  rw [float64_intCast (hwhole.trans (by decide)),
    float64_intCast (hrest.trans (by decide))] at hbound ⊢
  have hle := hbound.trans hfloat
  have hcast : (int64OfFloat (float64 ((duration.tdiv second : ℚ) +
      float64 ((duration.tmod second : ℚ) / second))) : ℚ) ≤ 20000000000 := by linarith
  exact_mod_cast hcast
end Huntarr2.GoStd
