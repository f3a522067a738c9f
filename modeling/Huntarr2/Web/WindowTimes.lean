import Huntarr2.Foundation.Utf8
import Huntarr2.Web.SettingsForm

/-!
# Times of the search window

A bound of the search window is written as two digits of the hour, a colon and two digits of the
minute. The server reads each half with the general integer parser, which takes a sign in place of the
first digit; the page accepts the grammar.
-/

namespace Huntarr2.Settings

open GoStd

/-! ## The grammar -/

/-- The number two decimal digits stand for. -/
def twoDigits (a b : Char) : Option ℕ :=
  (digitValue a).bind fun tens ↦ (digitValue b).map fun ones ↦ tens * 10 + ones

/-- The grammar of a time, `HH:MM` with an hour up to 23 and a minute up to 59, and the minutes since
midnight it stands for. -/
def clockTime : Text → Option ℤ
  | [a, b, ':', c, d] =>
    (twoDigits a b).bind fun hour ↦ (twoDigits c d).bind fun minute ↦
      if hour ≤ 23 ∧ minute ≤ 59 then some (60 * hour + minute) else none
  | _ => none

/-- A half with a sign that the integer parser takes for a number in range: a plus sign with a digit,
or minus zero. -/
def signedDigit (a b : Char) : Option ℕ :=
  if a = '+' then digitValue b else if a = '-' ∧ b = '0' then some 0 else none

/-- A half that is accepted, with or without a sign. -/
def half (a b : Char) : Option ℕ := (twoDigits a b).or (signedDigit a b)

/-- A time in which a half has a sign, and that is accepted nevertheless. -/
def SignedTime (text : Text) : Prop :=
  ∃ a b c d, text = [a, b, ':', c, d] ∧ (∃ hour ∈ half a b, hour ≤ 23) ∧
    (∃ minute ∈ half c d, minute ≤ 59) ∧
    ((signedDigit a b).isSome = true ∨ (signedDigit c d).isSome = true)

/-! ## What the integer parser reads from two characters -/

theorem digitValue_le {c : Char} {value : ℕ} (h : digitValue c = some value) : value ≤ 9 := by
  unfold digitValue at h
  split_ifs at h
  obtain rfl := Option.some.inj h
  omega

theorem digitValue_eq_zero {c : Char} : digitValue c = some 0 ↔ c = '0' := by
  constructor
  · intro h
    unfold digitValue at h
    split_ifs at h with hdigit
    have hcode : c.toNat = 48 := by
      have hzero := Option.some.inj h
      omega
    rw [← Char.ofNat_toNat c, hcode]
  · rintro rfl
    rfl

theorem toNat_lt_of_digitValue {c : Char} {value : ℕ} (h : digitValue c = some value) :
    c.toNat < 128 := by
  unfold digitValue at h
  split_ifs at h
  omega

theorem twoDigits_le {a b : Char} {value : ℕ} (h : twoDigits a b = some value) : value ≤ 99 := by
  obtain ⟨tens, htens, hrest⟩ := Option.bind_eq_some_iff.mp h
  obtain ⟨ones, hones, rfl⟩ := Option.map_eq_some_iff.mp hrest
  have := digitValue_le htens
  have := digitValue_le hones
  omega

theorem digitsValue_pair (a b : Char) : digitsValue [a, b] = twoDigits a b := by
  unfold digitsValue twoDigits
  cases ha : digitValue a with
  | none => simp [ha]
  | some tens => cases hb : digitValue b <;> simp [ha, hb]

theorem digitsValue_singleton (b : Char) : digitsValue [b] = digitValue b := by
  unfold digitsValue
  cases hb : digitValue b <;> simp [hb]

/-- A sign is not a digit. -/
theorem twoDigits_of_signed {a b : Char} (h : (signedDigit a b).isSome = true) :
    twoDigits a b = none := by
  have hsign : a = '+' ∨ a = '-' := by
    unfold signedDigit at h
    split_ifs at h with hplus hminus
    · exact Or.inl hplus
    · exact Or.inr hminus.1
    · cases h
  rcases hsign with rfl | rfl <;> rfl

theorem atoi_eq_map {text digits : Text} {sign : ℤ} (hsplit : splitSign text = (sign, digits))
    (hsign : sign = 1 ∨ sign = -1) (hdigits : digits ≠ [])
    (hsmall : ∀ n ∈ digitsValue digits, n ≤ 99) :
    atoi text = (digitsValue digits).map fun n : ℕ ↦ sign * n := by
  unfold atoi parseInt64
  rw [hsplit]
  dsimp only
  rw [if_neg (by simpa using hdigits)]
  cases hvalue : digitsValue digits with
  | none => rfl
  | some n =>
    have hle := hsmall n hvalue
    refine if_pos ?_
    unfold minInt64 maxInt64
    rcases hsign with rfl | rfl <;> omega

/-- `Atoi` of two characters. -/
theorem atoi_pair (a b : Char) :
    atoi [a, b] =
      if a = '+' then (digitValue b).map fun n : ℕ ↦ 1 * (n : ℤ)
      else if a = '-' then (digitValue b).map fun n : ℕ ↦ -1 * (n : ℤ)
      else (twoDigits a b).map fun n : ℕ ↦ 1 * (n : ℤ) := by
  have hone : ∀ n ∈ digitsValue [b], n ≤ 99 := fun n hn ↦
    (digitValue_le ((digitsValue_singleton b).symm.trans hn)).trans (by decide)
  have htwo : ∀ n ∈ digitsValue [a, b], n ≤ 99 := fun n hn ↦
    twoDigits_le ((digitsValue_pair a b).symm.trans hn)
  rw [← digitsValue_pair, ← digitsValue_singleton]
  split_ifs with hplus hminus
  · exact hplus ▸ atoi_eq_map rfl (Or.inl rfl) (List.cons_ne_nil b []) hone
  · exact hminus ▸ atoi_eq_map rfl (Or.inr rfl) (List.cons_ne_nil b []) hone
  · refine atoi_eq_map ?_ (Or.inl rfl) (List.cons_ne_nil a [b]) htwo
    unfold splitSign
    split
    case h_1 heq => exact absurd (List.cons.inj heq).1 hplus
    case h_2 heq => exact absurd (List.cons.inj heq).1 hminus
    case h_3 => rfl

/-- Two characters are read as a number in a range exactly when they are an accepted half. -/
theorem atoi_pair_iff (a b : Char) {limit : ℕ} (value : ℤ) :
    (atoi [a, b] = some value ∧ ¬(value < 0 ∨ (limit : ℤ) < value)) ↔
      ∃ n ∈ half a b, n ≤ limit ∧ value = n := by
  have hrange {read : Option ℕ} (hread : atoi [a, b] = read.map fun n : ℕ ↦ 1 * (n : ℤ)) :
      (atoi [a, b] = some value ∧ ¬(value < 0 ∨ (limit : ℤ) < value)) ↔
        ∃ n ∈ read, n ≤ limit ∧ value = n := by
    rw [hread, Option.map_eq_some_iff]
    constructor
    · rintro ⟨⟨n, hn, rfl⟩, hbounds⟩
      exact ⟨n, hn, by omega, one_mul _⟩
    · rintro ⟨n, hn, hle, rfl⟩
      exact ⟨⟨n, hn, one_mul _⟩, by omega⟩
  have hpair := atoi_pair a b
  unfold half signedDigit
  by_cases hplus : a = '+'
  · subst hplus
    exact hrange hpair
  · by_cases hminus : a = '-'
    · subst hminus
      rw [if_neg hplus, if_pos rfl] at hpair
      rw [hpair, Option.map_eq_some_iff, if_neg hplus, show twoDigits '-' b = none from rfl,
        Option.none_or]
      constructor
      · rintro ⟨⟨n, hn, rfl⟩, hbounds⟩
        obtain rfl : n = 0 := by omega
        rw [if_pos ⟨rfl, digitValue_eq_zero.mp hn⟩]
        exact ⟨0, rfl, Nat.zero_le _, rfl⟩
      · rintro ⟨n, hn, hle, rfl⟩
        split_ifs at hn with hzero
        · obtain rfl : n = 0 := (Option.some.inj hn).symm
          exact ⟨⟨0, digitValue_eq_zero.mpr hzero.2, rfl⟩, by omega⟩
        · cases hn
    · rw [if_neg hplus, if_neg hminus] at hpair
      rw [if_neg hplus, if_neg fun h ↦ hminus h.1, Option.or_none]
      exact hrange hpair

/-! ## The parser -/

/-- Five characters with a colon in the middle. -/
theorem exists_of_shape {text : Text} (hlength : text.length = 5) (hcolon : text[2]? = some ':') :
    ∃ a b c d, text = [a, b, ':', c, d] := by
  match text, hlength with
  | [a, b, colon, c, d], _ =>
    obtain rfl : colon = ':' := Option.some.inj hcolon
    exact ⟨a, b, c, d, rfl⟩

/-- A text of this shape is accepted when both halves are. -/
theorem parseHHMM_pair_eq_some_iff {a b c d : Char} {minutes : ℤ} :
    parseHHMM [a, b, ':', c, d] = some minutes ↔
      ∃ hour ∈ half a b, hour ≤ 23 ∧ ∃ minute ∈ half c d, minute ≤ 59 ∧
        minutes = 60 * hour + minute := by
  have hguard {bound : Prop} [Decidable bound] {rest : Option ℤ} :
      (if bound then none else rest) = some minutes ↔ ¬bound ∧ rest = some minutes := by
    split_ifs with h <;> simp [h]
  have hparse : parseHHMM [a, b, ':', c, d] = some minutes ↔
      ∃ hours, (atoi [a, b] = some hours ∧ ¬(hours < 0 ∨ ((23 : ℕ) : ℤ) < hours)) ∧
        ∃ rest, (atoi [c, d] = some rest ∧ ¬(rest < 0 ∨ ((59 : ℕ) : ℤ) < rest)) ∧
          hours * 60 + rest = minutes := by
    unfold parseHHMM
    rw [hguard, and_iff_right (by simp)]
    refine Option.bind_eq_some_iff.trans (exists_congr fun hours ↦ ?_)
    rw [hguard, ← and_assoc]
    refine and_congr Iff.rfl (Option.bind_eq_some_iff.trans (exists_congr fun rest ↦ ?_))
    rw [hguard, ← and_assoc, Option.some.injEq]
    exact Iff.rfl
  rw [hparse]
  constructor
  · rintro ⟨hours, hhours, rest, hrest, rfl⟩
    obtain ⟨hour, hhour, hle, rfl⟩ := (atoi_pair_iff a b hours).mp hhours
    obtain ⟨minute, hminute, hleMinute, rfl⟩ := (atoi_pair_iff c d rest).mp hrest
    exact ⟨hour, hhour, hle, minute, hminute, hleMinute, by omega⟩
  · rintro ⟨hour, hhour, hle, minute, hminute, hleMinute, rfl⟩
    exact ⟨hour, (atoi_pair_iff a b _).mpr ⟨hour, hhour, hle, rfl⟩, minute,
      (atoi_pair_iff c d _).mpr ⟨minute, hminute, hleMinute, rfl⟩, by omega⟩

theorem parseHHMM_eq_none_of_shape {text : Text}
    (hshape : ∀ a b c d, text ≠ [a, b, ':', c, d]) : parseHHMM text = none := by
  unfold parseHHMM
  refine if_pos ?_
  by_contra h
  push Not at h
  obtain ⟨a, b, c, d, htext⟩ := exists_of_shape h.1 h.2
  exact hshape a b c d htext

theorem clockTime_eq_none_of_shape {text : Text}
    (hshape : ∀ a b c d, text ≠ [a, b, ':', c, d]) : clockTime text = none := by
  unfold clockTime
  split
  case h_1 a b c d => exact absurd rfl (hshape a b c d)
  case h_2 => rfl

theorem clockTime_pair_eq_some_iff {a b c d : Char} {minutes : ℤ} :
    clockTime [a, b, ':', c, d] = some minutes ↔
      ∃ hour ∈ twoDigits a b, hour ≤ 23 ∧ ∃ minute ∈ twoDigits c d, minute ≤ 59 ∧
        minutes = 60 * hour + minute := by
  unfold clockTime
  simp only [Option.bind_eq_some_iff, Option.mem_def]
  refine exists_congr fun hour ↦ and_congr_right fun _ ↦ ?_
  constructor
  · rintro ⟨minute, hminute, hrange⟩
    split_ifs at hrange with hbounds
    exact ⟨hbounds.1, minute, hminute, hbounds.2, (Option.some.inj hrange).symm⟩
  · rintro ⟨hle, minute, hminute, hleMinute, rfl⟩
    exact ⟨minute, hminute, if_pos ⟨hle, hleMinute⟩⟩

theorem mem_half_iff {a b : Char} (hunsigned : ¬(signedDigit a b).isSome = true) {value : ℕ} :
    value ∈ half a b ↔ value ∈ twoDigits a b := by
  unfold half
  rw [Option.not_isSome_iff_eq_none.mp hunsigned, Option.or_none]

theorem mem_half_of_digits {a b : Char} {value : ℕ} (h : value ∈ twoDigits a b) :
    value ∈ half a b := by
  unfold half
  rw [Option.mem_def.mp h]
  rfl

/-- The parser agrees with the grammar except on times with a sign. -/
theorem parseHHMM_eq_clockTime_iff (text : Text) :
    parseHHMM text = clockTime text ↔ ¬SignedTime text := by
  constructor
  · rintro heq ⟨a, b, c, d, rfl, ⟨hour, hhour, hle⟩, ⟨minute, hminute, hleMinute⟩, hsigned⟩
    have hparsed := parseHHMM_pair_eq_some_iff.mpr ⟨hour, hhour, hle, minute, hminute, hleMinute, rfl⟩
    obtain ⟨first, hfirst, -, second, hsecond, -, -⟩ :=
      clockTime_pair_eq_some_iff.mp (heq.symm.trans hparsed)
    rcases hsigned with h | h
    · rw [twoDigits_of_signed h] at hfirst
      cases hfirst
    · rw [twoDigits_of_signed h] at hsecond
      cases hsecond
  · intro hunsigned
    by_cases hshape : ∃ a b c d, text = [a, b, ':', c, d]
    · obtain ⟨a, b, c, d, rfl⟩ := hshape
      refine Option.ext fun minutes ↦ ?_
      rw [parseHHMM_pair_eq_some_iff, clockTime_pair_eq_some_iff]
      constructor
      · rintro ⟨hour, hhour, hle, minute, hminute, hleMinute, rfl⟩
        have hplain : ¬((signedDigit a b).isSome = true ∨ (signedDigit c d).isSome = true) :=
          fun h ↦ hunsigned ⟨a, b, c, d, rfl, ⟨hour, hhour, hle⟩, ⟨minute, hminute, hleMinute⟩, h⟩
        rw [not_or] at hplain
        exact ⟨hour, (mem_half_iff hplain.1).mp hhour, hle, minute,
          (mem_half_iff hplain.2).mp hminute, hleMinute, rfl⟩
      · rintro ⟨hour, hhour, hle, minute, hminute, hleMinute, rfl⟩
        exact ⟨hour, mem_half_of_digits hhour, hle, minute, mem_half_of_digits hminute, hleMinute, rfl⟩
    · push Not at hshape
      rw [parseHHMM_eq_none_of_shape hshape, clockTime_eq_none_of_shape hshape]

/-- An accepted time consists of ASCII characters. -/
theorem ascii_of_parseHHMM {text : Text} {minutes : ℤ} (h : parseHHMM text = some minutes) :
    Ascii text := by
  have hhalf {a b : Char} {value : ℕ} (h : value ∈ half a b) : a.toNat < 128 ∧ b.toNat < 128 := by
    by_cases hsigned : (signedDigit a b).isSome = true
    · unfold signedDigit at hsigned
      split_ifs at hsigned with hplus hminus
      · obtain ⟨n, hn⟩ := Option.isSome_iff_exists.mp hsigned
        exact ⟨hplus ▸ by decide, toNat_lt_of_digitValue hn⟩
      · exact ⟨hminus.1 ▸ by decide, hminus.2 ▸ by decide⟩
      · cases hsigned
    · obtain ⟨tens, htens, hrest⟩ := Option.bind_eq_some_iff.mp ((mem_half_iff hsigned).mp h)
      obtain ⟨ones, hones, -⟩ := Option.map_eq_some_iff.mp hrest
      exact ⟨toNat_lt_of_digitValue htens, toNat_lt_of_digitValue hones⟩
  by_cases hshape : ∃ a b c d, text = [a, b, ':', c, d]
  · obtain ⟨a, b, c, d, rfl⟩ := hshape
    obtain ⟨hour, hhour, -, minute, hminute, -⟩ := parseHHMM_pair_eq_some_iff.mp h
    have hab := hhalf hhour
    have hcd := hhalf hminute
    unfold Ascii
    simp only [List.forall_mem_cons]
    exact ⟨hab.1, hab.2, by decide, hcd.1, hcd.2, fun c hc ↦ absurd hc List.not_mem_nil⟩
  · push Not at hshape
    rw [parseHHMM_eq_none_of_shape hshape] at h
    cases h

end Huntarr2.Settings

namespace Huntarr2.Web

open GoStd Settings

/-! ## The page -/

theorem isDigit_iff (c : Char) : isDigit c = true ↔ 48 ≤ c.toNat ∧ c.toNat ≤ 57 := by
  unfold isDigit digitValue
  split_ifs with h
  · exact iff_of_true rfl h
  · exact iff_of_false Bool.false_ne_true h

/-- Two digits up to a limit, by their codes. -/
theorem exists_twoDigits_iff (a b : Char) (limit : ℕ) :
    (∃ value ∈ twoDigits a b, value ≤ limit) ↔
      (48 ≤ a.toNat ∧ a.toNat ≤ 57) ∧ (48 ≤ b.toNat ∧ b.toNat ≤ 57) ∧
        (a.toNat - 48) * 10 + (b.toNat - 48) ≤ limit := by
  unfold twoDigits digitValue
  split_ifs with ha hb <;> simp [*]

/-- The alternatives of the pattern for the hour. -/
theorem hour_matches_iff (a b : Char) :
    (((a = '0' ∨ a = '1') ∧ isDigit b = true) ∨ (a = '2' ∧ '0' ≤ b ∧ b ≤ '3')) ↔
      ∃ hour ∈ twoDigits a b, hour ≤ 23 := by
  have hlow : '0' ≤ b ↔ 48 ≤ b.toNat := Iff.rfl
  have hhigh : b ≤ '3' ↔ b.toNat ≤ 51 := Iff.rfl
  rw [exists_twoDigits_iff, isDigit_iff, hlow, hhigh, ← Char.toNat_inj, ← Char.toNat_inj,
    ← Char.toNat_inj]
  simp only [Char.reduceToNat]
  omega

/-- The pattern for the minute. -/
theorem minute_matches_iff (c d : Char) :
    ('0' ≤ c ∧ c ≤ '5' ∧ isDigit d = true) ↔ ∃ minute ∈ twoDigits c d, minute ≤ 59 := by
  have hlow : '0' ≤ c ↔ 48 ≤ c.toNat := Iff.rfl
  have hhigh : c ≤ '5' ↔ c.toNat ≤ 53 := Iff.rfl
  rw [exists_twoDigits_iff, isDigit_iff, hlow, hhigh]
  omega

/-- The page accepts exactly the empty text and the times of the grammar. -/
theorem validHHMM_iff (v : Text) : validHHMM v = true ↔ v = [] ∨ (clockTime v).isSome = true := by
  unfold validHHMM
  split
  case h_1 => simp
  case h_2 a b c d =>
    rw [decide_eq_true_iff, hour_matches_iff, minute_matches_iff, Option.isSome_iff_exists]
    simp only [clockTime_pair_eq_some_iff]
    constructor
    · rintro ⟨⟨hour, hhour, hle⟩, minute, hminute, hleMinute⟩
      exact Or.inr ⟨_, hour, hhour, hle, minute, hminute, hleMinute, rfl⟩
    · rintro (h | ⟨_, hour, hhour, hle, minute, hminute, hleMinute, -⟩)
      · cases h
      · exact ⟨⟨hour, hhour, hle⟩, minute, hminute, hleMinute⟩
  case h_3 hnonempty hshape =>
    rw [clockTime_eq_none_of_shape hshape]
    constructor
    · exact fun h ↦ absurd h Bool.false_ne_true
    · rintro (hempty | hsome)
      · exact absurd hempty hnonempty
      · cases hsome

/-- The validator accepts for a bound of the window the empty text and what the parser accepts. -/
theorem validateValue_window_iff {key : Key}
    (hkey : key = .searchWindowStart ∨ key = .searchWindowEnd) (v : Text) :
    validateValue key.name v = .ok () ↔ v = [] ∨ (parseHHMM v).isSome = true := by
  have haccepted : validateValue key.name v =
      if v.isEmpty || (parseHHMM v).isSome then .ok () else .error (.invalidValue key.name v) := by
    unfold validateValue
    rw [Key.ofName_name]
    rcases hkey with rfl | rfl <;> rfl
  have hcondition : (v.isEmpty || (parseHHMM v).isSome) = true ↔
      v = [] ∨ (parseHHMM v).isSome = true := by
    rw [Bool.or_eq_true, List.isEmpty_iff]
  rw [haccepted, ← hcondition]
  split_ifs with h
  · exact ⟨fun _ ↦ h, fun _ ↦ rfl⟩
  · exact ⟨fun herr ↦ absurd herr (by simp), fun hok ↦ absurd hok h⟩

/-- The server follows the grammar on a text: the parser reads the minutes since midnight of a time
and nothing else, and the validator accepts for both bounds of the window the empty text and a time,
as the page does. -/
structure FollowsGrammar (v : Text) : Prop where
  parsed : parseHHMM v = clockTime v
  accepted : ∀ key, key = Key.searchWindowStart ∨ key = Key.searchWindowEnd →
    (validateValue key.name v = .ok () ↔ v = [] ∨ (clockTime v).isSome = true)
  as_page : ∀ key, key = Key.searchWindowStart ∨ key = Key.searchWindowEnd →
    (validateValue key.name v = .ok () ↔ validHHMM v = true)

/-- The server follows the grammar on every string except accepted times with a sign: on arbitrary
bytes, and on encoded text also together with the page. -/
theorem followsGrammar_iff (bytes : List UInt8) (v : Text) :
    (parseHHMM (byteText bytes) = clockTime (byteText bytes) ↔ ¬SignedTime (byteText bytes)) ∧
      parseHHMM (byteText (utf8 v)) = parseHHMM v ∧ (FollowsGrammar v ↔ ¬SignedTime v) := by
  refine ⟨parseHHMM_eq_clockTime_iff _, parse_utf8 (fun _ _ ↦ ascii_of_parseHHMM) v, fun h ↦ ?_,
    fun h ↦ ?_⟩
  · exact (parseHHMM_eq_clockTime_iff v).mp h.parsed
  · have hparsed := (parseHHMM_eq_clockTime_iff v).mpr h
    have haccepted (key : Key) (hkey : key = .searchWindowStart ∨ key = .searchWindowEnd) :
        validateValue key.name v = .ok () ↔ v = [] ∨ (clockTime v).isSome = true :=
      hparsed ▸ validateValue_window_iff hkey v
    exact ⟨hparsed, haccepted, fun key hkey ↦ (haccepted key hkey).trans (validHHMM_iff v).symm⟩

/-- One o'clock with a plus sign is accepted by the server, but not by the page. -/
theorem signed_hour_accepted :
    parseHHMM "+1:00" = some 60 ∧ clockTime "+1:00" = none ∧
      validateValue Key.searchWindowStart.name "+1:00" = .ok () ∧ validHHMM "+1:00" = false := by
  decide

end Huntarr2.Web
