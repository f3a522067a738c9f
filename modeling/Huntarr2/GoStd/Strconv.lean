import Huntarr2.Foundation.Text
import Mathlib.Data.List.DropRight

/-!
# Numbers and booleans from text

The parts of Go's `strconv` and `strings` that settings and history records are read with, on a
platform with 64-bit integers, and the wrap-around of 64-bit arithmetic.
-/

namespace Huntarr2.GoStd

def minInt64 : ℤ := -2 ^ 63

def maxInt64 : ℤ := 2 ^ 63 - 1

/-- The 64-bit integer that arithmetic with this exact result leaves. -/
def wrap64 (value : ℤ) : ℤ := value.bmod (2 ^ 64)

theorem wrap64_of_bounds {value : ℤ} (hlow : minInt64 ≤ value) (hhigh : value ≤ maxInt64) :
    wrap64 value = value := by
  unfold wrap64 minInt64 maxInt64 at *
  rw [Int.bmod_eq_of_le] <;> omega

/-- An optional sign in front of a number. -/
def splitSign : Text → ℤ × Text
  | '+' :: text => (1, text)
  | '-' :: text => (-1, text)
  | text => (1, text)

/-- The value of a text of decimal digits. -/
def digitsValue (text : Text) : Option ℕ :=
  text.foldlM (fun value c ↦ (digitValue c).map (value * 10 + ·)) 0

/-- The decimal digits of a number. -/
def decimal (value : ℕ) : Text := Nat.toDigits 10 value

/-- `strconv.ParseInt(text, 10, 64)`. -/
def parseInt64 (text : Text) : Option ℤ :=
  let (sign, digits) := splitSign text
  if digits.isEmpty then none
  else (digitsValue digits).bind fun value ↦
    if minInt64 ≤ sign * value ∧ sign * value ≤ maxInt64 then some (sign * value) else none

/-- `strconv.Atoi`. -/
def atoi (text : Text) : Option ℤ := parseInt64 text

/-- `strconv.ParseBool`. -/
def parseBool (text : Text) : Option Bool :=
  if text ∈ (["1", "t", "T", "TRUE", "true", "True"].map String.toList) then some true
  else if text ∈ (["0", "f", "F", "FALSE", "false", "False"].map String.toList) then some false
  else none

theorem digitsValue_concat (text : Text) (c : Char) :
    digitsValue (text ++ [c]) =
      (digitsValue text).bind fun value ↦ (digitValue c).map (value * 10 + ·) := by
  unfold digitsValue
  rw [List.foldlM_append]
  cases text.foldlM (fun value c ↦ (digitValue c).map (value * 10 + ·)) 0 with
  | none => rfl
  | some value => cases hdigit : digitValue c <;> simp [hdigit]

theorem digitValue_digitChar : ∀ value < 10, digitValue (Nat.digitChar value) = some value := by
  decide

/-- Decimal digits are read back. -/
theorem digitsValue_decimal (value : ℕ) : digitsValue (decimal value) = some value := by
  unfold decimal
  induction value using Nat.strongRecOn with
  | ind value ih =>
    rcases Nat.lt_or_ge value 10 with hsmall | hlarge
    · rw [Nat.toDigits_of_lt_base hsmall, ← List.nil_append [_], digitsValue_concat,
        digitValue_digitChar value hsmall]
      simp [digitsValue]
    · have hdigit := digitValue_digitChar (value % 10) (Nat.mod_lt _ (by decide))
      rw [Nat.toDigits_of_base_le (by decide) hlarge, digitsValue_concat, ih (value / 10) (by omega),
        hdigit, Option.bind_some, Option.map_some]
      exact congrArg some (Nat.div_add_mod' value 10)

theorem decimal_ne_nil (value : ℕ) : decimal value ≠ [] := Nat.toDigits_ne_nil

/-- Text with a value consists of digits. -/
theorem isSome_of_digitsValue {text : Text} {value : ℕ} (h : digitsValue text = some value) :
    ∀ c ∈ text, (digitValue c).isSome = true := by
  induction text using List.reverseRecOn generalizing value with
  | nil => exact fun c hc ↦ absurd hc List.not_mem_nil
  | append_singleton text last ih =>
    rw [digitsValue_concat] at h
    obtain ⟨front, hfront, hlast⟩ := Option.bind_eq_some_iff.mp h
    obtain ⟨digit, hdigit, -⟩ := Option.map_eq_some_iff.mp hlast
    intro c hc
    rcases List.mem_append.mp hc with hmem | hmem
    · exact ih hfront c hmem
    · rw [List.mem_singleton.mp hmem, hdigit]
      rfl

/-- Digits have a value. -/
theorem exists_digitsValue {text : Text} (h : ∀ c ∈ text, (digitValue c).isSome = true) :
    ∃ value, digitsValue text = some value := by
  induction text using List.reverseRecOn with
  | nil => exact ⟨0, rfl⟩
  | append_singleton text last ih =>
    obtain ⟨front, hfront⟩ := ih fun c hc ↦ h c (List.mem_append_left _ hc)
    obtain ⟨digit, hdigit⟩ := Option.isSome_iff_exists.mp
      (h last (List.mem_append_right _ List.mem_cons_self))
    exact ⟨front * 10 + digit, by rw [digitsValue_concat, hfront, hdigit]; rfl⟩

/-- A digit is not taken for a sign. -/
theorem splitSign_of_digit {c : Char} (hc : (digitValue c).isSome = true) (text : Text) :
    splitSign (c :: text) = (1, c :: text) := by
  unfold splitSign
  split
  case h_1 heq =>
    rw [(List.cons.inj heq).1] at hc
    exact absurd hc (by decide)
  case h_2 heq =>
    rw [(List.cons.inj heq).1] at hc
    exact absurd hc (by decide)
  case h_3 => rfl

theorem digitsValue_append_zeros (text : Text) (zeros : ℕ) :
    digitsValue (text ++ List.replicate zeros '0') =
      (digitsValue text).map fun value ↦ value * 10 ^ zeros := by
  induction zeros with
  | zero => simp
  | succ zeros ih =>
    have hzero : digitValue '0' = some 0 := by decide
    rw [List.replicate_succ', ← List.append_assoc, digitsValue_concat, ih, hzero]
    cases digitsValue text with
    | none => rfl
    | some value => simp [pow_succ, mul_assoc]

/-- The integer that a sign and decimal digits stand for, of any size. -/
def integerValue (text : Text) : Option ℤ :=
  let (sign, digits) := splitSign text
  if digits.isEmpty then none else (digitsValue digits).map fun value : ℕ ↦ sign * value

/-- `Atoi` reads the integer a text stands for, when it fits. -/
theorem atoi_eq_some {text : Text} {value : ℤ} (h : atoi text = some value) :
    integerValue text = some value ∧ minInt64 ≤ value ∧ value ≤ maxInt64 := by
  unfold atoi parseInt64 at h
  unfold integerValue
  dsimp only at h ⊢
  split at h
  case isTrue => simp at h
  case isFalse hdigits =>
    obtain ⟨magnitude, hmagnitude, hread⟩ := Option.bind_eq_some_iff.mp h
    rw [if_neg hdigits, hmagnitude]
    split at hread
    case isTrue hbounds =>
      obtain rfl := Option.some.inj hread
      exact ⟨rfl, hbounds⟩
    case isFalse => simp at hread

/-- `unicode.IsSpace`. -/
def isSpace (c : Char) : Bool :=
  let code := c.toNat
  (9 ≤ code && code ≤ 13) || code == 0x20 || code == 0x85 || code == 0xA0 || code == 0x1680 ||
    (0x2000 ≤ code && code ≤ 0x200A) || code == 0x2028 || code == 0x2029 || code == 0x202F ||
    code == 0x205F || code == 0x3000

/-- `strings.TrimSpace`. -/
def trimSpace (text : Text) : Text :=
  ((text.dropWhile isSpace).reverse.dropWhile isSpace).reverse

/-- Trimmed text has nothing more to trim. -/
theorem trimSpace_trimSpace (text : Text) : trimSpace (trimSpace text) = trimSpace text := by
  have hshape (text : Text) : trimSpace text = (text.dropWhile isSpace).rdropWhile isSpace := rfl
  have hfront : ((text.dropWhile isSpace).rdropWhile isSpace).dropWhile isSpace =
      (text.dropWhile isSpace).rdropWhile isSpace := by
    obtain ⟨rest, hsplit⟩ := List.rdropWhile_prefix isSpace (text.dropWhile isSpace)
    cases htrimmed : (text.dropWhile isSpace).rdropWhile isSpace with
    | nil => rfl
    | cons c trimmed =>
      rw [htrimmed] at hsplit
      have hfirst := List.head?_dropWhile_not isSpace text
      rw [← hsplit] at hfirst
      exact List.dropWhile_cons_of_neg (Bool.eq_false_iff.mp hfirst)
  rw [hshape, hshape, hfront, List.rdropWhile_idempotent]

example : atoi "-42" = some (-42) := by decide

end Huntarr2.GoStd
