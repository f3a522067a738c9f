import Huntarr2.Foundation.Text

/-!
# Fixed-width decimal text

Numbers written with a fixed number of decimal digits compare as text exactly as they compare as
numbers, and reading them back gives the number.
-/

namespace Huntarr2.Clock

/-! ## Fixed width -/

/-- The last `width` decimal digits of a number, with leading zeros. -/
def pad : ℕ → ℕ → Text
  | 0, _ => []
  | width + 1, value => pad width (value / 10) ++ [digit (value % 10)]

@[simp]
theorem length_pad (width value : ℕ) : (pad width value).length = width := by
  induction width generalizing value with
  | zero => rfl
  | succ width ih => simp [pad, ih]

theorem mem_pad {width value : ℕ} {c : Char} (h : c ∈ pad width value) : ∃ d < 10, c = digit d := by
  induction width generalizing value with
  | zero => simp [pad] at h
  | succ width ih =>
    rcases List.mem_append.mp h with hfront | hlast
    · exact ih hfront
    · exact ⟨value % 10, Nat.mod_lt _ (by norm_num), List.mem_singleton.mp hlast⟩

theorem pad_lt_pad {width first second : ℕ} (hsecond : second < 10 ^ width)
    (hlt : first < second) : pad width first < pad width second := by
  induction width generalizing first second with
  | zero => omega
  | succ width ih =>
    have hbound : second / 10 < 10 ^ width := by
      rw [pow_succ] at hsecond
      omega
    refine (append_lt_append_iff (by simp) _ _).mpr ?_
    rcases Nat.lt_or_ge (first / 10) (second / 10) with hfront | hfront
    · exact Or.inl (ih hbound hfront)
    · have hsame : first / 10 = second / 10 := by omega
      refine Or.inr ⟨by rw [hsame], List.cons_lt_cons_iff.mpr (Or.inl ?_)⟩
      exact (digit_lt_digit_iff _ (by omega) _ (by omega)).mpr (by omega)

theorem pad_lt_pad_iff {width first second : ℕ} (hfirst : first < 10 ^ width)
    (hsecond : second < 10 ^ width) : pad width first < pad width second ↔ first < second := by
  constructor
  · intro h
    by_contra hge
    rcases (Nat.le_of_not_lt hge).lt_or_eq with hlt | rfl
    · exact absurd h (lt_asymm (pad_lt_pad hfirst hlt))
    · exact absurd h (lt_irrefl _)
  · exact pad_lt_pad hsecond

theorem pad_injective {width first second : ℕ} (hfirst : first < 10 ^ width)
    (hsecond : second < 10 ^ width) (h : pad width first = pad width second) : first = second := by
  rcases lt_trichotomy first second with hlt | heq | hgt
  · exact absurd h (ne_of_lt (pad_lt_pad hsecond hlt))
  · exact heq
  · exact absurd h.symm (ne_of_lt (pad_lt_pad hfirst hgt))

/-! ## Reading digits -/

/-- Read exactly `width` digits after those already read. -/
def readDigits : ℕ → ℕ → Text → Option (ℕ × Text)
  | 0, value, text => some (value, text)
  | _ + 1, _, [] => none
  | width + 1, value, c :: text =>
    match digitValue c with
    | some d => readDigits width (value * 10 + d) text
    | none => none

theorem readDigits_append (front back acc : ℕ) (text : Text) {value : ℕ} {rest : Text}
    (read : readDigits front acc text = some (value, rest)) :
    readDigits (front + back) acc text = readDigits back value rest := by
  induction front generalizing acc text with
  | zero =>
    simp only [readDigits, Option.some.injEq, Prod.mk.injEq] at read
    rw [Nat.zero_add, read.1, read.2]
  | succ front ih =>
    cases text with
    | nil => simp [readDigits] at read
    | cons c text =>
      rw [Nat.succ_add]
      simp only [readDigits] at read ⊢
      cases hdigit : digitValue c with
      | none => simp [hdigit] at read
      | some d =>
        simp only [hdigit] at read ⊢
        exact ih _ _ read

theorem readDigits_pad (width value acc : ℕ) (rest : Text) (hvalue : value < 10 ^ width) :
    readDigits width acc (pad width value ++ rest) = some (acc * 10 ^ width + value, rest) := by
  induction width generalizing value rest with
  | zero =>
    have hzero : value = 0 := by simpa using hvalue
    simp [readDigits, pad, hzero]
  | succ width ih =>
    have hbound : value / 10 < 10 ^ width := by
      rw [pow_succ] at hvalue
      omega
    have hread := ih (value / 10) (digit (value % 10) :: rest) hbound
    rw [pad, List.append_assoc, List.singleton_append,
      readDigits_append width 1 acc _ hread]
    simp only [readDigits, digitValue_digit (value % 10) (Nat.mod_lt _ (by norm_num)),
      Option.some.injEq, Prod.mk.injEq, and_true]
    rw [pow_succ]
    have hsplit := Nat.div_add_mod value 10
    ring_nf at hsplit ⊢
    omega

end Huntarr2.Clock
