import Mathlib.Data.List.Lex
import Mathlib.Data.Char
import Mathlib.Tactic

/-!
# Text

Text that the program parses, compares or matches is a list of characters. Its order is the order a
database gives it: by the first character that differs, a proper beginning first.
-/

namespace Huntarr2

/-- A text value; `<` on it is the byte order of UTF-8 text. -/
abbrev Text := List Char

instance : Coe String Text := ⟨String.toList⟩

/-! ## Lexicographic order of concatenations -/

theorem append_lt_append_of_lt {first second : Text} (hlength : first.length = second.length)
    (hlt : first < second) (x y : Text) : first ++ x < second ++ y := by
  induction first generalizing second with
  | nil =>
    have hnil : second = [] := List.length_eq_zero_iff.mp hlength.symm
    simp [hnil] at hlt
  | cons a first ih =>
    cases second with
    | nil => simp at hlength
    | cons b second =>
      simp only [List.length_cons, Nat.add_right_cancel_iff] at hlength
      rcases List.cons_lt_cons_iff.mp hlt with hab | ⟨rfl, hrest⟩
      · exact List.cons_lt_cons_iff.mpr (Or.inl hab)
      · exact List.cons_lt_cons_iff.mpr (Or.inr ⟨rfl, ih hlength hrest⟩)

/-- Texts with parts of equal length in front compare by these parts first. -/
theorem append_lt_append_iff {first second : Text} (hlength : first.length = second.length)
    (x y : Text) : first ++ x < second ++ y ↔ first < second ∨ first = second ∧ x < y := by
  rcases lt_trichotomy first second with hlt | rfl | hgt
  · simp [append_lt_append_of_lt hlength hlt x y, hlt]
  · constructor
    · intro h
      refine Or.inr ⟨rfl, ?_⟩
      by_contra hxy
      rcases (not_lt.mp hxy).lt_or_eq with hyx | rfl
      · exact absurd h (List.lt_asymm (List.append_left_lt hyx))
      · exact absurd h (lt_irrefl _)
    · rintro (h | ⟨_, h⟩)
      · exact absurd h (lt_irrefl _)
      · exact List.append_left_lt h
  · have hback := append_lt_append_of_lt hlength.symm hgt y x
    constructor
    · intro h
      exact absurd h (lt_asymm hback)
    · rintro (h | ⟨rfl, _⟩)
      · exact absurd h (lt_asymm hgt)
      · exact absurd hgt (lt_irrefl _)

/-! ## Joined texts -/

/-- A separator without the character adds nothing to the number of its occurrences. -/
theorem count_intercalate {separator : Text} {c : Char} (h : separator.count c = 0)
    (parts : List Text) :
    (List.intercalate separator parts).count c = (parts.map (List.count c)).sum := by
  induction parts with
  | nil => rfl
  | cons part parts ih =>
    cases parts with
    | nil => simp [List.intercalate]
    | cons next parts =>
      have hstep : List.intercalate separator (part :: next :: parts) =
          part ++ (separator ++ List.intercalate separator (next :: parts)) := rfl
      rw [hstep, List.count_append, List.count_append, ih, h, Nat.zero_add]
      rfl

/-! ## Marks -/

/-- A property of the characters of a text is decided along the text, and not over all characters. -/
theorem forall_mem_of_all {p : Char → Prop} [DecidablePred p] {text : Text}
    (h : text.all (fun c ↦ decide (p c)) = true) : ∀ c ∈ text, p c := by
  intro c hc
  exact of_decide_eq_true (List.all_eq_true.mp h c hc)

/-- Two texts with a mark that does not come again behind it agree on both sides of it. -/
theorem split_at_last {c : Char} {front front' back back' : Text} (hback : c ∉ back)
    (hback' : c ∉ back') (h : front ++ c :: back = front' ++ c :: back') :
    front = front' ∧ back = back' := by
  simp only [List.append_eq_append_iff, List.cons_eq_append_iff, List.cons_eq_cons] at h
  rcases h with ⟨rest, rfl, ⟨rfl, -, rfl⟩ | ⟨tail, rfl, rfl⟩⟩ |
    ⟨rest, rfl, ⟨rfl, -, rfl⟩ | ⟨tail, rfl, rfl⟩⟩
  · exact ⟨(List.append_nil front).symm, rfl⟩
  · exact absurd (List.mem_append_right tail List.mem_cons_self) hback
  · exact ⟨List.append_nil front', rfl⟩
  · exact absurd (List.mem_append_right tail List.mem_cons_self) hback'

/-! ## Digits -/

/-- The character of a decimal digit. -/
def digit (value : ℕ) : Char := Char.ofNat (48 + value)

/-- The value of a decimal digit character. -/
def digitValue (c : Char) : Option ℕ :=
  if 48 ≤ c.toNat ∧ c.toNat ≤ 57 then some (c.toNat - 48) else none

theorem digit_lt_digit_iff : ∀ a < 10, ∀ b < 10, (digit a < digit b ↔ a < b) := by
  decide

theorem digitValue_digit : ∀ value < 10, digitValue (digit value) = some value := by
  decide

theorem digit_lt_upperZ : ∀ value < 10, digit value < 'Z' := by
  decide

theorem plus_lt_digit : ∀ value < 10, '+' < digit value := by
  decide

theorem minus_lt_digit : ∀ value < 10, '-' < digit value := by
  decide

/-! ## Letter case -/

/-- The lower-case form of an ASCII letter; every other character is kept. -/
def asciiLower (c : Char) : Char := if 'A' ≤ c ∧ c ≤ 'Z' then Char.ofNat (c.toNat + 32) else c

/-- The letter a character folds to in `strings.EqualFold`, for text compared with ASCII letters:
besides the ASCII letters, the long s and the Kelvin sign fold to `s` and `k`. -/
def foldLetter (c : Char) : Char :=
  if c = Char.ofNat 0x17F then 's' else if c = Char.ofNat 0x212A then 'k' else asciiLower c

/-- `strings.EqualFold` where one of the texts is ASCII. -/
def equalFold (first second : Text) : Bool := first.map foldLetter = second.map foldLetter

end Huntarr2
