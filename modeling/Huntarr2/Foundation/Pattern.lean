import Mathlib.Data.List.Forall2
import Mathlib.Data.List.Infix
import Mathlib.Tactic

/-!
# Patterns with wildcards

A pattern is a sequence of symbols: a letter, any one letter, or any sequence of letters. A text with
anything before and after it fits between two wildcards of the last kind.
-/

namespace Huntarr2

inductive Symbol (α : Type*)
  | letter (a : α)
  | one
  | many
  deriving DecidableEq, Repr

namespace Pattern

variable {α : Type*} {same : α → α → Prop} {pattern first second : List (Symbol α)} {text : List α}

/-- The text fits the pattern; `same` says which letters a letter of the pattern stands for. -/
inductive Fits (same : α → α → Prop) : List (Symbol α) → List α → Prop
  | nil : Fits same [] []
  | letter {a b : α} {pattern : List (Symbol α)} {text : List α} (hsame : same a b)
      (h : Fits same pattern text) : Fits same (.letter a :: pattern) (b :: text)
  | one {b : α} {pattern : List (Symbol α)} {text : List α} (h : Fits same pattern text) :
      Fits same (.one :: pattern) (b :: text)
  | many (skipped : List α) {pattern : List (Symbol α)} {text : List α}
      (h : Fits same pattern text) : Fits same (.many :: pattern) (skipped ++ text)

theorem fits_nil_iff : Fits same [] text ↔ text = [] := by
  constructor
  · rintro ⟨⟩
    rfl
  · rintro rfl
    exact .nil

theorem fits_letter_iff {a : α} :
    Fits same (.letter a :: pattern) text ↔
      ∃ b rest, text = b :: rest ∧ same a b ∧ Fits same pattern rest := by
  constructor
  · rintro (_ | ⟨hsame, h⟩)
    exact ⟨_, _, rfl, hsame, h⟩
  · rintro ⟨b, rest, rfl, hsame, h⟩
    exact .letter hsame h

theorem fits_one_iff :
    Fits same (.one :: pattern) text ↔ ∃ b rest, text = b :: rest ∧ Fits same pattern rest := by
  constructor
  · rintro (_ | _ | h)
    exact ⟨_, _, rfl, h⟩
  · rintro ⟨b, rest, rfl, h⟩
    exact .one h

theorem fits_many_iff :
    Fits same (.many :: pattern) text ↔ ∃ rest, rest <:+ text ∧ Fits same pattern rest := by
  constructor
  · rintro (_ | _ | _ | ⟨skipped, h⟩)
    exact ⟨_, List.suffix_append skipped _, h⟩
  · rintro ⟨rest, ⟨skipped, rfl⟩, h⟩
    exact .many skipped h

/-- A text fits two patterns in a row when it can be cut for them. -/
theorem fits_append_iff :
    Fits same (first ++ second) text ↔
      ∃ front back, text = front ++ back ∧ Fits same first front ∧ Fits same second back := by
  constructor
  · intro h
    induction first generalizing text with
    | nil => exact ⟨[], text, rfl, .nil, h⟩
    | cons symbol first ih =>
      cases h with
      | letter hsame h =>
        obtain ⟨front, back, rfl, hfirst, hsecond⟩ := ih h
        exact ⟨_ :: front, back, rfl, .letter hsame hfirst, hsecond⟩
      | one h =>
        obtain ⟨front, back, rfl, hfirst, hsecond⟩ := ih h
        exact ⟨_ :: front, back, rfl, .one hfirst, hsecond⟩
      | many skipped h =>
        obtain ⟨front, back, rfl, hfirst, hsecond⟩ := ih h
        exact ⟨skipped ++ front, back, (List.append_assoc _ _ _).symm, .many skipped hfirst, hsecond⟩
  · rintro ⟨front, back, rfl, hfirst, hsecond⟩
    induction hfirst with
    | nil => exact hsecond
    | letter hsame h ih => exact .letter hsame ih
    | one h ih => exact .one ih
    | many skipped h ih =>
      rw [List.append_assoc]
      exact .many skipped ih

/-- Between two wildcards a pattern is searched for: a stretch of the text fits it. -/
theorem fits_between_iff :
    Fits same (.many :: (pattern ++ [.many])) text ↔
      ∃ part, part <:+: text ∧ Fits same pattern part := by
  simp only [fits_many_iff, fits_append_iff, fits_nil_iff]
  constructor
  · rintro ⟨_, ⟨skipped, rfl⟩, part, back, rfl, hpart, -⟩
    exact ⟨part, ⟨skipped, back, List.append_assoc _ _ _⟩, hpart⟩
  · rintro ⟨part, ⟨skipped, back, rfl⟩, hpart⟩
    refine ⟨part ++ back, ⟨skipped, (List.append_assoc _ _ _).symm⟩, part, back, rfl, hpart, [], ?_,
      rfl⟩
    exact List.nil_suffix

/-- A pattern of letters fits the texts with the same letters. -/
theorem fits_letters_iff {letters : List α} :
    Fits same (letters.map .letter) text ↔ List.Forall₂ same letters text := by
  induction letters generalizing text with
  | nil => rw [List.map_nil, fits_nil_iff, List.forall₂_nil_left_iff]
  | cons a letters ih =>
    rw [List.map_cons, fits_letter_iff, List.forall₂_cons_left_iff]
    simp only [ih]
    exact ⟨fun ⟨b, rest, htext, hsame, h⟩ ↦ ⟨b, rest, hsame, h, htext⟩,
      fun ⟨b, rest, hsame, h, htext⟩ ↦ ⟨b, rest, htext, hsame, h⟩⟩

/-- A text that fits the pattern, without the wildcards that may be empty and with the letter `x` for
the others. -/
def fill (x : α) (pattern : List (Symbol α)) : List α :=
  pattern.flatMap fun
    | .letter a => [a]
    | .one => [x]
    | .many => []

theorem fits_fill (hsame : ∀ a, same a a) (x : α) (pattern : List (Symbol α)) :
    Fits same pattern (fill x pattern) := by
  induction pattern with
  | nil => exact .nil
  | cons symbol pattern ih =>
    cases symbol with
    | letter a => exact .letter (hsame a) ih
    | one => exact .one ih
    | many => exact .many [] ih

theorem mem_fill {x c : α} (h : c ∈ fill x pattern) : .letter c ∈ pattern ∨ c = x := by
  obtain ⟨symbol, hsymbol, hc⟩ := List.mem_flatMap.mp h
  cases symbol with
  | letter a =>
    obtain rfl := List.mem_singleton.mp hc
    exact Or.inl hsymbol
  | one => exact Or.inr (List.mem_singleton.mp hc)
  | many => exact absurd hc List.not_mem_nil

end Pattern

end Huntarr2
