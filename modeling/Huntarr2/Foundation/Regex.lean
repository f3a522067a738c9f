import Mathlib.Computability.RegularExpressions

/-!
# Regular expressions of a program

Words, character classes and repetitions as regular expressions, with the texts each of them matches,
and the replacement of a match at the end of a text by its last group.
-/

namespace Huntarr2.Regex

open RegularExpression

variable {α : Type*}

/-! ## Building blocks -/

/-- A character class. -/
def oneOf (letters : List α) : RegularExpression α := (letters.map char).sum

/-- Exactly this text. -/
def word (letters : List α) : RegularExpression α := (letters.map char).prod

/-- One or more. -/
def someOf (r : RegularExpression α) : RegularExpression α := r * r.star

/-- None or one. -/
def optional (r : RegularExpression α) : RegularExpression α := 1 + r

/-- `MatchString` of an expression anchored at both ends. -/
def Accepts (r : RegularExpression α) (text : List α) : Prop := text ∈ r.matches'

instance [DecidableEq α] (r : RegularExpression α) : DecidablePred (Accepts r) :=
  fun text ↦ inferInstanceAs (Decidable (text ∈ r.matches'))

variable {letters text : List α} {first second : RegularExpression α}

theorem accepts_mul_iff : Accepts (first * second) text ↔
    ∃ front back, Accepts first front ∧ Accepts second back ∧ front ++ back = text := by
  unfold Accepts
  rw [matches'_mul, Language.mem_mul]
  exact ⟨fun ⟨front, hfront, back, hback, heq⟩ ↦ ⟨front, back, hfront, hback, heq⟩,
    fun ⟨front, back, hfront, hback, heq⟩ ↦ ⟨front, hfront, back, hback, heq⟩⟩

theorem accepts_add_iff : Accepts (first + second) text ↔ Accepts first text ∨ Accepts second text :=
  Language.mem_add _ _ _

theorem accepts_one_iff : Accepts (1 : RegularExpression α) text ↔ text = [] := Language.mem_one _

theorem accepts_zero_iff : Accepts (0 : RegularExpression α) text ↔ False := Iff.rfl

theorem accepts_char_iff {letter : α} : Accepts (char letter) text ↔ text = [letter] := Iff.rfl

theorem accepts_optional_iff : Accepts (optional first) text ↔ text = [] ∨ Accepts first text := by
  unfold optional
  rw [accepts_add_iff, accepts_one_iff]

theorem accepts_oneOf_iff : Accepts (oneOf letters) text ↔ ∃ letter ∈ letters, text = [letter] := by
  unfold oneOf
  induction letters with
  | nil => simp [accepts_zero_iff]
  | cons letter letters ih =>
    rw [List.map_cons, List.sum_cons, accepts_add_iff, accepts_char_iff, ih]
    simp

theorem accepts_word_iff : Accepts (word letters) text ↔ text = letters := by
  unfold word
  induction letters generalizing text with
  | nil => exact accepts_one_iff
  | cons letter letters ih =>
    rw [List.map_cons, List.prod_cons, accepts_mul_iff]
    simp only [accepts_char_iff, ih]
    exact ⟨fun ⟨_, _, hfront, hback, heq⟩ ↦ by rw [← heq, hfront, hback]; rfl,
      fun h ↦ ⟨[letter], letters, rfl, rfl, h.symm⟩⟩

/-- Repetitions of a character class. -/
theorem accepts_star_oneOf_iff :
    Accepts (oneOf letters).star text ↔ ∀ letter ∈ text, letter ∈ letters := by
  unfold Accepts
  rw [matches'_star, Language.mem_kstar]
  constructor
  · rintro ⟨parts, rfl, hparts⟩ letter hletter
    obtain ⟨part, hpart, hmem⟩ := List.mem_flatten.mp hletter
    obtain ⟨single, hsingle, rfl⟩ := accepts_oneOf_iff.mp (hparts part hpart)
    rwa [List.mem_singleton.mp hmem]
  · intro h
    refine ⟨text.map fun letter ↦ [letter], ?_, fun part hpart ↦ ?_⟩
    · rw [← List.flatMap_def, List.flatMap_singleton']
    · obtain ⟨letter, hletter, rfl⟩ := List.mem_map.mp hpart
      exact accepts_oneOf_iff.mpr ⟨letter, h letter hletter, rfl⟩

theorem accepts_someOf_oneOf_iff : Accepts (someOf (oneOf letters)) text ↔
    text ≠ [] ∧ ∀ letter ∈ text, letter ∈ letters := by
  unfold someOf
  rw [accepts_mul_iff]
  constructor
  · rintro ⟨front, back, hfront, hback, rfl⟩
    obtain ⟨letter, hletter, rfl⟩ := accepts_oneOf_iff.mp hfront
    exact ⟨List.cons_ne_nil _ _,
      List.forall_mem_cons.mpr ⟨hletter, accepts_star_oneOf_iff.mp hback⟩⟩
  · rintro ⟨hne, hall⟩
    obtain ⟨letter, rest, rfl⟩ := List.exists_cons_of_ne_nil hne
    obtain ⟨hletter, hrest⟩ := List.forall_mem_cons.mp hall
    exact ⟨[letter], rest, accepts_oneOf_iff.mpr ⟨letter, hletter, rfl⟩,
      accepts_star_oneOf_iff.mpr hrest, rfl⟩

/-! ## Replacing a match at the end -/

section Suffix

variable [DecidableEq α]

/-- The group of a match of `dropped(group)$` at the start of the text, with `dropped` as long as
possible. -/
def groupHere (dropped group : RegularExpression α) (text : List α) : Option (List α) :=
  ((List.range (text.length + 1)).reverse.find? fun i ↦
    decide (Accepts dropped (text.take i) ∧ Accepts group (text.drop i))).map text.drop

/-- `ReplaceAllString` of the leftmost match of `dropped(group)$` by its group; `none` without a
match. -/
def replaceSuffix (dropped group : RegularExpression α) : List α → Option (List α)
  | [] => groupHere dropped group []
  | letter :: text =>
    match groupHere dropped group (letter :: text) with
    | some kept => some kept
    | none => (replaceSuffix dropped group text).map (letter :: ·)

/-- The text has a match of `dropped(group)$` after `before`. -/
structure SuffixAt (dropped group : RegularExpression α) (text before cut kept : List α) : Prop where
  eq : text = before ++ (cut ++ kept)
  dropped : Accepts dropped cut
  group : Accepts group kept

variable {dropped group : RegularExpression α} {kept : List α}

theorem suffixAt_of_groupHere (h : groupHere dropped group text = some kept) :
    ∃ cut, SuffixAt dropped group text [] cut kept := by
  obtain ⟨i, hfind, rfl⟩ := Option.map_eq_some_iff.mp h
  obtain ⟨hcut, hkept⟩ : Accepts dropped (text.take i) ∧ Accepts group (text.drop i) := by
    simpa using List.find?_some hfind
  exact ⟨text.take i, (List.take_append_drop i text).symm, hcut, hkept⟩

theorem groupHere_isSome {cut : List α} (h : SuffixAt dropped group text [] cut kept) :
    (groupHere dropped group text).isSome := by
  unfold groupHere
  rw [Option.isSome_map, List.find?_isSome]
  have heq : text = cut ++ kept := h.eq
  refine ⟨cut.length, ?_, decide_eq_true ?_⟩
  · rw [List.mem_reverse, List.mem_range, heq, List.length_append]
    omega
  · rw [heq, List.take_left, List.drop_left]
    exact ⟨h.dropped, h.group⟩

/-- A replacement drops the match of some suffix. -/
theorem suffixAt_of_replaceSuffix {replaced : List α}
    (h : replaceSuffix dropped group text = some replaced) :
    ∃ before cut kept, SuffixAt dropped group text before cut kept ∧ replaced = before ++ kept := by
  induction text generalizing replaced with
  | nil =>
    obtain ⟨cut, hsuffix⟩ := suffixAt_of_groupHere h
    exact ⟨[], cut, replaced, hsuffix, rfl⟩
  | cons letter text ih =>
    unfold replaceSuffix at h
    split at h
    case h_1 kept hhere =>
      obtain ⟨cut, hsuffix⟩ := suffixAt_of_groupHere hhere
      exact ⟨[], cut, kept, hsuffix, (Option.some.inj h).symm⟩
    case h_2 =>
      obtain ⟨rest, hrest, rfl⟩ := Option.map_eq_some_iff.mp h
      obtain ⟨before, cut, kept, hsuffix, rfl⟩ := ih hrest
      exact ⟨letter :: before, cut, kept,
        ⟨congrArg (letter :: ·) hsuffix.eq, hsuffix.dropped, hsuffix.group⟩, rfl⟩

/-- Where a suffix matches there is a replacement. -/
theorem replaceSuffix_isSome {before cut : List α}
    (h : SuffixAt dropped group text before cut kept) :
    (replaceSuffix dropped group text).isSome := by
  induction text generalizing before with
  | nil =>
    obtain ⟨rfl, -⟩ := List.append_eq_nil_iff.mp h.eq.symm
    exact groupHere_isSome h
  | cons letter text ih =>
    unfold replaceSuffix
    split
    case h_1 => rfl
    case h_2 hhere =>
      cases before with
      | nil =>
        have hsome := groupHere_isSome h
        rw [hhere] at hsome
        cases hsome
      | cons first before =>
        rw [Option.isSome_map]
        exact ih ⟨(List.cons.inj h.eq).2, h.dropped, h.group⟩

end Suffix

end Huntarr2.Regex
