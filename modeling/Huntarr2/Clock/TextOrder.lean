import Huntarr2.Clock.Timestamp

/-!
# When the order of timestamp texts is the order of time

A database that keeps timestamps as text compares the texts. For a stored UTC timestamp and a bound
in any zone, this module says exactly when that comparison agrees with the order of the instants.
Two things break it: the offset of the bound shifts its wall clock away from UTC, and inside one
second the fractions have no fixed width, so that the final `Z` is compared with a digit.
-/

namespace Huntarr2.Clock

/-! ## Fractions -/

/-- The texts differ at some position, and the first difference is in favour of the second. -/
def BelowAtDifference : Text → Text → Prop
  | a :: x, b :: y => a < b ∨ a = b ∧ BelowAtDifference x y
  | _, _ => False

instance decidableBelowAtDifference : (x y : Text) → Decidable (BelowAtDifference x y)
  | [], _ => inferInstanceAs (Decidable False)
  | _ :: _, [] => inferInstanceAs (Decidable False)
  | a :: x, b :: y =>
    have := decidableBelowAtDifference x y
    inferInstanceAs (Decidable (a < b ∨ a = b ∧ BelowAtDifference x y))

/-- Lexicographic order separates into a difference and a proper beginning. -/
theorem lt_iff_belowAtDifference (x y : Text) :
    x < y ↔ BelowAtDifference x y ∨ x <+: y ∧ x ≠ y := by
  induction x generalizing y with
  | nil => cases y <;> simp [BelowAtDifference]
  | cons a x ih =>
    cases y with
    | nil => simp [BelowAtDifference]
    | cons b y =>
      rw [List.cons_lt_cons_iff, ih, List.cons_prefix_cons]
      simp only [BelowAtDifference, ne_eq, List.cons.injEq, not_and]
      constructor
      · rintro (h | ⟨rfl, h | ⟨hpre, hne⟩⟩)
        · exact Or.inl (Or.inl h)
        · exact Or.inl (Or.inr ⟨rfl, h⟩)
        · exact Or.inr ⟨⟨rfl, hpre⟩, fun _ ↦ hne⟩
      · rintro ((h | ⟨rfl, h⟩) | ⟨⟨rfl, hpre⟩, hne⟩)
        · exact Or.inl h
        · exact Or.inr ⟨rfl, Or.inl h⟩
        · exact Or.inr ⟨rfl, Or.inr ⟨hpre, hne rfl⟩⟩

/-- A terminator above every character makes a proper beginning the larger text. -/
theorem append_high_lt_iff {high : Char} {x y : Text} (hx : ∀ c ∈ x, c < high)
    (hy : ∀ c ∈ y, c < high) :
    x ++ [high] < y ++ [high] ↔ BelowAtDifference x y ∨ y <+: x ∧ x ≠ y := by
  induction x generalizing y with
  | nil =>
    cases y with
    | nil => simp [BelowAtDifference]
    | cons b y =>
      have hb := hy b List.mem_cons_self
      simp [BelowAtDifference, List.cons_lt_cons_iff, hb.not_gt, hb.ne']
  | cons a x ih =>
    cases y with
    | nil =>
      have ha := hx a List.mem_cons_self
      simp [BelowAtDifference, List.cons_lt_cons_iff, ha]
    | cons b y =>
      have ih' := ih (fun c hc ↦ hx c (List.mem_cons_of_mem a hc))
        (y := y) (fun c hc ↦ hy c (List.mem_cons_of_mem b hc))
      rw [List.cons_append, List.cons_append, List.cons_lt_cons_iff, ih', List.cons_prefix_cons]
      simp only [BelowAtDifference, ne_eq, List.cons.injEq, not_and]
      constructor
      · rintro (h | ⟨rfl, h | ⟨hpre, hne⟩⟩)
        · exact Or.inl (Or.inl h)
        · exact Or.inl (Or.inr ⟨rfl, h⟩)
        · exact Or.inr ⟨⟨rfl, hpre⟩, fun _ ↦ hne⟩
      · rintro ((h | ⟨rfl, h⟩) | ⟨⟨rfl, hpre⟩, hne⟩)
        · exact Or.inl h
        · exact Or.inr ⟨rfl, Or.inl h⟩
        · exact Or.inr ⟨rfl, Or.inr ⟨hpre, hne rfl⟩⟩

/-- Against a terminator below every character only a difference decides. -/
theorem append_low_lt_iff {high low : Char} {x y : Text} (rest : Text) (hhigh : low < high)
    (hxhigh : ∀ c ∈ y, c < high) (hxlow : ∀ c ∈ x, low < c) :
    x ++ [high] < y ++ low :: rest ↔ BelowAtDifference x y := by
  induction x generalizing y with
  | nil =>
    cases y with
    | nil => simp [BelowAtDifference, List.cons_lt_cons_iff, hhigh.not_gt, hhigh.ne']
    | cons b y =>
      have hb := hxhigh b List.mem_cons_self
      simp [BelowAtDifference, List.cons_lt_cons_iff, hb.not_gt, hb.ne']
  | cons a x ih =>
    cases y with
    | nil =>
      have ha := hxlow a List.mem_cons_self
      simp [BelowAtDifference, List.cons_lt_cons_iff, ha.not_gt, ha.ne']
    | cons b y =>
      rw [List.cons_append, List.cons_append, List.cons_lt_cons_iff,
        ih (fun c hc ↦ hxhigh c (List.mem_cons_of_mem b hc))
          (fun c hc ↦ hxlow c (List.mem_cons_of_mem a hc))]
      rfl

/-- Filling up with the smallest character does not make a text smaller than it was. -/
theorem lt_of_append_replicate_lt {low : Char} {x y : Text} {a b : ℕ}
    (hlength : x.length + a = y.length + b) (hx : ∀ c ∈ x, low ≤ c)
    (h : x ++ List.replicate a low < y ++ List.replicate b low) : x < y := by
  induction x generalizing y a b with
  | nil =>
    cases y with
    | nil =>
      obtain rfl : a = b := by simpa using hlength
      exact absurd h (lt_irrefl _)
    | cons d y => exact List.nil_lt_cons d y
  | cons c x ih =>
    have hx' : ∀ c ∈ x, low ≤ c := fun d hd ↦ hx d (List.mem_cons_of_mem c hd)
    cases y with
    | nil =>
      cases b with
      | zero => simp at h
      | succ b =>
        rw [List.nil_append, List.replicate_succ, List.cons_append] at h
        rcases List.cons_lt_cons_iff.mp h with hlt | ⟨_, hrest⟩
        · exact absurd hlt (hx c List.mem_cons_self).not_gt
        · have hlength' : x.length + a = ([] : Text).length + b := by
            simp only [List.length_cons, List.length_nil] at hlength ⊢
            omega
          exact absurd (ih hlength' hx' hrest) (List.not_lt_nil x)
    | cons d y =>
      rcases List.cons_lt_cons_iff.mp h with hlt | ⟨rfl, hrest⟩
      · exact List.cons_lt_cons_iff.mpr (Or.inl hlt)
      · have hlength' : x.length + a = y.length + b := by
          simp only [List.length_cons] at hlength
          omega
        exact List.cons_lt_cons_iff.mpr (Or.inr ⟨rfl, ih hlength' hx' hrest⟩)

theorem mem_fractionText {nanos : ℕ} {c : Char} (h : c ∈ fractionText nanos) :
    c = '.' ∨ ∃ d < 10, c = digit d := by
  unfold fractionText at h
  split at h
  case isTrue => simp at h
  case isFalse =>
    rcases List.mem_cons.mp h with hpoint | hdigit
    · exact Or.inl hpoint
    · exact Or.inr (mem_pad ((List.rdropWhile_prefix _ _).subset hdigit))

theorem fractionText_lt_upperZ {nanos : ℕ} : ∀ c ∈ fractionText nanos, c < 'Z' := by
  intro c hc
  rcases mem_fractionText hc with rfl | ⟨d, hd, rfl⟩
  · decide
  · exact digit_lt_upperZ d hd

theorem sign_lt_fractionText {nanos : ℕ} {sign : Char} (hsign : sign = '-' ∨ sign = '+') :
    ∀ c ∈ fractionText nanos, sign < c := by
  intro c hc
  rcases hsign with rfl | rfl <;> rcases mem_fractionText hc with rfl | ⟨d, hd, rfl⟩
  · decide
  · exact minus_lt_digit d hd
  · decide
  · exact plus_lt_digit d hd

theorem fractionText_lt {first second : ℕ} (hsecond : second < 1000000000) (hlt : first < second) :
    fractionText first < fractionText second := by
  have hpositive : second ≠ 0 := by omega
  unfold fractionText
  rw [if_neg hpositive]
  split
  case isTrue => exact List.nil_lt_cons _ _
  case isFalse hfirst =>
    rw [List.cons_lt_cons_self]
    have hpad : pad 9 first < pad 9 second := pad_lt_pad hsecond hlt
    rw [← rdropWhile_append_replicate (pad 9 first),
      ← rdropWhile_append_replicate (pad 9 second)] at hpad
    refine lt_of_append_replicate_lt ?_ (fun c hc ↦ ?_) hpad
    · have hle (value : ℕ) :=
        (List.rdropWhile_prefix (fun c ↦ decide (c = '0')) (pad 9 value)).length_le
      have hle' := hle first
      have hle'' := hle second
      rw [length_pad] at hle' hle''
      simp only [length_pad]
      omega
    · obtain ⟨d, hd, rfl⟩ := mem_pad ((List.rdropWhile_prefix _ _).subset hc)
      interval_cases d <;> decide

/-- Within a second the fractions without their terminator compare in time order. -/
theorem fractionText_lt_iff {first second : ℕ} (hfirst : first < 1000000000)
    (hsecond : second < 1000000000) : fractionText first < fractionText second ↔ first < second := by
  refine ⟨fun h ↦ ?_, fractionText_lt hsecond⟩
  by_contra hge
  rcases (not_lt.mp hge).lt_or_eq with hlt | rfl
  · exact absurd h (lt_asymm (fractionText_lt hfirst hlt))
  · exact absurd h (lt_irrefl _)

/-! ## Comparing a UTC timestamp with a bound -/

/-- The stored UTC timestamp does not fall into a stretch where the texts disagree with time. In
different wall-clock seconds it must not lie between the bound and the bound's wall clock read as
UTC. In the same second of a UTC bound, neither fraction may be a proper beginning of the other; in
the same second of a bound east of UTC, where the stored instant is later, its digits must not fall
below the bound's, and west of UTC, where it is earlier, they must. -/
def ComparesInTime (stored bound : Timestamp) : Prop :=
  if stored.wall = bound.wall then
    if bound.offset = 0 then
      fractionText stored.nanos = fractionText bound.nanos ∨
        ¬fractionText stored.nanos <+: fractionText bound.nanos ∧
          ¬fractionText bound.nanos <+: fractionText stored.nanos
    else if 0 < bound.offset then
      ¬BelowAtDifference (fractionText stored.nanos) (fractionText bound.nanos)
    else BelowAtDifference (fractionText stored.nanos) (fractionText bound.nanos)
  else
    ¬(stored.wall < bound.wall ∧ bound.instant ≤ stored.instant) ∧
      ¬(bound.wall < stored.wall ∧ stored.instant < bound.instant)

instance (stored bound : Timestamp) : Decidable (ComparesInTime stored bound) := by
  unfold ComparesInTime
  infer_instance

/-- Texts of which one begins the other do not differ at any character. -/
theorem not_belowAtDifference {x y : Text} (h : x <+: y ∨ y <+: x) : ¬BelowAtDifference x y := by
  induction x generalizing y with
  | nil => simp [BelowAtDifference]
  | cons a x ih =>
    cases y with
    | nil => simp [BelowAtDifference]
    | cons b y =>
      rw [List.cons_prefix_cons, List.cons_prefix_cons, eq_comm (a := b), ← and_or_left] at h
      simp [BelowAtDifference, h.1, ih h.2]

/-- Two terminated texts compare as the texts themselves exactly when neither begins the other. -/
theorem append_high_lt_iff_lt {high : Char} {x y : Text} (hx : ∀ c ∈ x, c < high)
    (hy : ∀ c ∈ y, c < high) :
    (x ++ [high] < y ++ [high] ↔ x < y) ↔ x = y ∨ ¬x <+: y ∧ ¬y <+: x := by
  rw [append_high_lt_iff hx hy, lt_iff_belowAtDifference]
  by_cases heq : x = y
  · simp [heq]
  · simp only [ne_eq, heq, not_false_eq_true, and_true, false_or]
    have hboth : ¬(x <+: y ∧ y <+: x) := fun h ↦
      heq (h.1.eq_of_length (le_antisymm h.1.length_le h.2.length_le))
    constructor
    · intro h
      refine ⟨fun hxy ↦ ?_, fun hyx ↦ ?_⟩
      · rcases h.mpr (Or.inr hxy) with hbelow | hyx
        · exact not_belowAtDifference (.inl hxy) hbelow
        · exact hboth ⟨hxy, hyx⟩
      · rcases h.mp (Or.inr hyx) with hbelow | hxy
        · exact not_belowAtDifference (.inr hyx) hbelow
        · exact hboth ⟨hxy, hyx⟩
    · rintro ⟨hxy, hyx⟩
      simp [hxy, hyx]

/-- Text order agrees with time order exactly outside the stretches named by `ComparesInTime`. -/
theorem format_lt_iff_instant_lt_iff (stored bound : Timestamp) (hutc : stored.offset = 0) :
    (stored.formatRFC3339Nano < bound.formatRFC3339Nano ↔ stored.instant < bound.instant) ↔
      ComparesInTime stored bound := by
  have hzone : zoneText stored.offset = ['Z'] := by rw [hutc]; rfl
  have hnanos := stored.nanos_lt
  have hnanos' := bound.nanos_lt
  rw [Timestamp.format_lt_iff, hzone]
  unfold ComparesInTime
  by_cases hwall : stored.wall = bound.wall
  · rw [if_pos hwall]
    simp only [hwall, lt_irrefl, true_and, false_or]
    have hinstant : stored.instant < bound.instant ↔
        (stored.nanos : ℤ) + bound.offset * 1000000000 < bound.nanos := by
      unfold Timestamp.instant
      rw [hwall, hutc]
      omega
    rw [hinstant]
    by_cases hzero : bound.offset = 0
    · have hbound : zoneText bound.offset = ['Z'] := by rw [hzero]; rfl
      have horder : (stored.nanos : ℤ) + bound.offset * 1000000000 < bound.nanos ↔
          fractionText stored.nanos < fractionText bound.nanos := by
        rw [fractionText_lt_iff hnanos hnanos', hzero]
        omega
      rw [if_pos hzero, hbound, horder]
      exact append_high_lt_iff_lt fractionText_lt_upperZ fractionText_lt_upperZ
    · rw [if_neg hzero]
      obtain ⟨sign, text, hsign, hbelow⟩ := zoneText_of_ne_zero hzero
      have hlow : sign < 'Z' := by
        rcases hbelow with rfl | rfl <;> decide
      have hfraction : ∀ c ∈ fractionText stored.nanos, sign < c := sign_lt_fractionText hbelow
      by_cases heast : 0 < bound.offset
      · have hlater : ¬(stored.nanos : ℤ) + bound.offset * 1000000000 < bound.nanos := by omega
        rw [if_pos heast, hsign, append_low_lt_iff _ hlow fractionText_lt_upperZ hfraction]
        simp only [hlater, iff_false]
      · have hearlier : (stored.nanos : ℤ) + bound.offset * 1000000000 < bound.nanos := by omega
        rw [if_neg heast, hsign, append_low_lt_iff _ hlow fractionText_lt_upperZ hfraction]
        simp only [hearlier, iff_true]
  · rw [if_neg hwall]
    simp only [hwall, false_and, or_false]
    constructor
    · intro h
      exact ⟨fun hlt ↦ absurd (h.mp hlt.1) (not_lt.mpr hlt.2),
        fun hlt ↦ absurd (h.mpr hlt.2) (not_lt.mpr hlt.1.le)⟩
    · rintro ⟨hafter, hbefore⟩
      constructor
      · intro hlt
        exact not_le.mp fun hle ↦ hafter ⟨hlt, hle⟩
      · intro hlt
        by_contra hge
        exact hbefore ⟨lt_of_le_of_ne (not_lt.mp hge) (Ne.symm hwall), hlt⟩

end Huntarr2.Clock
