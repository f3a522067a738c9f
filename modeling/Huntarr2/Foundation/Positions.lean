import Mathlib.Data.List.NodupEquivFin
import Mathlib.Tactic

/-!
# Positions in a list

One element of a list stands before another if it has the smaller index. Leaving out elements
changes the indices but not which of two remaining elements stands before the other. A loop that
writes the index of each element into a table leaves, for a key that one element holds, the index of
that element, and a loop that overwrites a field with what it reads leaves what it read last.
-/

namespace Huntarr2

variable {α : Type*}

/-- Some element with the property `p` stands before some element with the property `q`. -/
def Precedes (items : List α) (p q : α → Prop) : Prop :=
  ∃ i j : ℕ, i < j ∧ (∃ first, items[i]? = some first ∧ p first) ∧
    ∃ second, items[j]? = some second ∧ q second

theorem pair_sublist_iff_getElem? {items : List α} {first second : α} :
    [first, second].Sublist items ↔
      ∃ i j : ℕ, i < j ∧ items[i]? = some first ∧ items[j]? = some second := by
  constructor
  · intro h
    obtain ⟨index, hindex⟩ := List.sublist_iff_exists_orderEmbedding_getElem?_eq.mp h
    exact ⟨index 0, index 1, index.strictMono Nat.zero_lt_one, (hindex 0).symm, (hindex 1).symm⟩
  · rintro ⟨i, j, hij, hi, hj⟩
    have hfirst : first ∈ items.take j := by
      refine List.mem_of_getElem? (i := i) ?_
      rw [List.getElem?_take_of_lt hij]
      exact hi
    have hsecond : second ∈ items.drop j := by
      refine List.mem_of_getElem? (i := 0) ?_
      rw [List.getElem?_drop]
      exact hj
    have hboth := (List.singleton_sublist.mpr hfirst).append (List.singleton_sublist.mpr hsecond)
    rwa [List.take_append_drop] at hboth

theorem precedes_iff_sublist {items : List α} {p q : α → Prop} :
    Precedes items p q ↔ ∃ first second, [first, second].Sublist items ∧ p first ∧ q second := by
  constructor
  · rintro ⟨i, j, hij, ⟨first, hi, hfirst⟩, second, hj, hsecond⟩
    exact ⟨first, second, pair_sublist_iff_getElem?.mpr ⟨i, j, hij, hi, hj⟩, hfirst, hsecond⟩
  · rintro ⟨first, second, h, hfirst, hsecond⟩
    obtain ⟨i, j, hij, hi, hj⟩ := pair_sublist_iff_getElem?.mp h
    exact ⟨i, j, hij, ⟨first, hi, hfirst⟩, second, hj, hsecond⟩

theorem precedes_cons {items : List α} {p q : α → Prop} {item : α} :
    Precedes (item :: items) p q ↔ p item ∧ (∃ second ∈ items, q second) ∨ Precedes items p q := by
  simp only [precedes_iff_sublist, List.cons_sublist_cons', List.singleton_sublist]
  constructor
  · rintro ⟨first, second, hlater | ⟨rfl, hmem⟩, hfirst, hsecond⟩
    · exact Or.inr ⟨first, second, hlater, hfirst, hsecond⟩
    · exact Or.inl ⟨hfirst, second, hmem, hsecond⟩
  · rintro (⟨hfirst, second, hmem, hsecond⟩ | ⟨first, second, hlater, hfirst, hsecond⟩)
    · exact ⟨item, second, Or.inr ⟨rfl, hmem⟩, hfirst, hsecond⟩
    · exact ⟨first, second, Or.inl hlater, hfirst, hsecond⟩

instance decidablePrecedes (p q : α → Prop) [DecidablePred p] [DecidablePred q] :
    (items : List α) → Decidable (Precedes items p q)
  | [] => isFalse fun ⟨_, _, _, ⟨_, hfirst, _⟩, _⟩ ↦ nomatch hfirst
  | _ :: items =>
    have := decidablePrecedes p q items
    decidable_of_iff _ precedes_cons.symm

/-- Leaving out elements keeps the order of the others. -/
theorem precedes_filter {items : List α} {r : α → Bool} {p q : α → Prop} :
    Precedes (items.filter r) p q ↔
      Precedes items (fun item ↦ r item ∧ p item) (fun item ↦ r item ∧ q item) := by
  rw [precedes_iff_sublist, precedes_iff_sublist]
  constructor
  · rintro ⟨first, second, h, hfirst, hsecond⟩
    have hr (item : α) (hmem : item ∈ [first, second]) : r item = true :=
      List.of_mem_filter (h.subset hmem)
    exact ⟨first, second, h.trans List.filter_sublist, ⟨hr first (by simp), hfirst⟩,
      hr second (by simp), hsecond⟩
  · rintro ⟨first, second, h, ⟨hrFirst, hfirst⟩, hrSecond, hsecond⟩
    have hkept : [first, second].filter r = [first, second] := by simp [hrFirst, hrSecond]
    exact ⟨first, second, hkept ▸ h.filter r, hfirst, hsecond⟩

/-- Of elements that exclude one another a property holds at one index only. -/
theorem index_unique {items : List α} {r : α → Bool} {p : α → Prop}
    (hpairs : (items.filter r).Pairwise fun first second ↦ ¬(p first ∧ p second)) {i j : ℕ}
    {first second : α} (hi : items[i]? = some first) (hj : items[j]? = some second)
    (hfirst : r first ∧ p first) (hsecond : r second ∧ p second) : i = j := by
  have hnot : ¬Precedes items (fun item ↦ r item ∧ p item) (fun item ↦ r item ∧ p item) := by
    rw [← precedes_filter, precedes_iff_sublist]
    rintro ⟨a, b, h, ha, hb⟩
    exact hpairs.forall_sublist h ⟨ha, hb⟩
  rcases lt_trichotomy i j with hij | hij | hij
  · exact absurd ⟨i, j, hij, ⟨first, hi, hfirst⟩, second, hj, hsecond⟩ hnot
  · exact hij
  · exact absurd ⟨j, i, hij, ⟨second, hj, hsecond⟩, first, hi, hfirst⟩ hnot

section LastIndex

variable {τ : Type*} {get : τ → Option ℕ} {step : τ → α × ℕ → τ} {p : α → Prop} [DecidablePred p]

/-- A loop that writes the index of every element with the property leaves the index of one of
them. -/
theorem get_foldl_zipIdx (hstep : ∀ table entry,
    get (step table entry) = if p entry.1 then some entry.2 else get table) (items : List α) (n : ℕ)
    (table : τ) :
    (∃ i item, items[i]? = some item ∧ p item ∧
      get ((items.zipIdx n).foldl step table) = some (n + i)) ∨
    (∀ item ∈ items, ¬p item) ∧ get ((items.zipIdx n).foldl step table) = get table := by
  induction items generalizing n table with
  | nil => exact Or.inr ⟨fun item hmem ↦ absurd hmem List.not_mem_nil, rfl⟩
  | cons first items ih =>
    rw [List.zipIdx_cons, List.foldl_cons]
    rcases ih (n + 1) (step table (first, n)) with ⟨i, item, hitem, hp, hget⟩ | ⟨hnone, hget⟩
    · refine Or.inl ⟨i + 1, item, hitem, hp, ?_⟩
      rw [hget]
      exact congrArg some (by omega)
    · rw [hstep] at hget
      by_cases hfirst : p first
      · rw [if_pos hfirst] at hget
        exact Or.inl ⟨0, first, rfl, hfirst, hget⟩
      · rw [if_neg hfirst] at hget
        exact Or.inr ⟨List.forall_mem_cons.mpr ⟨hfirst, hnone⟩, hget⟩

/-- When at most one element has the property, the loop leaves its index. -/
theorem get_foldl_zipIdx_eq_some_iff (hstep : ∀ table entry,
    get (step table entry) = if p entry.1 then some entry.2 else get table) {items : List α}
    (hunique : ∀ (i j : ℕ) first second, items[i]? = some first → items[j]? = some second → p first →
      p second → i = j) {table : τ} (htable : get table = none) {i : ℕ} :
    get (items.zipIdx.foldl step table) = some i ↔ ∃ item, items[i]? = some item ∧ p item := by
  rcases get_foldl_zipIdx hstep items 0 table with ⟨j, item, hitem, hp, hget⟩ | ⟨hnone, hget⟩
  · rw [hget, Nat.zero_add, Option.some.injEq]
    constructor
    · rintro rfl
      exact ⟨item, hitem, hp⟩
    · rintro ⟨other, hother, hpOther⟩
      exact hunique j i item other hitem hother hp hpOther
  · rw [hget, htable]
    constructor
    · exact fun h ↦ nomatch h
    · rintro ⟨item, hitem, hp⟩
      exact absurd hp (hnone item (List.mem_of_getElem? hitem))

end LastIndex

/-- A loop that overwrites a field with each value it can read leaves the last such value. -/
theorem get_foldl_getD {τ β : Type*} {get : τ → β} {step : τ → α → τ} {read : α → Option β}
    (hstep : ∀ state item, get (step state item) = (read item).getD (get state)) (items : List α)
    (state : τ) : get (items.foldl step state) = (items.filterMap read).getLast?.getD (get state) := by
  induction items generalizing state with
  | nil => rfl
  | cons first items ih =>
    rw [List.foldl_cons, ih, hstep]
    cases hread : read first with
    | none => rw [List.filterMap_cons_none hread, Option.getD_none]
    | some value =>
      rw [List.filterMap_cons_some hread, List.getLast?_cons, Option.getD_some, Option.getD_some]

end Huntarr2
