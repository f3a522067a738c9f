import Huntarr2.Foundation.KeyedTable
import Mathlib.Algebra.BigOperators.Group.List.Basic

/-!
# Sums by key

A loop goes over rows once and keeps an accumulator for each key, which it creates when the key comes
up first. What such a loop leaves is told by the rows alone: the accumulator of a key has seen exactly
the rows of this key, and a sum over all rows is the sum of the sums over the keys.
-/

namespace Huntarr2

/-! ## Sums over selected rows -/

section Sums

variable {ρ κ σ M : Type*} [AddCommMonoid M] {amount : ρ → M} {p q : ρ → Bool}

/-- The sum of the amounts of the rows that satisfy the condition. -/
def sumWhere (amount : ρ → M) (p : ρ → Bool) (rows : List ρ) : M := ((rows.filter p).map amount).sum

theorem sumWhere_cons (row : ρ) (rows : List ρ) :
    sumWhere amount p (row :: rows) = (if p row then amount row else 0) + sumWhere amount p rows := by
  unfold sumWhere
  rw [List.filter_cons]
  split
  case isTrue => rw [List.map_cons, List.sum_cons]
  case isFalse => exact (zero_add _).symm

theorem sumWhere_map {τ : Type*} (f : τ → ρ) (entries : List τ) :
    sumWhere amount p (entries.map f) = sumWhere (amount ∘ f) (p ∘ f) entries := by
  unfold sumWhere
  rw [List.filter_map, List.map_map]

theorem sumWhere_eq_sum_ite (rows : List ρ) :
    sumWhere amount p rows = (rows.map fun row ↦ if p row then amount row else 0).sum := by
  induction rows with
  | nil => rfl
  | cons row rows ih => rw [sumWhere_cons, ih, List.map_cons, List.sum_cons]

/-- The order of the rows does not matter. -/
theorem sumWhere_perm {rows others : List ρ} (h : rows.Perm others) :
    sumWhere amount p rows = sumWhere amount p others :=
  ((h.filter p).map amount).sum_eq

theorem sumWhere_filter (rows : List ρ) :
    sumWhere amount p (rows.filter q) = sumWhere amount (fun row ↦ p row && q row) rows := by
  unfold sumWhere
  rw [List.filter_filter]

theorem sumWhere_congr {rows : List ρ} (h : ∀ row ∈ rows, p row = q row) :
    sumWhere amount p rows = sumWhere amount q rows := by
  unfold sumWhere
  rw [List.filter_congr h]

theorem sumWhere_eq_zero {rows : List ρ} (h : ∀ row ∈ rows, p row = false) :
    sumWhere amount p rows = 0 := by
  unfold sumWhere
  rw [List.filter_eq_nil_iff.mpr fun row hrow ↦ by simp [h row hrow]]
  rfl

/-- Rows that do not satisfy the condition may be dropped. -/
theorem sumWhere_filter_of_imp {rows : List ρ} (h : ∀ row ∈ rows, p row = true → q row = true) :
    sumWhere amount p (rows.filter q) = sumWhere amount p rows := by
  rw [sumWhere_filter]
  refine sumWhere_congr fun row hrow ↦ ?_
  cases hp : p row with
  | false => rfl
  | true => exact h row hrow hp

/-- A loop whose steps add the amounts of the selected rows adds their sum. -/
theorem foldl_eq_add_sumWhere {step : σ → ρ → σ} (get : σ → M)
    (hstep : ∀ state row, get (step state row) = get state + if p row then amount row else 0)
    (rows : List ρ) (state : σ) :
    get (rows.foldl step state) = get state + sumWhere amount p rows := by
  induction rows generalizing state with
  | nil => exact (add_zero _).symm
  | cons row rows ih => rw [List.foldl_cons, ih, hstep, sumWhere_cons, add_assoc]

variable [DecidableEq κ]

/-- One of the keys is that of the row. -/
theorem sum_map_ite_key {keys : List κ} (hnodup : keys.Nodup) {key : κ} (hkey : key ∈ keys)
    (value : M) : (keys.map fun other ↦ if key = other then value else 0).sum = value := by
  obtain ⟨before, after, rfl⟩ := List.append_of_mem hkey
  have hzero (others : List κ) (hother : key ∉ others) :
      (others.map fun other ↦ if key = other then value else 0).sum = 0 := by
    refine List.sum_eq_zero fun image himage ↦ ?_
    obtain ⟨other, hmem, rfl⟩ := List.mem_map.mp himage
    exact if_neg fun hsame : key = other ↦ hother (hsame ▸ hmem)
  rw [List.nodup_middle, List.nodup_cons, List.mem_append, not_or] at hnodup
  rw [List.map_append, List.map_cons, List.sum_append, List.sum_cons, if_pos rfl,
    hzero before hnodup.1.1, hzero after hnodup.1.2, zero_add, add_zero]

/-- The sum over the one row of a key. -/
theorem sumWhere_key {keyOf : ρ → κ} {rows : List ρ} (hnodup : (rows.map keyOf).Nodup) {row : ρ}
    (hrow : row ∈ rows) : sumWhere amount (fun other ↦ keyOf other = keyOf row) rows = amount row := by
  obtain ⟨before, after, rfl⟩ := List.append_of_mem hrow
  rw [List.map_append, List.map_cons, List.nodup_middle, List.nodup_cons, List.mem_append,
    not_or] at hnodup
  have hother {others : List ρ} (hkey : keyOf row ∉ others.map keyOf) :
      sumWhere amount (fun other ↦ keyOf other = keyOf row) others = 0 := by
    refine sumWhere_eq_zero fun other hmem ↦ decide_eq_false fun hsame ↦ hkey ?_
    exact hsame ▸ List.mem_map_of_mem hmem
  rw [sumWhere_perm List.perm_middle, sumWhere_cons, if_pos (decide_eq_true rfl)]
  unfold sumWhere at hother ⊢
  rw [List.filter_append, List.map_append, List.sum_append, hother hnodup.1.1, hother hnodup.1.2,
    zero_add, add_zero]

/-- The sum over all rows is the sum of the sums over the rows of each key. -/
theorem sumWhere_eq_sum_keys (keyOf : ρ → κ) {keys : List κ} (hnodup : keys.Nodup) {rows : List ρ}
    (hkeys : ∀ row ∈ rows, keyOf row ∈ keys) :
    sumWhere amount p rows =
      (keys.map fun key ↦ sumWhere amount (fun row ↦ keyOf row = key && p row) rows).sum := by
  induction rows with
  | nil => exact (List.sum_map_zero).symm
  | cons row rows ih =>
    rw [List.forall_mem_cons] at hkeys
    have hrow : (if p row then amount row else 0) =
        (keys.map fun key ↦ if keyOf row = key && p row then amount row else 0).sum := by
      rw [← sum_map_ite_key hnodup hkeys.1 (if p row then amount row else 0)]
      refine congrArg List.sum (List.map_congr_left fun key _ ↦ ?_)
      by_cases hkey : keyOf row = key <;> simp [hkey]
    rw [sumWhere_cons, ih hkeys.2, hrow, ← List.sum_map_add]
    simp only [sumWhere_cons]

end Sums

/-! ## Accumulators -/

section Accumulators

variable {ρ κ σ : Type*} [DecidableEq κ] (keyOf : ρ → κ) (create : ρ → σ) (add : σ → ρ → σ)

/-- The turn of a row: its accumulator is looked up, or created from the row, and takes the row. -/
def accumulate (table : KeyedTable κ σ) (row : ρ) : KeyedTable κ σ :=
  table.insert (keyOf row) (add ((table.lookup (keyOf row)).getD (create row)) row)

theorem lookup_foldl_accumulate (rows : List ρ) (table : KeyedTable κ σ) (key : κ) :
    (rows.foldl (accumulate keyOf create add) table).lookup key =
      (rows.filter fun row ↦ keyOf row = key).foldl
        (fun found row ↦ some (add (found.getD (create row)) row)) (table.lookup key) := by
  induction rows generalizing table with
  | nil => rfl
  | cons row rows ih =>
    rw [List.foldl_cons, ih, List.filter_cons]
    unfold accumulate
    rw [KeyedTable.lookup_insert_eq]
    by_cases hkey : keyOf row = key
    · rw [if_pos hkey.symm, if_pos (decide_eq_true hkey), List.foldl_cons, hkey]
    · rw [if_neg (Ne.symm hkey), if_neg (by simpa using hkey)]

/-- The accumulator of a key is created from the first row of the key, and takes all of them. -/
theorem lookup_accumulated (rows : List ρ) (key : κ) :
    (rows.foldl (accumulate keyOf create add) ∅).lookup key =
      (rows.filter fun row ↦ keyOf row = key).head?.map fun first ↦
        (rows.filter fun row ↦ keyOf row = key).foldl add (create first) := by
  have hsome (rows : List ρ) (acc : σ) :
      rows.foldl (fun found row ↦ some (add (found.getD (create row)) row)) (some acc) =
        some (rows.foldl add acc) := by
    induction rows generalizing acc with
    | nil => rfl
    | cons row rows ih => exact ih (add acc row)
  rw [lookup_foldl_accumulate, AList.lookup_empty]
  cases rows.filter fun row ↦ keyOf row = key with
  | nil => rfl
  | cons first rest => exact hsome rest (add (create first) first)

/-- The keys with an accumulator are those of the rows. -/
theorem mem_accumulated {rows : List ρ} {key : κ} :
    key ∈ rows.foldl (accumulate keyOf create add) ∅ ↔ ∃ row ∈ rows, keyOf row = key := by
  rw [← AList.lookup_isSome, lookup_accumulated, Option.isSome_map, List.isSome_head?]
  simp

end Accumulators

end Huntarr2
