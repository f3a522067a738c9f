import Mathlib.Data.List.AList

/-!
# Tables with a primary key

A table with a primary key holds at most one row per key, which is what `AList` carries as a field.
This module adds the statements SQL runs over such a table: an upsert of several keys with one
value, and a conditional delete.
-/

namespace Huntarr2

/-- A table whose rows are a key column and one value column. -/
abbrev KeyedTable (κ ν : Type*) := AList (fun _ : κ ↦ ν)

namespace KeyedTable

variable {κ ν : Type*} [DecidableEq κ]

/-- `INSERT … ON CONFLICT DO UPDATE` of the same value under every listed key, in order. -/
def upsertAll (table : KeyedTable κ ν) (keys : List κ) (value : ν) : KeyedTable κ ν :=
  keys.foldl (fun table key ↦ table.insert key value) table

/-- `DELETE … WHERE`: keep exactly the rows on which the condition is false. -/
def deleteWhere (table : KeyedTable κ ν) (condition : κ → ν → Bool) : KeyedTable κ ν where
  entries := table.entries.filter fun row ↦ !condition row.1 row.2
  nodupKeys := table.nodupKeys.sublist List.filter_sublist

/-- The table with every value changed. -/
def mapValues {μ : Type*} (table : KeyedTable κ ν) (f : ν → μ) : KeyedTable κ μ where
  entries := table.entries.map (.map id fun _ ↦ f)
  nodupKeys := table.nodupKeys.map₂ fun _ ↦ f

/-- The value of the last pair with a key. -/
def lastValue (key : κ) : List (κ × ν) → Option ν
  | [] => none
  | pair :: pairs => (lastValue key pairs).or (if pair.1 = key then some pair.2 else none)

/-- The pairs inserted in order. -/
def ofPairs (pairs : List (κ × ν)) : KeyedTable κ ν :=
  pairs.foldl (fun table pair ↦ table.insert pair.1 pair.2) ∅

theorem lookup_insert_eq (table : KeyedTable κ ν) (key other : κ) (value : ν) :
    (table.insert key value).lookup other = if other = key then some value else table.lookup other := by
  split
  case isTrue h => rw [h, AList.lookup_insert]
  case isFalse h => exact AList.lookup_insert_ne h

theorem lookup_erase_eq (table : KeyedTable κ ν) (key other : κ) :
    (table.erase key).lookup other = if other = key then none else table.lookup other := by
  split
  case isTrue h => rw [h, AList.lookup_erase]
  case isFalse h => exact AList.lookup_erase_ne h

theorem lookup_mapValues {μ : Type*} (table : KeyedTable κ ν) (f : ν → μ) (key : κ) :
    (table.mapValues f).lookup key = (table.lookup key).map f :=
  List.dlookup_map₂ key

theorem lastValue_append (key : κ) (first second : List (κ × ν)) :
    lastValue key (first ++ second) = (lastValue key second).or (lastValue key first) := by
  induction first with
  | nil => exact (Option.or_none).symm
  | cons pair pairs ih => rw [List.cons_append, lastValue, ih, lastValue, Option.or_assoc]

theorem lookup_ofPairs (pairs : List (κ × ν)) (key : κ) :
    (ofPairs pairs).lookup key = lastValue key pairs := by
  have hfold (table : KeyedTable κ ν) :
      (pairs.foldl (fun table pair ↦ table.insert pair.1 pair.2) table).lookup key =
        (lastValue key pairs).or (table.lookup key) := by
    induction pairs generalizing table with
    | nil => rfl
    | cons pair pairs ih =>
      rw [List.foldl_cons, ih, lookup_insert_eq, lastValue, Option.or_assoc]
      by_cases hkey : pair.1 = key
      · rw [if_pos hkey.symm, if_pos hkey, Option.some_or]
      · rw [if_neg (Ne.symm hkey), if_neg hkey, Option.none_or]
  exact (hfold ∅).trans Option.or_none

theorem lookup_upsertAll (table : KeyedTable κ ν) (keys : List κ) (value : ν) (key : κ) :
    (table.upsertAll keys value).lookup key =
      if key ∈ keys then some value else table.lookup key := by
  unfold upsertAll
  induction keys generalizing table with
  | nil => simp
  | cons first rest ih =>
    rw [List.foldl_cons, ih, lookup_insert_eq]
    by_cases hrest : key ∈ rest <;> by_cases hfirst : key = first <;> simp [hrest, hfirst]

theorem lookup_deleteWhere (table : KeyedTable κ ν) (condition : κ → ν → Bool) (key : κ) :
    (table.deleteWhere condition).lookup key =
      (table.lookup key).filter fun value ↦ !condition key value := by
  have hmem (value : ν) : value ∈ (table.deleteWhere condition).lookup key ↔
      value ∈ (table.lookup key).filter fun value ↦ !condition key value := by
    rw [Option.mem_filter_iff, AList.mem_lookup_iff, AList.mem_lookup_iff]
    simp [deleteWhere]
  exact Option.ext fun value ↦ by simpa only [Option.mem_def] using hmem value

/-- A selection that cannot pick the changed row does not see the change. -/
theorem filter_kerase (rows : List (Sigma fun _ : κ ↦ ν)) (key : κ) {p : Sigma (fun _ : κ ↦ ν) → Bool}
    (hkey : ∀ value, p ⟨key, value⟩ = false) : (rows.kerase key).filter p = rows.filter p := by
  induction rows with
  | nil => rfl
  | cons row rows ih =>
    by_cases hrow : key = row.1
    · subst hrow
      rw [List.kerase_cons_eq rfl, List.filter_cons_of_neg (by simp [hkey row.2])]
    · rw [List.kerase_cons_ne hrow, List.filter_cons, List.filter_cons, ih]

theorem filter_entries_erase (table : KeyedTable κ ν) (key : κ) {p : Sigma (fun _ : κ ↦ ν) → Bool}
    (hkey : ∀ value, p ⟨key, value⟩ = false) :
    (table.erase key).entries.filter p = table.entries.filter p :=
  filter_kerase table.entries key hkey

theorem filter_entries_insert (table : KeyedTable κ ν) (key : κ) (value : ν)
    {p : Sigma (fun _ : κ ↦ ν) → Bool} (hkey : ∀ value, p ⟨key, value⟩ = false) :
    (table.insert key value).entries.filter p = table.entries.filter p := by
  rw [AList.entries_insert, List.filter_cons_of_neg (by simp [hkey value])]
  exact filter_kerase table.entries key hkey

end KeyedTable

end Huntarr2
