import Huntarr2.Foundation.KeyedTable
import Mathlib.Data.List.Sort

/-!
# Two runs side by side

A server is a step function that replies to each request. Two runs are answered alike when a relation
of their states is kept by every pair of related requests and makes the two replies the same. The
relations of results and of tables that such an argument needs are here as well.
-/

namespace Huntarr2.Lockstep

/-! ## Runs with replies -/

section Replies

variable {σ τ α β ρ : Type*}

/-- The replies of a run, in order. -/
def replies (step : σ → α → ρ × σ) : σ → List α → List ρ
  | _, [] => []
  | state, request :: requests =>
    (step state request).1 :: replies step (step state request).2 requests

/-- Runs that stay related are answered alike. -/
theorem replies_eq {first : σ → α → ρ × σ} {second : τ → β → ρ × τ} {States : σ → τ → Prop}
    {Requests : α → β → Prop}
    (hstep : ∀ state state' request request', States state state' → Requests request request' →
      (first state request).1 = (second state' request').1 ∧
        States (first state request).2 (second state' request').2)
    {state : σ} {state' : τ} {requests : List α} {requests' : List β}
    (hrequests : List.Forall₂ Requests requests requests') (hstates : States state state') :
    replies first state requests = replies second state' requests' := by
  induction hrequests generalizing state state' with
  | nil => rfl
  | cons hrequest _ ih =>
    obtain ⟨hreply, hnext⟩ := hstep _ _ _ _ hstates hrequest
    unfold replies
    rw [hreply, ih hnext]

end Replies

/-! ## Related results -/

section Results

universe u v

variable {ε : Type*} {α γ : Type u} {β δ : Type v}

/-- Both results are the same error, or both are related values. -/
inductive Results (R : α → β → Prop) : Except ε α → Except ε β → Prop
  | error (err : ε) : Results R (.error err) (.error err)
  | ok {value : α} {value' : β} (h : R value value') : Results R (.ok value) (.ok value')

variable {R : α → β → Prop} {S : γ → δ → Prop}

theorem Results.bind {result : Except ε α} {result' : Except ε β} (h : Results R result result')
    {f : α → Except ε γ} {g : β → Except ε δ}
    (hnext : ∀ value value', R value value' → Results S (f value) (g value')) :
    Results S (result >>= f) (result' >>= g) := by
  cases h with
  | error err => exact .error err
  | ok hvalue => exact hnext _ _ hvalue

/-- A loop over related elements whose turns have related results. -/
theorem Results.mapM {elements : List γ} {elements' : List δ} {f : γ → Except ε α}
    {g : δ → Except ε β} (h : List.Forall₂ S elements elements')
    (hturn : ∀ element element', S element element' → Results R (f element) (g element')) :
    Results (List.Forall₂ R) (elements.mapM f) (elements'.mapM g) := by
  induction h with
  | nil => exact .ok .nil
  | cons hhead _ ih =>
    rw [List.mapM_cons, List.mapM_cons]
    exact (hturn _ _ hhead).bind fun _ _ hvalue ↦
      ih.bind fun _ _ hvalues ↦ .ok (.cons hvalue hvalues)

end Results

/-! ## Related tables -/

section Tables

variable {κ ν μ : Type*} {R : ν → μ → Prop}

/-- Two rows with one key and related values. -/
def Rows (R : ν → μ → Prop) (row : Sigma fun _ : κ ↦ ν) (row' : Sigma fun _ : κ ↦ μ) : Prop :=
  row.1 = row'.1 ∧ R row.2 row'.2

/-- Two tables with the same keys in the same order and related values. -/
def Tables (R : ν → μ → Prop) (table : KeyedTable κ ν) (table' : KeyedTable κ μ) : Prop :=
  List.Forall₂ (Rows R) table.entries table'.entries

theorem tables_empty : Tables R (∅ : KeyedTable κ ν) ∅ := List.Forall₂.nil

variable [DecidableEq κ] {table : KeyedTable κ ν} {table' : KeyedTable κ μ}

theorem forall₂_kerase (key : κ) {rows : List (Sigma fun _ : κ ↦ ν)}
    {rows' : List (Sigma fun _ : κ ↦ μ)} (h : List.Forall₂ (Rows R) rows rows') :
    List.Forall₂ (Rows R) (rows.kerase key) (rows'.kerase key) := by
  induction h with
  | nil => exact .nil
  | @cons row row' rows rows' hrow hrows ih =>
    by_cases hkey : key = row.1
    · rw [List.kerase_cons_eq hkey, List.kerase_cons_eq (hkey.trans hrow.1)]
      exact hrows
    · rw [List.kerase_cons_ne hkey, List.kerase_cons_ne fun hother ↦ hkey (hother.trans hrow.1.symm)]
      exact .cons hrow ih

theorem Tables.erase (h : Tables R table table') (key : κ) :
    Tables R (table.erase key) (table'.erase key) := forall₂_kerase key h

theorem Tables.insert (h : Tables R table table') (key : κ) {value : ν} {value' : μ}
    (hvalue : R value value') : Tables R (table.insert key value) (table'.insert key value') := by
  unfold Tables
  rw [AList.entries_insert, AList.entries_insert]
  exact .cons ⟨rfl, hvalue⟩ (forall₂_kerase key h)

/-- A key is in both tables with related values, or in neither. -/
theorem Tables.lookup (h : Tables R table table') (key : κ) :
    Option.Rel R (table.lookup key) (table'.lookup key) := by
  unfold Tables at h
  unfold AList.lookup
  generalize table.entries = rows at h
  generalize table'.entries = rows' at h
  induction h with
  | nil => exact .none
  | @cons row row' rows rows' hrow _ ih =>
    obtain ⟨key₁, value⟩ := row
    obtain ⟨key₂, value'⟩ := row'
    obtain ⟨rfl, hvalue⟩ := hrow
    by_cases hkey : key₁ = key
    · subst hkey
      rw [List.dlookup_cons_eq, List.dlookup_cons_eq]
      exact .some hvalue
    · rw [List.dlookup_cons_ne _ _ (Ne.symm hkey), List.dlookup_cons_ne _ _ (Ne.symm hkey)]
      exact ih

theorem Tables.mem_iff (h : Tables R table table') (key : κ) : key ∈ table ↔ key ∈ table' := by
  rw [← AList.lookup_isSome, ← AList.lookup_isSome]
  generalize table.lookup key = value, table'.lookup key = value', h.lookup key = hvalues
  cases hvalues <;> rfl

end Tables

/-! ## Related lists in order -/

section Sorting

variable {α β : Type*} {R : α → β → Prop} {r : α → α → Prop} {s : β → β → Prop} [DecidableRel r]
  [DecidableRel s]

theorem forall₂_orderedInsert (hcompare : ∀ a b a' b', R a a' → R b b' → (r a b ↔ s a' b')) {a : α}
    {a' : β} (ha : R a a') {elements : List α} {elements' : List β}
    (h : List.Forall₂ R elements elements') :
    List.Forall₂ R (elements.orderedInsert r a) (elements'.orderedInsert s a') := by
  induction h with
  | nil => exact .cons ha .nil
  | @cons b b' rest rest' hb hrest ih =>
    unfold List.orderedInsert
    by_cases hle : r a b
    · rw [if_pos hle, if_pos ((hcompare a b a' b' ha hb).mp hle)]
      exact .cons ha (.cons hb hrest)
    · rw [if_neg hle, if_neg fun hle' ↦ hle ((hcompare a b a' b' ha hb).mpr hle')]
      exact .cons hb ih

/-- Sorting keeps lists related whose elements compare alike. -/
theorem forall₂_insertionSort (hcompare : ∀ a b a' b', R a a' → R b b' → (r a b ↔ s a' b'))
    {elements : List α} {elements' : List β} (h : List.Forall₂ R elements elements') :
    List.Forall₂ R (elements.insertionSort r) (elements'.insertionSort s) := by
  induction h with
  | nil => exact .nil
  | cons ha _ ih => exact forall₂_orderedInsert hcompare ha ih

end Sorting

end Huntarr2.Lockstep
