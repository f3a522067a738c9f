import Mathlib.Data.List.Sort
import Mathlib.Data.List.Nodup
import Mathlib.Tactic

/-!
# Lists without repeated keys

The scan that keeps the first element of every key. An element without a key is always kept. Of a
sorted list the scan keeps the greatest element of every key, whatever the order the elements came
in before they were sorted.
-/

namespace Huntarr2

/-- An element whose key is not that of the first one is among the others. -/
theorem mem_of_key_ne {α κ : Type*} (key : α → κ) {first item : α} {items : List α}
    (hmem : item ∈ first :: items) (hkey : key item ≠ key first) : item ∈ items :=
  (List.mem_cons.mp hmem).resolve_left fun hhere ↦ hkey (congrArg key hhere)

section FirstPerKey

variable {α β κ : Type*} [DecidableEq κ]

/-- The elements without a key, and of each key outside `seen` the first element. -/
def firstPerKey (key : α → Option κ) (seen : List κ) : List α → List α
  | [] => []
  | item :: items =>
    match key item with
    | none => item :: firstPerKey key seen items
    | some k =>
      if k ∈ seen then firstPerKey key seen items
      else item :: firstPerKey key (k :: seen) items

variable {key : α → Option κ} {seen : List κ}

theorem firstPerKey_cons_none {item : α} (hkey : key item = none) (items : List α) :
    firstPerKey key seen (item :: items) = item :: firstPerKey key seen items := by
  rw [firstPerKey, hkey]

theorem firstPerKey_cons_seen {item : α} {k : κ} (hkey : key item = some k) (hseen : k ∈ seen)
    (items : List α) : firstPerKey key seen (item :: items) = firstPerKey key seen items := by
  rw [firstPerKey, hkey]
  exact if_pos hseen

theorem firstPerKey_cons_fresh {item : α} {k : κ} (hkey : key item = some k) (hseen : k ∉ seen)
    (items : List α) :
    firstPerKey key seen (item :: items) = item :: firstPerKey key (k :: seen) items := by
  rw [firstPerKey, hkey]
  exact if_neg hseen

theorem firstPerKey_map (f : β → α) (items : List β) :
    firstPerKey key seen (items.map f) = (firstPerKey (key ∘ f) seen items).map f := by
  fun_induction firstPerKey (key ∘ f) seen items with
  | case1 => rfl
  | case2 seen item items hkey ih =>
    have hmap : key (f item) = none := hkey
    rw [List.map_cons, firstPerKey_cons_none hmap, ih, List.map_cons]
  | case3 seen item items k hkey hseen ih =>
    have hmap : key (f item) = some k := hkey
    rw [List.map_cons, firstPerKey_cons_seen hmap hseen, ih]
  | case4 seen item items k hkey hseen ih =>
    have hmap : key (f item) = some k := hkey
    rw [List.map_cons, firstPerKey_cons_fresh hmap hseen, ih, List.map_cons]

theorem firstPerKey_sublist (items : List α) : (firstPerKey key seen items).Sublist items := by
  fun_induction firstPerKey key seen items with
  | case1 => exact List.Sublist.refl _
  | case2 seen item items hkey ih => exact ih.cons_cons item
  | case3 seen item items k hkey hseen ih => exact ih.cons item
  | case4 seen item items k hkey hseen ih => exact ih.cons_cons item

/-- An element without a key is kept. -/
theorem mem_firstPerKey_of_unkeyed {item : α} {items : List α} (hmem : item ∈ items)
    (hnone : key item = none) : item ∈ firstPerKey key seen items := by
  fun_induction firstPerKey key seen items with
  | case1 => exact hmem
  | case2 seen first items hkey ih => exact List.mem_cons.mpr ((List.mem_cons.mp hmem).imp_right ih)
  | case3 seen first items k hkey hseen ih =>
    refine ih ((List.mem_cons.mp hmem).resolve_left ?_)
    rintro rfl
    rw [hnone] at hkey
    cases hkey
  | case4 seen first items k hkey hseen ih =>
    exact List.mem_cons.mpr ((List.mem_cons.mp hmem).imp_right ih)

/-- Nothing of a key seen before is kept. -/
theorem notMem_seen_of_mem_firstPerKey {item : α} {items : List α} {k : κ}
    (hmem : item ∈ firstPerKey key seen items) (hitem : key item = some k) : k ∉ seen := by
  fun_induction firstPerKey key seen items with
  | case1 => exact absurd hmem List.not_mem_nil
  | case2 seen first items hkey ih =>
    refine ih ((List.mem_cons.mp hmem).resolve_left ?_)
    rintro rfl
    rw [hitem] at hkey
    cases hkey
  | case3 seen first items l hkey hseen ih => exact ih hmem
  | case4 seen first items l hkey hseen ih =>
    cases List.mem_cons.mp hmem with
    | inl hhere =>
      rw [hhere, hkey] at hitem
      exact Option.some.inj hitem ▸ hseen
    | inr hlater => exact fun hold ↦ ih hlater (List.mem_cons_of_mem _ hold)

/-- No key is kept twice. -/
theorem pairwise_firstPerKey (items : List α) :
    (firstPerKey key seen items).Pairwise fun first second ↦
      ∀ k, key first = some k → key second ≠ some k := by
  fun_induction firstPerKey key seen items with
  | case1 => exact List.Pairwise.nil
  | case2 seen item items hkey ih =>
    refine List.pairwise_cons.mpr ⟨fun _ _ k hk ↦ ?_, ih⟩
    rw [hkey] at hk
    cases hk
  | case3 seen item items k hkey hseen ih => exact ih
  | case4 seen item items k hkey hseen ih =>
    refine List.pairwise_cons.mpr ⟨fun other hother l hl hsame ↦ ?_, ih⟩
    have hkl : k = l := Option.some.inj (hkey.symm.trans hl)
    exact notMem_seen_of_mem_firstPerKey hother hsame (hkl ▸ List.mem_cons_self)

/-- Every key outside `seen` is kept. -/
theorem exists_mem_firstPerKey {item : α} {items : List α} {k : κ} (hmem : item ∈ items)
    (hitem : key item = some k) (hfresh : k ∉ seen) :
    ∃ kept ∈ firstPerKey key seen items, key kept = some k := by
  fun_induction firstPerKey key seen items with
  | case1 => exact absurd hmem List.not_mem_nil
  | case2 seen first items hkey ih =>
    have hrest := mem_of_key_ne key hmem (by rw [hitem, hkey]; exact Option.some_ne_none k)
    obtain ⟨kept, hkept, hkeptKey⟩ := ih hrest hfresh
    exact ⟨kept, List.mem_cons_of_mem _ hkept, hkeptKey⟩
  | case3 seen first items l hkey hseen ih =>
    refine ih (mem_of_key_ne key hmem fun hsame ↦ ?_) hfresh
    rw [hitem, hkey] at hsame
    exact hfresh (Option.some.inj hsame ▸ hseen)
  | case4 seen first items l hkey hseen ih =>
    by_cases hsame : k = l
    · exact ⟨first, List.mem_cons_self, hsame ▸ hkey⟩
    · have hrest : item ∈ items := mem_of_key_ne key hmem fun heq ↦ by
        rw [hitem, hkey] at heq
        exact hsame (Option.some.inj heq)
      obtain ⟨kept, hkept, hkeptKey⟩ := ih hrest (List.not_mem_cons_of_ne_of_not_mem hsame hfresh)
      exact ⟨kept, List.mem_cons_of_mem _ hkept, hkeptKey⟩

/-- Of a sorted list the first element of a key is before all others of the key. -/
theorem first_of_mem_firstPerKey {before : α → α → Prop} {items : List α}
    (hsorted : items.Pairwise before) {item : α} (hmem : item ∈ firstPerKey key seen items) {k : κ}
    (hitem : key item = some k) {other : α} (hother : other ∈ items) (hok : key other = some k) :
    other = item ∨ before item other := by
  fun_induction firstPerKey key seen items with
  | case1 => exact absurd hmem List.not_mem_nil
  | case2 seen first items hkey ih =>
    have hsome (one : α) (hone : key one = some k) : key one ≠ key first := by
      rw [hone, hkey]
      exact Option.some_ne_none k
    exact ih hsorted.of_cons (mem_of_key_ne key hmem (hsome item hitem))
      (mem_of_key_ne key hother (hsome other hok))
  | case3 seen first items l hkey hseen ih =>
    refine ih hsorted.of_cons hmem (mem_of_key_ne key hother fun hsame ↦ ?_)
    rw [hok, hkey] at hsame
    exact notMem_seen_of_mem_firstPerKey hmem hitem (Option.some.inj hsame ▸ hseen)
  | case4 seen first items l hkey hseen ih =>
    cases List.mem_cons.mp hmem with
    | inl hhere =>
      subst hhere
      exact (List.mem_cons.mp hother).imp_right fun hlater ↦ List.rel_of_pairwise_cons hsorted hlater
    | inr hlater =>
      refine ih hsorted.of_cons hlater (mem_of_key_ne key hother fun hsame ↦ ?_)
      rw [hok, hkey] at hsame
      exact notMem_seen_of_mem_firstPerKey hlater hitem
        (Option.some.inj hsame ▸ List.mem_cons_self)

/-- Of a sorted list the scan keeps one element of every key. -/
theorem existsUnique_mem_firstPerKey {before : α → α → Prop} [Std.Asymm before] {items : List α}
    (hsorted : items.Pairwise before) {item : α} (hmem : item ∈ items) {k : κ}
    (hitem : key item = some k) : ∃! kept, kept ∈ firstPerKey key [] items ∧ key kept = some k := by
  obtain ⟨kept, hkept, hkeptKey⟩ := exists_mem_firstPerKey hmem hitem List.not_mem_nil
  refine ⟨kept, ⟨hkept, hkeptKey⟩, ?_⟩
  rintro other ⟨hother, hotherKey⟩
  have hsubset : firstPerKey key [] items ⊆ items := (firstPerKey_sublist items).subset
  rcases first_of_mem_firstPerKey hsorted hkept hkeptKey (hsubset hother) hotherKey with h | hbefore
  · exact h
  · rcases first_of_mem_firstPerKey hsorted hother hotherKey (hsubset hkept) hkeptKey with h | hafter
    · exact h.symm
    · exact absurd hafter (Std.Asymm.asymm _ _ hbefore)

/-- Of a sorted list the scan keeps the elements without a key and the greatest of every key. -/
theorem mem_firstPerKey_of_pairwise {before : α → α → Prop} [Std.Asymm before] {items : List α}
    (hsorted : items.Pairwise before) {item : α} :
    item ∈ firstPerKey key [] items ↔
      item ∈ items ∧ ∀ k, key item = some k → ∀ other ∈ items, key other = some k →
        other = item ∨ before item other := by
  constructor
  · intro hmem
    exact ⟨(firstPerKey_sublist items).subset hmem,
      fun k hitem other hother hok ↦ first_of_mem_firstPerKey hsorted hmem hitem hother hok⟩
  · rintro ⟨hmem, hgreatest⟩
    cases hitem : key item with
    | none => exact mem_firstPerKey_of_unkeyed hmem hitem
    | some k =>
      -- The element kept for the key is not before this one, so it is this one.
      obtain ⟨kept, hkept, hkeptKey⟩ := exists_mem_firstPerKey hmem hitem List.not_mem_nil
      have hmemKept := (firstPerKey_sublist items).subset hkept
      rcases first_of_mem_firstPerKey hsorted hkept hkeptKey hmem hitem with rfl | hbefore
      · exact hkept
      · rcases hgreatest k hitem kept hmemKept hkeptKey with rfl | hafter
        · exact hkept
        · exact absurd hafter (Std.Asymm.asymm _ _ hbefore)

/-- When every element has a key and equal keys mean equal elements, the scan only leaves out
repetitions. -/
theorem mem_firstPerKey_of_injective {key : α → κ} {items : List α}
    (hkey : ∀ first ∈ items, ∀ second ∈ items, key first = key second → first = second) {item : α} :
    item ∈ firstPerKey (some ∘ key) [] items ↔ item ∈ items := by
  constructor
  · exact fun hmem ↦ (firstPerKey_sublist items).subset hmem
  · intro hmem
    have hitem : (some ∘ key) item = some (key item) := rfl
    obtain ⟨kept, hkept, hsame⟩ := exists_mem_firstPerKey hmem hitem List.not_mem_nil
    have heq := hkey kept ((firstPerKey_sublist items).subset hkept) item hmem
      (Option.some.inj hsame)
    exact heq ▸ hkept

theorem nodup_map_firstPerKey (key : α → κ) (items : List α) :
    ((firstPerKey (some ∘ key) [] items).map key).Nodup := by
  rw [List.nodup_iff_pairwise_ne, List.pairwise_map]
  exact (pairwise_firstPerKey items).imp fun hother hsame ↦
    hother _ rfl (congrArg some hsame.symm)

end FirstPerKey

end Huntarr2
