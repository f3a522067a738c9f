import Mathlib.Data.List.Basic
import Mathlib.Tactic

/-!
# Reading a list in pages

A reader that asks for one page after the other until a page is empty gets the whole list, once and in
its order. The order itself may be that of a key that stands for something else, such as a text for a
time; it is the order of the other thing exactly when every two elements compare alike.
-/

namespace Huntarr2

variable {ε α κ τ : Type*}

/-- The pages from number `k` on, until an empty one; `none` when the fuel runs out first. -/
def readPages (page : ℕ → Except ε (List α)) : ℕ → ℕ → Except ε (Option (List α))
  | 0, _ => .ok none
  | fuel + 1, k =>
    match page k with
    | .error err => .error err
    | .ok items =>
      if items.isEmpty then .ok (some [])
      else (readPages page fuel (k + 1)).map fun rest ↦ rest.map (items ++ ·)

/-- Pages of `size` elements of a list are read to the list from the first of them on. -/
theorem readPages_drop {page : ℕ → Except ε (List α)} {items : List α} {size : ℕ} (hsize : 0 < size)
    (hpage : ∀ k, page k = .ok ((items.drop (k * size)).take size)) (fuel k : ℕ)
    (hfuel : (items.drop (k * size)).length < fuel) :
    readPages page fuel k = .ok (some (items.drop (k * size))) := by
  induction fuel generalizing k with
  | zero => omega
  | succ fuel ih =>
    rw [readPages, hpage]
    dsimp only
    by_cases hempty : items.drop (k * size) = []
    · rw [hempty, List.take_nil]
      rfl
    · have hnext : (items.drop (k * size)).drop size = items.drop ((k + 1) * size) := by
        rw [List.drop_drop, Nat.add_mul, Nat.one_mul]
      have hpos := List.length_pos_of_ne_nil hempty
      have hshorter : (items.drop ((k + 1) * size)).length < fuel := by
        rw [← hnext, List.length_drop]
        omega
      have hsome : ¬((items.drop (k * size)).take size).isEmpty = true := by
        rw [List.isEmpty_iff, ← List.length_eq_zero_iff, List.length_take]
        omega
      rw [if_neg hsome, ih (k + 1) hshorter, ← hnext]
      exact congrArg (fun read ↦ Except.ok (some read)) (List.take_append_drop size _)

/-- Reading the pages gives the list. -/
theorem readPages_eq {page : ℕ → Except ε (List α)} {items : List α} {size : ℕ} (hsize : 0 < size)
    (hpage : ∀ k, page k = .ok ((items.drop (k * size)).take size)) {fuel : ℕ}
    (hfuel : items.length < fuel) : readPages page fuel 0 = .ok (some items) := by
  have h := readPages_drop hsize hpage fuel 0
  rw [Nat.zero_mul, List.drop_zero] at h
  exact h hfuel

section Changing

/-! ## A list that changes between the pages

What is put into a sorted list moves the elements behind it, and what is taken from its end moves none,
so an element that stays never comes nearer.
-/

variable {r : α → α → Prop} [DecidableRel r] [Std.Total r] [IsTrans α r]

theorem insertionSort_sublist {first second : List α} (h : first.Sublist second) :
    (first.insertionSort r).Sublist (second.insertionSort r) := by
  induction h with
  | slnil => exact List.Sublist.refl _
  | cons item _ ih => exact ih.trans (List.sublist_orderedInsert item _)
  | cons_cons item _ ih =>
    exact List.Sublist.orderedInsert_sublist item ih (List.pairwise_insertionSort r _)

theorem insertionSort_filter (p : α → Bool) (items : List α) :
    (items.filter p).insertionSort r = (items.insertionSort r).filter p := by
  have hsublist := (insertionSort_sublist (r := r) (List.filter_sublist (p := p) (l := items))).filter p
  have hkept : ∀ item ∈ (items.filter p).insertionSort r, p item = true :=
    fun item hitem ↦ List.of_mem_filter ((List.mem_insertionSort r).mp hitem)
  rw [List.filter_eq_self.mpr hkept] at hsublist
  refine hsublist.eq_of_length ?_
  rw [List.length_insertionSort, ((List.perm_insertionSort r items).filter p).length_eq]

/-- An element that is kept with all before it is as far behind as it was. -/
theorem mem_drop_filter {p : α → Bool} {items : List α}
    (hsorted : items.Pairwise fun first second ↦ p second = true → p first = true) {item : α} {n : ℕ}
    (hitem : item ∈ items.drop n) (hkept : p item = true) : item ∈ (items.filter p).drop n := by
  induction items generalizing n with
  | nil => exact absurd (List.mem_of_mem_drop hitem) List.not_mem_nil
  | cons first items ih =>
    cases n with
    | zero => exact List.mem_filter.mpr ⟨hitem, hkept⟩
    | succ n =>
      rw [List.drop_succ_cons] at hitem
      have hfirst : p first = true :=
        List.rel_of_pairwise_cons hsorted (List.mem_of_mem_drop hitem) hkept
      rw [List.filter_cons_of_pos hfirst, List.drop_succ_cons]
      exact ih hsorted.of_cons hitem

end Changing

section Order

variable [LinearOrder κ] [LinearOrder τ] {key : α → κ} {time : α → τ}

/-- A list that falls by its key falls by its time exactly when both compare every two elements
alike. -/
theorem pairwise_time_iff {items : List α}
    (hkeys : items.Pairwise fun first second ↦ key second < key first) :
    (items.Pairwise fun first second ↦ time second < time first) ↔
      ∀ first ∈ items, ∀ second ∈ items,
        (key first < key second ↔ time first < time second) := by
  constructor
  · intro htimes
    have hboth := hkeys.and htimes
    intro first hfirst second hsecond
    refine List.Pairwise.forall_of_forall_of_flip
      (R := fun first second ↦ key first < key second ↔ time first < time second)
      (fun item _ ↦ by simp) ?_ ?_ hfirst hsecond
    · exact hboth.imp fun h ↦ ⟨fun hlt ↦ absurd hlt h.1.asymm, fun hlt ↦ absurd hlt h.2.asymm⟩
    · exact hboth.imp fun h ↦ ⟨fun _ ↦ h.2, fun _ ↦ h.1⟩
  · exact fun hcompare ↦ hkeys.imp_of_mem fun hfirst hsecond hlt ↦
      (hcompare _ hsecond _ hfirst).mp hlt

end Order

end Huntarr2
