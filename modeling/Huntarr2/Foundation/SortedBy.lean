import Mathlib.Data.List.Perm.Basic
import Mathlib.Data.List.Sort

/-!
# Sorting by a key

An unstable sort leaves the order of elements with one key open, so it has a set of possible results
and not one. The set depends only on which elements there are, and it has one member exactly if the
key tells the elements apart.
-/

namespace Huntarr2

/-! ## Rearrangements -/

/-- A rearrangement of an image is the image of a rearrangement. -/
theorem exists_perm_map {α β : Type*} {f : α → β} {images : List β} {elements : List α}
    (h : images.Perm (elements.map f)) :
    ∃ others : List α, others.Perm elements ∧ images = others.map f := by
  have hpointwise : List.Forall₂ (fun image element ↦ image = f element) (elements.map f) elements := by
    rw [List.forall₂_map_left_iff, List.forall₂_same]
    exact fun element _ ↦ rfl
  obtain ⟨others, hothers, hperm⟩ := List.perm_comp_forall₂ h hpointwise
  refine ⟨others, hperm, ?_⟩
  rw [← List.forall₂_eq_eq_eq, List.forall₂_map_right_iff]
  exact hothers

/-! ## The results of a sort -/

variable {α κ : Type*} [LinearOrder κ] {key : α → κ}

/-- An unstable sort of the input by the key may return the output. -/
structure SortsTo (key : α → κ) (input output : List α) : Prop where
  perm : output.Perm input
  sorted : output.Pairwise fun first second ↦ key first ≤ key second

/-- A stable sort returns one of the results. -/
theorem sortsTo_insertionSort (key : α → κ) (input : List α) :
    SortsTo key input (input.insertionSort fun first second ↦ key first ≤ key second) where
  perm := List.perm_insertionSort _ input
  sorted := by
    have htotal : Std.Total fun first second ↦ key first ≤ key second :=
      ⟨fun first second ↦ le_total (key first) (key second)⟩
    have htrans : IsTrans α fun first second ↦ key first ≤ key second :=
      ⟨fun _ _ _ ↦ le_trans⟩
    exact List.pairwise_insertionSort _ input

/-- The order of the input does not matter. -/
theorem SortsTo.of_perm {first second output : List α} (h : SortsTo key first output)
    (hperm : first.Perm second) : SortsTo key second output :=
  ⟨h.perm.trans hperm, h.sorted⟩

theorem SortsTo.mem_iff {input output : List α} (h : SortsTo key input output) {element : α} :
    element ∈ output ↔ element ∈ input :=
  h.perm.mem_iff

/-- A key that tells the elements of the input apart leaves one result. -/
theorem SortsTo.unique {input first second : List α}
    (hkey : ∀ a ∈ input, ∀ b ∈ input, key a = key b → a = b) (hfirst : SortsTo key input first)
    (hsecond : SortsTo key input second) : first = second := by
  refine List.Perm.eq_of_pairwise ?_ hfirst.sorted hsecond.sorted
    (hfirst.perm.trans hsecond.perm.symm)
  intro a b ha hb hle hge
  exact hkey a (hfirst.mem_iff.mp ha) b (hsecond.mem_iff.mp hb) (le_antisymm hle hge)

/-- Two elements of one key, put between the smaller and the other elements. -/
theorem sortsTo_tie {a b : α} (htie : key a = key b) {rest sorted : List α}
    (h : SortsTo key rest sorted) :
    SortsTo key (a :: b :: rest)
      (sorted.filter (fun element ↦ decide (key element < key a)) ++
        a :: b :: sorted.filter fun element ↦ !decide (key element < key a)) where
  perm := by
    refine List.perm_middle.trans ((List.perm_middle.trans ?_).cons a)
    exact ((List.filter_append_perm _ sorted).trans h.perm).cons b
  sorted := by
    have hafter : ∀ element ∈ sorted.filter fun element ↦ !decide (key element < key a),
        key a ≤ key element := by
      intro element helement
      simpa using (List.mem_filter.mp helement).2
    have hbefore : ∀ element ∈ sorted.filter fun element ↦ decide (key element < key a),
        key element ≤ key a := by
      intro element helement
      exact le_of_lt (by simpa using (List.mem_filter.mp helement).2)
    rw [List.pairwise_append, List.pairwise_cons, List.pairwise_cons, List.forall_mem_cons]
    refine ⟨h.sorted.filter _, ⟨⟨htie.le, hafter⟩, ?_, h.sorted.filter _⟩, ?_⟩
    · exact fun element helement ↦ htie ▸ hafter element helement
    · intro element helement other hother
      have hle := hbefore element helement
      rw [List.mem_cons, List.mem_cons] at hother
      rcases hother with rfl | rfl | hother
      · exact hle
      · exact hle.trans htie.le
      · exact hle.trans (hafter other hother)

/-- The result is determined exactly if the key tells the elements of the input apart. -/
theorem sortsTo_unique_iff (key : α → κ) (input : List α) :
    (∀ first second, SortsTo key input first → SortsTo key input second → first = second) ↔
      ∀ a ∈ input, ∀ b ∈ input, key a = key b → a = b := by
  classical
  refine ⟨fun h a ha b hb htie ↦ ?_, fun hkey first second ↦ SortsTo.unique hkey⟩
  by_contra hne
  -- the two orders of a tie are two results
  have hb' : b ∈ input.erase a := (List.mem_erase_of_ne (Ne.symm hne)).mpr hb
  have hpair : (a :: b :: (input.erase a).erase b).Perm input :=
    ((List.perm_cons_erase ha).trans ((List.perm_cons_erase hb').cons a)).symm
  have hrest := sortsTo_insertionSort key ((input.erase a).erase b)
  have hforward := (sortsTo_tie htie hrest).of_perm hpair
  have hbackward := (sortsTo_tie htie.symm hrest).of_perm ((List.Perm.swap a b _).trans hpair)
  have heq := h _ _ hforward hbackward
  rw [htie] at heq
  exact hne (List.cons.inj (List.append_cancel_left heq)).1

end Huntarr2
