import Mathlib.Data.List.Basic

/-!
# Loops that skip failures

A loop makes something of each of its entries and appends it to what it has. The turn of an entry may
fail; then the entry is skipped, or the failure ends the loop.
-/

namespace Huntarr2

/-- What the turn of an entry comes to. -/
inductive Turn (ε β : Type*)
  | kept (items : List β)
  | skipped
  | aborted (err : ε)
  deriving DecidableEq, Repr

namespace Turn

variable {α ε β : Type*}

/-- The part of an entry. -/
def items : Turn ε β → List β
  | kept items => items
  | skipped => []
  | aborted _ => []

/-- The end of a turn, with what the loop has so far. -/
def appendTo (collected : List β) : Turn ε β → Except ε (List β)
  | kept items => .ok (collected ++ items)
  | skipped => .ok collected
  | aborted err => .error err

/-- The loop. -/
def collect (turn : α → Turn ε β) (entries : List α) : Except ε (List β) :=
  entries.foldlM (fun collected entry ↦ (turn entry).appendTo collected) []

/-- Without an abort the loop collects the parts in order. -/
theorem collect_eq_flatMap {turn : α → Turn ε β} {entries : List α}
    (h : ∀ entry ∈ entries, ∀ err, turn entry ≠ .aborted err) :
    collect turn entries = .ok (entries.flatMap fun entry ↦ (turn entry).items) := by
  have hloop (collected : List β) :
      entries.foldlM (fun collected entry ↦ (turn entry).appendTo collected) collected =
        (.ok (collected ++ entries.flatMap fun entry ↦ (turn entry).items) : Except ε (List β)) := by
    induction entries generalizing collected with
    | nil => rw [List.flatMap_nil, List.append_nil]; rfl
    | cons entry entries ih =>
      have hrest := ih fun entry hentry ↦ h entry (List.mem_cons_of_mem _ hentry)
      rw [List.foldlM_cons, List.flatMap_cons]
      cases hturn : turn entry with
      | kept items => exact (hrest (collected ++ items)).trans (by rw [List.append_assoc]; rfl)
      | skipped => exact hrest collected
      | aborted err => exact absurd hturn (h entry List.mem_cons_self err)
  exact hloop []

/-- An abort anywhere leaves an error. -/
theorem collect_error_of_aborted {turn : α → Turn ε β} {entries : List α} {entry : α} {err : ε}
    (hentry : entry ∈ entries) (h : turn entry = .aborted err) :
    ∃ err, collect turn entries = .error err := by
  have hloop (collected : List β) : ∃ err,
      entries.foldlM (fun collected entry ↦ (turn entry).appendTo collected) collected =
        (.error err : Except ε (List β)) := by
    induction entries generalizing collected with
    | nil => cases hentry
    | cons first entries ih =>
      rw [List.foldlM_cons]
      cases hturn : turn first with
      | aborted other => exact ⟨other, rfl⟩
      | kept items =>
        rcases List.mem_cons.mp hentry with rfl | hrest
        · rw [h] at hturn
          cases hturn
        · exact ih hrest (collected ++ items)
      | skipped =>
        rcases List.mem_cons.mp hentry with rfl | hrest
        · rw [h] at hturn
          cases hturn
        · exact ih hrest collected
  exact hloop []

end Turn

end Huntarr2
