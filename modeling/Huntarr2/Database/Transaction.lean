import Mathlib.Data.List.Basic

/-!
# Transactions

A database operation takes the error it meets, if it meets one. A transaction that does not commit
leaves the database as it was.
-/

namespace Huntarr2.Database

/-- The errors a transaction meets: at its begin, at the statement of each index, at its commit and
at its rollback. -/
structure TxFaults where
  begin : Option String
  exec : ℕ → Option String
  commit : Option String
  rollback : Option String

/-- A transaction without errors. -/
def TxFaults.none : TxFaults := ⟨Option.none, fun _ ↦ Option.none, Option.none, Option.none⟩

variable {σ α : Type*}

/-- `WithTx`: the result and the database afterwards. -/
def withTx (db : σ) (faults : TxFaults) (fn : σ → Except String σ) : Except String Unit × σ :=
  match faults.begin with
  | some err => (.error s!"beginning transaction: {err}", db)
  | none =>
    match fn db with
    | .error err =>
      match faults.rollback with
      | some rollbackErr => (.error s!"{err}\nrolling back transaction: {rollbackErr}", db)
      | none => (.error err, db)
    | .ok changed =>
      match faults.commit with
      | some err => (.error s!"committing transaction: {err}", db)
      | none => (.ok (), changed)

/-- A transaction either reports an error and changes nothing, or runs all of its statements. -/
theorem withTx_cases (db : σ) (faults : TxFaults) (fn : σ → Except String σ) :
    (∃ err, withTx db faults fn = (.error err, db)) ∨
      ∃ changed, fn db = .ok changed ∧ withTx db faults fn = (.ok (), changed) := by
  unfold withTx
  cases faults.begin with
  | some err => exact Or.inl ⟨_, rfl⟩
  | none =>
    cases fn db with
    | error err =>
      cases faults.rollback with
      | some rollbackErr => exact Or.inl ⟨_, rfl⟩
      | none => exact Or.inl ⟨_, rfl⟩
    | ok changed =>
      cases faults.commit with
      | some err => exact Or.inl ⟨_, rfl⟩
      | none => exact Or.inr ⟨changed, rfl, rfl⟩

/-- One statement for every element, stopping at the first error. -/
def execAll (db : σ) (exec : σ → α → Option String → Except String σ) (faults : TxFaults)
    (elements : List α) : Except String σ :=
  elements.zipIdx.foldlM (fun db element ↦ exec db element.1 (faults.exec element.2)) db

/-- Statements that change the database by `apply` when they succeed change it by all of them. -/
theorem execAll_eq_foldl {exec : σ → α → Option String → Except String σ} {apply : σ → α → σ}
    (hexec : ∀ db element failure changed, exec db element failure = .ok changed →
      changed = apply db element)
    {faults : TxFaults} {elements : List α} {db changed : σ}
    (h : execAll db exec faults elements = .ok changed) : changed = elements.foldl apply db := by
  unfold execAll at h
  generalize 0 = start at h
  induction elements generalizing db start with
  | nil => exact (Except.ok.inj h).symm
  | cons element elements ih =>
    rw [List.zipIdx_cons, List.foldlM_cons] at h
    cases hfirst : exec db element (faults.exec start) with
    | error err => simp [hfirst, bind, Except.bind] at h
    | ok next =>
      simp only [hfirst, bind, Except.bind] at h
      rw [ih (start + 1) h, hexec db element _ next hfirst, List.foldl_cons]

end Huntarr2.Database
