import Huntarr2.Foundation.Progress
import Mathlib.Data.Finset.Card
import Mathlib.Tactic

/-!
# Slots that are filled concurrently

A loop goes over a list, writes the slot of each item, and starts a task for some of them; a task changes
the slot of its item when it ends. Tasks end in any order, also before the loop does. Whatever the order
is, the slots hold in the end what each item comes to on its own.
-/

namespace Huntarr2.ForkJoin

open Machine

variable {ι β : Type*}

/-- What the loop writes for an item, and what its task changes if it starts one. -/
structure Job (ι β : Type*) where
  write : ι → β
  task : ι → Option (β → β)

/-- What an item comes to. -/
def Job.result (job : Job ι β) (item : ι) : β := (job.task item).getD id (job.write item)

/-- The loop's position, the tasks that run, and the slots. -/
structure State (β : Type*) where
  next : ℕ
  running : Finset ℕ
  slots : List β

inductive Action
  | advance
  | finish (index : ℕ)
  deriving DecidableEq, Repr

section Steps

variable (job : Job ι β) (items : List ι)

def start (empty : β) : State β := ⟨0, ∅, List.replicate items.length empty⟩

def advance (state : State β) : State β :=
  match items[state.next]? with
  | none => state
  | some item =>
    { next := state.next + 1
      running := if (job.task item).isSome then insert state.next state.running else state.running
      slots := state.slots.set state.next (job.write item) }

def finish (state : State β) (index : ℕ) : State β :=
  match items[index]?.bind job.task with
  | none => state
  | some change =>
    { state with running := state.running.erase index, slots := state.slots.modify index change }

def step (state : State β) : Action → State β
  | .advance => advance job items state
  | .finish index => finish job items state index

/-- The loop goes on while there are items, and a task ends that runs. -/
def Enabled (state : State β) : Action → Prop
  | .advance => state.next < items.length
  | .finish index => index ∈ state.running

/-- The loop and all tasks have ended. -/
def Done (state : State β) : Prop := state.next = items.length ∧ state.running = ∅

instance decidableEnabled (state : State β) (action : Action) : Decidable (Enabled items state action) :=
  match action with
  | .advance => inferInstanceAs (Decidable (_ < _))
  | .finish _ => inferInstanceAs (Decidable (_ ∈ _))

instance decidableDone (state : State β) : Decidable (Done items state) :=
  inferInstanceAs (Decidable (_ ∧ _))

/-- Every slot that the loop has passed is written, and changed unless its task runs. -/
structure Filled (state : State β) : Prop where
  next_le : state.next ≤ items.length
  length : state.slots.length = items.length
  running : ∀ index ∈ state.running, index < state.next ∧
    ∃ item change, items[index]? = some item ∧ job.task item = some change
  slot : ∀ index item, index < state.next → items[index]? = some item →
    state.slots[index]? = some (if index ∈ state.running then job.write item else job.result item)

end Steps

variable {job : Job ι β} {items : List ι} {state : State β}

theorem filled_start (empty : β) : Filled job items (start items empty) where
  next_le := Nat.zero_le _
  length := List.length_replicate
  running index hindex := absurd hindex (Finset.notMem_empty index)
  slot _ _ hnext := absurd hnext (Nat.not_lt_zero _)

theorem advance_eq (henabled : state.next < items.length) : advance job items state =
    { next := state.next + 1
      running := if (job.task items[state.next]).isSome then insert state.next state.running
        else state.running
      slots := state.slots.set state.next (job.write items[state.next]) } := by
  unfold advance
  rw [List.getElem?_eq_getElem henabled]

/-- The tasks that ran before, and the new one. -/
theorem mem_running_advance (henabled : state.next < items.length) (index : ℕ) :
    index ∈ (advance job items state).running ↔
      index ∈ state.running ∨ index = state.next ∧ (job.task items[state.next]).isSome = true := by
  rw [advance_eq henabled]
  dsimp only
  split
  case isTrue htask => rw [Finset.mem_insert, or_comm, and_iff_left htask]
  case isFalse htask => rw [or_iff_left fun hnew ↦ htask hnew.2]

theorem Filled.finish_eq (h : Filled job items state) {index : ℕ} (henabled : index ∈ state.running) :
    ∃ item change, items[index]? = some item ∧ job.task item = some change ∧
      finish job items state index =
        { state with
          running := state.running.erase index
          slots := state.slots.modify index change } := by
  obtain ⟨-, item, change, hitem, hchange⟩ := h.running index henabled
  refine ⟨item, change, hitem, hchange, ?_⟩
  unfold finish
  rw [hitem, Option.bind_some, hchange]

/-- The slot that the loop writes has its value unless a task is to change it. -/
theorem Filled.slot_next (h : Filled job items state) (henabled : state.next < items.length) :
    (advance job items state).slots[state.next]? =
      some (if state.next ∈ (advance job items state).running then job.write items[state.next]
        else job.result items[state.next]) := by
  have hidle : state.next ∉ state.running := fun hmem ↦ (h.running _ hmem).1.false
  have hwritten : state.next < state.slots.length := by rw [h.length]; exact henabled
  have hmem : state.next ∈ (ForkJoin.advance job items state).running ↔
      (job.task items[state.next]).isSome = true := by
    rw [mem_running_advance henabled, or_iff_right hidle, and_iff_right rfl]
  have hslot : (ForkJoin.advance job items state).slots[state.next]? =
      some (job.write items[state.next]) := by
    rw [advance_eq henabled]
    exact List.getElem?_set_self hwritten
  rw [hslot]
  by_cases htask : (job.task items[state.next]).isSome = true
  · rw [if_pos (hmem.mpr htask)]
  · rw [if_neg (mt hmem.mp htask)]
    unfold Job.result
    rw [Option.not_isSome_iff_eq_none.mp htask]
    rfl

theorem Filled.advance (h : Filled job items state) (henabled : state.next < items.length) :
    Filled job items (advance job items state) := by
  have hnext : (ForkJoin.advance job items state).next = state.next + 1 := by rw [advance_eq henabled]
  have hslots : (ForkJoin.advance job items state).slots =
      state.slots.set state.next (job.write items[state.next]) := by rw [advance_eq henabled]
  have hmem : ∀ index, index ∈ (ForkJoin.advance job items state).running ↔
      index ∈ state.running ∨ index = state.next ∧ (job.task items[state.next]).isSome = true :=
    mem_running_advance henabled
  refine ⟨hnext.trans_le henabled, ?_, fun index hindex ↦ ?_, fun index item hpassed hat ↦ ?_⟩
  · rw [hslots, List.length_set, h.length]
  · rw [hnext]
    rcases (hmem index).mp hindex with hold | ⟨rfl, htask⟩
    · exact ⟨(h.running index hold).1.trans (Nat.lt_succ_self _), (h.running index hold).2⟩
    · obtain ⟨change, hchange⟩ := Option.isSome_iff_exists.mp htask
      exact ⟨Nat.lt_succ_self _, _, change, List.getElem?_eq_getElem henabled, hchange⟩
  · by_cases hhere : index = state.next
    · subst hhere
      obtain rfl := Option.some.inj ((List.getElem?_eq_getElem henabled).symm.trans hat)
      exact h.slot_next henabled
    · have hbefore : index < state.next := by omega
      have hsame := hmem index
      rw [or_iff_left fun hnew ↦ hhere hnew.1] at hsame
      rw [hslots, List.getElem?_set_ne (Ne.symm hhere), h.slot index item hbefore hat]
      simp only [hsame]

theorem Filled.finish (h : Filled job items state) {index : ℕ} (henabled : index ∈ state.running) :
    Filled job items (finish job items state index) := by
  obtain ⟨item, change, hitem, hchange, heq⟩ := h.finish_eq henabled
  rw [heq]
  refine ⟨h.next_le, (List.length_modify ..).trans h.length,
    fun other hother ↦ h.running other (Finset.mem_of_mem_erase hother), fun other found hnext hat ↦ ?_⟩
  have hslot := h.slot other found hnext hat
  rw [List.getElem?_modify, hslot]
  by_cases hhere : index = other
  · subst hhere
    obtain rfl := Option.some.inj (hitem.symm.trans hat)
    simp [henabled, Job.result, hchange]
  · have hsame : other ∈ state.running.erase index ↔ other ∈ state.running := by
      rw [Finset.mem_erase, and_iff_right (Ne.symm hhere)]
    simp only [hsame, if_neg hhere]
    rfl

theorem Filled.step (h : Filled job items state) {action : Action}
    (henabled : Enabled items state action) : Filled job items (step job items state action) := by
  cases action with
  | advance => exact h.advance henabled
  | finish index => exact h.finish henabled

/-- The slots in the end, whatever the order of the steps was. -/
theorem Filled.slots_eq (h : Filled job items state) (hdone : Done items state) :
    state.slots = items.map job.result := by
  refine List.ext_getElem? fun index ↦ ?_
  rw [List.getElem?_map]
  cases hitem : items[index]? with
  | none =>
    have hpast := List.getElem?_eq_none_iff.mp hitem
    exact List.getElem?_eq_none (by rw [h.length]; exact hpast)
  | some item =>
    have hnext : index < state.next := by
      rw [hdone.1]
      exact (List.getElem?_eq_some_iff.mp hitem).1
    have hidle : index ∉ state.running := by rw [hdone.2]; exact Finset.notMem_empty index
    rw [h.slot index item hnext hitem, if_neg hidle]
    rfl

/-! ## Progress -/

/-- The items that the loop has not passed count twice, the tasks that run once. -/
def remaining (items : List ι) (state : State β) : ℕ :=
  2 * (items.length - state.next) + state.running.card

theorem Filled.remaining_lt (h : Filled job items state) {action : Action}
    (henabled : Enabled items state action) :
    remaining items (ForkJoin.step job items state action) < remaining items state := by
  unfold remaining
  cases action with
  | advance =>
    have hlt : state.next < items.length := henabled
    have hcard := Finset.card_insert_le state.next state.running
    change 2 * (items.length - (ForkJoin.advance job items state).next) +
      (ForkJoin.advance job items state).running.card < _
    rw [advance_eq hlt]
    dsimp only
    split <;> omega
  | finish index =>
    obtain ⟨item, change, -, -, heq⟩ := h.finish_eq henabled
    have hcard := Finset.card_erase_lt_of_mem henabled
    change 2 * (items.length - (ForkJoin.finish job items state index).next) +
      (ForkJoin.finish job items state index).running.card < _
    rw [heq]
    exact Nat.add_lt_add_left hcard _

theorem exists_enabled (h : Filled job items state) (hopen : ¬Done items state) :
    ∃ action, Enabled items state action := by
  by_cases hnext : state.next = items.length
  · have hrunning : state.running ≠ ∅ := fun hnone ↦ hopen ⟨hnext, hnone⟩
    obtain ⟨index, hindex⟩ := Finset.nonempty_of_ne_empty hrunning
    exact ⟨.finish index, hindex⟩
  · exact ⟨.advance, lt_of_le_of_ne h.next_le hnext⟩

section Runs

variable {actions : List Action} {empty : β}

theorem filled_of_run (hrun : Along (step job items) (Enabled items) (start items empty) actions) :
    Filled job items (actions.foldl (step job items) (start items empty)) :=
  invariant_of_along (fun _ _ h henabled ↦ h.step henabled) hrun (filled_start empty)

/-- A run has at most two steps for each item. -/
theorem length_run_le (hrun : Along (step job items) (Enabled items) (start items empty) actions) :
    actions.length ≤ 2 * items.length := by
  have hcount : actions.countP (fun _ ↦ true) +
      remaining items (actions.foldl (step job items) (start items empty)) ≤
      remaining items (start items empty) + 0 * actions.countP (fun _ ↦ !true) :=
    countP_own_le (fun _ _ h henabled ↦ Filled.step h henabled)
      (fun _ _ h henabled _ ↦ h.remaining_lt henabled)
      (fun _ _ h henabled ↦ (h.remaining_lt henabled).le) hrun (filled_start empty)
  have hstart : remaining items (start items empty) = 2 * items.length := rfl
  rw [hstart, List.countP_true] at hcount
  omega

/-- Every run goes on to one that is done. -/
theorem exists_done (hrun : Along (step job items) (Enabled items) (start items empty) actions) :
    ∃ later, Along (step job items) (Enabled items) (start items empty) (actions ++ later) ∧
      Done items ((actions ++ later).foldl (step job items) (start items empty)) := by
  have hexists : ∃ later : List Action, (∀ action ∈ later, (fun _ ↦ true) action = true) ∧
      Along (step job items) (Enabled items) (actions.foldl (step job items) (start items empty)) later ∧
      Done items (later.foldl (step job items) (actions.foldl (step job items) (start items empty))) :=
    exists_final (fun _ _ h henabled ↦ Filled.step h henabled)
      (fun _ _ h henabled _ ↦ h.remaining_lt henabled)
      (fun _ h hopen ↦ (exists_enabled h hopen).imp fun _ henabled ↦ ⟨rfl, henabled⟩)
      _ (filled_of_run hrun)
  obtain ⟨later, -, hlater, hdone⟩ := hexists
  refine ⟨later, (along_append actions later).mpr ⟨hrun, hlater⟩, ?_⟩
  rw [List.foldl_append]
  exact hdone

end Runs

end Huntarr2.ForkJoin
