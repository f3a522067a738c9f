import Huntarr2.Foundation.Machine
import Huntarr2.Scheduler.Tick

/-!
# Ticks as runs of steps

The control flow of a tick decides which of its steps are taken; every step on its own changes the
world in one of a few ways. A run of ticks is the fold of the steps it takes, so an invariant is
proved step by step and holds at every step of every run.
-/

namespace Huntarr2.Scheduling

open Activity Arr Cooldown GoStd Settings

/-- The steps of a tick. -/
inductive Step
  | start (now : Time)
  | readLimit (limit : ℤ)
  | turn (now : Time) (inst : Instance) (cancelled : Bool) (io : TurnIO)
  | rateLimited (limit : ℤ)
  | removeUnlisted (insts : List Instance)
  | checkPoll (now : Time)
  | poll (inst : Instance) (io : PollIO)
  | prune (now : Time) (cancelled : Bool) (io : PruneIO)

/-- What a step does to the world. -/
def Step.apply (world : World) : Step → World
  | .start now => startTick world now
  | .readLimit limit => setHourlyLimit world limit
  | .turn now inst cancelled io => takeTurn world now inst cancelled io
  | .rateLimited limit => world.log (rateLimitEntry limit)
  | .removeUnlisted insts => Scheduling.removeUnlisted world insts
  | .checkPoll now => Scheduling.checkPoll world now
  | .poll inst io => pollInstanceHistory world inst io
  | .prune now cancelled io => pruneActivityLog world now cancelled io

/-! ## The steps of a tick -/

/-- The steps of the loop over the instances; the flag says that the tick returns. -/
def searchSteps (io : TickIO) (limit : ℤ) : World → ℕ → List Instance → List Step × Bool
  | _, _, [] => ([], false)
  | world, index, inst :: insts =>
    if io.cancelled (2 * index) then ([], true)
    else if limit ≤ world.sched.searchCount then ([.rateLimited limit], false)
    else
      let step := Step.turn io.now inst (io.cancelled (2 * index + 1)) (io.turn inst.id)
      let rest := searchSteps io limit (step.apply world) (index + 1) insts
      (step :: rest.1, rest.2)

/-- The steps of the loop over the polls. -/
def pollSteps (io : TickIO) : ℕ → List Instance → List Step
  | _, [] => []
  | point, inst :: insts =>
    if io.cancelled point then []
    else .poll inst (io.poll inst.id) :: pollSteps io (point + 1) insts

/-- The steps after the loop over the instances. -/
def closingSteps (io : TickIO) (world : World) (insts : List Instance) : List Step :=
  .removeUnlisted insts :: .checkPoll io.pollAt ::
    ((if pollDue world io.pollAt then pollSteps io (2 * insts.length) insts else []) ++
      [.prune io.now (io.cancelled (3 * insts.length)) io.prune])

/-- The steps a tick takes. -/
def tickSteps (world : World) (io : TickIO) : List Step :=
  .start io.now ::
    match io.globalSettings with
    | .error _ => []
    | .ok globalSettings =>
      .readLimit globalSettings.1.searchLimit ::
        match io.instances with
        | .error _ => []
        | .ok list =>
          let opened := setHourlyLimit (startTick world io.now) globalSettings.1.searchLimit
          let searched := searchSteps io globalSettings.1.searchLimit opened 0 list.insts
          searched.1 ++
            if searched.2 then []
            else closingSteps io (searched.1.foldl Step.apply opened) list.insts

theorem searchLoop_eq (io : TickIO) (limit : ℤ) (world : World) (index : ℕ)
    (insts : List Instance) :
    searchLoop io limit world index insts =
      ((searchSteps io limit world index insts).1.foldl Step.apply world,
        (searchSteps io limit world index insts).2) := by
  induction insts generalizing world index with
  | nil => rfl
  | cons inst insts ih =>
    unfold searchLoop searchSteps
    split
    · rfl
    · split
      · rfl
      · rw [ih]
        rfl

theorem pollLoop_eq (io : TickIO) (world : World) (point : ℕ) (insts : List Instance) :
    pollLoop io world point insts = (pollSteps io point insts).foldl Step.apply world := by
  induction insts generalizing world point with
  | nil => rfl
  | cons inst insts ih =>
    unfold pollLoop pollSteps
    split
    · rfl
    · rw [ih]
      rfl

/-- The end of a tick: removal of unlisted schedules, polls and pruning. -/
theorem foldl_closingSteps (io : TickIO) (world : World) (insts : List Instance) :
    (closingSteps io world insts).foldl Step.apply world =
      pruneActivityLog (pollUpgradeHistory (removeUnlisted world insts) io insts) io.now
        (io.cancelled (3 * insts.length)) io.prune := by
  have hremoved : pollDue (removeUnlisted world insts) io.pollAt = pollDue world io.pollAt := rfl
  unfold closingSteps pollUpgradeHistory
  rw [List.foldl_cons, List.foldl_cons, List.foldl_append, List.foldl_cons, List.foldl_nil, hremoved]
  cases pollDue world io.pollAt with
  | true =>
    rw [if_pos rfl, if_pos rfl, pollLoop_eq]
    rfl
  | false =>
    rw [if_neg Bool.false_ne_true, if_neg Bool.false_ne_true]
    rfl

/-- A tick is the fold of its steps. -/
theorem tick_eq_foldl (world : World) (io : TickIO) :
    tick world io = (tickSteps world io).foldl Step.apply world := by
  unfold tick tickSteps
  rw [List.foldl_cons]
  cases io.globalSettings with
  | error err => rfl
  | ok globalSettings =>
    rw [List.foldl_cons]
    cases io.instances with
    | error err => rfl
    | ok list =>
      simp only [searchLoop_eq, List.foldl_append, Step.apply]
      split
      · rfl
      · exact (foldl_closingSteps io _ list.insts).symm

/-! ## The steps of a run -/

/-- The steps of a run of ticks. -/
def runSteps : World → List TickIO → List Step
  | _, [] => []
  | world, io :: ios => tickSteps world io ++ runSteps (tick world io) ios

/-- A run of ticks is the fold of its steps. -/
theorem foldl_tick (world : World) (ios : List TickIO) :
    ios.foldl tick world = (runSteps world ios).foldl Step.apply world := by
  induction ios generalizing world with
  | nil => rfl
  | cons io ios ih =>
    rw [List.foldl_cons, ih, runSteps, List.foldl_append, ← tick_eq_foldl]

/-- The loop over the instances takes turns, and the limit may end it. -/
theorem mem_searchSteps {io : TickIO} {limit : ℤ} {world : World} {index : ℕ}
    {insts : List Instance} {step : Step}
    (hstep : step ∈ (searchSteps io limit world index insts).1) :
    (∃ inst ∈ insts, ∃ cancelled, step = .turn io.now inst cancelled (io.turn inst.id)) ∨
      step = .rateLimited limit := by
  induction insts generalizing world index with
  | nil => exact absurd hstep List.not_mem_nil
  | cons inst insts ih =>
    unfold searchSteps at hstep
    split at hstep
    · exact absurd hstep List.not_mem_nil
    · split at hstep
      · exact Or.inr (List.mem_singleton.mp hstep)
      · cases List.mem_cons.mp hstep with
        | inl hturn => exact Or.inl ⟨inst, List.mem_cons_self, _, hturn⟩
        | inr hlater =>
          refine (ih hlater).imp_left ?_
          exact fun ⟨later, hmem, hturn⟩ ↦ ⟨later, List.mem_cons_of_mem inst hmem, hturn⟩

theorem mem_pollSteps {io : TickIO} {point : ℕ} {insts : List Instance} {step : Step}
    (hstep : step ∈ pollSteps io point insts) :
    ∃ inst ∈ insts, step = .poll inst (io.poll inst.id) := by
  induction insts generalizing point with
  | nil => exact absurd hstep List.not_mem_nil
  | cons inst insts ih =>
    unfold pollSteps at hstep
    split at hstep
    · exact absurd hstep List.not_mem_nil
    · cases List.mem_cons.mp hstep with
      | inl hpoll => exact ⟨inst, List.mem_cons_self, hpoll⟩
      | inr hlater =>
        obtain ⟨later, hmem, hpoll⟩ := ih hlater
        exact ⟨later, List.mem_cons_of_mem inst hmem, hpoll⟩

/-- The end of a tick checks for the polls, takes them and prunes. -/
theorem mem_closingSteps {io : TickIO} {world : World} {insts : List Instance} {step : Step}
    (hstep : step ∈ closingSteps io world insts) :
    step = .removeUnlisted insts ∨ step = .checkPoll io.pollAt ∨
      (∃ inst ∈ insts, step = .poll inst (io.poll inst.id)) ∨
        ∃ cancelled, step = .prune io.now cancelled io.prune := by
  unfold closingSteps at hstep
  rw [List.mem_cons, List.mem_cons, List.mem_append, List.mem_singleton] at hstep
  refine hstep.imp_right (Or.imp_right (Or.imp (fun hpolls ↦ ?_) fun hprune ↦ ⟨_, hprune⟩))
  split at hpolls
  · exact mem_pollSteps hpolls
  · exact absurd hpolls List.not_mem_nil

/-- What the steps of a tick have from it. -/
def Step.Of (io : TickIO) : Step → Prop
  | .start now => now = io.now
  | .readLimit limit => ∃ settings, io.globalSettings = .ok settings ∧ limit = settings.1.searchLimit
  | .turn now inst _ turnIO =>
    now = io.now ∧ turnIO = io.turn inst.id ∧ ∃ list, io.instances = .ok list ∧ inst ∈ list.insts
  | .rateLimited _ => True
  | .removeUnlisted insts => (∃ settings, io.globalSettings = .ok settings) ∧
      ∃ list, io.instances = .ok list ∧ insts = list.insts
  | .checkPoll now => now = io.pollAt
  | .poll inst pollIO => pollIO = io.poll inst.id ∧ ∃ list, io.instances = .ok list ∧ inst ∈ list.insts
  | .prune now _ pruneIO => now = io.now ∧ pruneIO = io.prune

theorem tickSteps_of {world : World} {io : TickIO} {step : Step} (hstep : step ∈ tickSteps world io) :
    step.Of io := by
  unfold tickSteps at hstep
  cases List.mem_cons.mp hstep with
  | inl hstart =>
    rw [hstart]
    rfl
  | inr hstep =>
    cases hsettings : io.globalSettings with
    | error err =>
      rw [hsettings] at hstep
      exact absurd hstep List.not_mem_nil
    | ok settings =>
      rw [hsettings] at hstep
      cases List.mem_cons.mp hstep with
      | inl hread =>
        rw [hread]
        exact ⟨settings, hsettings, rfl⟩
      | inr hstep =>
        cases hlist : io.instances with
        | error err =>
          rw [hlist] at hstep
          exact absurd hstep List.not_mem_nil
        | ok list =>
          rw [hlist] at hstep
          cases List.mem_append.mp hstep with
          | inl hsearch =>
            rcases mem_searchSteps hsearch with ⟨inst, hinst, cancelled, rfl⟩ | rfl
            · exact ⟨rfl, rfl, list, hlist, hinst⟩
            · trivial
          | inr hclosing =>
            split at hclosing
            · exact absurd hclosing List.not_mem_nil
            · rcases mem_closingSteps hclosing with rfl | rfl | ⟨inst, hinst, rfl⟩ | ⟨cancelled, rfl⟩
              · exact ⟨⟨settings, hsettings⟩, list, hlist, rfl⟩
              · rfl
              · exact ⟨rfl, list, hlist, hinst⟩
              · exact ⟨rfl, rfl⟩

/-- Every step of a run has its data from one of the run's ticks. -/
theorem runSteps_of {world : World} {ios : List TickIO} {step : Step}
    (hstep : step ∈ runSteps world ios) : ∃ io ∈ ios, step.Of io := by
  induction ios generalizing world with
  | nil => exact absurd hstep List.not_mem_nil
  | cons io ios ih =>
    cases List.mem_append.mp hstep with
    | inl hhere => exact ⟨io, List.mem_cons_self, tickSteps_of hhere⟩
    | inr hlater =>
      obtain ⟨later, hmem, hof⟩ := ih hlater
      exact ⟨later, List.mem_cons_of_mem io hmem, hof⟩

end Huntarr2.Scheduling
