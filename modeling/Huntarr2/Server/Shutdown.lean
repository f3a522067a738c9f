import Huntarr2.Foundation.Progress

/-!
# Shutting down

The goroutines of `Run`: the main one, the scheduler's, the listener's, and one for every connection.
They meet at the contexts, the channels `schedDone` and `errCh` and the flag of `Shutdown`; any of them
may move at any time, and a `select` with two ready cases takes either.
-/

namespace Huntarr2.Lifecycle

open Machine

/-! ## Goroutines -/

/-- What `ListenAndServe` returns. -/
inductive ListenError
  | serverClosed
  | failed (message : String)
  deriving DecidableEq, Repr

/-- The message of an error that is not `ErrServerClosed`. -/
def ListenError.failure : ListenError → Option String
  | .serverClosed => none
  | .failed message => some message

/-- The scheduler's goroutine: the loop of `Scheduler.Run`, its return, and the closing of
`schedDone`. -/
inductive Loop
  | starting
  | selecting
  | ticking
  | leaving
  | done
  deriving DecidableEq, Repr

/-- The goroutine of `ListenAndServe`. -/
inductive Listener
  | starting
  | serving
  | returned
  deriving DecidableEq, Repr

/-- The main goroutine in `Run`, and in `run` after it. No error is `none`. -/
inductive Main
  | selecting
  | cancelling (failure : Option String)
  | awaiting (failure : Option String)
  | shuttingDown
  | draining
  | returned (err : Option String)
  | closed (err : Option String)
  deriving DecidableEq, Repr

/-- What `Run` has returned. -/
def Main.result? : Main → Option (Option String)
  | .returned err | .closed err => some err
  | _ => none

/-- `schedDone` has been received from. -/
def Main.stopped : Main → Bool
  | .selecting | .cancelling _ | .awaiting _ => false
  | .shuttingDown | .draining | .returned _ | .closed _ => true

/-- `schedCancel` has been called. -/
def Main.cancelled : Main → Bool
  | .selecting | .cancelling _ => false
  | _ => true

/-- The failure of the listener that was received. -/
def Main.failure? : Main → Option String
  | .cancelling failure | .awaiting failure => failure
  | _ => none

/-- The `select` is behind, and no failure was received. -/
def Main.graceful : Main → Bool
  | .cancelling none | .awaiting none | .shuttingDown | .draining => true
  | _ => false

/-- The connections are counted: those that wait for a request, and those that serve one. -/
structure State where
  ctxDone : Bool
  schedCancelled : Bool
  tickReady : Bool
  loop : Loop
  running : Bool
  listener : Listener
  errCh : Option ListenError
  inShutdown : Bool
  idle : ℕ
  active : ℕ
  main : Main
  deriving DecidableEq, Repr

/-- Both goroutines have been started. -/
def State.initial : State where
  ctxDone := false
  schedCancelled := false
  tickReady := false
  loop := .starting
  running := false
  listener := .starting
  errCh := none
  inShutdown := false
  idle := 0
  active := 0
  main := .selecting

inductive Action
  -- the environment
  | signal
  | fire
  | accept
  | request
  | disconnect
  | listenFails (message : String)
  | timeout
  -- the scheduler
  | startLoop
  | tick
  | endTick
  | stopLoop
  | closeDone
  -- the HTTP server
  | listen
  | closeListener
  | respond
  -- the main goroutine
  | receive (err : ListenError)
  | observe
  | cancel (failure : Option String)
  | resume (failure : Option String)
  | shutdown
  | closeIdle (fresh : ℕ)
  | drain (failure : Option String)
  | closeDatabase (err : Option String)
  deriving DecidableEq, Repr

/-- The actions that the program takes by itself. -/
def Action.own : Action → Bool
  | .signal | .fire | .accept | .request | .disconnect | .listenFails _ | .timeout => false
  | _ => true

/-- The actions of the main goroutine, and the timeout in it. -/
def Action.movesMain : Action → Bool
  | .receive _ | .observe | .cancel _ | .resume _ | .shutdown | .timeout | .drain _
  | .closeDatabase _ => true
  | _ => false

namespace State

variable (state : State)

/-- When an action is possible. `Shutdown` waits for the listener, then closes the idle connections
but the fresh ones until there is none of either kind. -/
def enabled : Action → Bool
  | .signal | .fire => true
  | .accept => state.listener = .serving
  | .request | .disconnect => 0 < state.idle
  | .listenFails _ =>
    state.listener = .starting ∨ state.listener = .serving ∧ state.inShutdown = false
  | .timeout => state.main = .draining ∧ state.listener ≠ .serving
  | .startLoop => state.loop = .starting
  | .tick => state.loop = .selecting ∧ state.tickReady = true
  | .endTick => state.loop = .ticking
  | .stopLoop => state.loop = .selecting ∧ (state.ctxDone = true ∨ state.schedCancelled = true)
  | .closeDone => state.loop = .leaving
  | .listen => state.listener = .starting ∧ state.inShutdown = false
  | .closeListener => state.listener ≠ .returned ∧ state.inShutdown = true
  | .respond => 0 < state.active
  | .receive err => state.main = .selecting ∧ state.errCh = some err
  | .observe => state.main = .selecting ∧ state.ctxDone = true
  | .cancel failure => state.main = .cancelling failure
  | .resume failure => state.main = .awaiting failure ∧ state.loop = .done
  | .shutdown => state.main = .shuttingDown
  | .closeIdle fresh => state.main = .draining ∧ state.listener ≠ .serving ∧ fresh < state.idle
  | .drain _ =>
    state.main = .draining ∧ state.listener ≠ .serving ∧ state.idle = 0 ∧ state.active = 0
  | .closeDatabase err => state.main = .returned err

/-- What an action does. A connection is closed after its request once `Shutdown` has begun. -/
def step : Action → State
  | .signal => { state with ctxDone := true }
  | .fire => { state with tickReady := true }
  | .accept => { state with idle := state.idle + 1 }
  | .request => { state with idle := state.idle - 1, active := state.active + 1 }
  | .disconnect => { state with idle := state.idle - 1 }
  | .listenFails message =>
    { state with listener := .returned, errCh := some (.failed message) }
  | .timeout =>
    { state with main := .returned (some ("shutdown error: " ++ "context deadline exceeded")) }
  | .startLoop => { state with loop := .selecting, running := true }
  | .tick => { state with loop := .ticking, tickReady := false }
  | .endTick => { state with loop := .selecting }
  | .stopLoop => { state with loop := .leaving, running := false }
  | .closeDone => { state with loop := .done }
  | .listen => { state with listener := .serving }
  | .closeListener => { state with listener := .returned, errCh := some .serverClosed }
  | .respond => { state with
      active := state.active - 1
      idle := if state.inShutdown then state.idle else state.idle + 1 }
  | .receive err => { state with errCh := none, main := .cancelling err.failure }
  | .observe => { state with main := .cancelling none }
  | .cancel failure => { state with schedCancelled := true, main := .awaiting failure }
  | .resume (some failure) => { state with main := .returned (some ("server error: " ++ failure)) }
  | .resume none => { state with main := .shuttingDown }
  | .shutdown => { state with inShutdown := true, main := .draining }
  | .closeIdle fresh => { state with idle := fresh }
  | .drain failure => { state with main := .returned (failure.map ("shutdown error: " ++ ·)) }
  | .closeDatabase err => { state with main := .closed err }

end State

/-- A run of the goroutines in any interleaving. -/
abbrev Run (state : State) (actions : List Action) : Prop :=
  Along State.step (fun state action ↦ state.enabled action = true) state actions

/-! ## What holds of every interleaving -/

/-- The goroutines' own data agree with where the others are. -/
structure Sound (state : State) : Prop where
  running : state.running = true ↔ state.loop = .selecting ∨ state.loop = .ticking
  stopped : state.main.stopped = true → state.loop = .done
  cancelled : state.main.cancelled = true → state.schedCancelled = true
  graceful : state.main.graceful = true → state.ctxDone = true
  /-- `Shutdown` begins in its turn only. -/
  inShutdown : state.inShutdown = true → state.main = .draining ∨ state.main.result?.isSome = true
  draining : state.main = .draining → state.inShutdown = true
  serverClosed : state.errCh = some .serverClosed → state.inShutdown = true
  drained : state.main.result? = some none → state.ctxDone = true ∧ state.inShutdown = true ∧
    state.listener ≠ .serving ∧ state.idle = 0 ∧ state.active = 0

namespace Sound

variable {state : State}

theorem initial : Sound .initial where
  running := by decide
  stopped := nofun
  cancelled := nofun
  graceful := nofun
  inShutdown := nofun
  draining := nofun
  serverClosed := nofun
  drained := nofun

/-- Before `Shutdown` begins its flag is not set. -/
theorem not_inShutdown (h : Sound state) (hmain : state.main ≠ .draining)
    (hresult : state.main.result? = none) : state.inShutdown = false := by
  refine Bool.eq_false_iff.mpr fun hflag ↦ ?_
  cases h.inShutdown hflag with
  | inl hdraining => exact hmain hdraining
  | inr hreturned =>
    rw [hresult] at hreturned
    cases hreturned

/-- The scheduler's goroutine moves while nobody has received from `schedDone`. -/
theorem loop (h : Sound state) (hloop : state.loop ≠ .done) {loop : Loop} {running tickReady : Bool}
    (hrunning : running = true ↔ loop = .selecting ∨ loop = .ticking) :
    Sound { state with loop := loop, running := running, tickReady := tickReady } :=
  { h with
    running := hrunning
    stopped := fun hstopped ↦ absurd (h.stopped hstopped) hloop }

theorem signal (h : Sound state) : Sound { state with ctxDone := true } :=
  { h with
    graceful := fun _ ↦ rfl
    drained := fun hresult ↦ ⟨rfl, (h.drained hresult).2⟩ }

/-- A connection is accepted, or changes, only where there is a listener or a connection. -/
theorem connections (h : Sound state)
    (hsome : state.listener = .serving ∨ 0 < state.idle ∨ 0 < state.active) (idle active : ℕ) :
    Sound { state with idle := idle, active := active } :=
  { h with
    drained := fun hresult ↦ by
      obtain ⟨-, -, hlistener, hidle, hactive⟩ := h.drained hresult
      rcases hsome with hserving | hsome | hsome
      · exact absurd hserving hlistener
      · exact absurd hidle (Nat.ne_of_gt hsome)
      · exact absurd hactive (Nat.ne_of_gt hsome) }

theorem listen (h : Sound state) (hflag : state.inShutdown = false) :
    Sound { state with listener := .serving } :=
  { h with
    drained := fun hresult ↦ absurd (h.drained hresult).2.1 (Bool.eq_false_iff.mp hflag) }

/-- `ListenAndServe` returns. -/
theorem listenerReturns (h : Sound state) {err : ListenError}
    (hclosed : err = .serverClosed → state.inShutdown = true) :
    Sound { state with listener := .returned, errCh := some err } :=
  { h with
    serverClosed := fun herr ↦ hclosed (Option.some.inj herr)
    drained := fun hresult ↦
      ⟨(h.drained hresult).1, (h.drained hresult).2.1, nofun, (h.drained hresult).2.2.2⟩ }

/-- What `ListenAndServe` returned before `Shutdown` is a failure. -/
theorem receive (h : Sound state) {err : ListenError} (hmain : state.main = .selecting)
    (herr : state.errCh = some err) :
    Sound { state with errCh := none, main := .cancelling err.failure } :=
  have hflag : state.inShutdown = false := h.not_inShutdown (by rw [hmain]; nofun) (by rw [hmain]; rfl)
  { h with
    stopped := nofun
    cancelled := nofun
    graceful := fun hgraceful ↦ by
      cases err with
      | serverClosed => exact absurd (h.serverClosed herr) (Bool.eq_false_iff.mp hflag)
      | failed message => cases hgraceful
    inShutdown := fun hset ↦ absurd hset (Bool.eq_false_iff.mp hflag)
    draining := nofun
    serverClosed := nofun
    drained := nofun }

theorem observe (h : Sound state) (hmain : state.main = .selecting) (hctx : state.ctxDone = true) :
    Sound { state with main := .cancelling none } :=
  have hflag : state.inShutdown = false := h.not_inShutdown (by rw [hmain]; nofun) (by rw [hmain]; rfl)
  { h with
    stopped := nofun
    cancelled := nofun
    graceful := fun _ ↦ hctx
    inShutdown := fun hset ↦ absurd hset (Bool.eq_false_iff.mp hflag)
    draining := nofun
    drained := nofun }

theorem cancel (h : Sound state) {failure : Option String} (hmain : state.main = .cancelling failure) :
    Sound { state with schedCancelled := true, main := .awaiting failure } :=
  have hflag : state.inShutdown = false := h.not_inShutdown (by rw [hmain]; nofun) (by rw [hmain]; rfl)
  { h with
    stopped := nofun
    cancelled := fun _ ↦ rfl
    graceful := fun hgraceful ↦ h.graceful (by
      rw [hmain]
      cases failure with
      | none => rfl
      | some => cases hgraceful)
    inShutdown := fun hset ↦ absurd hset (Bool.eq_false_iff.mp hflag)
    draining := nofun
    drained := nofun }

/-- The scheduler has stopped; after a failure of the listener that is all. -/
theorem resume (h : Sound state) {failure : Option String} (hmain : state.main = .awaiting failure)
    (hloop : state.loop = .done) : Sound (state.step (.resume failure)) := by
  have hflag : state.inShutdown = false := h.not_inShutdown (by rw [hmain]; nofun) (by rw [hmain]; rfl)
  have hcancelled : state.schedCancelled = true := h.cancelled (by rw [hmain]; rfl)
  cases failure with
  | none =>
    exact { h with
      stopped := fun _ ↦ hloop
      cancelled := fun _ ↦ hcancelled
      graceful := fun _ ↦ h.graceful (by rw [hmain]; rfl)
      inShutdown := fun hset ↦ absurd hset (Bool.eq_false_iff.mp hflag)
      draining := nofun
      drained := nofun }
  | some failure =>
    exact { h with
      stopped := fun _ ↦ hloop
      cancelled := fun _ ↦ hcancelled
      graceful := nofun
      inShutdown := fun _ ↦ Or.inr rfl
      draining := nofun
      drained := nofun }

theorem shutdown (h : Sound state) (hmain : state.main = .shuttingDown) :
    Sound { state with inShutdown := true, main := .draining } :=
  { h with
    stopped := fun _ ↦ h.stopped (by rw [hmain]; rfl)
    cancelled := fun _ ↦ h.cancelled (by rw [hmain]; rfl)
    graceful := fun _ ↦ h.graceful (by rw [hmain]; rfl)
    inShutdown := fun _ ↦ Or.inl rfl
    draining := fun _ ↦ rfl
    serverClosed := fun _ ↦ rfl
    drained := nofun }

/-- `Shutdown` returns: without an error only once there are no connections. -/
theorem shutdownReturns (h : Sound state) (hmain : state.main = .draining)
    (hlistener : state.listener ≠ .serving) {err : Option String}
    (hdrained : err = none → state.idle = 0 ∧ state.active = 0) :
    Sound { state with main := .returned err } :=
  have hctx : state.ctxDone = true := h.graceful (by rw [hmain]; rfl)
  { h with
    stopped := fun _ ↦ h.stopped (by rw [hmain]; rfl)
    cancelled := fun _ ↦ h.cancelled (by rw [hmain]; rfl)
    graceful := nofun
    inShutdown := fun _ ↦ Or.inr rfl
    draining := nofun
    drained := fun hresult ↦
      ⟨hctx, h.draining hmain, hlistener, hdrained (Option.some.inj hresult)⟩ }

theorem closeDatabase (h : Sound state) {err : Option String} (hmain : state.main = .returned err) :
    Sound { state with main := .closed err } :=
  { h with
    stopped := fun _ ↦ h.stopped (by rw [hmain]; rfl)
    cancelled := fun _ ↦ h.cancelled (by rw [hmain]; rfl)
    graceful := nofun
    inShutdown := fun _ ↦ Or.inr rfl
    draining := nofun
    drained := fun hresult ↦ h.drained (by rw [hmain]; exact hresult) }

/-- Every step of every goroutine keeps this. -/
theorem step (h : Sound state) {action : Action} (henabled : state.enabled action = true) :
    Sound (state.step action) := by
  cases action with
  | signal => exact h.signal
  | fire => exact { h with }
  | accept => exact h.connections (Or.inl (of_decide_eq_true henabled)) _ _
  | request | disconnect => exact h.connections (Or.inr (Or.inl (of_decide_eq_true henabled))) _ _
  | listenFails message => exact h.listenerReturns nofun
  | timeout =>
    obtain ⟨hmain, hlistener⟩ := of_decide_eq_true henabled
    exact h.shutdownReturns hmain hlistener nofun
  | startLoop =>
    have hloop : state.loop = .starting := of_decide_eq_true henabled
    exact h.loop (hloop ▸ nofun) (iff_of_true rfl (Or.inl rfl))
  | tick =>
    have hloop : state.loop = .selecting := (of_decide_eq_true henabled).1
    exact h.loop (hloop ▸ nofun) (iff_of_true (h.running.mpr (Or.inl hloop)) (Or.inr rfl))
  | endTick =>
    have hloop : state.loop = .ticking := of_decide_eq_true henabled
    exact h.loop (hloop ▸ nofun) (iff_of_true (h.running.mpr (Or.inr hloop)) (Or.inl rfl))
  | stopLoop =>
    have hloop : state.loop = .selecting := (of_decide_eq_true henabled).1
    exact h.loop (hloop ▸ nofun) (iff_of_false nofun (not_or.mpr ⟨nofun, nofun⟩))
  | closeDone =>
    have hloop : state.loop = .leaving := of_decide_eq_true henabled
    have hrunning : ¬state.running = true := by
      rw [h.running, hloop]
      exact not_or.mpr ⟨nofun, nofun⟩
    exact h.loop (hloop ▸ nofun) (iff_of_false hrunning (not_or.mpr ⟨nofun, nofun⟩))
  | listen => exact h.listen (of_decide_eq_true henabled).2
  | closeListener => exact h.listenerReturns fun _ ↦ (of_decide_eq_true henabled).2
  | respond => exact h.connections (Or.inr (Or.inr (of_decide_eq_true henabled))) _ _
  | receive err => exact h.receive (of_decide_eq_true henabled).1 (of_decide_eq_true henabled).2
  | observe => exact h.observe (of_decide_eq_true henabled).1 (of_decide_eq_true henabled).2
  | cancel failure => exact h.cancel (of_decide_eq_true henabled)
  | resume failure => exact h.resume (of_decide_eq_true henabled).1 (of_decide_eq_true henabled).2
  | shutdown => exact h.shutdown (of_decide_eq_true henabled)
  | closeIdle fresh =>
    obtain ⟨-, -, hfresh⟩ := of_decide_eq_true henabled
    exact h.connections (Or.inr (Or.inl (Nat.zero_lt_of_lt hfresh))) _ _
  | drain failure =>
    obtain ⟨hmain, hlistener, hdrained⟩ := of_decide_eq_true henabled
    exact h.shutdownReturns hmain hlistener fun _ ↦ hdrained
  | closeDatabase err => exact h.closeDatabase (of_decide_eq_true henabled)

/-- So it holds after every run. -/
theorem run {actions : List Action} (h : Sound state) (hrun : Run state actions) :
    Sound (actions.foldl State.step state) :=
  invariant_of_along (fun _ _ hsound henabled ↦ hsound.step henabled) hrun h

end Sound

/-! ## The main goroutine -/

/-- The moves of the main goroutine. -/
inductive Moves : Main → Main → Prop
  | leave (failure : Option String) : Moves .selecting (.cancelling failure)
  | cancel (failure : Option String) : Moves (.cancelling failure) (.awaiting failure)
  | fail (failure : String) :
    Moves (.awaiting (some failure)) (.returned (some ("server error: " ++ failure)))
  | resume : Moves (.awaiting none) .shuttingDown
  | shutdown : Moves .shuttingDown .draining
  | drain (err : Option String) : Moves .draining (.returned err)
  | close (err : Option String) : Moves (.returned err) (.closed err)

section Main

variable {state : State} {action : Action}

theorem moves_of_main (henabled : state.enabled action = true) (hmain : action.movesMain = true) :
    Moves state.main (state.step action).main := by
  cases action with
  | receive err =>
    rw [(of_decide_eq_true henabled).1]
    exact .leave _
  | observe =>
    rw [(of_decide_eq_true henabled).1]
    exact .leave _
  | cancel failure =>
    rw [of_decide_eq_true henabled]
    exact .cancel failure
  | resume failure =>
    rw [(of_decide_eq_true henabled).1]
    cases failure with
    | none => exact .resume
    | some failure => exact .fail failure
  | shutdown =>
    rw [of_decide_eq_true henabled]
    exact .shutdown
  | timeout =>
    rw [(of_decide_eq_true henabled).1]
    exact .drain _
  | drain failure =>
    rw [(of_decide_eq_true henabled).1]
    exact .drain _
  | closeDatabase err =>
    rw [of_decide_eq_true henabled]
    exact .close err
  | signal | fire | accept | request | disconnect | listenFails message | startLoop | tick | endTick
  | stopLoop | closeDone | listen | closeListener | respond | closeIdle fresh => cases hmain

theorem main_step (henabled : state.enabled action = true) :
    (state.step action).main = state.main ∨ Moves state.main (state.step action).main := by
  by_cases hmain : action.movesMain = true
  · exact Or.inr (moves_of_main henabled hmain)
  · left
    cases action <;> first | rfl | exact absurd rfl hmain

/-- Nobody starts the scheduler again. -/
theorem stopped_run {actions : List Action} (hrun : Run state actions)
    (hstopped : state.main.stopped = true) :
    (actions.foldl State.step state).main.stopped = true := by
  refine invariant_of_along (motive := fun state ↦ state.main.stopped = true)
    (fun state action hstopped henabled ↦ ?_) hrun hstopped
  cases main_step henabled with
  | inl hsame => exact hsame ▸ hstopped
  | inr hmoves =>
    generalize state.main = before, (state.step action).main = after at hstopped hmoves
    cases hmoves <;> first | rfl | cases hstopped

/-- The result stays. -/
theorem result_run {actions : List Action} (hrun : Run state actions) {err : Option String}
    (hresult : state.main.result? = some err) :
    (actions.foldl State.step state).main.result? = some err := by
  refine invariant_of_along (motive := fun state ↦ state.main.result? = some err)
    (fun state action hresult henabled ↦ ?_) hrun hresult
  cases main_step henabled with
  | inl hsame => exact hsame ▸ hresult
  | inr hmoves =>
    generalize state.main = before, (state.step action).main = after at hresult hmoves
    cases hmoves <;> first | exact hresult | cases hresult

end Main

/-! ## Errors -/

/-- The action that an error of `Run` comes from. -/
inductive Causes : Action → String → Prop
  | listenFails (failure : String) : Causes (.listenFails failure) ("server error: " ++ failure)
  | timeout : Causes .timeout ("shutdown error: " ++ "context deadline exceeded")
  | drain (failure : String) : Causes (.drain (some failure)) ("shutdown error: " ++ failure)

/-- Every failure on its way to the result, and the result itself, has its cause in the past. -/
structure Explained (past : List Action) (state : State) : Prop where
  errCh : ∀ failure, state.errCh = some (.failed failure) → .listenFails failure ∈ past
  failure : ∀ failure, state.main.failure? = some failure → .listenFails failure ∈ past
  result : ∀ message, state.main.result? = some (some message) →
    ∃ action ∈ past, Causes action message

namespace Explained

variable {past : List Action} {state : State}

theorem later (h : Explained past state) (action : Action) : Explained (past ++ [action]) state where
  errCh failure herr := List.mem_append_left _ (h.errCh failure herr)
  failure failure hfailure := List.mem_append_left _ (h.failure failure hfailure)
  result message hresult :=
    let ⟨cause, hcause, hmessage⟩ := h.result message hresult
    ⟨cause, List.mem_append_left _ hcause, hmessage⟩

theorem step (h : Explained past state) {action : Action} (henabled : state.enabled action = true) :
    Explained (past ++ [action]) (state.step action) := by
  have hlast : action ∈ past ++ [action] := List.mem_append_right _ (List.mem_singleton_self _)
  have hlater := h.later action
  cases action with
  | signal | fire | accept | request | disconnect | startLoop | tick | endTick | stopLoop | closeDone
  | listen | respond | closeIdle fresh => exact { hlater with }
  | listenFails message =>
    exact { hlater with
      errCh := fun failure herr ↦ by
        obtain rfl := ListenError.failed.inj (Option.some.inj herr)
        exact hlast }
  | closeListener => exact { hlater with errCh := nofun }
  | receive err =>
    exact { hlater with
      errCh := nofun
      failure := fun failure hfailure ↦ by
        cases err with
        | serverClosed => cases hfailure
        | failed message =>
          obtain rfl := Option.some.inj hfailure
          exact hlater.errCh message (of_decide_eq_true henabled).2
      result := nofun }
  | observe => exact { hlater with failure := nofun, result := nofun }
  | cancel failure =>
    exact { hlater with
      failure := fun message hmessage ↦ hlater.failure message (by
        rw [of_decide_eq_true henabled]
        exact hmessage)
      result := nofun }
  | resume failure =>
    cases failure with
    | none => exact { hlater with failure := nofun, result := nofun }
    | some failure =>
      have hcause : .listenFails failure ∈ past ++ [.resume (some failure)] :=
        hlater.failure failure (by rw [(of_decide_eq_true henabled).1]; rfl)
      exact { hlater with
        failure := nofun
        result := fun message hresult ↦ by
          obtain rfl := Option.some.inj (Option.some.inj hresult)
          exact ⟨_, hcause, .listenFails failure⟩ }
  | shutdown => exact { hlater with failure := nofun, result := nofun }
  | timeout =>
    exact { hlater with
      failure := nofun
      result := fun message hresult ↦ by
        obtain rfl := Option.some.inj (Option.some.inj hresult)
        exact ⟨_, hlast, .timeout⟩ }
  | drain failure =>
    exact { hlater with
      failure := nofun
      result := fun message hresult ↦ by
        obtain ⟨text, rfl, rfl⟩ := Option.map_eq_some_iff.mp (Option.some.inj hresult)
        exact ⟨_, hlast, .drain text⟩ }
  | closeDatabase err =>
    exact { hlater with
      failure := nofun
      result := fun message hresult ↦ hlater.result message (by
        rw [of_decide_eq_true henabled]
        exact hresult) }

theorem run {actions : List Action} (h : Explained past state) (hrun : Run state actions) :
    Explained (past ++ actions) (actions.foldl State.step state) := by
  induction actions generalizing past state with
  | nil => rwa [List.append_nil]
  | cons action actions ih =>
    obtain ⟨henabled, hrest⟩ := (along_cons action actions).mp hrun
    have hrun := ih (h.step henabled) hrest
    rwa [List.append_assoc] at hrun

end Explained

/-- The order of the shutdown, in any interleaving. `Shutdown` begins, and `Run` returns, only once the
scheduler's goroutine has ended, and no tick runs from then on, so none uses the closed database. `Run`
returns without an error only after a signal and once every request has been answered, and none begins
from then on. An error of `Run` is that of the listener, or of `Shutdown`. -/
theorem shutdown_in_order {actions : List Action} (hrun : Run .initial actions) :
    let state := actions.foldl State.step .initial
    (state.inShutdown = true ∨ state.main.result?.isSome = true → ∀ more, Run state more →
      (more.foldl State.step state).loop = .done ∧ (more.foldl State.step state).running = false) ∧
    (state.main.result? = some none → state.ctxDone = true ∧ ∀ more, Run state more →
      (more.foldl State.step state).active = 0) ∧
    ∀ message, state.main.result? = some (some message) →
      ∃ action ∈ actions, Causes action message := by
  have hsound : Sound (actions.foldl State.step .initial) := Sound.initial.run hrun
  have hexplained : Explained ([] ++ actions) (actions.foldl State.step .initial) :=
    Explained.run ⟨nofun, nofun, nofun⟩ hrun
  generalize actions.foldl State.step .initial = state at hsound hexplained
  dsimp only
  refine ⟨fun hbegun more hmore ↦ ?_, fun hresult ↦ ⟨(hsound.drained hresult).1, fun more hmore ↦ ?_⟩,
    hexplained.result⟩
  · have hstopped : state.main.stopped = true := by
      have hcases : state.main = .draining ∨ state.main.result?.isSome = true :=
        hbegun.elim hsound.inShutdown Or.inr
      cases hcases with
      | inl hdraining => rw [hdraining]; rfl
      | inr hresult =>
        cases hmain : state.main with
        | returned err | closed err => rfl
        | selecting | cancelling failure | awaiting failure | shuttingDown | draining =>
          rw [hmain] at hresult
          cases hresult
    have hlater : Sound (more.foldl State.step state) := hsound.run hmore
    have hdone := hlater.stopped (stopped_run hmore hstopped)
    refine ⟨hdone, Bool.eq_false_iff.mpr fun hrunning ↦ ?_⟩
    rw [hlater.running, hdone] at hrunning
    exact hrunning.elim nofun nofun
  · exact ((hsound.run hmore).drained (result_run hmore hresult)).2.2.2.2

/-- A signal during a tick and a request, to the closed database. -/
def sampleRun : List Action :=
  [.startLoop, .listen, .accept, .request, .fire, .tick, .signal, .observe, .cancel none, .endTick,
    .stopLoop, .closeDone, .resume none, .shutdown, .closeListener, .respond, .drain none,
    .closeDatabase none]

theorem shutdown_in_order_sampleRun :
    (sampleRun.foldl State.step .initial).loop = .done ∧
      (sampleRun.foldl State.step .initial).active = 0 := by
  have hrun : Run .initial sampleRun := by decide
  have hbegun : (sampleRun.foldl State.step .initial).inShutdown = true := by decide
  have hresult : (sampleRun.foldl State.step .initial).main.result? = some none := by decide
  obtain ⟨hstopped, hdrained, -⟩ := shutdown_in_order hrun
  have hdone := (hstopped (Or.inl hbegun) [] along_nil).1
  have hactive := (hdrained hresult).2 [] along_nil
  rw [List.foldl_nil] at hdone hactive
  exact ⟨hdone, hactive⟩

/-! ## Completion -/

/-- How far the scheduler's goroutine is from its end, but for the tick that waits for it. -/
def Loop.rank : Loop → ℕ
  | .starting | .ticking => 4
  | .selecting => 3
  | .leaving => 1
  | .done => 0

def Listener.rank : Listener → ℕ
  | .starting => 2
  | .serving => 1
  | .returned => 0

def Main.rank : Main → ℕ
  | .selecting => 6
  | .cancelling _ => 5
  | .awaiting _ => 4
  | .shuttingDown => 3
  | .draining => 2
  | .returned _ => 1
  | .closed _ => 0

/-- What the program has still to do by itself. -/
def State.work (state : State) : ℕ :=
  state.main.rank + state.loop.rank + 2 * state.tickReady.toNat + state.listener.rank +
    2 * state.active + state.idle

/-- `Run` has a reason to return. -/
def State.Asked (state : State) : Prop :=
  state.ctxDone = true ∨ state.errCh.isSome = true ∨ state.main ≠ .selecting

section Work

variable {state : State} {action : Action}

theorem rank_lt_of_moves {before after : Main} (h : Moves before after) : after.rank < before.rank := by
  cases h <;> simp [Main.rank]

/-- A move of the main goroutine is work done, and changes nothing else of the work. -/
theorem work_lt_of_main (henabled : state.enabled action = true) (hmain : action.movesMain = true) :
    (state.step action).work < state.work := by
  have hrank := rank_lt_of_moves (moves_of_main henabled hmain)
  have hrest : (state.step action).work + state.main.rank =
      state.work + (state.step action).main.rank := by
    cases action with
    | resume failure =>
      cases failure with
      | none | some failure =>
        simp only [State.work, State.step]
        omega
    | receive err | observe | cancel failure | shutdown | timeout | drain failure | closeDatabase err =>
      simp only [State.work, State.step]
      omega
    | signal | fire | accept | request | disconnect | listenFails message | startLoop | tick | endTick
    | stopLoop | closeDone | listen | closeListener | respond | closeIdle fresh => cases hmain
  omega

theorem rank_pos {listener : Listener} (h : listener ≠ .returned) : 0 < listener.rank := by
  cases listener with
  | starting | serving => decide
  | returned => exact absurd rfl h

/-- Every step that the program takes by itself is work done. -/
theorem work_lt (henabled : state.enabled action = true) (hown : action.own = true) :
    (state.step action).work < state.work := by
  cases action with
  | startLoop =>
    have hloop : state.loop = .starting := of_decide_eq_true henabled
    simp only [State.work, State.step, hloop, Loop.rank]
    omega
  | tick =>
    obtain ⟨hloop, hready⟩ := of_decide_eq_true henabled
    simp only [State.work, State.step, hloop, hready, Loop.rank, Bool.toNat_true, Bool.toNat_false]
    omega
  | endTick =>
    have hloop : state.loop = .ticking := of_decide_eq_true henabled
    simp only [State.work, State.step, hloop, Loop.rank]
    omega
  | stopLoop =>
    have hloop : state.loop = .selecting := (of_decide_eq_true henabled).1
    simp only [State.work, State.step, hloop, Loop.rank]
    omega
  | closeDone =>
    have hloop : state.loop = .leaving := of_decide_eq_true henabled
    simp only [State.work, State.step, hloop, Loop.rank]
    omega
  | listen =>
    have hlistener : state.listener = .starting := (of_decide_eq_true henabled).1
    simp only [State.work, State.step, hlistener, Listener.rank]
    omega
  | closeListener =>
    have hlistener := rank_pos (of_decide_eq_true henabled).1
    have hreturned : Listener.returned.rank = 0 := rfl
    simp only [State.work, State.step, hreturned]
    omega
  | respond =>
    have hactive : 0 < state.active := of_decide_eq_true henabled
    simp only [State.work, State.step]
    split <;> omega
  | closeIdle fresh =>
    have hfresh : fresh < state.idle := (of_decide_eq_true henabled).2.2
    simp only [State.work, State.step]
    omega
  | receive err | observe | cancel failure | resume failure | shutdown | drain failure
  | closeDatabase err => exact work_lt_of_main henabled rfl
  | signal | fire | accept | request | disconnect | listenFails message | timeout => cases hown

/-- The environment adds a tick, a connection or a request. -/
theorem work_le (henabled : state.enabled action = true) :
    (state.step action).work ≤ state.work + 2 := by
  by_cases hown : action.own = true
  · exact Nat.le_add_right_of_le (Nat.le_of_lt (work_lt henabled hown))
  · cases action with
    | signal => exact Nat.le_add_right _ _
    | fire =>
      have hready := Bool.toNat_le state.tickReady
      simp only [State.work, State.step, Bool.toNat_true]
      omega
    | accept | disconnect =>
      simp only [State.work, State.step]
      omega
    | request =>
      simp only [State.work, State.step]
      omega
    | listenFails message =>
      simp only [State.work, State.step, Listener.rank]
      omega
    | timeout => exact Nat.le_add_right_of_le (Nat.le_of_lt (work_lt_of_main henabled rfl))
    | startLoop | tick | endTick | stopLoop | closeDone | listen | closeListener | respond
    | receive err | observe | cancel failure | resume failure | shutdown | closeIdle fresh
    | drain failure | closeDatabase err => exact absurd rfl hown

/-- The reason to return stays until `Run` returns. -/
theorem asked_step (henabled : state.enabled action = true) (hasked : state.Asked) :
    (state.step action).Asked := by
  by_cases hmain : action.movesMain = true
  · refine Or.inr (Or.inr fun hselecting ↦ ?_)
    have hmoves := moves_of_main henabled hmain
    rw [hselecting] at hmoves
    generalize state.main = before at hmoves
    cases hmoves
  · cases action with
    | signal => exact Or.inl rfl
    | listenFails message | closeListener => exact Or.inr (Or.inl rfl)
    | fire | accept | request | disconnect | startLoop | tick | endTick | stopLoop | closeDone | listen
    | respond | closeIdle fresh => exact hasked
    | receive err | observe | cancel failure | resume failure | shutdown | timeout | drain failure
    | closeDatabase err => exact absurd rfl hmain

/-- While `Shutdown` waits, the program has a step to take without its deadline. -/
theorem exists_own_draining (h : Sound state) (hmain : state.main = .draining) :
    ∃ action : Action, action.own = true ∧ state.enabled action = true := by
  by_cases hlistener : state.listener = .returned
  · have hserving : state.listener ≠ .serving := by
      rw [hlistener]
      nofun
    by_cases hidle : state.idle = 0
    · by_cases hactive : state.active = 0
      · exact ⟨.drain none, rfl, decide_eq_true ⟨hmain, hserving, hidle, hactive⟩⟩
      · exact ⟨.respond, rfl, decide_eq_true (Nat.pos_of_ne_zero hactive)⟩
    · exact ⟨.closeIdle 0, rfl, decide_eq_true ⟨hmain, hserving, Nat.pos_of_ne_zero hidle⟩⟩
  · exact ⟨.closeListener, rfl, decide_eq_true ⟨hlistener, h.draining hmain⟩⟩

/-- While the main goroutine waits for the scheduler's, this one has a step to take. -/
theorem exists_own_awaiting (h : Sound state) {failure : Option String}
    (hmain : state.main = .awaiting failure) :
    ∃ action : Action, action.own = true ∧ state.enabled action = true := by
  cases hloop : state.loop with
  | starting => exact ⟨.startLoop, rfl, decide_eq_true hloop⟩
  | selecting =>
    have hcancelled : state.schedCancelled = true := h.cancelled (by rw [hmain]; rfl)
    exact ⟨.stopLoop, rfl, decide_eq_true ⟨hloop, Or.inr hcancelled⟩⟩
  | ticking => exact ⟨.endTick, rfl, decide_eq_true hloop⟩
  | leaving => exact ⟨.closeDone, rfl, decide_eq_true hloop⟩
  | done => exact ⟨.resume failure, rfl, decide_eq_true ⟨hmain, hloop⟩⟩

/-- There is no deadlock on the way to the end. -/
theorem exists_own (h : Sound state) (hasked : state.Asked) (hopen : ¬∃ err, state.main = .closed err) :
    ∃ action : Action, action.own = true ∧ state.enabled action = true := by
  cases hmain : state.main with
  | selecting =>
    rcases hasked with hctx | herr | hpast
    · exact ⟨.observe, rfl, decide_eq_true ⟨hmain, hctx⟩⟩
    · obtain ⟨err, herr⟩ := Option.isSome_iff_exists.mp herr
      exact ⟨.receive err, rfl, decide_eq_true ⟨hmain, herr⟩⟩
    · exact absurd hmain hpast
  | cancelling failure => exact ⟨.cancel failure, rfl, decide_eq_true hmain⟩
  | awaiting failure => exact exists_own_awaiting h hmain
  | shuttingDown => exact ⟨.shutdown, rfl, decide_eq_true hmain⟩
  | draining => exact exists_own_draining h hmain
  | returned err => exact ⟨.closeDatabase err, rfl, decide_eq_true hmain⟩
  | closed err => exact absurd ⟨err, hmain⟩ hopen

end Work

/-- Once there is a signal, or the listener has failed, the program ends by itself, from wherever its
goroutines are: it can take its own steps to the closed database, without the deadline of `Shutdown`; in
any interleaving it takes no more of them than it has work to do and two for each step of the
environment; and it has none to take only where the database is closed. -/
theorem shutdown_completes {actions : List Action} (hrun : Run .initial actions)
    (hasked : (actions.foldl State.step .initial).Asked) :
    let state := actions.foldl State.step .initial
    (∃ more, (∀ action ∈ more, action.own = true) ∧ Run state more ∧
      ∃ err, (more.foldl State.step state).main = .closed err) ∧
    ∀ more, Run state more →
      more.countP Action.own ≤ state.work + 2 * more.countP (!Action.own ·) ∧
      ((∀ action : Action, action.own = true →
          (more.foldl State.step state).enabled action = false) →
        ∃ err, (more.foldl State.step state).main = .closed err) := by
  have hsound : Sound (actions.foldl State.step .initial) := Sound.initial.run hrun
  generalize actions.foldl State.step .initial = state at hsound hasked
  have hstep : ∀ (state : State) (action : Action), Sound state ∧ state.Asked →
      state.enabled action = true → Sound (state.step action) ∧ (state.step action).Asked :=
    fun _ _ h henabled ↦ ⟨h.1.step henabled, asked_step henabled h.2⟩
  have hown : ∀ (state : State) (action : Action), Sound state ∧ state.Asked →
      state.enabled action = true → action.own = true → (state.step action).work < state.work :=
    fun _ _ _ henabled hown ↦ work_lt henabled hown
  refine ⟨exists_final hstep hown (fun state h hopen ↦ exists_own h.1 h.2 hopen) state
    ⟨hsound, hasked⟩, fun more hmore ↦ ⟨?_, fun hstuck ↦ ?_⟩⟩
  · have hcount := countP_own_le hstep hown (fun _ _ _ henabled ↦ work_le henabled) hmore
      ⟨hsound, hasked⟩
    omega
  · by_contra hopen
    obtain ⟨hlater, hlaterAsked⟩ := invariant_of_along hstep hmore ⟨hsound, hasked⟩
    obtain ⟨action, hmine, henabled⟩ := exists_own hlater hlaterAsked hopen
    rw [hstuck action hmine] at henabled
    cases henabled

theorem shutdown_completes_after_signal : ∃ more : List Action, (∀ action ∈ more, action.own = true) ∧
    ∃ err, ((sampleRun.take 7 ++ more).foldl State.step .initial).main = .closed err := by
  have hrun : Run .initial (sampleRun.take 7) := by decide
  have hsignal : ((sampleRun.take 7).foldl State.step .initial).ctxDone = true := by decide
  obtain ⟨⟨more, hown, -, hclosed⟩, -⟩ := shutdown_completes hrun (Or.inl hsignal)
  refine ⟨more, hown, ?_⟩
  rw [List.foldl_append]
  exact hclosed

end Huntarr2.Lifecycle
