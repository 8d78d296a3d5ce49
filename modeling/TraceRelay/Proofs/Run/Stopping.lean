import Mathlib.Data.List.Basic
import TraceRelay.Proofs.Run.Search

/-!
# How a run is stopped

A shutdown is asked for while the run waits: before it begins, while a lookup hangs, after a lookup
that failed, while a tracer hangs, or after a session. Whichever it is, the run ends there and
reports what it has done; nothing else lets a run end without an error.
-/

namespace TraceRelay.Run

/-- A shutdown is asked for while the run waits, with so many lookups attempted and so many tracers
started by then. -/
inductive Asked (settings : Settings) (world : World) (sink : Sink) :
    (looked sessions : Nat) → Prop
  | atStart (stops : world.stop = some .atStart) : Asked settings world sink 0 0
  /-- While a lookup hangs. -/
  | inLookup {journal state} (before : Reaches settings world sink journal [] state) :
      Asked settings world sink (Journal.attempted .lookup journal + 1)
        (Journal.started .tracer journal)
  /-- During the delay after a failed lookup. -/
  | inRetry {journal outcome lookups state error attempt delay attempts}
      (before : Reaches settings world sink journal (outcome :: lookups) state)
      (lost : (Target.resolve settings.lookup targetName outcome).value = .error error)
      (waits : state.attempts.countFailure.value = (.wait attempt delay, attempts))
      (stops : world.stop = some (.duringRetry state.missed.lookupFailures)) :
      Asked settings world sink (Journal.attempted .lookup journal + 1)
        (Journal.started .tracer journal)
  /-- While a tracer hangs whose lines are all handled, whatever it does when it is to end. -/
  | inSession {journal outcome lookups state pid output response handled}
      (before : Reaches settings world sink journal (outcome :: lookups) state)
      (session : InSession settings outcome state pid output (.hangs response) handled)
      (done : handled.value.failure = none) :
      Asked settings world sink (Journal.attempted .lookup journal + 1)
        (Journal.started .tracer journal + 1)
  /-- During the pause after a session. -/
  | inPause {journal outcome lookups state pid output status handled}
      (before : Reaches settings world sink journal (outcome :: lookups) state)
      (session : InSession settings outcome state pid output (.closes status) handled)
      (done : handled.value.failure = none)
      (goesOn : ¬state.GivesUp settings)
      (stops : world.stop = some (.duringPause (state.summary.sessions + 1))) :
      Asked settings world sink (Journal.attempted .lookup journal + 1)
        (Journal.started .tracer journal + 1)

section Turn

variable {settings : Settings} {stop : Option Stop} {outcome : Target.Outcome} {state : State}
  {pid : UInt32} {output : List UInt8} {handled : Journaled Relayed} {notes actions : List Action}

/-! ## Waiting -/

theorem turn_value_of_retry {error : Target.Error} {attempt : UInt32} {delay : Duration}
    {attempts : Target.Attempts}
    (lost : (Target.resolve settings.lookup targetName outcome).value = .error error)
    (waits : state.attempts.countFailure.value = (.wait attempt delay, attempts))
    (stops : stop = some (.duringRetry state.missed.lookupFailures)) :
    (turn settings stop outcome state).value = .finish (.ok state.missed) := by
  obtain ⟨notes, -, hafter⟩ := afterFailure_eq stop error state
  have hturn :
      (turn settings stop outcome state).value = (afterFailure stop error state).value := by
    simp [turn, lost]
  rw [hturn, hafter, waits]
  simp [stops]

/-- A tracer that hangs is stopped, and the session counts. -/
theorem InSession.turn_value_of_hangs {response : Tracer.Response}
    (h : InSession settings outcome state pid output (.hangs response) handled)
    (done : handled.value.failure = none) (stop : Option Stop) :
    (turn settings stop outcome state).value = .finish (.ok
      (state.summary.add (sessionReport settings pid output (.hangs response)))) := by
  have hstopped : (sessionReport settings pid output (.hangs response)).stopped = true :=
    (Tracer.conclude_hangs response).1
  rw [turn_of_ran h.found (afterFound_of_none h.tracer h.handles done)]
  simp only [afterSession_of_stopped hstopped, State.relayed]

theorem InSession.turn_value_of_pause {status : ExitStatus}
    (h : InSession settings outcome state pid output (.closes status) handled)
    (done : handled.value.failure = none) (goesOn : ¬state.GivesUp settings)
    (stops : stop = some (.duringPause (state.summary.sessions + 1))) :
    (turn settings stop outcome state).value = .finish (.ok
      (state.summary.add (sessionReport settings pid output (.closes status)))) := by
  have hfails := isFailure_sessionReport settings pid output (.closes status)
  rw [← h.tracer] at hfails
  have hstopped : (sessionReport settings pid output (.closes status)).stopped = false := rfl
  obtain ⟨notes, -, hafter⟩ := afterSession_of_not_stopped settings stop hstopped
    (state.relayed handled.value.relay.sink)
  rw [turn_of_ran h.found (afterFound_of_none h.tracer h.handles done)]
  simp only [hafter, hfails]
  split
  · next hgivesUp => exact absurd hgivesUp goesOn
  · split
    · rfl
    · next hstop => exact absurd stops hstop

/-! ## Where the request stands in the journal -/

theorem shutdown_not_mem_of_isRelay (h : ∀ a ∈ actions, a.isRelay = true) :
    Action.shutdown ∉ actions := by
  intro hmem
  cases h _ hmem

theorem shutdown_not_mem_of_isLog (h : ∀ a ∈ notes, a.isLog = true) : Action.shutdown ∉ notes := by
  intro hmem
  cases h _ hmem

theorem shutdown_not_mem_attempt (settings : LookupSettings) (name : String)
    (outcome : Target.Outcome) : Action.shutdown ≠ outcome.attempt settings name := by
  cases outcome <;> simp [Target.Outcome.attempt]

theorem shutdown_not_mem_opening (settings : Settings) (outcome : Target.Outcome) (pid : UInt32) :
    Action.shutdown ∉ opening settings outcome pid := by
  obtain ⟨notes, hlogs, hopening⟩ := opening_eq_cons settings outcome pid
  simp [hopening, shutdown_not_mem_attempt, shutdown_not_mem_of_isLog hlogs]

theorem InSession.shutdown_not_mem {ending : Tracer.Ending}
    (h : InSession settings outcome state pid output ending handled) :
    Action.shutdown ∉ opening settings outcome pid ++ handled.journal := by
  rw [List.mem_append, not_or]
  exact ⟨shutdown_not_mem_opening settings outcome pid, shutdown_not_mem_of_isRelay h.isRelay⟩

/-- Nothing but log entries comes after the request for a shutdown, which is the only one. -/
def EndsStopped (actions : List Action) : Prop :=
  ∃ before notes, actions = before ++ .shutdown :: notes ∧ Action.shutdown ∉ before ∧
    ∀ a ∈ notes, a.isLog = true

theorem Step.shutdown_cases {next : Next} (h : Step settings stop outcome state actions next) :
    (Action.shutdown ∉ actions ∧ ∀ summary, next ≠ .finish (.ok summary)) ∨
      EndsStopped actions ∧ ∃ summary, next = .finish (.ok summary) := by
  have hattempt := shutdown_not_mem_attempt settings.lookup targetName outcome
  cases h with
  | targetLost lost verdict logs =>
    left
    simp [hattempt, shutdown_not_mem_of_isLog logs]
  | retried lost verdict goesOn logs =>
    left
    simp [hattempt, shutdown_not_mem_of_isLog logs]
  | @stoppedInRetry _ _ _ _ notes lost verdict stops logs =>
    refine .inr ⟨⟨outcome.attempt settings.lookup targetName :: notes,
      [.logged (.stopped state.missed)], rfl, ?_, by simp [Action.isLog]⟩, _, rfl⟩
    simp [hattempt, shutdown_not_mem_of_isLog logs]
  | tracerRefused found tracer logs =>
    left
    simp [hattempt, shutdown_not_mem_of_isLog logs]
  | outputFailed session failure => exact .inl ⟨session.shutdown_not_mem, by simp⟩
  | sessionStopped session done logs =>
    refine .inr ⟨⟨_, _, ?_, session.shutdown_not_mem, logs⟩, _, rfl⟩
    rw [List.append_assoc]
  | tracerGivenUp session done givesUp logs =>
    left
    rw [← List.append_assoc, List.mem_append, not_or]
    exact ⟨⟨session.shutdown_not_mem, shutdown_not_mem_of_isLog logs⟩, by simp⟩
  | paused session done goesOn awake logs =>
    left
    rw [← List.append_assoc, List.mem_append, not_or]
    exact ⟨⟨session.shutdown_not_mem, by simp [shutdown_not_mem_of_isLog logs]⟩, by simp⟩
  | @stoppedInPause pid output status handled notes session done goesOn stops logs =>
    refine .inr ⟨⟨opening settings outcome pid ++ handled.journal ++ notes, [.logged (.stopped
      (state.summary.add (sessionReport settings pid output (.closes status))))], ?_, ?_, ?_⟩, _,
    rfl⟩
    · simp
    · rw [List.mem_append, not_or]
      exact ⟨session.shutdown_not_mem, shutdown_not_mem_of_isLog logs⟩
    · simp [Action.isLog]

end Turn

section History

variable {settings : Settings} {world : World} {sink : Sink} {journal : List Action}
  {lookups : List Target.Outcome} {state : State} {outcome : Target.Outcome}

theorem Reaches.shutdown_not_mem (h : Reaches settings world sink journal lookups state) :
    Action.shutdown ∉ journal := by
  induction h with
  | start => simp
  | turn _ again ih =>
    rw [List.mem_append, not_or]
    rcases (step_of_turn_eq again).shutdown_cases with ⟨hnone, -⟩ | ⟨-, _, hnext⟩
    · exact ⟨ih, hnone⟩
    · cases hnext

theorem Reaches.run_of_finish
    (h : Reaches settings world sink journal (outcome :: lookups) state)
    {result : Except Error Summary}
    (hvalue : (Run.turn settings world.stop outcome state).value = .finish result) :
    run settings world sink =
      ⟨result, journal ++ (Run.turn settings world.stop outcome state).journal⟩ := by
  rw [h.run_eq]
  simp [turns, bind, pure, hvalue]

/-- **A shutdown that is asked for ends the run at once.** -/
theorem Asked.run_eq {looked sessions : Nat} (h : Asked settings world sink looked sessions) :
    (∃ summary, (run settings world sink).value = .ok summary) ∧
      Journal.attempted .lookup (run settings world sink).journal = looked ∧
      Journal.started .tracer (run settings world sink).journal = sessions := by
  cases h with
  | atStart stops =>
    have hrun : run settings world sink = ⟨.ok {}, [.shutdown, .logged (.stopped {})]⟩ := by
      simp [run, stops, conclude, Journaled.act, Journaled.log, bind, pure]
    rw [hrun]
    exact ⟨⟨_, rfl⟩, rfl, rfl⟩
  | inLookup before =>
    rw [before.run_eq, Journal.attempted_append, Journal.started_append]
    exact ⟨⟨_, rfl⟩, rfl, rfl⟩
  | @inRetry _ outcome _ state _ _ _ _ before lost waits stops =>
    have hstep := turn_step settings world.stop outcome state
    rw [before.run_of_finish (turn_value_of_retry lost waits stops), Journal.attempted_append,
      Journal.started_append, hstep.attempted_lookup, hstep.started_of_error lost]
    exact ⟨⟨_, rfl⟩, rfl, rfl⟩
  | @inSession _ outcome _ state _ _ _ _ before session done =>
    have hstep := turn_step settings world.stop outcome state
    rw [before.run_of_finish (session.turn_value_of_hangs done world.stop),
      Journal.attempted_append, Journal.started_append, hstep.attempted_lookup,
      hstep.started_of_inSession session]
    exact ⟨⟨_, rfl⟩, rfl, rfl⟩
  | @inPause _ outcome _ state _ _ _ _ before session done goesOn stops =>
    have hstep := turn_step settings world.stop outcome state
    rw [before.run_of_finish (session.turn_value_of_pause done goesOn stops),
      Journal.attempted_append, Journal.started_append, hstep.attempted_lookup,
      hstep.started_of_inSession session]
    exact ⟨⟨_, rfl⟩, rfl, rfl⟩

end History

end TraceRelay.Run
