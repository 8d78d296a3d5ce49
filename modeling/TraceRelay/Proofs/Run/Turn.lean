import TraceRelay.Proofs.Session.Whole
import TraceRelay.Proofs.Target.Lookup
import TraceRelay.Run

/-!
# What a turn can do

A turn is one lookup and what follows it. Here are the nine ways in which it can go, each with the
journal it leaves and with what is next; what a whole run does is read off them.
-/

namespace TraceRelay.Run

variable {settings : Settings} {stop : Option Stop} {outcome : Target.Outcome} {state : State}

/-- The count of failed sessions in a row once some more sessions are over. -/
def failuresAfter (settings : Settings) (failures : UInt32) (sessions : List Tracer.Outcome) :
    UInt32 :=
  sessions.foldl (fun count tracer => if tracer.fails settings then count + 1 else 0) failures

/-- Whether the tracer is given up after the session with the next one. -/
def State.GivesUp (settings : Settings) (state : State) : Prop :=
  state.nextTracer.fails settings = true ∧ 0 < settings.tracer.maxConsecutiveFailures ∧
    settings.tracer.maxConsecutiveFailures ≤ state.failures + 1

/-- The state once the lines of the next tracer are handled. -/
def State.relayed (sink : Sink) (state : State) : State :=
  { state with
    attempts := state.attempts.clear
    sink := sink
    tracers := state.tracers.tail }

/-- The state once a session with the next tracer is over. -/
def State.followed (settings : Settings) (report : Report) (sink : Sink) (state : State) : State :=
  { state.relayed sink with
    failures := failuresAfter settings state.failures [state.nextTracer]
    summary := state.summary.add report }

/-- The summary with one more failed lookup. -/
def State.missed (state : State) : Summary :=
  { state.summary with lookupFailures := state.summary.lookupFailures + 1 }

/-- What a turn does before the first line of its tracer: it finds its target, and starts the
tracer. -/
def opening (settings : Settings) (outcome : Target.Outcome) (pid : UInt32) : List Action :=
  (Target.resolve settings.lookup targetName outcome).journal ++
    [.logged (.targetFound pid), spawnNote settings pid, .started (tracerCommand settings pid)]

/-- Between the two commands there are only log entries. -/
theorem opening_eq_cons (settings : Settings) (outcome : Target.Outcome) (pid : UInt32) :
    ∃ notes, (∀ a ∈ notes, a.isLog = true) ∧ opening settings outcome pid =
      outcome.attempt settings.lookup targetName ::
        (notes ++ [.started (tracerCommand settings pid)]) := by
  obtain ⟨notes, hlogs, hjournal⟩ := Target.resolve_journal settings.lookup targetName outcome
  refine ⟨notes ++ [.logged (.targetFound pid), spawnNote settings pid], ?_, ?_⟩
  · exact List.forall_mem_append.mpr ⟨hlogs, by simp [Action.isLog, spawnNote]⟩
  · simp [opening, hjournal]

/-- The turn finds its target, the tracer starts, and `handled` is what comes of its lines. -/
structure InSession (settings : Settings) (outcome : Target.Outcome) (state : State) (pid : UInt32)
    (output : List UInt8) (ending : Tracer.Ending) (handled : Journaled Relayed) : Prop where
  found : (Target.resolve settings.lookup targetName outcome).value = .ok pid
  tracer : state.nextTracer = .ran output ending
  handles : Relay.handleLines settings (ending.lines output) (freshRelay pid state.sink) = handled

/-- The ways in which a turn can go. The notes are log entries. -/
inductive Step (settings : Settings) (stop : Option Stop) (outcome : Target.Outcome)
    (state : State) : List Action → Next → Prop
  | targetLost {error attempts notes}
      (lost : (Target.resolve settings.lookup targetName outcome).value = .error error)
      (verdict : state.attempts.countFailure.value = (.giveUp, attempts))
      (logs : ∀ a ∈ notes, a.isLog = true) :
      Step settings stop outcome state (outcome.attempt settings.lookup targetName :: notes)
        (.finish (.error (.targetNotFound attempts.count error)))
  | retried {error attempt delay attempts notes}
      (lost : (Target.resolve settings.lookup targetName outcome).value = .error error)
      (verdict : state.attempts.countFailure.value = (.wait attempt delay, attempts))
      (goesOn : stop ≠ some (.duringRetry state.missed.lookupFailures))
      (logs : ∀ a ∈ notes, a.isLog = true) :
      Step settings stop outcome state
        (outcome.attempt settings.lookup targetName ::
          (notes ++ [.slept (delay.shorter longestSleep)]))
        (.again { state with attempts, summary := state.missed })
  | stoppedInRetry {error attempt delay attempts notes}
      (lost : (Target.resolve settings.lookup targetName outcome).value = .error error)
      (verdict : state.attempts.countFailure.value = (.wait attempt delay, attempts))
      (stops : stop = some (.duringRetry state.missed.lookupFailures))
      (logs : ∀ a ∈ notes, a.isLog = true) :
      Step settings stop outcome state
        (outcome.attempt settings.lookup targetName ::
          (notes ++ [.shutdown, .logged (.stopped state.missed)]))
        (.finish (.ok state.missed))
  | tracerRefused {pid cause notes}
      (found : (Target.resolve settings.lookup targetName outcome).value = .ok pid)
      (tracer : state.nextTracer = .refused cause)
      (logs : ∀ a ∈ notes, a.isLog = true) :
      Step settings stop outcome state
        (outcome.attempt settings.lookup targetName ::
          (notes ++ [.refused (tracerCommand settings pid) cause]))
        (.finish (.error (.tracer (.spawn settings.tracer.command cause))))
  | outputFailed {pid output ending handled cause}
      (session : InSession settings outcome state pid output ending handled)
      (failure : handled.value.failure = some cause) :
      Step settings stop outcome state (opening settings outcome pid ++ handled.journal)
        (.finish (.error (.output cause)))
  | sessionStopped {pid output response handled notes}
      (session : InSession settings outcome state pid output (.hangs response) handled)
      (done : handled.value.failure = none)
      (logs : ∀ a ∈ notes, a.isLog = true) :
      Step settings stop outcome state
        (opening settings outcome pid ++ (handled.journal ++ .shutdown :: notes))
        (.finish (.ok (state.summary.add (sessionReport settings pid output (.hangs response)))))
  | tracerGivenUp {pid output status handled notes}
      (session : InSession settings outcome state pid output (.closes status) handled)
      (done : handled.value.failure = none)
      (givesUp : state.GivesUp settings)
      (logs : ∀ a ∈ notes, a.isLog = true) :
      Step settings stop outcome state (opening settings outcome pid ++ (handled.journal ++ notes))
        (.finish (.error (.tracerFailing (state.failures + 1) status.code?)))
  | paused {pid output status handled notes}
      (session : InSession settings outcome state pid output (.closes status) handled)
      (done : handled.value.failure = none)
      (goesOn : ¬state.GivesUp settings)
      (awake : stop ≠ some (.duringPause (state.summary.sessions + 1)))
      (logs : ∀ a ∈ notes, a.isLog = true) :
      Step settings stop outcome state
        (opening settings outcome pid ++ (handled.journal ++ (notes ++ [.slept
          ((pauseAfter settings.tracer (failuresAfter settings state.failures
            [state.nextTracer])).shorter longestSleep)])))
        (.again (state.followed settings (sessionReport settings pid output (.closes status))
          handled.value.relay.sink))
  | stoppedInPause {pid output status handled notes}
      (session : InSession settings outcome state pid output (.closes status) handled)
      (done : handled.value.failure = none)
      (goesOn : ¬state.GivesUp settings)
      (stops : stop = some (.duringPause (state.summary.sessions + 1)))
      (logs : ∀ a ∈ notes, a.isLog = true) :
      Step settings stop outcome state
        (opening settings outcome pid ++ (handled.journal ++ (notes ++ [.shutdown, .logged (.stopped
          (state.summary.add (sessionReport settings pid output (.closes status))))])))
        (.finish (.ok (state.summary.add (sessionReport settings pid output (.closes status)))))

/-! ## A lookup that fails -/

/-- A sleep that a shutdown cuts short ends the run. -/
theorem sleep_then (duration : Duration) (stops : Bool) (next : State) (summary : Summary) :
    (do
      if ← sleep duration stops then return .again next
      else return .finish (← conclude summary) : Journaled Next) =
    if stops then ⟨.finish (.ok summary), [.shutdown, .logged (.stopped summary)]⟩
    else ⟨.again next, [.slept (duration.shorter longestSleep)]⟩ := by
  cases stops <;> rfl

theorem afterFailure_eq (stop : Option Stop) (error : Target.Error) (state : State) :
    ∃ notes, (∀ a ∈ notes, a.isLog = true) ∧
      afterFailure stop error state =
        match state.attempts.countFailure.value with
        | (.giveUp, attempts) =>
          ⟨.finish (.error (.targetNotFound attempts.count error)), notes⟩
        | (.wait _ delay, attempts) =>
          if stop = some (.duringRetry state.missed.lookupFailures) then
            ⟨.finish (.ok state.missed), notes ++ [.shutdown, .logged (.stopped state.missed)]⟩
          else ⟨.again { state with attempts, summary := state.missed },
            notes ++ [.slept (delay.shorter longestSleep)]⟩ := by
  have hlogs := Target.countFailure_isLog state.attempts
  generalize hcount : state.attempts.countFailure = counted at hlogs
  obtain ⟨⟨verdict, attempts⟩, counting⟩ := counted
  cases verdict with
  | giveUp =>
    refine ⟨.logged (.lookupFailed error) :: counting, ?_, ?_⟩
    · simpa [Action.isLog] using hlogs
    · simp [afterFailure, hcount, bind, pure]
  | wait attempt delay =>
    refine ⟨.logged (.lookupFailed error) :: (counting ++
      if attempt = 1 then [.logged .waitingForTarget] else []), ?_, ?_⟩
    · intro a ha
      rcases List.mem_cons.mp ha with ha | ha
      · rw [ha]
        rfl
      rcases List.mem_append.mp ha with ha | ha
      · exact hlogs a ha
      · split at ha
        · rw [List.mem_singleton.mp ha]
          rfl
        · cases ha
    · simp only [afterFailure, hcount, sleep_then, State.missed]
      by_cases hstop : stop = some (.duringRetry (state.summary.lookupFailures + 1)) <;>
        by_cases hfirst : attempt = 1 <;> simp [bind, hstop, hfirst]

theorem step_of_error {error : Target.Error}
    (h : (Target.resolve settings.lookup targetName outcome).value = .error error) :
    Step settings stop outcome state (turn settings stop outcome state).journal
      (turn settings stop outcome state).value := by
  obtain ⟨notes, hlogs, hjournal⟩ := Target.resolve_journal settings.lookup targetName outcome
  obtain ⟨more, hmore, hafter⟩ := afterFailure_eq stop error state
  -- Between the attempt and what ends the turn there is nothing but log entries.
  have hboth : ∀ a ∈ notes ++ more, a.isLog = true := by
    intro a ha
    rcases List.mem_append.mp ha with ha | ha
    · exact hlogs a ha
    · exact hmore a ha
  have hturn : turn settings stop outcome state = ⟨(afterFailure stop error state).value,
      outcome.attempt settings.lookup targetName ::
        (notes ++ (afterFailure stop error state).journal)⟩ := by
    simp [turn, bind, h, hjournal]
  rw [hturn, hafter]
  generalize hcount : state.attempts.countFailure.value = counted
  obtain ⟨verdict, attempts⟩ := counted
  cases verdict with
  | giveUp => exact .targetLost h hcount hboth
  | wait attempt delay =>
    dsimp only
    split
    · next hstop =>
      rw [← List.append_assoc]
      exact .stoppedInRetry h hcount hstop hboth
    · next hstop =>
      rw [← List.append_assoc]
      exact .retried h hcount hstop hboth

/-! ## A session that is over -/

theorem afterSession_of_stopped {report : Report} (h : report.stopped = true) :
    afterSession settings stop report state = ⟨.finish (.ok (state.summary.add report)),
      [.logged (.stopped (state.summary.add report))]⟩ := by
  simp [afterSession, conclude, bind, pure, h]

theorem afterSession_of_not_stopped (settings : Settings) (stop : Option Stop) {report : Report}
    (h : report.stopped = false) (state : State) :
    ∃ notes, (∀ a ∈ notes, a.isLog = true) ∧
      let failures := if report.isFailure then state.failures + 1 else 0
      let summary := state.summary.add report
      afterSession settings stop report state =
        if report.isFailure = true ∧ 0 < settings.tracer.maxConsecutiveFailures ∧
            settings.tracer.maxConsecutiveFailures ≤ state.failures + 1 then
          ⟨.finish (.error (.tracerFailing (state.failures + 1) report.tracerExit)), notes⟩
        else if stop = some (.duringPause summary.sessions) then
          ⟨.finish (.ok summary), notes ++ [.shutdown, .logged (.stopped summary)]⟩
        else ⟨.again { state with failures, summary },
          notes ++ [.slept ((pauseAfter settings.tracer failures).shorter longestSleep)]⟩ := by
  by_cases hfailure : report.isFailure = true
  · refine ⟨[.logged (.sessionFailed report (state.failures + 1))], by simp [Action.isLog], ?_⟩
    simp only [afterSession, sleep_then, h, hfailure]
    by_cases hlimit : 0 < settings.tracer.maxConsecutiveFailures ∧
      settings.tracer.maxConsecutiveFailures ≤ state.failures + 1 <;>
      by_cases hstop : stop = some (.duringPause (state.summary.add report).sessions) <;>
        simp [bind, pure, hlimit, hstop]
  · refine ⟨[], by simp, ?_⟩
    simp only [afterSession, sleep_then, h, hfailure]
    by_cases hstop : stop = some (.duringPause (state.summary.add report).sessions) <;>
      simp [hstop]

theorem afterFound_of_refused {pid : UInt32} {cause : OsError}
    (htracer : state.nextTracer = .refused cause) :
    afterFound settings stop pid state =
      ⟨.finish (.error (.tracer (.spawn settings.tracer.command cause))),
        [.logged (.targetFound pid), spawnNote settings pid,
          .refused (tracerCommand settings pid) cause]⟩ := by
  simp [afterFound, htracer, runSession_refused, bind, pure, Error.ofSession]

section Ran

variable {pid : UInt32} {output : List UInt8} {ending : Tracer.Ending}
  {handled : Journaled Relayed}

theorem afterFound_of_some {cause : OsError} (htracer : state.nextTracer = .ran output ending)
    (h : Relay.handleLines settings (ending.lines output) (freshRelay pid state.sink) = handled)
    (hfailure : handled.value.failure = some cause) :
    afterFound settings stop pid state = ⟨.finish (.error (.output cause)),
      .logged (.targetFound pid) :: spawnNote settings pid ::
        .started (tracerCommand settings pid) :: handled.journal⟩ := by
  simp [afterFound, htracer, runSession_of_some h hfailure, bind, pure, Error.ofSession]

theorem afterFound_of_none (htracer : state.nextTracer = .ran output ending)
    (h : Relay.handleLines settings (ending.lines output) (freshRelay pid state.sink) = handled)
    (hfailure : handled.value.failure = none) :
    afterFound settings stop pid state =
      let report := sessionReport settings pid output ending
      let after := afterSession settings stop report (state.relayed handled.value.relay.sink)
      ⟨after.value, .logged (.targetFound pid) :: spawnNote settings pid ::
        .started (tracerCommand settings pid) :: (handled.journal ++ ending.conclude.journal ++
          .logged (.sessionEnded report) :: after.journal)⟩ := by
  simp [afterFound, htracer, runSession_of_none h hfailure, bind, State.relayed]

/-- A session's part of the journal follows its opening. -/
theorem turn_of_ran (h : (Target.resolve settings.lookup targetName outcome).value = .ok pid)
    {next : Next} {rest : List Action}
    (hfound : afterFound settings stop pid state =
      ⟨next, .logged (.targetFound pid) :: spawnNote settings pid ::
        .started (tracerCommand settings pid) :: rest⟩) :
    turn settings stop outcome state = ⟨next, opening settings outcome pid ++ rest⟩ := by
  simp [turn, bind, h, hfound, opening]

/-- Handling the lines of a session only logs, writes and flushes. -/
theorem InSession.isRelay (h : InSession settings outcome state pid output ending handled) :
    ∀ a ∈ handled.journal, a.isRelay = true := by
  rw [← h.handles]
  exact (Relay.handles_lines settings (ending.lines output) (freshRelay pid state.sink)).isRelay

/-- A turn ends the run when the output fails. -/
theorem InSession.turn_of_some {cause : OsError}
    (h : InSession settings outcome state pid output ending handled)
    (hfailure : handled.value.failure = some cause) (stop : Option Stop) :
    turn settings stop outcome state =
      ⟨.finish (.error (.output cause)), opening settings outcome pid ++ handled.journal⟩ :=
  turn_of_ran h.found (afterFound_of_some h.tracer h.handles hfailure)

end Ran

theorem step_of_hangs {pid : UInt32} {output : List UInt8} {response : Tracer.Response}
    (h : (Target.resolve settings.lookup targetName outcome).value = .ok pid)
    (htracer : state.nextTracer = .ran output (.hangs response)) :
    Step settings stop outcome state (turn settings stop outcome state).journal
      (turn settings stop outcome state).value := by
  have hsession : InSession settings outcome state pid output (.hangs response) _ :=
    ⟨h, htracer, rfl⟩
  generalize Relay.handleLines settings _ (freshRelay pid state.sink) = handled at hsession
  cases hfailure : handled.value.failure with
  | some cause =>
    rw [hsession.turn_of_some hfailure]
    exact .outputFailed hsession hfailure
  | none =>
    obtain ⟨hstopped, more, hjournal, hmore⟩ := Tracer.conclude_hangs response
    have hreport : (sessionReport settings pid output (.hangs response)).stopped = true := hstopped
    rw [turn_of_ran h (afterFound_of_none htracer hsession.handles hfailure)]
    simp only [afterSession_of_stopped hreport, hjournal, List.append_assoc, List.cons_append]
    refine .sessionStopped hsession hfailure ?_
    exact List.forall_mem_append.mpr ⟨hmore, by simp [Action.isLog]⟩

theorem step_of_closes {pid : UInt32} {output : List UInt8} {status : ExitStatus}
    (h : (Target.resolve settings.lookup targetName outcome).value = .ok pid)
    (htracer : state.nextTracer = .ran output (.closes status)) :
    Step settings stop outcome state (turn settings stop outcome state).journal
      (turn settings stop outcome state).value := by
  have hsession : InSession settings outcome state pid output (.closes status) _ :=
    ⟨h, htracer, rfl⟩
  generalize Relay.handleLines settings _ (freshRelay pid state.sink) = handled at hsession
  cases hfailure : handled.value.failure with
  | some cause =>
    rw [hsession.turn_of_some hfailure]
    exact .outputFailed hsession hfailure
  | none =>
    -- The session counts as failed by its report, which is a matter of the tracer alone.
    have hfails := isFailure_sessionReport settings pid output (.closes status)
    rw [← htracer] at hfails
    have hstopped : (sessionReport settings pid output (.closes status)).stopped = false := rfl
    obtain ⟨more, hmore, hafter⟩ := afterSession_of_not_stopped settings stop hstopped
      (state.relayed handled.value.relay.sink)
    have hnotes : ∀ a ∈ .logged (.sessionEnded (sessionReport settings pid output
        (.closes status))) :: more, a.isLog = true :=
      List.forall_mem_cons.mpr ⟨rfl, hmore⟩
    rw [turn_of_ran h (afterFound_of_none htracer hsession.handles hfailure)]
    simp only [hafter, hfails, Tracer.conclude_closes, List.append_nil]
    split
    · next hgivesUp => exact .tracerGivenUp hsession hfailure hgivesUp hnotes
    · next hgoesOn =>
      split
      · next hstop => exact .stoppedInPause hsession hfailure hgoesOn hstop hnotes
      · next hstop => exact .paused hsession hfailure hgoesOn hstop hnotes

/-- **What a turn can do.** -/
theorem turn_step (settings : Settings) (stop : Option Stop) (outcome : Target.Outcome)
    (state : State) : Step settings stop outcome state (turn settings stop outcome state).journal
      (turn settings stop outcome state).value := by
  cases hlookup : (Target.resolve settings.lookup targetName outcome).value with
  | error error => exact step_of_error hlookup
  | ok pid =>
    cases htracer : state.nextTracer with
    | refused cause =>
      obtain ⟨notes, hlogs, hjournal⟩ :=
        Target.resolve_journal settings.lookup targetName outcome
      have hturn : turn settings stop outcome state =
          ⟨.finish (.error (.tracer (.spawn settings.tracer.command cause))),
            outcome.attempt settings.lookup targetName :: ((notes ++ [.logged (.targetFound pid),
              spawnNote settings pid]) ++ [.refused (tracerCommand settings pid) cause])⟩ := by
        simp [turn, bind, hlookup, hjournal, afterFound_of_refused htracer]
      rw [hturn]
      refine .tracerRefused hlookup htracer ?_
      exact List.forall_mem_append.mpr ⟨hlogs, by simp [Action.isLog, spawnNote]⟩
    | ran output ending =>
      cases ending with
      | hangs response => exact step_of_hangs hlookup htracer
      | closes status => exact step_of_closes hlookup htracer

end TraceRelay.Run
