import Mathlib.Algebra.Order.Ring.Nat
import TraceRelay.Proofs.Run.Accounts

/-!
# When the tracer is given up

The run counts the failed sessions in a row. The count is a view of the sessions so far, whatever
lookups, retries and pauses lie between them, and it stays below the number allowed; so the run
gives up with the first row of that many, and at once.
-/

namespace TraceRelay.Run

/-- The last `count` sessions all failed. -/
def InARow (settings : Settings) (count : Nat) (sessions : List Tracer.Outcome) : Prop :=
  ∃ earlier row, sessions = earlier ++ row ∧ row.length = count ∧
    ∀ tracer ∈ row, tracer.fails settings = true

section Rows

variable {settings : Settings} {sessions : List Tracer.Outcome} {tracer : Tracer.Outcome}
  {count : Nat}

theorem inARow_zero (settings : Settings) (sessions : List Tracer.Outcome) :
    InARow settings 0 sessions :=
  ⟨sessions, [], by simp, rfl, by simp⟩

theorem InARow.le_length (h : InARow settings count sessions) : count ≤ sessions.length := by
  obtain ⟨earlier, row, hsessions, hlength, -⟩ := h
  rw [hsessions, List.length_append]
  omega

/-- One more session extends a row if it failed, and breaks it otherwise. -/
theorem inARow_succ_append :
    InARow settings (count + 1) (sessions ++ [tracer]) ↔
      tracer.fails settings = true ∧ InARow settings count sessions := by
  constructor
  · intro h
    obtain ⟨earlier, row, hsessions, hlength, hfails⟩ := h
    -- The row is not empty, and its last session is the one more.
    rcases List.eq_nil_or_concat row with hrow | ⟨init, last, hrow⟩
    · rw [hrow] at hlength
      cases hlength
    · rw [List.concat_eq_append] at hrow
      rw [hrow, ← List.append_assoc] at hsessions
      obtain ⟨hinit, hlast⟩ := List.append_inj' hsessions rfl
      rw [List.cons.injEq] at hlast
      rw [hrow] at hlength hfails
      refine ⟨?_, earlier, init, hinit, by simpa using hlength, ?_⟩
      · rw [hlast.1]
        exact hfails last (by simp)
      · intro other hother
        exact hfails other (by simp [hother])
  · intro h
    obtain ⟨hfails, earlier, row, hsessions, hlength, hrow⟩ := h
    refine ⟨earlier, row ++ [tracer], ?_, ?_, ?_⟩
    · rw [hsessions, List.append_assoc]
    · rw [List.length_append, hlength]
      rfl
    · intro other hother
      rcases List.mem_append.mp hother with hother | hother
      · exact hrow other hother
      · rw [List.mem_singleton.mp hother]
        exact hfails

end Rows

section History

variable {settings : Settings} {world : World} {sink : Sink} {journal : List Action}
  {lookups : List Target.Outcome} {state : State}

theorem failuresAfter_singleton (settings : Settings) (failures : UInt32)
    (tracer : Tracer.Outcome) : failuresAfter settings failures [tracer] =
      if tracer.fails settings then failures + 1 else 0 := rfl

/-- The count stays below the number allowed. -/
theorem Reaches.failures_lt (h : Reaches settings world sink journal lookups state)
    (hlimit : 0 < settings.tracer.maxConsecutiveFailures) :
    state.failures < settings.tracer.maxConsecutiveFailures := by
  induction h with
  | start => exact hlimit
  | turn _ again ih =>
    cases step_of_turn_eq again with
    | retried => exact ih
    | paused session done goesOn =>
      show failuresAfter settings _ _ < _
      rw [failuresAfter_singleton]
      split
      · next hfails =>
        -- Had the count got to the limit, the turn would have ended the run.
        rw [← UInt32.not_le]
        intro hle
        exact goesOn ⟨hfails, hlimit, hle⟩
      · exact hlimit

theorem toNat_succ {n : UInt32} (h : n.toNat + 1 < 2 ^ 32) : (n + 1).toNat = n.toNat + 1 := by
  rw [UInt32.toNat_add]
  show (n.toNat + 1) % 2 ^ 32 = _
  omega

/-- One more session changes the count as it changes the row. -/
theorem inARow_append_iff {sessions : List Tracer.Outcome} {failures : UInt32}
    (h : ∀ count, InARow settings count sessions ↔ count ≤ failures.toNat)
    (hsmall : failures.toNat + 1 < 2 ^ 32) (tracer : Tracer.Outcome) (count : Nat) :
    InARow settings count (sessions ++ [tracer]) ↔
      count ≤ (failuresAfter settings failures [tracer]).toNat := by
  rw [failuresAfter_singleton]
  cases count with
  | zero => simp [inARow_zero]
  | succ count =>
    rw [inARow_succ_append, h]
    by_cases hfails : tracer.fails settings = true
    · rw [if_pos hfails, toNat_succ hsmall]
      simp [hfails]
    · rw [if_neg hfails]
      simp [hfails]

/-- **The count is the length of the last row of failed sessions**, as long as it cannot
overflow. -/
theorem Reaches.inARow_iff (h : Reaches settings world sink journal lookups state)
    (hsmall : 0 < settings.tracer.maxConsecutiveFailures ∨
      Journal.started .tracer journal < 2 ^ 32) (count : Nat) :
    InARow settings count (world.sessions (Journal.started .tracer journal)) ↔
      count ≤ state.failures.toNat := by
  induction h generalizing count with
  | start =>
    constructor
    · intro hrow
      exact hrow.le_length
    · intro hle
      rw [Nat.le_zero.mp hle]
      exact inARow_zero settings _
  | @turn journal outcome lookups state actions next before again ih =>
    obtain ⟨sessions, hadds⟩ := (step_of_turn_eq again).adds (by simp)
    obtain ⟨-, hsessions, -⟩ := before.books.adds hadds
    obtain ⟨-, -, hfailures, -⟩ := hadds.again next rfl
    rw [Journal.started_append, hadds.accounts.tracers] at hsmall
    have hih := ih (hsmall.imp_right (by omega))
    rw [hsessions, hfailures]
    -- A lookup that fails leaves the row and the count alone; a session changes both.
    rcases hadds.sessions_eq with hnone | hone
    · rw [hnone, List.append_nil]
      exact hih count
    · rw [hone]
      refine inARow_append_iff hih ?_ state.nextTracer count
      -- The count has room for one more: it is below the limit, or at most the number of sessions.
      rcases hsmall with hlimit | hstarted
      · have hlt := UInt32.lt_iff_toNat_lt.mp (before.failures_lt hlimit)
        have := settings.tracer.maxConsecutiveFailures.toNat_lt
        omega
      · have hle := ((hih state.failures.toNat).mpr (Nat.le_refl _)).le_length
        rw [World.length_sessions] at hle
        rw [hone] at hstarted
        simp only [List.length_singleton] at hstarted
        omega

theorem Reaches.not_inARow_started (h : Reaches settings world sink journal lookups state)
    (hlimit : 0 < settings.tracer.maxConsecutiveFailures) :
    ¬InARow settings settings.tracer.maxConsecutiveFailures.toNat
      (world.sessions (Journal.started .tracer journal)) := by
  rw [h.inARow_iff (.inl hlimit)]
  have := UInt32.lt_iff_toNat_lt.mp (h.failures_lt hlimit)
  omega

/-- Before a state is reached there has been no row of the number allowed. -/
theorem Reaches.not_inARow (h : Reaches settings world sink journal lookups state)
    (hlimit : 0 < settings.tracer.maxConsecutiveFailures) {count : Nat}
    (hcount : count ≤ Journal.started .tracer journal) :
    ¬InARow settings settings.tracer.maxConsecutiveFailures.toNat (world.sessions count) := by
  induction h with
  | start h =>
    rw [Nat.le_zero.mp hcount]
    intro hrow
    exact absurd hrow.le_length (Nat.not_le.mpr (UInt32.lt_iff_toNat_lt.mp hlimit))
  | @turn journal outcome lookups state actions next before again ih =>
    by_cases hbefore : count ≤ Journal.started .tracer journal
    · exact ih hbefore
    · obtain ⟨sessions, hadds⟩ := (step_of_turn_eq again).adds (by simp)
      have hlength : sessions.length ≤ 1 := by
        rcases hadds.sessions_eq with hnone | hone
        · simp [hnone]
        · simp [hone]
      have hall : count = Journal.started .tracer (journal ++ actions) := by
        rw [Journal.started_append, hadds.accounts.tracers] at hcount ⊢
        omega
      rw [hall]
      exact (before.turn again).not_inARow_started hlimit

/-- A session that counts as failed has all of its lines handled, and only logs something. -/
theorem InSession.handled_of_fails {outcome : Target.Outcome} {pid : UInt32}
    {output : List UInt8} {ending : Tracer.Ending} {handled : Journaled Relayed}
    (h : InSession settings outcome state pid output ending handled)
    (hfails : state.nextTracer.fails settings = true) :
    handled.value.failure = none ∧ ∀ a ∈ handled.journal, a.isLog = true := by
  rw [h.tracer] at hfails
  rw [← h.handles]
  cases ending with
  | hangs response => cases hfails
  | closes status =>
    simp only [Tracer.Outcome.fails, Bool.and_eq_true, List.isEmpty_iff] at hfails
    exact Relay.handleLines_of_nil hfails.1 (freshRelay pid state.sink)

theorem InSession.not_fails_of_some {outcome : Target.Outcome} {pid : UInt32}
    {output : List UInt8} {ending : Tracer.Ending} {handled : Journaled Relayed} {cause : OsError}
    (h : InSession settings outcome state pid output ending handled)
    (hfailure : handled.value.failure = some cause) :
    state.nextTracer.fails settings = false := by
  cases hfails : state.nextTracer.fails settings with
  | false => rfl
  | true =>
    rw [(h.handled_of_fails hfails).1] at hfailure
    cases hfailure

/-- The last turn starts no tracer, or gives it up just when the session with it makes it do so. -/
theorem Step.finish_cases {stop : Option Stop} {outcome : Target.Outcome} {actions : List Action}
    {result : Except Error Summary}
    (h : Step settings stop outcome state actions (.finish result)) :
    (Journal.started .tracer actions = 0 ∧
      ∀ failures lastExit, result ≠ .error (.tracerFailing failures lastExit)) ∨
    (Journal.started .tracer actions = 1 ∧
      ∀ failures lastExit, result = .error (.tracerFailing failures lastExit) ↔
        state.GivesUp settings ∧ failures = state.failures + 1 ∧
          lastExit = state.nextTracer.exit?) := by
  have hattempt := Accounts.attempt settings.lookup targetName outcome
  cases h with
  | targetLost lost verdict logs =>
    exact .inl ⟨(hattempt.append (.of_isLog logs)).tracers, by simp⟩
  | stoppedInRetry lost verdict stops logs =>
    have hrest : ∀ summary, Accounts 0 0 [] (_ ++ [.shutdown, .logged (.stopped summary)]) :=
      fun summary => (Accounts.of_isLog logs).append (.shutdown (by simp [Action.isLog]))
    exact .inl ⟨(hattempt.append (hrest _)).tracers, by simp⟩
  | tracerRefused found tracer logs =>
    exact .inl ⟨(hattempt.append ((Accounts.of_isLog logs).append (.refused ..))).tracers, by simp⟩
  | @outputFailed pid output ending handled cause session failure =>
    refine .inr ⟨?_, ?_⟩
    · rw [Journal.started_append, (Accounts.opening settings outcome pid).tracers,
        Journal.started_of_isRelay session.isRelay]
    · intro failures lastExit
      simp [State.GivesUp, session.not_fails_of_some failure]
  | sessionStopped session done logs =>
    refine .inr ⟨(session.accounts_append done (.shutdown logs)).tracers, ?_⟩
    intro failures lastExit
    simp [State.GivesUp, session.tracer, Tracer.Outcome.fails]
  | tracerGivenUp session done givesUp logs =>
    refine .inr ⟨(session.accounts_append done (.of_isLog logs)).tracers, ?_⟩
    intro failures lastExit
    rw [session.tracer]
    simp [givesUp, Tracer.Outcome.exit?, eq_comm]
  | stoppedInPause session done goesOn stops logs =>
    have hrest : ∀ summary, Accounts 0 0 [] (_ ++ [.shutdown, .logged (.stopped summary)]) :=
      fun summary => (Accounts.of_isLog logs).append (.shutdown (by simp [Action.isLog]))
    refine .inr ⟨(session.accounts_append done (hrest _)).tracers, ?_⟩
    intro failures lastExit
    simp [goesOn]

theorem Reaches.toNat_failures_succ (h : Reaches settings world sink journal lookups state)
    (hlimit : 0 < settings.tracer.maxConsecutiveFailures) :
    (state.failures + 1).toNat = state.failures.toNat + 1 ∧
      state.failures.toNat + 1 ≤ settings.tracer.maxConsecutiveFailures.toNat := by
  have hlt := UInt32.lt_iff_toNat_lt.mp (h.failures_lt hlimit)
  have hsize := settings.tracer.maxConsecutiveFailures.toNat_lt
  exact ⟨toNat_succ (by omega), by omega⟩

/-- The number of failed sessions with which the run gives up is the one allowed. -/
theorem Reaches.failures_succ (h : Reaches settings world sink journal lookups state)
    (hgivesUp : state.GivesUp settings) :
    state.failures + 1 = settings.tracer.maxConsecutiveFailures := by
  obtain ⟨-, hlimit, hle⟩ := hgivesUp
  obtain ⟨hsucc, hbound⟩ := h.toNat_failures_succ hlimit
  apply UInt32.toNat_inj.mp
  have := UInt32.le_iff_toNat_le.mp hle
  omega

/-- The session that makes the run give up completes a row of the number allowed. -/
theorem Reaches.givesUp_iff (h : Reaches settings world sink journal lookups state) :
    state.GivesUp settings ↔ 0 < settings.tracer.maxConsecutiveFailures ∧
      InARow settings settings.tracer.maxConsecutiveFailures.toNat
        (world.sessions (Journal.started .tracer journal + 1)) := by
  unfold State.GivesUp
  by_cases hlimit : 0 < settings.tracer.maxConsecutiveFailures
  · obtain ⟨hsucc, hbound⟩ := h.toNat_failures_succ hlimit
    obtain ⟨count, hcount⟩ := Nat.exists_eq_succ_of_ne_zero
      (Nat.ne_of_gt (UInt32.lt_iff_toNat_lt.mp hlimit))
    rw [World.sessions_succ, ← h.books.nextTracer, hcount, inARow_succ_append,
      h.inARow_iff (.inl hlimit), UInt32.le_iff_toNat_le, hsucc, hcount]
    simp [hlimit]
  · simp [hlimit]

/-- No row of the number allowed comes before the last session of a run. -/
theorem run_not_inARow (settings : Settings) (world : World) (sink : Sink)
    (hlimit : 0 < settings.tracer.maxConsecutiveFailures) (count : Nat)
    (hcount : count < Journal.started .tracer (run settings world sink).journal) :
    ¬InARow settings settings.tracer.maxConsecutiveFailures.toNat (world.sessions count) := by
  have hends := run_ends settings world sink
  generalize run settings world sink = ran at hends hcount
  cases hends with
  | atStart => cases hcount
  | hanging before =>
    rw [Journal.started_append] at hcount
    exact before.not_inARow hlimit (Nat.le_of_lt hcount)
  | finished before last =>
    rw [Journal.started_append] at hcount
    rcases (step_of_turn_eq last).finish_cases with ⟨hstarted, -⟩ | ⟨hstarted, -⟩
    · exact before.not_inARow hlimit (by omega)
    · exact before.not_inARow hlimit (by omega)

theorem run_tracerFailing_iff (settings : Settings) (world : World) (sink : Sink)
    (failures : UInt32) (lastExit : Option Int) :
    let ran := run settings world sink
    let limit := settings.tracer.maxConsecutiveFailures
    let sessions := world.sessions (Journal.started .tracer ran.journal)
    ran.value = .error (.tracerFailing failures lastExit) ↔
      0 < limit ∧ InARow settings limit.toNat sessions ∧ failures = limit ∧
        sessions.getLast?.map (·.exit?) = some lastExit := by
  have hends := run_ends settings world sink
  generalize run settings world sink = ran at hends
  dsimp only
  cases hends with
  | atStart =>
    constructor
    · intro hvalue
      cases hvalue
    · intro h
      obtain ⟨hlimit, hrow, -⟩ := h
      exact absurd hrow.le_length (Nat.not_le.mpr (UInt32.lt_iff_toNat_lt.mp hlimit))
  | @hanging journal state before =>
    constructor
    · intro hvalue
      cases hvalue
    · intro h
      obtain ⟨hlimit, hrow, -⟩ := h
      rw [Journal.started_append] at hrow
      exact absurd hrow (before.not_inARow hlimit (Nat.le_refl _))
  | finished before last =>
    rw [Journal.started_append]
    rcases (step_of_turn_eq last).finish_cases with ⟨hstarted, hnone⟩ | ⟨hstarted, hiff⟩
    · rw [hstarted]
      constructor
      · intro hvalue
        exact absurd hvalue (hnone failures lastExit)
      · intro h
        obtain ⟨hlimit, hrow, -⟩ := h
        exact absurd hrow (before.not_inARow hlimit (Nat.le_refl _))
    · rw [hiff, hstarted]
      constructor
      · intro h
        obtain ⟨hgivesUp, hfailures, hexit⟩ := h
        obtain ⟨hlimit, hrow⟩ := before.givesUp_iff.mp hgivesUp
        refine ⟨hlimit, hrow, hfailures.trans (before.failures_succ hgivesUp), ?_⟩
        rw [World.sessions_succ, ← before.books.nextTracer, List.getLast?_concat, hexit]
        rfl
      · intro h
        obtain ⟨hlimit, hrow, hfailures, hexit⟩ := h
        have hgivesUp := before.givesUp_iff.mpr ⟨hlimit, hrow⟩
        rw [World.sessions_succ, ← before.books.nextTracer, List.getLast?_concat] at hexit
        refine ⟨hgivesUp, hfailures.trans (before.failures_succ hgivesUp).symm, ?_⟩
        exact (Option.some.inj hexit).symm

/-- A session that makes the run give up is the last that happens in it. -/
theorem run_journal_of_tracerFailing {failures : UInt32} {lastExit : Option Int}
    (h : (run settings world sink).value = .error (.tracerFailing failures lastExit)) :
    ∃ before pid rest, (run settings world sink).journal =
        before ++ .started (tracerCommand settings pid) :: rest ∧
      ∀ a ∈ rest, a.isLog = true := by
  have hends := run_ends settings world sink
  generalize run settings world sink = ran at hends h
  cases hends with
  | atStart => cases h
  | hanging => cases h
  | @finished journal outcome lookups state actions result before last =>
    cases h
    cases step_of_turn_eq last with
    | @tracerGivenUp pid output status handled notes session done givesUp logs =>
      obtain ⟨-, hhandled⟩ := session.handled_of_fails givesUp.1
      refine ⟨journal ++ ((Target.resolve settings.lookup targetName outcome).journal ++
        [.logged (.targetFound pid), spawnNote settings pid]), pid, handled.journal ++ notes, ?_,
        List.forall_mem_append.mpr ⟨hhandled, logs⟩⟩
      simp [opening]

/-- **The run gives the tracer up with the first row of failed sessions of the number allowed**, and
with no other. Nothing but log entries follows the start of the last tracer. -/
theorem gives_up_exactly (settings : Settings) (world : World) (sink : Sink) :
    let ran := run settings world sink
    let limit := settings.tracer.maxConsecutiveFailures
    let started := Journal.started .tracer ran.journal
    (0 < limit → ∀ count < started, ¬InARow settings limit.toNat (world.sessions count)) ∧
    (∀ failures lastExit, ran.value = .error (.tracerFailing failures lastExit) ↔
      0 < limit ∧ InARow settings limit.toNat (world.sessions started) ∧ failures = limit ∧
        (world.sessions started).getLast?.map (·.exit?) = some lastExit) ∧
    (∀ failures lastExit, ran.value = .error (.tracerFailing failures lastExit) →
      ∃ before pid rest, ran.journal = before ++ .started (tracerCommand settings pid) :: rest ∧
        ∀ a ∈ rest, a.isLog = true) :=
  ⟨run_not_inARow settings world sink, run_tracerFailing_iff settings world sink,
    fun _ _ => run_journal_of_tracerFailing⟩

/-- Settings under which the tracer may fail once, and not twice in a row. -/
def oneFailureAllowed : Settings where
  tracer := { maxConsecutiveFailures := 2 }

/-- The first tracer exits with a failure but has a payload to relay; the second only fails; then a
lookup finds nothing, and the third tracer is killed. -/
def brokenRow : World where
  lookups := [foundTarget, foundTarget, lostTarget, foundTarget, foundTarget]
  tracers := [.ran "write(1, \"a\", 1) = 1\n".toUTF8.toList (.closes (.exited 1)),
    .ran [] (.closes (.exited 1)), .ran [] (.closes .killed), .ran [] (.closes (.exited 0))]

theorem gives_up_exactly_killed :
    let ran := run oneFailureAllowed brokenRow bytewise
    ran.value = .error (.tracerFailing 2 none) ∧ Journal.started .tracer ran.journal = 3 ∧
    InARow oneFailureAllowed 2 (brokenRow.sessions 3) ∧
    ¬InARow oneFailureAllowed 2 (brokenRow.sessions 2) ∧
    ∃ before pid rest,
      ran.journal = before ++ .started (tracerCommand oneFailureAllowed pid) :: rest ∧
        ∀ a ∈ rest, a.isLog = true := by
  have hvalue : (run oneFailureAllowed brokenRow bytewise).value =
      .error (.tracerFailing 2 none) := by decide +kernel
  have hstarted :
      Journal.started .tracer (run oneFailureAllowed brokenRow bytewise).journal = 3 := by
    decide +kernel
  obtain ⟨hfirst, hiff, hlast⟩ := gives_up_exactly oneFailureAllowed brokenRow bytewise
  obtain ⟨-, hrow, -, -⟩ := (hiff 2 none).mp hvalue
  rw [hstarted] at hrow hfirst
  exact ⟨hvalue, hstarted, hrow, hfirst (by decide) 2 (by decide), hlast 2 none hvalue⟩

end History

end TraceRelay.Run
