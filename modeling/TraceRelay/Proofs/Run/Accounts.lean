import TraceRelay.Proofs.Run.History

/-!
# What a run relays and counts

The output of a run and the totals that it reports, in terms of the world alone: the lookups that
were attempted are the first ones of the world, the tracers that were started likewise, and what
they wrote determines every chunk that is flushed.

The accounts of a turn are those of the parts of its journal, added up; the accounts of a run are
those of its turns.
-/

namespace TraceRelay

/-- The sum of two summaries. -/
def Summary.merge (s t : Summary) : Summary where
  sessions := s.sessions + t.sessions
  payloads := s.payloads + t.payloads
  bytes := s.bytes + t.bytes
  skippedLines := s.skippedLines + t.skippedLines
  lookupFailures := s.lookupFailures + t.lookupFailures

namespace Run

/-- What the nth tracer of a world does, counted from zero. -/
def World.tracer (world : World) (n : Nat) : Tracer.Outcome :=
  world.tracers[n]?.getD (.ran [] (.closes (.exited 0)))

/-- What the first tracers of a world do. -/
def World.sessions (world : World) (count : Nat) : List Tracer.Outcome :=
  (List.range count).map world.tracer

/-- The payloads to be relayed of some sessions, session after session and line after line. -/
def chunks (settings : Settings) (sessions : List Tracer.Outcome) : List (List UInt8) :=
  relayedPayloads settings (sessions.flatMap (·.lines))

/-- The summary that some lookups and sessions amount to. -/
def tally (settings : Settings) (lookups : List Target.Outcome) (sessions : List Tracer.Outcome) :
    Summary where
  sessions := sessions.length
  payloads := (chunks settings sessions).length
  bytes := (chunks settings sessions).flatten.length
  skippedLines := malformed (sessions.flatMap (·.lines))
  lookupFailures := lookups.countP (·.fails settings.lookup targetName)

section Sums

variable (settings : Settings) (sessions sessions' : List Tracer.Outcome)

@[simp] theorem chunks_append :
    chunks settings (sessions ++ sessions') =
      chunks settings sessions ++ chunks settings sessions' := by
  simp [chunks]

theorem tally_append (lookups lookups' : List Target.Outcome) :
    tally settings (lookups ++ lookups') (sessions ++ sessions') =
      (tally settings lookups sessions).merge (tally settings lookups' sessions') := by
  simp [tally, Summary.merge]

end Sums

namespace World

theorem sessions_succ (world : World) (n : Nat) :
    world.sessions (n + 1) = world.sessions n ++ [world.tracer n] := by
  simp [sessions, List.range_succ]

theorem length_sessions (world : World) (n : Nat) : (world.sessions n).length = n := by
  simp [sessions]

end World

/-- The accounts of a part of a run: the lookups attempted, the tracers started, and the chunks
flushed, with nothing left unflushed. -/
structure Accounts (lookups tracers : Nat) (flushes : List (List UInt8)) (actions : List Action) :
    Prop where
  lookups : Journal.attempted .lookup actions = lookups
  tracers : Journal.started .tracer actions = tracers
  output : ∀ flushed, Output.afterAll ⟨flushed, []⟩ actions = ⟨flushed ++ flushes, []⟩

namespace Accounts

theorem append {lookups lookups' tracers tracers' : Nat} {flushes flushes' : List (List UInt8)}
    {actions actions' : List Action} (h : Accounts lookups tracers flushes actions)
    (h' : Accounts lookups' tracers' flushes' actions') :
    Accounts (lookups + lookups') (tracers + tracers') (flushes ++ flushes')
      (actions ++ actions') := by
  refine ⟨?_, ?_, ?_⟩
  · rw [Journal.attempted_append, h.lookups, h'.lookups]
  · rw [Journal.started_append, h.tracers, h'.tracers]
  · intro flushed
    rw [Output.afterAll_append, h.output, h'.output, List.append_assoc]

/-- Log entries count for nothing. -/
theorem of_isLog {notes : List Action} (h : ∀ a ∈ notes, a.isLog = true) :
    Accounts 0 0 [] notes := by
  have hrelay : ∀ a ∈ notes, a.isRelay = true := fun a ha => Action.isRelay_of_isLog (h a ha)
  refine ⟨Journal.attempted_of_isRelay hrelay .lookup,
    Journal.started_of_isRelay hrelay .tracer, ?_⟩
  intro flushed
  rw [Output.afterAll_of_isLog h, List.append_nil]

theorem attempt (settings : LookupSettings) (name : String) (outcome : Target.Outcome) :
    Accounts 1 0 [] [outcome.attempt settings name] := by
  cases outcome <;> exact ⟨rfl, rfl, fun flushed => by simp [Target.Outcome.attempt, Output.after]⟩

theorem slept (duration : Duration) : Accounts 0 0 [] [.slept duration] :=
  ⟨rfl, rfl, fun flushed => by simp [Output.after]⟩

theorem shutdown {notes : List Action} (h : ∀ a ∈ notes, a.isLog = true) :
    Accounts 0 0 [] (.shutdown :: notes) := by
  have hone : Accounts 0 0 [] [.shutdown] := ⟨rfl, rfl, fun flushed => by simp [Output.after]⟩
  exact hone.append (of_isLog h)

theorem refused (settings : Settings) (pid : UInt32) (cause : OsError) :
    Accounts 0 0 [] [.refused (tracerCommand settings pid) cause] :=
  ⟨rfl, rfl, fun flushed => by simp [Output.after]⟩

theorem started (settings : Settings) (pid : UInt32) :
    Accounts 0 1 [] [.started (tracerCommand settings pid)] :=
  ⟨rfl, rfl, fun flushed => by simp [Output.after]⟩

/-- The lines of a session that are all handled. -/
theorem handled {settings : Settings} {lines : List String} {relay : Relay}
    {handled : Journaled Relayed} (h : Relay.handleLines settings lines relay = handled)
    (hdone : handled.value.failure = none) :
    Accounts 0 0 (relayedPayloads settings lines) handled.journal := by
  have hlines := Relay.handles_lines settings lines relay
  rw [h] at hlines
  exact ⟨Journal.attempted_of_isRelay hlines.isRelay .lookup,
    Journal.started_of_isRelay hlines.isRelay .tracer, (hlines.relayed hdone).2.2⟩

end Accounts

section Turn

variable {settings : Settings} {stop : Option Stop} {outcome : Target.Outcome} {state : State}

theorem Accounts.opening (settings : Settings) (outcome : Target.Outcome) (pid : UInt32) :
    Accounts 1 1 [] (Run.opening settings outcome pid) := by
  obtain ⟨notes, hlogs, hopening⟩ := opening_eq_cons settings outcome pid
  rw [hopening]
  exact (Accounts.attempt settings.lookup targetName outcome).append
    ((Accounts.of_isLog hlogs).append (Accounts.started settings pid))

/-- The journal of a session whose lines are all handled. -/
theorem InSession.accounts_append {pid : UInt32} {output : List UInt8} {ending : Tracer.Ending}
    {rest : List Action} {handled : Journaled Relayed}
    (h : InSession settings outcome state pid output ending handled)
    (hdone : handled.value.failure = none) (hrest : Accounts 0 0 [] rest) :
    Accounts 1 1 (chunks settings [state.nextTracer])
      (opening settings outcome pid ++ (handled.journal ++ rest)) := by
  have hall := (Accounts.opening settings outcome pid).append
    ((Accounts.handled h.handles hdone).append hrest)
  rw [h.tracer]
  simpa [chunks, Tracer.Outcome.lines] using hall

/-- What a turn adds to the accounts of a run: one lookup, and at most one session, with the next
tracer. It ends with a state or a summary in which they are counted. -/
structure Adds (settings : Settings) (outcome : Target.Outcome) (state : State)
    (sessions : List Tracer.Outcome) (actions : List Action) (next : Next) : Prop where
  sessions_eq : sessions = [] ∨ sessions = [state.nextTracer]
  accounts : Accounts 1 sessions.length (chunks settings sessions) actions
  again : ∀ state', next = .again state' → state'.tracers = state.tracers.drop sessions.length ∧
    state'.summary = state.summary.merge (tally settings [outcome] sessions) ∧
    state'.failures = failuresAfter settings state.failures sessions ∧
    state'.sink.behaviour = state.sink.behaviour
  finish : ∀ summary, next = .finish (.ok summary) →
    summary = state.summary.merge (tally settings [outcome] sessions)

theorem fails_of_error {error : Target.Error}
    (h : (Target.resolve settings.lookup targetName outcome).value = .error error) :
    outcome.fails settings.lookup targetName = true := by
  simp [Target.Outcome.fails, h]

theorem not_fails_of_ok {pid : UInt32}
    (h : (Target.resolve settings.lookup targetName outcome).value = .ok pid) :
    outcome.fails settings.lookup targetName = false := by
  simp [Target.Outcome.fails, h]

theorem missed_eq_merge {error : Target.Error} (state : State)
    (h : (Target.resolve settings.lookup targetName outcome).value = .error error) :
    state.missed = state.summary.merge (tally settings [outcome] []) := by
  simp [State.missed, Summary.merge, tally, chunks, fails_of_error h]

theorem add_eq_merge {pid : UInt32} {output : List UInt8} {ending : Tracer.Ending}
    {handled : Journaled Relayed}
    (h : InSession settings outcome state pid output ending handled) :
    state.summary.add (sessionReport settings pid output ending) =
      state.summary.merge (tally settings [outcome] [state.nextTracer]) := by
  rw [h.tracer]
  simp [Summary.add, Summary.merge, tally, chunks, sessionReport, Report.after,
    Tracer.Outcome.lines, not_fails_of_ok h.found]

theorem InSession.behaviour_eq {pid : UInt32} {output : List UInt8} {ending : Tracer.Ending}
    {handled : Journaled Relayed}
    (h : InSession settings outcome state pid output ending handled) :
    handled.value.relay.sink.behaviour = state.sink.behaviour := by
  rw [← h.handles]
  exact (Relay.handles_lines settings (ending.lines output) (freshRelay pid state.sink)).behaviour

/-- A session over an output that never fails handles all of its lines. -/
theorem InSession.failure_eq_none {pid : UInt32} {output : List UInt8} {ending : Tracer.Ending}
    {handled : Journaled Relayed}
    (h : InSession settings outcome state pid output ending handled)
    (hsteady : state.sink.behaviour.Steady) : handled.value.failure = none := by
  rw [← h.handles]
  exact Relay.handleLines_failure_eq_none_of_steady hsteady settings (ending.lines output)

/-- A turn that fails to find the target. -/
theorem adds_of_error {error : Target.Error} {rest : List Action} {next : Next}
    (h : (Target.resolve settings.lookup targetName outcome).value = .error error)
    (hrest : Accounts 0 0 [] rest)
    (hagain : ∀ state', next = .again state' → state'.tracers = state.tracers ∧
      state'.summary = state.missed ∧ state'.failures = state.failures ∧
      state'.sink.behaviour = state.sink.behaviour)
    (hfinish : ∀ summary, next = .finish (.ok summary) → summary = state.missed) :
    Adds settings outcome state [] (outcome.attempt settings.lookup targetName :: rest) next := by
  refine ⟨.inl rfl, (Accounts.attempt settings.lookup targetName outcome).append hrest, ?_, ?_⟩
  · rw [← missed_eq_merge state h]
    exact hagain
  · rw [← missed_eq_merge state h]
    exact hfinish

/-- A turn with a session whose lines are all handled. -/
theorem adds_of_inSession {pid : UInt32} {output : List UInt8} {ending : Tracer.Ending}
    {rest : List Action} {handled : Journaled Relayed} {next : Next}
    (h : InSession settings outcome state pid output ending handled)
    (hdone : handled.value.failure = none) (hrest : Accounts 0 0 [] rest)
    (hagain : ∀ state', next = .again state' → state'.tracers = state.tracers.tail ∧
      state'.summary = state.summary.add (sessionReport settings pid output ending) ∧
      state'.failures = failuresAfter settings state.failures [state.nextTracer] ∧
      state'.sink = handled.value.relay.sink)
    (hfinish : ∀ summary, next = .finish (.ok summary) →
      summary = state.summary.add (sessionReport settings pid output ending)) :
    Adds settings outcome state [state.nextTracer]
      (opening settings outcome pid ++ (handled.journal ++ rest)) next := by
  refine ⟨.inr rfl, h.accounts_append hdone hrest, ?_, ?_⟩
  · intro state' hnext
    obtain ⟨htracers, hsummary, hfailures, hsink⟩ := hagain state' hnext
    refine ⟨?_, by rw [hsummary, add_eq_merge h], hfailures, by rw [hsink, h.behaviour_eq]⟩
    rw [htracers, ← List.drop_one]
    rfl
  · intro summary hnext
    rw [hfinish summary hnext, add_eq_merge h]

/-- **What a turn adds.** Only one that ends in a failure of the output is not accounted for. -/
theorem Step.adds {actions : List Action} {next : Next}
    (h : Step settings stop outcome state actions next)
    (hnext : ∀ cause, next ≠ .finish (.error (.output cause))) :
    ∃ sessions, Adds settings outcome state sessions actions next := by
  cases h with
  | targetLost lost verdict logs =>
    exact ⟨[], adds_of_error lost (.of_isLog logs) (by simp) (by simp)⟩
  | retried lost verdict goesOn logs =>
    refine ⟨[], adds_of_error lost ((Accounts.of_isLog logs).append (.slept _)) ?_ (by simp)⟩
    intro state' hstate
    cases hstate
    exact ⟨rfl, rfl, rfl, rfl⟩
  | stoppedInRetry lost verdict stops logs =>
    refine ⟨[], adds_of_error lost ((Accounts.of_isLog logs).append (.shutdown ?_)) (by simp) ?_⟩
    · simp [Action.isLog]
    · intro summary hsummary
      cases hsummary
      rfl
  | tracerRefused found tracer logs =>
    refine ⟨[], .inl rfl, ?_, by simp, by simp⟩
    exact (Accounts.attempt settings.lookup targetName outcome).append
      ((Accounts.of_isLog logs).append (.refused settings _ _))
  | outputFailed session failure =>
    -- Here a part of a payload is left unflushed, which the accounts have no place for.
    exact absurd rfl (hnext _)
  | sessionStopped session done logs =>
    refine ⟨_, adds_of_inSession session done (.shutdown logs) (by simp) ?_⟩
    intro summary hsummary
    cases hsummary
    rfl
  | tracerGivenUp session done givesUp logs =>
    exact ⟨_, adds_of_inSession session done (.of_isLog logs) (by simp) (by simp)⟩
  | paused session done goesOn awake logs =>
    refine ⟨_, adds_of_inSession session done ((Accounts.of_isLog logs).append (.slept _)) ?_
      (by simp)⟩
    intro state' hstate
    cases hstate
    exact ⟨rfl, rfl, rfl, rfl⟩
  | stoppedInPause session done goesOn stops logs =>
    refine ⟨_, adds_of_inSession session done ((Accounts.of_isLog logs).append (.shutdown ?_))
      (by simp) ?_⟩
    · simp [Action.isLog]
    · intro summary hsummary
      cases hsummary
      rfl

end Turn

section History

variable {settings : Settings} {world : World} {sink : Sink} {journal : List Action}
  {lookups : List Target.Outcome} {state : State}

/-- The books of a run when it looks its target up: what is still to come of the world, what was
relayed, and what was counted. -/
structure Books (settings : Settings) (world : World) (sink : Sink) (journal : List Action)
    (lookups : List Target.Outcome) (state : State) : Prop where
  lookups : world.lookups.drop (Journal.attempted .lookup journal) = lookups
  tracers : world.tracers.drop (Journal.started .tracer journal) = state.tracers
  output : Journal.output journal =
    ⟨chunks settings (world.sessions (Journal.started .tracer journal)), []⟩
  summary : state.summary =
    tally settings (world.lookups.take (Journal.attempted .lookup journal))
      (world.sessions (Journal.started .tracer journal))
  behaviour : state.sink.behaviour = sink.behaviour

theorem Books.nextTracer (h : Books settings world sink journal lookups state) :
    state.nextTracer = world.tracer (Journal.started .tracer journal) := by
  rw [State.nextTracer, ← h.tracers, List.head?_drop]
  rfl

/-- The sessions of a run once a turn is over. -/
theorem Books.sessions_append (h : Books settings world sink journal lookups state)
    {sessions : List Tracer.Outcome} (hsessions : sessions = [] ∨ sessions = [state.nextTracer]) :
    world.sessions (Journal.started .tracer journal + sessions.length) =
      world.sessions (Journal.started .tracer journal) ++ sessions := by
  rcases hsessions with rfl | rfl
  · simp
  · rw [h.nextTracer]
    exact world.sessions_succ _

/-- The lookups of a run once a turn is over. -/
theorem Books.take_succ {outcome : Target.Outcome}
    (h : Books settings world sink journal (outcome :: lookups) state) :
    world.lookups.take (Journal.attempted .lookup journal + 1) =
      world.lookups.take (Journal.attempted .lookup journal) ++ [outcome] := by
  have hget : world.lookups[Journal.attempted .lookup journal]? = some outcome := by
    rw [← List.head?_drop, h.lookups]
    rfl
  rw [List.take_add_one, hget]
  rfl

theorem Books.initial (settings : Settings) (world : World) (sink : Sink) :
    Books settings world sink [] world.lookups (.initial settings world sink) :=
  ⟨rfl, rfl, rfl, rfl, rfl⟩

/-- What a turn adds is added to the books. -/
theorem Books.adds {outcome : Target.Outcome} {sessions : List Tracer.Outcome}
    {actions : List Action} {next : Next}
    (h : Books settings world sink journal (outcome :: lookups) state)
    (hadds : Adds settings outcome state sessions actions next) :
    world.lookups.take (Journal.attempted .lookup (journal ++ actions)) =
        world.lookups.take (Journal.attempted .lookup journal) ++ [outcome] ∧
      world.sessions (Journal.started .tracer (journal ++ actions)) =
        world.sessions (Journal.started .tracer journal) ++ sessions ∧
      Journal.output (journal ++ actions) =
        ⟨chunks settings (world.sessions (Journal.started .tracer (journal ++ actions))), []⟩ := by
  have hsessions : world.sessions (Journal.started .tracer (journal ++ actions)) =
      world.sessions (Journal.started .tracer journal) ++ sessions := by
    rw [Journal.started_append, hadds.accounts.tracers, h.sessions_append hadds.sessions_eq]
  refine ⟨?_, hsessions, ?_⟩
  · rw [Journal.attempted_append, hadds.accounts.lookups, h.take_succ]
  · rw [hsessions, chunks_append, Journal.output_eq_afterAll, Output.afterAll_append,
      ← Journal.output_eq_afterAll, h.output, hadds.accounts.output]

theorem Books.again {outcome : Target.Outcome} {actions : List Action} {next : State}
    (h : Books settings world sink journal (outcome :: lookups) state)
    (hstep : Step settings world.stop outcome state actions (.again next)) :
    Books settings world sink (journal ++ actions) lookups next := by
  obtain ⟨sessions, hadds⟩ := hstep.adds (by simp)
  obtain ⟨htake, hsessions, houtput⟩ := h.adds hadds
  obtain ⟨htracers, hsummary, -, hbehaviour⟩ := hadds.again next rfl
  refine ⟨?_, ?_, houtput, ?_, hbehaviour.trans h.behaviour⟩
  · rw [Journal.attempted_append, hadds.accounts.lookups, ← List.drop_drop, h.lookups]
    rfl
  · rw [Journal.started_append, hadds.accounts.tracers, ← List.drop_drop, h.tracers, htracers]
  · rw [htake, hsessions, tally_append, ← h.summary, hsummary]

/-- **The books are right in every state of a run.** -/
theorem Reaches.books (h : Reaches settings world sink journal lookups state) :
    Books settings world sink journal lookups state := by
  induction h with
  | start h => exact .initial settings world sink
  | turn _ again ih => exact ih.again (step_of_turn_eq again)

/-- A run over an output that never fails does not end with a failure of the output. -/
theorem run_ne_output (h : sink.behaviour.Steady) (settings : Settings) (world : World)
    (cause : OsError) : (run settings world sink).value ≠ .error (.output cause) := by
  intro hvalue
  have hends := run_ends settings world sink
  generalize run settings world sink = ran at hends hvalue
  cases hends with
  | atStart => cases hvalue
  | hanging => cases hvalue
  | finished before last =>
    cases hvalue
    cases step_of_turn_eq last with
    | outputFailed session failure =>
      rw [session.failure_eq_none (before.books.behaviour ▸ h)] at failure
      cases failure

/-- What is relayed and counted by a run that does not end with a failure of the output. -/
theorem accounts_of_ne_output
    (h : ∀ cause, (run settings world sink).value ≠ .error (.output cause)) :
    let ran := run settings world sink
    let sessions := world.sessions (Journal.started .tracer ran.journal)
    Journal.output ran.journal = ⟨chunks settings sessions, []⟩ ∧
      ∀ summary, ran.value = .ok summary → summary =
        tally settings (world.lookups.take (Journal.attempted .lookup ran.journal)) sessions := by
  have hends := run_ends settings world sink
  generalize run settings world sink = ran at hends h
  dsimp only
  cases hends with
  | atStart =>
    refine ⟨rfl, ?_⟩
    intro summary hsummary
    cases hsummary
    rfl
  | @hanging journal state before =>
    have hlast : Accounts 1 0 [] [.started ⟨.lookup, Target.arguments settings.lookup targetName⟩,
        .shutdown, .logged (.stopped state.summary)] :=
      ⟨rfl, rfl, fun flushed => by simp [Output.after]⟩
    -- No lookup is left, so that one more attempt takes none of them.
    have hbooks := before.books
    have hlength := List.drop_eq_nil_iff.mp hbooks.lookups
    refine ⟨?_, ?_⟩
    · rw [Journal.output_eq_afterAll, Output.afterAll_append, ← Journal.output_eq_afterAll,
        hbooks.output, hlast.output, Journal.started_append, hlast.tracers, List.append_nil]
      rfl
    · intro summary hsummary
      cases hsummary
      rw [Journal.started_append, hlast.tracers, Journal.attempted_append, hlast.lookups,
        List.take_of_length_le (by omega), hbooks.summary, List.take_of_length_le hlength]
      rfl
  | finished before last =>
    obtain ⟨sessions, hadds⟩ := (step_of_turn_eq last).adds (by simpa using h)
    obtain ⟨htake, hsessions, houtput⟩ := before.books.adds hadds
    refine ⟨houtput, ?_⟩
    intro summary hsummary
    cases hsummary
    rw [htake, hsessions, tally_append, ← before.books.summary]
    exact hadds.finish summary rfl

/-- **Every payload is relayed once and in order, and everything is counted.** Over an output that
never fails, what is flushed is exactly the payloads to be relayed of the tracers that were started,
one flush each; a run that ends by a shutdown reports how many tracers and payloads there were, how
many bytes, how many malformed lines, and how many lookups failed. -/
theorem output_and_totals (h : sink.behaviour.Steady) (settings : Settings) (world : World) :
    let ran := run settings world sink
    let sessions := world.sessions (Journal.started .tracer ran.journal)
    Journal.output ran.journal = ⟨chunks settings sessions, []⟩ ∧
      ∀ summary, ran.value = .ok summary →
        summary.sessions = Journal.started .tracer ran.journal ∧
        summary = tally settings
          (world.lookups.take (Journal.attempted .lookup ran.journal)) sessions := by
  obtain ⟨houtput, htotals⟩ := accounts_of_ne_output (run_ne_output h settings world)
  refine ⟨houtput, ?_⟩
  intro summary hsummary
  have htotal := htotals summary hsummary
  refine ⟨?_, htotal⟩
  rw [htotal]
  exact world.length_sessions _

/-- An output that takes a byte at a time. -/
def bytewise : Sink :=
  ⟨({ maxWrite := some 1 } : Faults).behaviour, 0, 0⟩

/-- A lookup that finds its target. -/
def foundTarget : Target.Outcome :=
  .ended (.exited 0) [0x37, 0x0A]

/-- A lookup that finds nothing. -/
def lostTarget : Target.Outcome :=
  .ended (.exited 1) []

/-- A lookup fails, the next one finds its target, and one of three lines has a payload to relay. -/
def threeLines : World where
  lookups := [.ended (.exited 1) [], .ended (.exited 0) [0x37, 0x0A]]
  tracers := [.ran
    "write(1, \"ab\", 2) = 2\nwrite(2\nwrite(1, \"c\", 1) = -1 EIO\n".toUTF8.toList
    (.closes (.exited 0))]

theorem output_and_totals_bytewise : bytewise.behaviour.Steady ∧
    Journal.output (run {} threeLines bytewise).journal = ⟨[[97, 98]], []⟩ ∧
    ∃ summary, (run {} threeLines bytewise).value = .ok summary ∧ summary = ⟨1, 1, 2, 1, 1⟩ := by
  have hsteady : bytewise.behaviour.Steady := Faults.steady 0
  obtain ⟨houtput, htotals⟩ := output_and_totals hsteady {} threeLines
  refine ⟨hsteady, houtput.trans (by decide +kernel), ?_⟩
  have hok : (run {} threeLines bytewise).value.toOption.isSome = true := by decide +kernel
  cases hvalue : (run {} threeLines bytewise).value with
  | error error =>
    rw [hvalue] at hok
    cases hok
  | ok summary => exact ⟨summary, rfl, (htotals summary hvalue).2.trans (by decide +kernel)⟩

end History

end Run

end TraceRelay
