import TraceRelay.Proofs.Run.Accounts

/-!
# When the output fails

A call on the output can fail at any point of any payload. What has reached the reader by then is
every earlier payload, and of the one at hand all of it or a part, depending on the call that
failed; the report agrees with it. The run ends there.
-/

namespace TraceRelay.Run

/-- The output fails at a line that has a payload to relay. All earlier payloads are flushed; of
this one everything is written if the flush failed, and otherwise a part, with the rest refused. The
report counts what is flushed and the malformed lines before this one. -/
def BrokenOff (settings : Settings) (lines : List String) (sink : Sink)
    (handled : Journaled Relayed) (cause : OsError) : Prop :=
  let after := handled.value.relay
  let out := Journal.output handled.journal
  ∃ before line rest call, lines = before ++ line :: rest ∧
    relayed? settings line = some call ∧
    out.flushed = relayedPayloads settings before ∧
    ((out.unflushed = call.payload ∧
        after.sink.flushes = sink.flushes + out.flushed.length + 1 ∧
        sink.behaviour.flush after.sink.flushes = some cause) ∨
      ∃ left, left ≠ [] ∧ call.payload = out.unflushed ++ left ∧
        after.sink.flushes = sink.flushes + out.flushed.length ∧
        (sink.behaviour.write after.sink.writes left.length).refusal? = some cause) ∧
    after.report.payloads = out.flushed.length ∧
    after.report.bytes = out.flushed.flatten.length ∧
    after.report.skippedLines = malformed before

theorem brokenOff_of_some {lines : List String} {pid : UInt32} {sink : Sink}
    {handled : Journaled Relayed} {cause : OsError}
    (hlines : Relay.Handles settings lines (freshRelay pid sink) handled)
    (h : handled.value.failure = some cause) : BrokenOff settings lines sink handled cause := by
  obtain ⟨before, line, rest, call, taken, left, hsplit, hcall, hpayload, hbreaks, hreport,
    houtput⟩ := hlines.brokenOff cause h
  have hout : Journal.output handled.journal = ⟨relayedPayloads settings before, taken⟩ :=
    houtput []
  unfold BrokenOff
  dsimp only
  rw [hout, hreport]
  refine ⟨before, line, rest, call, hsplit, hcall, rfl, ?_, ?_, ?_, ?_⟩
  · -- The call that failed was the flush if everything was written, and else a write.
    by_cases hleft : left = []
    · left
      obtain ⟨hflush, hflushes⟩ := hbreaks.flush hleft
      rw [hlines.behaviour] at hflush
      refine ⟨?_, hflushes, hflush⟩
      rw [hpayload, hleft, List.append_nil]
    · right
      obtain ⟨hwrite, hflushes⟩ := hbreaks.write hleft
      rw [hlines.behaviour] at hwrite
      exact ⟨left, hleft, hpayload, hflushes, hwrite⟩
  · simp [Report.noting, Report.after, freshRelay]
  · simp [Report.noting, Report.after, freshRelay]
  · simp [Report.noting, Report.after, freshRelay]

/-- A run that fails to write ends with the session in which it does. -/
theorem run_eq_output_iff (settings : Settings) (world : World) (sink : Sink) (cause : OsError)
    (actions : List Action) : run settings world sink = ⟨.error (.output cause), actions⟩ ↔
      ∃ journal outcome lookups state pid output ending handled,
        Reaches settings world sink journal (outcome :: lookups) state ∧
        InSession settings outcome state pid output ending handled ∧
        handled.value.failure = some cause ∧
        actions = journal ++ (opening settings outcome pid ++ handled.journal) := by
  constructor
  · intro hrun
    have hends := run_ends settings world sink
    rw [hrun] at hends
    cases hends with
    | finished before last =>
      cases step_of_turn_eq last with
      | outputFailed session failure =>
        exact ⟨_, _, _, _, _, _, _, _, before, session, failure, rfl⟩
  · intro h
    obtain ⟨journal, outcome, lookups, state, pid, output, ending, handled, hreach, hsession,
      hfailure, hactions⟩ := h
    have hturn := hsession.turn_of_some hfailure world.stop
    rw [hreach.run_eq, hactions]
    simp [turns, bind, pure, hturn]

/-- **Failures of the output are exact.** Handling lines either relays every payload or breaks off
at one of them, with the output and the report in step. A run ends with a failure of the output just
when it comes to a session that breaks off, and ends there: no command follows the start of its
tracer. -/
theorem output_failures_exact (settings : Settings) :
    (∀ (lines : List String) (pid : UInt32) (sink : Sink),
      let handled := Relay.handleLines settings lines (freshRelay pid sink)
      (handled.value.failure = none →
        Journal.output handled.journal = ⟨relayedPayloads settings lines, []⟩) ∧
      (∀ cause, handled.value.failure = some cause →
        BrokenOff settings lines sink handled cause) ∧
      Journal.attempts handled.journal = []) ∧
    ∀ (world : World) (sink : Sink) (cause : OsError) (actions : List Action),
      run settings world sink = ⟨.error (.output cause), actions⟩ ↔
        ∃ journal outcome lookups state pid output ending handled,
          Reaches settings world sink journal (outcome :: lookups) state ∧
          InSession settings outcome state pid output ending handled ∧
          handled.value.failure = some cause ∧
          actions = journal ++ (opening settings outcome pid ++ handled.journal) := by
  refine ⟨?_, run_eq_output_iff settings⟩
  intro lines pid sink
  have hlines := Relay.handles_lines settings lines (freshRelay pid sink)
  refine ⟨?_, fun cause => brokenOff_of_some hlines, Journal.attempts_of_isRelay hlines.isRelay⟩
  intro hnone
  obtain ⟨-, -, houtput⟩ := hlines.relayed hnone
  exact houtput []

example : Journal.output (Relay.handleLines {}
      ["write(1, \"ab\", 2) = 2", "write(2", "write(1, \"cd\", 2) = 2", "write(1, \"e\", 1) = 1"]
      (freshRelay 7 ⟨({ failFlush := some 2 } : Faults).behaviour, 0, 0⟩)).journal =
    ⟨[[97, 98]], [99, 100]⟩ := by
  decide +kernel

end TraceRelay.Run
