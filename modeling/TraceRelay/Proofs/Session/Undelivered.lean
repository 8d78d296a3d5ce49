import TraceRelay.Proofs.Session.Whole

/-!
# A payload that is not delivered

When the output fails, the payload at hand counts neither as relayed nor with its bytes. If the
tracer had cut it short, it has been counted as truncated before, although none of it counts as
relayed: of all counts this is the only one that the failure leaves changed.

So the truncated payloads of a session are among its relayed ones for as long as the output takes
them, and one more than these if all were truncated, the one that the output failed on among them.
-/

namespace TraceRelay

section Counts

variable {settings : Settings} {lines : List String} {call : TracedWrite}

/-- Noting a payload changes the report if it is a truncated one. -/
theorem Report.noting_eq_iff {report : Report} :
    report.noting call = report ↔ call.truncated = false := by
  constructor
  · intro h
    have hcount : report.truncatedPayloads + (if call.truncated then 1 else 0) =
        report.truncatedPayloads := congrArg (·.truncatedPayloads) h
    simpa using hcount
  · intro h
    simp [Report.noting, h]

@[simp] theorem length_relayedPayloads (settings : Settings) (lines : List String) :
    (relayedPayloads settings lines).length = (relayedCalls settings lines).length :=
  List.length_map ..

/-- Among the payloads of a fresh report there are at most as many truncated ones. -/
theorem truncated_after_le (settings : Settings) (lines : List String) (pid : UInt32) :
    let report := ({ targetPid := pid } : Report).after settings lines
    report.truncatedPayloads ≤ report.payloads := by
  simp only [Report.after, length_relayedPayloads, Nat.zero_add]
  exact List.countP_le_length

/-- With one more payload noted, they outnumber the relayed ones if all are truncated. -/
theorem lt_truncated_noting_iff (settings : Settings) (lines : List String) (pid : UInt32)
    (call : TracedWrite) :
    let report := (({ targetPid := pid } : Report).after settings lines).noting call
    report.payloads < report.truncatedPayloads ↔
      call.truncated = true ∧ ∀ c ∈ relayedCalls settings lines, c.truncated = true := by
  have hle := List.countP_le_length (p := fun c => c.truncated) (l := relayedCalls settings lines)
  have hall : (relayedCalls settings lines).countP (fun c => c.truncated) =
      (relayedCalls settings lines).length ↔
        ∀ c ∈ relayedCalls settings lines, c.truncated = true := List.countP_eq_length
  rw [← hall]
  simp only [Report.noting, Report.after, length_relayedPayloads, Nat.zero_add]
  cases call.truncated with
  | false =>
    simp only [Bool.false_eq_true, if_false, false_and, iff_false]
    omega
  | true =>
    simp only [if_true, true_and]
    omega

end Counts

namespace Relay

variable {settings : Settings} {line : String} {relay : Relay} {cause : OsError}

/-- A line that the output fails on has a payload to relay, which is noted and not counted. -/
theorem report_of_failure (h : (handleLine settings line relay).value.failure = some cause) :
    ∃ call, relayed? settings line = some call ∧
      (handleLine settings line relay).value.relay.report = relay.report.noting call := by
  cases hrelayed : relayed? settings line with
  | none =>
    rw [(handleLine_of_none hrelayed relay).1] at h
    cases h
  | some call =>
    obtain ⟨notes, -, -, hvalue⟩ := relayPayload_eq settings call relay
    rw [handleLine_of_some hrelayed, hvalue] at h ⊢
    refine ⟨call, rfl, ?_⟩
    split at h
    · rfl
    · cases h

/-- **A payload that is not delivered counts as truncated all the same**, if it is truncated, and as
nothing else: that is all that a failure of the output leaves changed in a report. So in a session
the truncated payloads are at most as many as the relayed ones until the output fails, and after
that at most one more: just one more if the payload at hand and all the relayed ones are
truncated. -/
theorem failed_payload_counts_as_truncated (settings : Settings) :
    (∀ line relay cause, (handleLine settings line relay).value.failure = some cause →
      ∃ call, relayed? settings line = some call ∧
        (handleLine settings line relay).value.relay.report =
          { relay.report with
            truncatedPayloads :=
              relay.report.truncatedPayloads + if call.truncated then 1 else 0 } ∧
        ((handleLine settings line relay).value.relay.report = relay.report ↔
          call.truncated = false)) ∧
    ∀ lines pid sink,
      let handled := (handleLines settings lines (freshRelay pid sink)).value
      let report := handled.relay.report
      (handled.failure = none → report.truncatedPayloads ≤ report.payloads) ∧
      ∀ cause, handled.failure = some cause →
        report.truncatedPayloads ≤ report.payloads + 1 ∧
        ∃ before line after call, lines = before ++ line :: after ∧
          relayed? settings line = some call ∧
          report.payloads = (relayedCalls settings before).length ∧
          (report.payloads < report.truncatedPayloads ↔
            call.truncated = true ∧ ∀ c ∈ relayedCalls settings before, c.truncated = true) := by
  constructor
  · intro line relay cause h
    obtain ⟨call, hcall, hreport⟩ := report_of_failure h
    exact ⟨call, hcall, hreport, by rw [hreport, Report.noting_eq_iff]⟩
  · intro lines pid sink
    have hlines := handles_lines settings lines (freshRelay pid sink)
    constructor
    · intro hnone
      rw [(hlines.relayed hnone).1]
      exact truncated_after_le settings lines pid
    · intro cause hcause
      obtain ⟨before, line, after, call, taken, left, hsplit, hcall, -, -, hreport, -⟩ :=
        hlines.brokenOff cause hcause
      have hle := truncated_after_le settings before pid
      have hlt := lt_truncated_noting_iff settings before pid call
      rw [hreport]
      refine ⟨?_, before, line, after, call, hsplit, hcall, ?_, hlt⟩
      · simp only [Report.noting, freshRelay] at hle ⊢
        split <;> omega
      · simp [Report.noting, Report.after, freshRelay]

/-- The line of a call whose payload the tracer cut short. -/
def truncatedLine : String :=
  "write(1, \"hel\"..., 5) = 5"

/-- The second of two truncated payloads is written and then not flushed. -/
theorem failed_payload_counts_as_truncated_flush :
    let relay := freshRelay 7 ⟨({ failFlush := some 2 } : Faults).behaviour, 0, 0⟩
    let first := (handleLine {} truncatedLine relay).value
    let second := (handleLine {} truncatedLine first.relay).value
    let handled := (handleLines {} [truncatedLine, truncatedLine] relay).value
    second.failure = some .brokenPipe ∧ second.relay.report ≠ first.relay.report ∧
    handled.failure = some .brokenPipe ∧
    handled.relay.report.truncatedPayloads ≤ handled.relay.report.payloads + 1 := by
  intro relay first second handled
  have hsecond : second.failure = some .brokenPipe := by decide +kernel
  have hhandled : handled.failure = some .brokenPipe := by decide +kernel
  obtain ⟨hline, hlines⟩ := failed_payload_counts_as_truncated {}
  obtain ⟨call, hcall, -, hunchanged⟩ := hline truncatedLine first.relay .brokenPipe hsecond
  refine ⟨hsecond, ?_, hhandled, ((hlines _ 7 _).2 .brokenPipe hhandled).1⟩
  have hread : relayed? {} truncatedLine = some ⟨1, [104, 101, 108], 5, true, .written 5⟩ := by
    decide +kernel
  cases hread.symm.trans hcall
  exact fun h => absurd (hunchanged.mp h) (by decide)

/-- **A failure of the output leaves a report changed**: a session has a truncated payload and no
relayed one. -/
theorem truncated_payload_without_relayed :
    let relay := freshRelay 7 ⟨({ failWrite := some 1 } : Faults).behaviour, 0, 0⟩
    let handled := (handleLine {} truncatedLine relay).value
    handled.failure = some .brokenPipe ∧ handled.relay.report ≠ relay.report ∧
    handled.relay.report.payloads = 0 ∧ handled.relay.report.truncatedPayloads = 1 := by
  decide +kernel

end Relay

end TraceRelay
