import TraceRelay.Proofs.Sink
import TraceRelay.Session.Relay

/-!
# Handling the lines of a session

Which calls of a list of lines are to be relayed, and what handling the lines comes to: the payloads
of these calls flushed one by one, and exact counts, up to the first call on the output that fails.

A line that relays nothing touches neither the output nor the counts of payloads. The statement
about a whole list is by induction on it, line by line.
-/

namespace TraceRelay

/-- The call of a line whose payload is to be relayed, if there is one. -/
def relayed? (settings : Settings) (line : String) : Option TracedWrite :=
  match TracedWrite.ofLine line with
  | .ok (some call) =>
    if call.succeeded = true ∧ (settings.filter.fds = [] ∨ call.fd ∈ settings.filter.fds) then
      some call
    else none
  | _ => none

/-- Whether a line looks like one about a call but cannot be read. -/
def isMalformed (line : String) : Bool :=
  match TracedWrite.ofLine line with
  | .error _ => true
  | .ok _ => false

/-- The calls whose payloads are to be relayed, in the order of their lines. -/
def relayedCalls (settings : Settings) (lines : List String) : List TracedWrite :=
  lines.filterMap (relayed? settings)

/-- The payloads to be relayed, in the order of their lines. -/
def relayedPayloads (settings : Settings) (lines : List String) : List (List UInt8) :=
  (relayedCalls settings lines).map (·.payload)

/-- The number of lines that cannot be read. -/
def malformed (lines : List String) : Nat :=
  lines.countP isMalformed

/-- The report once some more lines are handled. -/
def Report.after (settings : Settings) (lines : List String) (report : Report) : Report :=
  { report with
    payloads := report.payloads + (relayedPayloads settings lines).length
    bytes := report.bytes + (relayedPayloads settings lines).flatten.length
    skippedLines := report.skippedLines + malformed lines
    truncatedPayloads :=
      report.truncatedPayloads + (relayedCalls settings lines).countP (·.truncated) }

/-- The report once a payload is about to be written. -/
def Report.noting (call : TracedWrite) (report : Report) : Report :=
  { report with
    truncatedPayloads := report.truncatedPayloads + if call.truncated then 1 else 0 }

section Lists

variable (settings : Settings) (lines later : List String)

@[simp] theorem relayedCalls_append : relayedCalls settings (lines ++ later) =
    relayedCalls settings lines ++ relayedCalls settings later :=
  List.filterMap_append

@[simp] theorem relayedPayloads_nil : relayedPayloads settings [] = [] := rfl

@[simp] theorem relayedPayloads_append :
    relayedPayloads settings (lines ++ later) =
      relayedPayloads settings lines ++ relayedPayloads settings later := by
  simp [relayedPayloads]

@[simp] theorem malformed_nil : malformed [] = 0 := rfl

@[simp] theorem malformed_append : malformed (lines ++ later) = malformed lines + malformed later :=
  List.countP_append

theorem Report.after_append (report : Report) :
    report.after settings (lines ++ later) =
      (report.after settings lines).after settings later := by
  simp [Report.after, Nat.add_assoc]

end Lists

section Line

variable {settings : Settings} {line : String} {call : TracedWrite}

theorem selects_iff (settings : Settings) (fd : UInt32) : Relay.selects settings fd = true ↔
    settings.filter.fds = [] ∨ fd ∈ settings.filter.fds := by
  simp [Relay.selects]

theorem ofLine_of_relayed (h : relayed? settings line = some call) :
    TracedWrite.ofLine line = .ok (some call) := by
  unfold relayed? at h
  split at h
  · next read hread =>
    split at h
    · rw [hread, Option.some.inj h]
    · cases h
  · cases h

theorem relayedCalls_singleton_of_none (h : relayed? settings line = none) :
    relayedCalls settings [line] = [] := by
  simp [relayedCalls, h]

theorem relayedCalls_singleton_of_some (h : relayed? settings line = some call) :
    relayedCalls settings [line] = [call] := by
  simp [relayedCalls, h]

theorem relayedPayloads_singleton_of_some (h : relayed? settings line = some call) :
    relayedPayloads settings [line] = [call.payload] := by
  rw [relayedPayloads, relayedCalls_singleton_of_some h]
  rfl

theorem malformed_singleton_of_some (h : relayed? settings line = some call) :
    malformed [line] = 0 := by
  simp [malformed, isMalformed, ofLine_of_relayed h]

/-- A line with nothing to relay changes at most the count of malformed lines. -/
theorem Report.after_singleton_of_none (h : relayed? settings line = none) (report : Report) :
    report.after settings [line] =
      { report with skippedLines := report.skippedLines + malformed [line] } := by
  simp [Report.after, relayedPayloads, relayedCalls_singleton_of_none h]

end Line

namespace Relay

variable {settings : Settings} {line : String} {call : TracedWrite}

theorem noteOther_isLog (line : String) : ∀ a ∈ (noteOther line).journal, a.isLog = true := by
  unfold noteOther
  dsimp only
  split
  · simp [Action.isLog]
  · split <;> simp [Action.isLog]

/-- A line with nothing to relay is logged, and counted if it is malformed. -/
theorem handleLine_of_none (h : relayed? settings line = none) (relay : Relay) :
    (handleLine settings line relay).value =
        ⟨{ relay with report := relay.report.after settings [line] }, none⟩ ∧
      ∀ a ∈ (handleLine settings line relay).journal, a.isLog = true := by
  rw [Report.after_singleton_of_none h]
  unfold relayed? at h
  unfold handleLine
  cases hread : TracedWrite.ofLine line with
  | error error => simp [malformed, isMalformed, hread, Action.isLog]
  | ok read? =>
    cases read? with
    | none => simpa [malformed, isMalformed, hread] using noteOther_isLog line
    | some call =>
      -- Either the call failed, which is logged, or its descriptor is not selected.
      simp only [hread] at h
      simp only [handleWrite, TracedWrite.succeeded, ← selects_iff] at h ⊢
      split
      · simp [malformed, isMalformed, hread, Action.isLog]
      · simp_all [malformed, isMalformed]

/-- The payload of a line that has one to relay is relayed. -/
theorem handleLine_of_some (h : relayed? settings line = some call) (relay : Relay) :
    handleLine settings line relay = relayPayload settings call relay := by
  have hread := ofLine_of_relayed h
  unfold relayed? at h
  simp only [hread, ← selects_iff, TracedWrite.succeeded] at h
  simp only [handleLine, hread, handleWrite]
  split <;> simp_all

theorem noteTruncated_eq (settings : Settings) {call : TracedWrite} (h : call.truncated = true)
    (report : Report) : (noteTruncated settings call report).value = report.noting call ∧
      ∀ a ∈ (noteTruncated settings call report).journal, a.isLog = true := by
  by_cases hfirst : report.truncatedPayloads = 0
  · simp [noteTruncated, Report.noting, h, hfirst, Action.isLog]
  · simp [noteTruncated, Report.noting, h, hfirst, Action.isLog]

/-- Relaying a payload logs at most, and then delivers. It counts as relayed if it is delivered. -/
theorem relayPayload_eq (settings : Settings) (call : TracedWrite) (relay : Relay) :
    ∃ notes, (∀ a ∈ notes, a.isLog = true) ∧
      (relayPayload settings call relay).journal =
        notes ++ (relay.sink.deliver call.payload).journal ∧
      (relayPayload settings call relay).value =
        match (relay.sink.deliver call.payload).value with
        | ⟨sink, some cause⟩ => ⟨⟨relay.report.noting call, sink⟩, some cause⟩
        | ⟨sink, none⟩ => ⟨⟨{ relay.report.noting call with
            payloads := relay.report.payloads + 1
            bytes := relay.report.bytes + call.payload.length }, sink⟩, none⟩ := by
  generalize hdelivery : relay.sink.deliver call.payload = delivery
  obtain ⟨⟨sink, failure⟩, journal⟩ := delivery
  by_cases htruncated : call.truncated = true
  · obtain ⟨hvalue, hlogs⟩ := noteTruncated_eq settings htruncated relay.report
    refine ⟨(noteTruncated settings call relay.report).journal, hlogs, ?_, ?_⟩
    · cases failure <;> simp [relayPayload, htruncated, hdelivery]
    · cases failure <;> simp [relayPayload, htruncated, hdelivery, hvalue, Report.noting]
  · refine ⟨[], by simp, ?_, ?_⟩
    · cases failure <;> simp [relayPayload, htruncated, hdelivery]
    · cases failure <;> simp [relayPayload, htruncated, hdelivery, Report.noting]

/-- What handling some lines comes to: every payload flushed and all counted, or, when a call on
the output fails, the payloads up to some line flushed and counted, and a part of the next one
unflushed. -/
structure Handles (settings : Settings) (lines : List String) (relay : Relay)
    (handled : Journaled Relayed) : Prop where
  behaviour : handled.value.relay.sink.behaviour = relay.sink.behaviour
  isRelay : ∀ a ∈ handled.journal, a.isRelay = true
  relayed : handled.value.failure = none →
    handled.value.relay.report = relay.report.after settings lines ∧
    handled.value.relay.sink.flushes =
      relay.sink.flushes + (relayedPayloads settings lines).length ∧
    ∀ flushed, Output.afterAll ⟨flushed, []⟩ handled.journal =
      ⟨flushed ++ relayedPayloads settings lines, []⟩
  brokenOff : ∀ cause, handled.value.failure = some cause →
    ∃ before line after call taken left, lines = before ++ line :: after ∧
      relayed? settings line = some call ∧ call.payload = taken ++ left ∧
      Sink.BreaksOff (relay.sink.flushes + (relayedPayloads settings before).length)
        handled.value.relay.sink left cause ∧
      handled.value.relay.report = (relay.report.after settings before).noting call ∧
      ∀ flushed, Output.afterAll ⟨flushed, []⟩ handled.journal =
        ⟨flushed ++ relayedPayloads settings before, taken⟩

theorem handles_of_none (h : relayed? settings line = none) (relay : Relay) :
    Handles settings [line] relay (handleLine settings line relay) := by
  obtain ⟨hvalue, hlogs⟩ := handleLine_of_none h relay
  have hnil : relayedPayloads settings [line] = [] := by
    simp [relayedPayloads, relayedCalls_singleton_of_none h]
  refine ⟨by rw [hvalue], fun a ha => Action.isRelay_of_isLog (hlogs a ha), ?_, ?_⟩
  · intro _
    rw [hvalue, hnil]
    refine ⟨rfl, rfl, ?_⟩
    intro flushed
    rw [Output.afterAll_of_isLog hlogs, List.append_nil]
  · intro cause hcause
    rw [hvalue] at hcause
    cases hcause

theorem handles_of_some (h : relayed? settings line = some call) (relay : Relay) :
    Handles settings [line] relay (handleLine settings line relay) := by
  obtain ⟨notes, hlogs, hjournal, hvalue⟩ := relayPayload_eq settings call relay
  have hdelivers := Sink.delivers_deliver call.payload relay.sink
  rw [handleLine_of_some h]
  generalize relay.sink.deliver call.payload = delivery at hjournal hvalue hdelivers
  obtain ⟨⟨sink, failure⟩, journal⟩ := delivery
  have hisRelay : ∀ a ∈ (relayPayload settings call relay).journal, a.isRelay = true := by
    intro a ha
    rw [hjournal] at ha
    rcases List.mem_append.mp ha with ha | ha
    · exact Action.isRelay_of_isLog (hlogs a ha)
    · exact hdelivers.isRelay a ha
  cases failure with
  | none =>
    obtain ⟨hflushes, houtput⟩ := hdelivers.delivered rfl
    refine ⟨by rw [hvalue]; exact hdelivers.behaviour, hisRelay, ?_, ?_⟩
    · intro _
      rw [hvalue, hjournal, relayedPayloads_singleton_of_some h]
      refine ⟨?_, hflushes, ?_⟩
      · simp [Report.after, Report.noting, relayedPayloads_singleton_of_some h,
          malformed_singleton_of_some h, relayedCalls_singleton_of_some h, List.countP_singleton]
      · intro flushed
        rw [Output.afterAll_append, Output.afterAll_of_isLog hlogs, houtput]
        rfl
    · intro cause hcause
      rw [hvalue] at hcause
      cases hcause
  | some cause =>
    obtain ⟨taken, left, hsplit, hbreaks, houtput⟩ := hdelivers.brokenOff cause rfl
    refine ⟨by rw [hvalue]; exact hdelivers.behaviour, hisRelay, ?_, ?_⟩
    · intro hnone
      rw [hvalue] at hnone
      cases hnone
    · intro cause' hcause
      rw [hvalue] at hcause
      cases hcause
      -- The line is the only one, so nothing comes before the payload that broke off.
      refine ⟨[], line, [], call, taken, left, rfl, h, hsplit, ?_, ?_, ?_⟩
      · rw [hvalue]
        exact hbreaks
      · rw [hvalue]
        rfl
      · intro flushed
        rw [hjournal, Output.afterAll_append, Output.afterAll_of_isLog hlogs, houtput]
        simp

theorem handles_line (settings : Settings) (line : String) (relay : Relay) :
    Handles settings [line] relay (handleLine settings line relay) := by
  cases h : relayed? settings line with
  | none => exact handles_of_none h relay
  | some call => exact handles_of_some h relay

theorem handleLines_cons_of_some {relay : Relay} {lines : List String} {cause : OsError}
    (h : (handleLine settings line relay).value.failure = some cause) :
    handleLines settings (line :: lines) relay = handleLine settings line relay := by
  simp [handleLines, bind, pure, h]

theorem handleLines_cons_of_none {relay : Relay} {lines : List String}
    (h : (handleLine settings line relay).value.failure = none) :
    handleLines settings (line :: lines) relay =
      let first := handleLine settings line relay
      let rest := handleLines settings lines first.value.relay
      ⟨rest.value, first.journal ++ rest.journal⟩ := by
  simp [handleLines, bind, h]

/-- Lines after one at which the output failed are not handled. -/
theorem Handles.cons_of_some {lines : List String} {relay : Relay} {handled : Journaled Relayed}
    {cause : OsError} (h : Handles settings [line] relay handled)
    (hfailure : handled.value.failure = some cause) :
    Handles settings (line :: lines) relay handled := by
  refine ⟨h.behaviour, h.isRelay, ?_, ?_⟩
  · intro hnone
    rw [hfailure] at hnone
    cases hnone
  · intro cause' hcause'
    obtain ⟨before, broken, after, call, taken, left, hlines, hrest⟩ := h.brokenOff cause' hcause'
    refine ⟨before, broken, after ++ lines, call, taken, left, ?_, hrest⟩
    rw [← List.singleton_append, hlines]
    simp

/-- What two parts of the lines come to, one after the other. -/
theorem Handles.cons_of_none {lines : List String} {relay : Relay} {first rest : Journaled Relayed}
    (h : Handles settings [line] relay first) (hfailure : first.value.failure = none)
    (hrest : Handles settings lines first.value.relay rest) :
    Handles settings (line :: lines) relay ⟨rest.value, first.journal ++ rest.journal⟩ := by
  obtain ⟨hreport, hflushes, houtput⟩ := h.relayed hfailure
  refine ⟨hrest.behaviour.trans h.behaviour, ?_, ?_, ?_⟩
  · intro a ha
    rcases List.mem_append.mp ha with ha | ha
    · exact h.isRelay a ha
    · exact hrest.isRelay a ha
  · intro hnone
    obtain ⟨hreport', hflushes', houtput'⟩ := hrest.relayed hnone
    rw [← List.singleton_append, relayedPayloads_append]
    refine ⟨?_, ?_, ?_⟩
    · rw [Report.after_append, ← hreport, hreport']
    · rw [hflushes', hflushes, List.length_append, Nat.add_assoc]
    · intro flushed
      rw [Output.afterAll_append, houtput, houtput', List.append_assoc]
  · intro cause hcause
    obtain ⟨before, broken, after, call, taken, left, hlines, hcall, hsplit, hbreaks, hreport',
      houtput'⟩ := hrest.brokenOff cause hcause
    -- The first line counts as one of those before the break.
    refine ⟨line :: before, broken, after, call, taken, left, by rw [hlines]; rfl, hcall, hsplit,
      ?_, ?_, ?_⟩
    · rw [← List.singleton_append, relayedPayloads_append, List.length_append, ← Nat.add_assoc,
        ← hflushes]
      exact hbreaks
    · rw [← List.singleton_append, Report.after_append, ← hreport]
      exact hreport'
    · intro flushed
      rw [← List.singleton_append, relayedPayloads_append, Output.afterAll_append, houtput,
        houtput', List.append_assoc]

/-- **Lines are handled in order until the output fails.** -/
theorem handles_lines (settings : Settings) (lines : List String) (relay : Relay) :
    Handles settings lines relay (handleLines settings lines relay) := by
  induction lines generalizing relay with
  | nil =>
    refine ⟨rfl, by simp [handleLines], fun _ => ⟨rfl, rfl, by simp [handleLines]⟩, ?_⟩
    intro cause hcause
    cases hcause
  | cons line lines ih =>
    have hline := handles_line settings line relay
    cases hfailure : (handleLine settings line relay).value.failure with
    | some cause =>
      rw [handleLines_cons_of_some hfailure]
      exact hline.cons_of_some hfailure
    | none =>
      rw [handleLines_cons_of_none hfailure]
      exact hline.cons_of_none hfailure (ih _)

/-- Lines with nothing to relay leave the output alone. -/
theorem handleLines_of_nil {lines : List String} (h : relayedCalls settings lines = [])
    (relay : Relay) : (handleLines settings lines relay).value.failure = none ∧
      ∀ a ∈ (handleLines settings lines relay).journal, a.isLog = true := by
  induction lines generalizing relay with
  | nil => simp [handleLines]
  | cons line lines ih =>
    rw [← List.singleton_append, relayedCalls_append] at h
    obtain ⟨hline, hlines⟩ := List.append_eq_nil_iff.mp h
    have hnone : relayed? settings line = none := by
      simpa [relayedCalls] using hline
    obtain ⟨hvalue, hlogs⟩ := handleLine_of_none hnone relay
    obtain ⟨hfailure, hlogs'⟩ := ih hlines (handleLine settings line relay).value.relay
    rw [handleLines_cons_of_none (by rw [hvalue])]
    refine ⟨hfailure, ?_⟩
    intro a ha
    rcases List.mem_append.mp ha with ha | ha
    · exact hlogs a ha
    · exact hlogs' a ha

/-- A sink that never fails ends no session. -/
theorem handleLines_failure_eq_none_of_steady {relay : Relay}
    (hsteady : relay.sink.behaviour.Steady) (settings : Settings) (lines : List String) :
    (handleLines settings lines relay).value.failure = none := by
  have hlines := handles_lines settings lines relay
  cases hfailure : (handleLines settings lines relay).value.failure with
  | none => rfl
  | some cause =>
    obtain ⟨_, _, _, _, _, _, -, -, -, hbreaks, -⟩ := hlines.brokenOff cause hfailure
    exact absurd hbreaks (Sink.not_breaksOff_of_steady (hlines.behaviour ▸ hsteady))

end Relay

end TraceRelay
