import TraceRelay.Session.Tracer
import TraceRelay.Sink

/-!
# One session

A session relays the payloads of one tracer's lines to the output, each flushed on its own, and
counts them. It ends with the tracer, with a shutdown, or when the output fails.
-/

namespace TraceRelay

open Text

/-- The state of a session: what it has counted and the output it writes to. -/
structure Relay where
  report : Report
  sink : Sink

/-- A session's state after some lines, and the failure of the output that ended it, if any. -/
structure Relayed where
  relay : Relay
  failure : Option OsError

namespace Relay

/-- Whether calls on the descriptor are relayed. -/
def selects (settings : Settings) (fd : UInt32) : Bool :=
  settings.filter.fds.isEmpty || settings.filter.fds.contains fd

/-- Counts a payload that the tracer cut short. The first one of a session is a warning. -/
def noteTruncated (settings : Settings) (call : TracedWrite) (report : Report) :
    Journaled Report := do
  let report := { report with truncatedPayloads := report.truncatedPayloads + 1 }
  if report.truncatedPayloads = 1 then
    Journaled.log (.firstTruncated call.fd call.length call.payload.length
      settings.tracer.stringLimit)
  else
    Journaled.log (.truncatedAgain call.fd call.length call.payload.length)
  return report

/-- Relays the payload of a call that is selected. It counts once it is flushed. -/
def relayPayload (settings : Settings) (call : TracedWrite) (relay : Relay) :
    Journaled Relayed := do
  let report ← if call.truncated then noteTruncated settings call relay.report
    else pure relay.report
  let delivery ← relay.sink.deliver call.payload
  match delivery.failure with
  | some cause => return ⟨⟨report, delivery.sink⟩, some cause⟩
  | none =>
    let report := { report with
      payloads := report.payloads + 1
      bytes := report.bytes + call.payload.length }
    return ⟨⟨report, delivery.sink⟩, none⟩

/-- Handles a call: failed ones are noted, those on other descriptors are passed over. -/
def handleWrite (settings : Settings) (call : TracedWrite) (relay : Relay) : Journaled Relayed :=
  match call.result with
  | .failed errno => do
    Journaled.log (.failedWrite call.fd errno)
    return ⟨relay, none⟩
  | _ =>
    if selects settings call.fd then relayPayload settings call relay
    else return ⟨relay, none⟩

/-- Notes a line that is not about a write call: messages of the tracer itself stand out, blank
lines are passed over. -/
def noteOther (line : String) : Journaled Unit :=
  let line := trimEnd line.toList
  if (after? "strace:".toList line).isSome then
    Journaled.log (.tracerReported (String.ofList line))
  else if line ≠ [] then
    Journaled.log (.otherOutput (String.ofList line))
  else pure ()

/-- Handles one line of the tracer. -/
def handleLine (settings : Settings) (line : String) (relay : Relay) : Journaled Relayed :=
  match TracedWrite.ofLine line with
  | .ok (some call) => handleWrite settings call relay
  | .ok none => do
    noteOther line
    return ⟨relay, none⟩
  | .error error => do
    Journaled.log (.malformedLine error (String.ofList (trimEnd line.toList)))
    let report := { relay.report with skippedLines := relay.report.skippedLines + 1 }
    return ⟨{ relay with report }, none⟩

/-- Handles lines in order until the output fails. -/
def handleLines (settings : Settings) : List String → Relay → Journaled Relayed
  | [], relay => return ⟨relay, none⟩
  | line :: lines, relay => do
    let relayed ← handleLine settings line relay
    match relayed.failure with
    | some _ => return relayed
    | none => handleLines settings lines relayed.relay

end Relay

/-- Why a session ended without a report. -/
inductive Session.Error
  | tracer (error : Tracer.Error)
  | output (cause : OsError)
deriving DecidableEq, Repr

/-- How the tracer of a session ended: its exit code, and whether a shutdown ended it. -/
def Tracer.Ending.conclude : Tracer.Ending → Journaled (Option Int × Bool)
  | .closes status => return (status.code?, false)
  | .hangs response => do
    Journaled.act .shutdown
    let exit ← Tracer.stop response
    return (exit, true)

/-- Runs one session against a process id. -/
def runSession (settings : Settings) (pid : UInt32) (outcome : Tracer.Outcome) (sink : Sink) :
    Journaled (Except Session.Error (Report × Sink)) := do
  match ← Tracer.start settings.tracer pid outcome with
  | .error error => return .error (.tracer error)
  | .ok (output, ending) =>
    let relayed ← Relay.handleLines settings (ending.lines output) ⟨{ targetPid := pid }, sink⟩
    match relayed.failure with
    | some cause => return .error (.output cause)
    | none =>
      let (tracerExit, stopped) ← ending.conclude
      let report := { relayed.relay.report with tracerExit, stopped }
      Journaled.log (.sessionEnded report)
      return .ok (report, relayed.relay.sink)

end TraceRelay
