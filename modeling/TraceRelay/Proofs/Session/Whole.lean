import TraceRelay.Proofs.Session.Relay

/-!
# A whole session

A session of a tracer that starts handles its lines, and then reports what it counted. Whether it
counts as failed can be read off the tracer: it ended by itself, without success, and no line of it
had anything to relay.
-/

namespace TraceRelay

/-- What the next session handles its lines with. -/
def freshRelay (pid : UInt32) (sink : Sink) : Relay :=
  ⟨{ targetPid := pid }, sink⟩

/-- The report of a session whose lines were all handled. -/
def sessionReport (settings : Settings) (pid : UInt32) (output : List UInt8)
    (ending : Tracer.Ending) : Report :=
  { ({ targetPid := pid } : Report).after settings (ending.lines output) with
    tracerExit := ending.conclude.value.1
    stopped := ending.conclude.value.2 }

namespace Tracer

/-- The lines that a session with the tracer handles. -/
def Outcome.lines : Outcome → List String
  | .refused _ => []
  | .ran output ending => ending.lines output

/-- The exit code of a tracer that is not killed by a signal. -/
def Outcome.exit? : Outcome → Option Int
  | .refused _ => none
  | .ran _ ending => ending.conclude.value.1

/-- Whether a session with the tracer counts as failed: the tracer ended by itself, not with
success, and no line of its output had anything to relay. -/
def Outcome.fails (settings : Settings) : Outcome → Bool
  | .ran output (.closes status) =>
    (relayedCalls settings (Tracer.lines output)).isEmpty && status.code? != some 0
  | _ => false

@[simp] theorem conclude_closes (status : ExitStatus) :
    (Ending.closes status).conclude = ⟨(status.code?, false), []⟩ := rfl

/-- A tracer that is ended by a shutdown is, at most, reported to have been killed. -/
theorem conclude_hangs (response : Response) : (Ending.hangs response).conclude.value.2 = true ∧
    ∃ notes, (Ending.hangs response).conclude.journal = .shutdown :: notes ∧
      ∀ a ∈ notes, a.isLog = true := by
  cases response with
  | ends status => exact ⟨rfl, [], rfl, by simp⟩
  | gone status => exact ⟨rfl, [], rfl, by simp⟩
  | ignores => exact ⟨rfl, [.logged .tracerKilled], rfl, by simp [Action.isLog]⟩

end Tracer

variable {settings : Settings} {pid : UInt32} {output : List UInt8} {ending : Tracer.Ending}
  {sink : Sink}

/-- A session is reported as failed just when its tracer makes it one. -/
theorem isFailure_sessionReport (settings : Settings) (pid : UInt32) (output : List UInt8)
    (ending : Tracer.Ending) : (sessionReport settings pid output ending).isFailure =
      (Tracer.Outcome.ran output ending).fails settings := by
  cases ending with
  | closes status =>
    simp only [Report.isFailure, sessionReport, Report.after, Tracer.Outcome.fails,
      Tracer.Ending.lines, relayedPayloads, Tracer.conclude_closes]
    cases relayedCalls settings (Tracer.lines output) <;> simp
  | hangs response =>
    have hstopped := (Tracer.conclude_hangs response).1
    simp [Report.isFailure, sessionReport, hstopped, Tracer.Outcome.fails]

/-- The command line of the tracer. -/
def tracerCommand (settings : Settings) (pid : UInt32) : Command :=
  ⟨.tracer, Tracer.arguments settings.tracer pid⟩

/-- The note about a tracer that is to be started. -/
def spawnNote (settings : Settings) (pid : UInt32) : Action :=
  .logged (.spawningTracer settings.tracer.command (Tracer.arguments settings.tracer pid) pid)

theorem runSession_refused (settings : Settings) (pid : UInt32) (cause : OsError) (sink : Sink) :
    runSession settings pid (.refused cause) sink =
      ⟨.error (.tracer (.spawn settings.tracer.command cause)),
        [spawnNote settings pid, .refused (tracerCommand settings pid) cause]⟩ := rfl

theorem runSession_of_some {handled : Journaled Relayed} {cause : OsError}
    (h : Relay.handleLines settings (ending.lines output) (freshRelay pid sink) = handled)
    (hfailure : handled.value.failure = some cause) :
    runSession settings pid (.ran output ending) sink =
      ⟨.error (.output cause),
        spawnNote settings pid :: .started (tracerCommand settings pid) :: handled.journal⟩ := by
  unfold freshRelay at h
  simp [runSession, Tracer.start, bind, pure, h, hfailure, spawnNote, tracerCommand]

theorem runSession_of_none {handled : Journaled Relayed}
    (h : Relay.handleLines settings (ending.lines output) (freshRelay pid sink) = handled)
    (hfailure : handled.value.failure = none) :
    runSession settings pid (.ran output ending) sink =
      let report := sessionReport settings pid output ending
      ⟨.ok (report, handled.value.relay.sink),
        spawnNote settings pid :: .started (tracerCommand settings pid) ::
          (handled.journal ++ ending.conclude.journal ++ [.logged (.sessionEnded report)])⟩ := by
  have hlines := Relay.handles_lines settings (ending.lines output) (freshRelay pid sink)
  rw [h] at hlines
  obtain ⟨hreport, -⟩ := hlines.relayed hfailure
  unfold freshRelay at h hreport
  simp [runSession, Tracer.start, bind, pure, h, hfailure, spawnNote, tracerCommand]
  rw [hreport]
  rfl

end TraceRelay
