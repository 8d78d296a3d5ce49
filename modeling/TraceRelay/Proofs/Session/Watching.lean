import Mathlib.Logic.Function.Basic
import TraceRelay.Proofs.Session.Truncation
import TraceRelay.Proofs.Text.Segments
import TraceRelay.Script.Performance

/-!
# Watching a tracer

A session reads two streams byte by byte and listens for a shutdown at the same time, while what it
comes to is the lines of the tracer handled one after the other. Here the loop is written out, over
what arrives in the order in which it arrives, and the two are proved to agree.

`heard` is the lines that a session hears of what arrives, whatever it does with them: watching is
handling these (`watch_eq_handleLines`). Of a tracer that writes to one stream they are the lines of
its output, wherever the other stream is closed in between (`heard_of_arrives`).
-/

namespace TraceRelay

open Text

/-- What reaches a session while its tracer runs. -/
inductive Arrival
  | byte (stream : Stream) (b : UInt8)
  | closed (stream : Stream)
  | shutdown
deriving DecidableEq, Repr

/-- What is read of each stream since its last line; nothing of a stream that is over. -/
abbrev Reader := Stream → Option (List UInt8)

namespace Reader

/-- The reader of two open streams. -/
def fresh : Reader := fun _ => some []

/-- Whether both streams are over. -/
def isOver (reader : Reader) : Bool :=
  (reader .stdout).isNone && (reader .stderr).isNone

/-- Takes in what arrives: the line that it ends, if there is one. The end of a stream ends its last
line. -/
def receive (reader : Reader) : Arrival → Option String × Reader
  | .byte stream b =>
    match reader stream with
    | none => (none, reader)
    | some pending =>
      if b = 0x0A then
        (some (Tracer.lineText (pending ++ [b])), Function.update reader stream (some []))
      else (none, Function.update reader stream (some (pending ++ [b])))
  | .closed stream =>
    match reader stream with
    | none | some [] => (none, Function.update reader stream none)
    | some pending => (some (Tracer.lineText pending), Function.update reader stream none)
  | .shutdown => (none, reader)

end Reader

/-- How far a session has come in reading. -/
inductive Standing
  /-- A stream is open, and nothing more has arrived. -/
  | waiting
  | over
  | stopped
deriving DecidableEq, Repr

/-- Handles each line as it is heard, until both streams are over, a shutdown is requested or the
output fails. -/
def watch (settings : Settings) :
    List Arrival → Reader → Relay → Journaled (Relayed × Standing)
  | [], reader, relay => return (⟨relay, none⟩, if reader.isOver then .over else .waiting)
  | .shutdown :: _, _, relay => return (⟨relay, none⟩, .stopped)
  | arrival :: arrivals, reader, relay =>
    match reader.receive arrival with
    | (none, reader) => watch settings arrivals reader relay
    | (some line, reader) => do
      let relayed ← Relay.handleLine settings line relay
      match relayed.failure with
      | some _ => return (relayed, .waiting)
      | none => watch settings arrivals reader relayed.relay

/-- The lines heard of what arrives, and how far the reading comes. -/
def heard : List Arrival → Reader → List String × Standing
  | [], reader => ([], if reader.isOver then .over else .waiting)
  | .shutdown :: _, _ => ([], .stopped)
  | arrival :: arrivals, reader =>
    let rest := heard arrivals (reader.receive arrival).2
    ((reader.receive arrival).1.toList ++ rest.1, rest.2)

/-- Ends a session once the tracer is no longer watched: it is reaped or asked to end, and there is
a report. A session that still waits has no result. -/
def leave (status : ExitStatus) (response : Tracer.Response) :
    Relayed × Standing → Journaled (Option (Except Session.Error (Report × Sink)))
  | (⟨_, some cause⟩, _) => return some (.error (.output cause))
  | (_, .waiting) => return none
  | (⟨⟨report, sink⟩, none⟩, .over) => do
    let report := { report with tracerExit := status.code? }
    Journaled.log (.sessionEnded report)
    return some (.ok (report, sink))
  | (⟨⟨report, sink⟩, none⟩, .stopped) => do
    Journaled.act .shutdown
    let tracerExit ← Tracer.stop response
    let report := { report with tracerExit, stopped := true }
    Journaled.log (.sessionEnded report)
    return some (.ok (report, sink))

/-- A session with a tracer that can be started, against a process id. -/
def watchSession (settings : Settings) (pid : UInt32) (status : ExitStatus)
    (response : Tracer.Response) (arrivals : List Arrival) (sink : Sink) :
    Journaled (Option (Except Session.Error (Report × Sink))) := do
  Journaled.act (spawnNote settings pid)
  Journaled.act (.started (tracerCommand settings pid))
  let watched ← watch settings arrivals .fresh (freshRelay pid sink)
  leave status response watched

/-- The stream that the tracer leaves alone. -/
def Stream.other : Stream → Stream
  | .stdout => .stderr
  | .stderr => .stdout

/-- What arrives of a tracer that writes its output to one stream. The other stream may be closed at
any time; of a tracer that hangs, anything may arrive once the shutdown is requested. -/
inductive Arrives (stream : Stream) (output : List UInt8) (status : ExitStatus)
    (response : Tracer.Response) : Tracer.Ending → List Arrival → Prop
  | closes {arrivals} (closed : .closed stream.other ∈ arrivals)
      (written : arrivals.filter (· ≠ .closed stream.other) =
        output.map (.byte stream) ++ [.closed stream]) :
      Arrives stream output status response (.closes status) arrivals
  | hangs {arrivals later}
      (written : arrivals.filter (· ≠ .closed stream.other) = output.map (.byte stream)) :
      Arrives stream output status response (.hangs response) (arrivals ++ .shutdown :: later)

/-! ## The lines of a stream -/

namespace Tracer

/-- Whether bytes are a line that is not ended. -/
def Unfinished (pending : List UInt8) : Prop :=
  ∀ b ∈ pending, (b == 0x0A) = false

variable {pending : List UInt8}

theorem unfinished_nil : Unfinished [] := by simp [Unfinished]

theorem Unfinished.concat (h : Unfinished pending) {b : UInt8} (hb : b ≠ 0x0A) :
    Unfinished (pending ++ [b]) := by
  intro c hc
  rcases List.mem_append.mp hc with hc | hc
  · exact h c hc
  · rw [List.mem_singleton.mp hc]
    exact beq_false_of_ne hb

theorem Unfinished.getLast?_ne (h : Unfinished pending) : pending.getLast? ≠ some 0x0A := by
  intro hlast
  have := h 0x0A (List.mem_of_getLast? hlast)
  simp at this

theorem lines_of_unfinished (h : Unfinished pending) (hne : pending ≠ []) :
    lines pending = [lineText pending] := by
  rw [lines, segments_of_none h hne]
  rfl

theorem toList_head_lines (h : Unfinished pending) :
    (lines pending).head?.toList = lines pending := by
  cases hpending : pending with
  | nil => rfl
  | cons b bs => rw [← hpending, lines_of_unfinished h (by simp [hpending])]; rfl

theorem lines_cut (h : Unfinished pending) (rest : List UInt8) :
    lines (pending ++ 0x0A :: rest) = lineText (pending ++ [0x0A]) :: lines rest := by
  rw [lines, segments_cut h (by rfl)]
  rfl

theorem finishedLines_of_unfinished (h : Unfinished pending) : finishedLines pending = [] := by
  cases hpending : pending with
  | nil => rfl
  | cons b bs =>
    rw [← hpending, finishedLines, segments_of_none h (by simp [hpending])]
    simp [h.getLast?_ne]

theorem finishedLines_cut (h : Unfinished pending) (rest : List UInt8) :
    finishedLines (pending ++ 0x0A :: rest) =
      lineText (pending ++ [0x0A]) :: finishedLines rest := by
  rw [finishedLines, segments_cut h (by rfl), List.filter_cons_of_pos (by simp)]
  rfl

end Tracer

/-! ## Watching is handling what is heard -/

section Watch

variable {settings : Settings} {arrival : Arrival} {reader : Reader} {relay : Relay}

theorem heard_cons (h : arrival ≠ .shutdown) (arrivals : List Arrival) (reader : Reader) :
    heard (arrival :: arrivals) reader =
      ((reader.receive arrival).1.toList ++ (heard arrivals (reader.receive arrival).2).1,
        (heard arrivals (reader.receive arrival).2).2) := by
  cases arrival with
  | byte stream b => rfl
  | closed stream => rfl
  | shutdown => exact absurd rfl h

theorem watch_cons_of_none {next : Reader} (h : arrival ≠ .shutdown)
    (hreceive : reader.receive arrival = (none, next)) (arrivals : List Arrival) :
    watch settings (arrival :: arrivals) reader relay = watch settings arrivals next relay := by
  cases arrival with
  | byte stream b => simp only [watch, hreceive]
  | closed stream => simp only [watch, hreceive]
  | shutdown => exact absurd rfl h

theorem watch_cons_of_some {next : Reader} {line : String} (h : arrival ≠ .shutdown)
    (hreceive : reader.receive arrival = (some line, next)) (arrivals : List Arrival) :
    watch settings (arrival :: arrivals) reader relay =
      (Relay.handleLine settings line relay >>= fun relayed =>
        match relayed.failure with
        | some _ => pure (relayed, .waiting)
        | none => watch settings arrivals next relayed.relay) := by
  cases arrival with
  | byte stream b => simp only [watch, hreceive]
  | closed stream => simp only [watch, hreceive]
  | shutdown => exact absurd rfl h

/-- **Watching is handling the lines that are heard**, and comes as far as the reading unless the
output fails. By induction on what arrives, with the reader and the counts as they are by then. -/
theorem watch_eq_handleLines (settings : Settings) (arrivals : List Arrival) (reader : Reader)
    (relay : Relay) :
    let handled := Relay.handleLines settings (heard arrivals reader).1 relay
    let watched := watch settings arrivals reader relay
    watched.journal = handled.journal ∧ watched.value.1 = handled.value ∧
      (handled.value.failure = none → watched.value.2 = (heard arrivals reader).2) := by
  induction arrivals generalizing reader relay with
  | nil => exact ⟨rfl, rfl, fun _ => rfl⟩
  | cons arrival arrivals ih =>
    by_cases hshutdown : arrival = .shutdown
    · subst hshutdown
      exact ⟨rfl, rfl, fun _ => rfl⟩
    · rw [heard_cons hshutdown]
      rcases hreceive : reader.receive arrival with ⟨_ | line, next⟩
      · rw [watch_cons_of_none hshutdown hreceive]
        exact ih next relay
      · rw [watch_cons_of_some hshutdown hreceive]
        dsimp only [Option.toList_some, List.singleton_append]
        cases hfailure : (Relay.handleLine settings line relay).value.failure with
        | some cause =>
          rw [Relay.handleLines_cons_of_some hfailure]
          refine ⟨?_, ?_, ?_⟩
          · simp [hfailure]
          · simp [hfailure]
          · intro hnone
            rw [hfailure] at hnone
            cases hnone
        | none =>
          obtain ⟨hjournal, hvalue, hstanding⟩ :=
            ih next (Relay.handleLine settings line relay).value.relay
          rw [Relay.handleLines_cons_of_none hfailure]
          refine ⟨?_, ?_, ?_⟩
          · simp [hfailure, hjournal]
          · simpa [hfailure] using hvalue
          · intro hnone
            simpa [hfailure] using hstanding hnone

end Watch

/-! ## What is heard of one stream -/

/-- A reader of a tracer that writes to one stream, in the middle of a line. -/
structure Reading (stream : Stream) (pending : List UInt8) (reader : Reader) : Prop where
  unfinished : Tracer.Unfinished pending
  own : reader stream = some pending
  other : reader stream.other = some [] ∨ reader stream.other = none

namespace Reading

variable {stream : Stream} {pending : List UInt8} {reader : Reader}

@[simp] theorem other_ne (stream : Stream) : stream.other ≠ stream := by
  cases stream <;> decide

@[simp] theorem ne_other (stream : Stream) : stream ≠ stream.other :=
  (other_ne stream).symm

theorem isOver_iff (reader : Reader) (stream : Stream) :
    reader.isOver = true ↔ reader stream = none ∧ reader stream.other = none := by
  cases stream with
  | stdout => simp [Reader.isOver, Stream.other]
  | stderr => simp [Reader.isOver, Stream.other, and_comm]

theorem fresh (stream : Stream) : Reading stream [] .fresh :=
  ⟨Tracer.unfinished_nil, rfl, .inl rfl⟩

theorem receive_closed_other (h : reader stream.other = some [] ∨ reader stream.other = none) :
    reader.receive (.closed stream.other) = (none, Function.update reader stream.other none) := by
  rcases h with h | h <;> simp [Reader.receive, h]

theorem closeOther (h : Reading stream pending reader) :
    Reading stream pending (Function.update reader stream.other none) :=
  ⟨h.unfinished, by simp [h.own], by simp⟩

theorem receive_newline (h : Reading stream pending reader) :
    reader.receive (.byte stream 0x0A) =
      (some (Tracer.lineText (pending ++ [0x0A])), Function.update reader stream (some [])) := by
  simp [Reader.receive, h.own]

theorem endLine (h : Reading stream pending reader) :
    Reading stream [] (Function.update reader stream (some [])) :=
  ⟨Tracer.unfinished_nil, by simp, by simpa using h.other⟩

theorem receive_byte (h : Reading stream pending reader) {b : UInt8} (hb : b ≠ 0x0A) :
    reader.receive (.byte stream b) =
      (none, Function.update reader stream (some (pending ++ [b]))) := by
  simp [Reader.receive, h.own, hb]

theorem addByte (h : Reading stream pending reader) {b : UInt8} (hb : b ≠ 0x0A) :
    Reading stream (pending ++ [b]) (Function.update reader stream (some (pending ++ [b]))) :=
  ⟨h.unfinished.concat hb, by simp, by simpa using h.other⟩

theorem receive_closed (h : Reading stream pending reader) :
    reader.receive (.closed stream) =
      ((Tracer.lines pending).head?, Function.update reader stream none) := by
  cases pending with
  | nil => simp [Reader.receive, h.own, Tracer.lines, segments]
  | cons b bs =>
    rw [Tracer.lines_of_unfinished h.unfinished (by simp)]
    simp [Reader.receive, h.own]

/-- What has been heard once the bytes are read: their finished lines. The other stream is over by
then if it was before or was closed in between. By induction on what arrives, with the unfinished
line as it is by then. -/
theorem heard_append {front : List Arrival} {bytes : List UInt8} (h : Reading stream pending reader)
    (hfront : front.filter (· ≠ .closed stream.other) = bytes.map (.byte stream)) :
    ∃ pending' reader', Reading stream pending' reader' ∧
      (reader stream.other = none ∨ .closed stream.other ∈ front → reader' stream.other = none) ∧
      Tracer.lines (pending ++ bytes) =
        Tracer.finishedLines (pending ++ bytes) ++ Tracer.lines pending' ∧
      ∀ tail, heard (front ++ tail) reader =
        (Tracer.finishedLines (pending ++ bytes) ++ (heard tail reader').1,
          (heard tail reader').2) := by
  induction front generalizing bytes pending reader with
  | nil =>
    obtain rfl : bytes = [] := by simpa using hfront.symm
    rw [List.append_nil, Tracer.finishedLines_of_unfinished h.unfinished]
    exact ⟨pending, reader, h, by simp, rfl, fun tail => rfl⟩
  | cons arrival front ih =>
    by_cases harrival : arrival = .closed stream.other
    · subst harrival
      rw [List.filter_cons_of_neg (by simp)] at hfront
      obtain ⟨pending', reader', hreading, hother, hlines, hheard⟩ := ih h.closeOther hfront
      refine ⟨pending', reader', hreading, fun _ => hother (by simp), hlines, fun tail => ?_⟩
      rw [List.cons_append, heard_cons (by simp), receive_closed_other h.other, hheard]
      rfl
    · rw [List.filter_cons_of_pos (by simpa using harrival)] at hfront
      obtain ⟨b, bytes, rfl, rfl, hbytes⟩ := List.map_eq_cons_iff.mp hfront.symm
      by_cases hb : b = 0x0A
      · subst hb
        obtain ⟨pending', reader', hreading, hother, hlines, hheard⟩ := ih h.endLine hbytes.symm
        rw [Tracer.lines_cut h.unfinished, Tracer.finishedLines_cut h.unfinished]
        refine ⟨pending', reader', hreading, ?_, by simpa using hlines, fun tail => ?_⟩
        · simpa using hother
        · rw [List.cons_append, heard_cons (by simp), h.receive_newline, hheard]
          rfl
      · obtain ⟨pending', reader', hreading, hother, hlines, hheard⟩ :=
          ih (h.addByte hb) hbytes.symm
        rw [List.append_cons]
        refine ⟨pending', reader', hreading, ?_, hlines, fun tail => ?_⟩
        · simpa using hother
        · rw [List.cons_append, heard_cons (by simp), h.receive_byte hb, hheard]
          rfl

/-- Once the tracer's stream is over, nothing more is heard, and the session ends with the other. -/
theorem heard_of_over {arrivals : List Arrival} (howner : reader stream = none)
    (hother : reader stream.other = some [] ∨ reader stream.other = none)
    (hrest : arrivals.filter (· ≠ .closed stream.other) = [])
    (hcloses : reader stream.other = none ∨ .closed stream.other ∈ arrivals) :
    heard arrivals reader = ([], .over) := by
  induction arrivals generalizing reader with
  | nil =>
    have hover : reader.isOver = true :=
      (isOver_iff reader stream).mpr ⟨howner, by simpa using hcloses⟩
    simp [heard, hover]
  | cons arrival arrivals ih =>
    obtain ⟨harrival, hrest'⟩ :=
      List.forall_mem_cons.mp (List.filter_eq_nil_iff.mp hrest)
    obtain rfl : arrival = .closed stream.other := by simpa using harrival
    rw [heard_cons (by simp), receive_closed_other hother,
      ih (by simp [howner]) (by simp) (List.filter_eq_nil_iff.mpr hrest') (by simp)]
    rfl

end Reading

/-- How far a session with the tracer comes in reading. -/
def Tracer.Ending.standing : Tracer.Ending → Standing
  | .closes _ => .over
  | .hangs _ => .stopped

/-- **The lines that are heard are those of the output**, to the end of the tracer or up to the
shutdown. -/
theorem heard_of_arrives {stream : Stream} {output : List UInt8} {status : ExitStatus}
    {response : Tracer.Response} {ending : Tracer.Ending} {arrivals : List Arrival}
    (h : Arrives stream output status response ending arrivals) :
    heard arrivals .fresh = (ending.lines output, ending.standing) := by
  have hfresh := Reading.fresh stream
  cases h with
  | closes closed written =>
    -- The end of the tracer's stream cuts what arrives into its bytes and ends of the other one.
    obtain ⟨front, rest, rfl, hfront, hrest⟩ := List.filter_eq_append_iff.mp written
    obtain ⟨passed, later, rfl, hpassed, -, hlater⟩ := List.filter_eq_cons_iff.mp hrest
    have hpassed' : passed.filter (· ≠ .closed stream.other) = [] :=
      List.filter_eq_nil_iff.mpr hpassed
    have hbytes : (front ++ passed).filter (· ≠ .closed stream.other) =
        output.map (.byte stream) := by
      rw [List.filter_append, hfront, hpassed', List.append_nil]
    obtain ⟨pending, reader, hreading, hother, hlines, hheard⟩ := hfresh.heard_append hbytes
    have hover : (Function.update reader stream none) stream = none := by simp
    rw [← List.append_assoc, hheard, heard_cons (by simp), hreading.receive_closed,
      Reading.heard_of_over hover (by simpa using hreading.other) hlater]
    · rw [List.nil_append] at hlines
      simp only [List.nil_append, List.append_nil, Tracer.toList_head_lines hreading.unfinished,
        ← hlines]
      rfl
    · rcases List.mem_append.mp (List.append_assoc .. ▸ closed) with hmem | hmem
      · exact .inl (by simpa using hother (.inr hmem))
      · exact .inr (by simpa using hmem)
  | @hangs front later written =>
    obtain ⟨pending, reader, hreading, hother, hlines, hheard⟩ := hfresh.heard_append written
    rw [hheard]
    simp [heard, Tracer.Ending.lines, Tracer.Ending.standing]

/-! ## The session and a fresh report -/

/-- The state of a session with the process id in its report. -/
def Relayed.aimedAt (pid : UInt32) (relayed : Relayed) : Relayed :=
  { relayed with
    relay := ⟨{ relayed.relay.report with targetPid := pid }, relayed.relay.sink⟩ }

namespace Relay

variable (settings : Settings) (line : String) (pid : UInt32) (report : Report) (sink : Sink)

theorem relayPayload_aimedAt (call : TracedWrite) :
    relayPayload settings call ⟨{ report with targetPid := pid }, sink⟩ =
      ⟨(relayPayload settings call ⟨report, sink⟩).value.aimedAt pid,
        (relayPayload settings call ⟨report, sink⟩).journal⟩ := by
  generalize hdelivery : sink.deliver call.payload = delivery
  obtain ⟨⟨sink, failure⟩, journal⟩ := delivery
  cases htruncated : call.truncated with
  | false =>
    cases failure <;> simp [relayPayload, htruncated, hdelivery, Relayed.aimedAt, bind, pure]
  | true =>
    by_cases hfirst : report.truncatedPayloads = 0
    · cases failure <;> simp [relayPayload, noteTruncated, htruncated, hfirst, hdelivery,
        Relayed.aimedAt, bind, pure]
    · cases failure <;> simp [relayPayload, noteTruncated, htruncated, hfirst, hdelivery,
        Relayed.aimedAt, bind, pure]

theorem handleLine_aimedAt :
    handleLine settings line ⟨{ report with targetPid := pid }, sink⟩ =
      ⟨(handleLine settings line ⟨report, sink⟩).value.aimedAt pid,
        (handleLine settings line ⟨report, sink⟩).journal⟩ := by
  unfold handleLine
  cases TracedWrite.ofLine line with
  | error error => rfl
  | ok read? =>
    cases read? with
    | none => rfl
    | some call =>
      dsimp only
      unfold handleWrite
      split
      · rfl
      · split
        · exact relayPayload_aimedAt settings pid report sink call
        · rfl

/-- The process id in the report decides nothing. -/
theorem handleLines_aimedAt (lines : List String) :
    handleLines settings lines ⟨{ report with targetPid := pid }, sink⟩ =
      ⟨(handleLines settings lines ⟨report, sink⟩).value.aimedAt pid,
        (handleLines settings lines ⟨report, sink⟩).journal⟩ := by
  induction lines generalizing report sink with
  | nil => rfl
  | cons line lines ih =>
    have hline := handleLine_aimedAt settings line pid report sink
    cases hfailure : (handleLine settings line ⟨report, sink⟩).value.failure with
    | some cause =>
      rw [handleLines_cons_of_some hfailure,
        @handleLines_cons_of_some _ _ _ _ cause (by rw [hline]; exact hfailure), hline]
    | none =>
      rw [handleLines_cons_of_none hfailure,
        handleLines_cons_of_none (by rw [hline]; exact hfailure), hline]
      simp only [Relayed.aimedAt, ih]

end Relay

section Session

variable {settings : Settings} {pid : UInt32} {stream : Stream} {output : List UInt8}
  {status : ExitStatus} {response : Tracer.Response} {ending : Tracer.Ending}
  {arrivals : List Arrival} {sink : Sink}

theorem watchSession_eq_leave {watched : Journaled (Relayed × Standing)}
    (h : watch settings arrivals .fresh (freshRelay pid sink) = watched) :
    watchSession settings pid status response arrivals sink =
      ⟨(leave status response watched.value).value,
        spawnNote settings pid :: .started (tracerCommand settings pid) ::
          (watched.journal ++ (leave status response watched.value).journal)⟩ := by
  simp [watchSession, bind, Journaled.act, h]

/-- Once the lines are handled, the tracer's ending gives what is missing of the report. -/
theorem leave_of_arrives (h : Arrives stream output status response ending arrivals)
    {report : Report} (hstopped : report.stopped = false) :
    let complete := { report with
      tracerExit := ending.conclude.value.1, stopped := ending.conclude.value.2 }
    leave status response (⟨⟨report, sink⟩, none⟩, ending.standing) =
      ⟨some (.ok (complete, sink)),
        ending.conclude.journal ++ [.logged (.sessionEnded complete)]⟩ := by
  cases h with
  | closes =>
    rw [Tracer.conclude_closes, ← hstopped]
    rfl
  | hangs => cases response <;> rfl

/-- **Watching a tracer is a session with it**, and comes to an end. -/
theorem watchSession_eq (h : Arrives stream output status response ending arrivals) :
    let watched := watchSession settings pid status response arrivals sink
    let session := runSession settings pid (.ran output ending) sink
    watched.value = some session.value ∧ watched.journal = session.journal := by
  obtain ⟨hjournal, hvalue, hstanding⟩ :=
    watch_eq_handleLines settings arrivals .fresh (freshRelay pid sink)
  rw [heard_of_arrives h] at hjournal hvalue hstanding
  have hlines := Relay.handles_lines settings (ending.lines output) (freshRelay pid sink)
  generalize hhandled : Relay.handleLines settings (ending.lines output) (freshRelay pid sink) =
    handled at hjournal hvalue hstanding hlines
  rcases hwatched : watch settings arrivals .fresh (freshRelay pid sink) with
    ⟨⟨relayed, standing⟩, journal⟩
  rw [hwatched] at hjournal hvalue hstanding
  dsimp only at hjournal hvalue hstanding
  subst hjournal hvalue
  rw [watchSession_eq_leave hwatched]
  obtain ⟨⟨⟨report, sink'⟩, failure⟩, journal⟩ := handled
  cases failure with
  | some cause =>
    rw [runSession_of_some hhandled rfl]
    exact ⟨rfl, by simp [leave]⟩
  | none =>
    obtain ⟨hreport, -⟩ := hlines.relayed rfl
    obtain rfl := hstanding rfl
    dsimp only at hreport ⊢
    subst hreport
    rw [runSession_of_none hhandled rfl, leave_of_arrives h rfl]
    refine ⟨rfl, ?_⟩
    dsimp only
    rw [List.append_assoc]
    rfl

theorem afterAll_conclude (ending : Tracer.Ending) (o : Output) :
    o.afterAll ending.conclude.journal = o := by
  rcases ending with _ | _ | _ | _ <;> rfl

theorem limitWarnings_conclude (ending : Tracer.Ending) :
    Journal.limitWarnings ending.conclude.journal = [] := by
  rcases ending with _ | _ | _ | _ <;> rfl

/-- What a session adds to the handling of its lines neither writes nor warns. -/
theorem output_of_framed (settings : Settings) (pid : UInt32) (ending : Tracer.Ending)
    (report : Report) (journal : List Action) :
    let framed := spawnNote settings pid :: .started (tracerCommand settings pid) ::
      (journal ++ ending.conclude.journal ++ [.logged (.sessionEnded report)])
    Journal.output framed = Journal.output journal ∧
      Journal.limitWarnings framed = Journal.limitWarnings journal := by
  dsimp only
  refine ⟨?_, ?_⟩
  · simp only [Journal.output_eq_afterAll, Output.afterAll_cons, Output.afterAll_append,
      afterAll_conclude]
    rfl
  · show Journal.limitWarnings ([_, _] ++ (journal ++ _ ++ [_])) = _
    simp only [Journal.limitWarnings_append, limitWarnings_conclude, List.append_nil]
    exact List.append_nil _

/-- A shutdown is among what arrives just when it ends the session. -/
theorem shutdown_mem_iff (h : Arrives stream output status response ending arrivals) :
    Arrival.shutdown ∈ arrivals ↔ ending.conclude.value.2 = true := by
  cases h with
  | closes closed written =>
    simp only [Tracer.conclude_closes, Bool.false_eq_true, iff_false]
    intro hmem
    have hkept : Arrival.shutdown ∈ arrivals.filter (· ≠ .closed stream.other) :=
      List.mem_filter.mpr ⟨hmem, by simp⟩
    rw [written] at hkept
    simp at hkept
  | hangs => simp [(Tracer.conclude_hangs response).1]

/-- **A session is the fold over the lines of its tracer**, whatever arrives in whatever order and
however the output answers. It adds the process id, the exit code and whether a shutdown ended it.
If no call on the output fails, the truncated payloads are counted exactly, and the string limit is
warned about once, when all payloads before the first truncated one are out, or never. -/
theorem session_is_fold (settings : Settings) (pid : UInt32) (sink : Sink)
    (h : Arrives stream output status response ending arrivals) :
    let watched := watchSession settings pid status response arrivals sink
    let session := runSession settings pid (.ran output ending) sink
    let lines := ending.lines output
    let folded := Relay.handleLines settings lines ⟨{}, sink⟩
    (watched.value = some session.value ∧ watched.journal = session.journal) ∧
    Journal.output session.journal = Journal.output folded.journal ∧
    (∀ cause, folded.value.failure = some cause → session.value = .error (.output cause)) ∧
    (folded.value.failure = none →
      session.value = .ok
        ({ folded.value.relay.report with
            targetPid := pid
            tracerExit := ending.conclude.value.1
            stopped := decide (.shutdown ∈ arrivals) },
          folded.value.relay.sink) ∧
      folded.value.relay.report.truncatedPayloads =
        (relayedCalls settings lines).countP (·.truncated) ∧
      Journal.limitWarnings session.journal =
        (firstTruncated? settings lines).toList.map (limitWarning settings) ∧
      ∀ call, firstTruncated? settings lines = some call →
        ∃ before line after earlier later, lines = before ++ line :: after ∧
          relayed? settings line = some call ∧ firstTruncated? settings before = none ∧
          session.journal = earlier ++ .logged (limitWarning settings call) :: later ∧
          Journal.output earlier = ⟨relayedPayloads settings before, []⟩) := by
  have hfresh := Relay.handleLines_aimedAt settings pid {} sink (ending.lines output)
  have hlines := Relay.handles_lines settings (ending.lines output) ⟨{}, sink⟩
  refine ⟨watchSession_eq h, ?_⟩
  cases hfailure :
      (Relay.handleLines settings (ending.lines output) ⟨{}, sink⟩).value.failure with
  | some cause =>
    rw [runSession_of_some hfresh hfailure]
    refine ⟨?_, ?_, ?_⟩
    · simp only [Journal.output_eq_afterAll, Output.afterAll_cons]
      rfl
    · intro cause' hcause'
      rw [← Option.some.inj hcause']
    · intro hnone
      cases hnone
  | none =>
    obtain ⟨hreport, -⟩ := hlines.relayed hfailure
    obtain ⟨houtput, hwarnings⟩ := output_of_framed settings pid ending
      (sessionReport settings pid output ending)
      (Relay.handleLines settings (ending.lines output) ⟨{}, sink⟩).journal
    rw [runSession_of_none hfresh hfailure]
    refine ⟨houtput, by simp, fun _ => ⟨?_, ?_, ?_, ?_⟩⟩
    · have hstopped : decide (Arrival.shutdown ∈ arrivals) = ending.conclude.value.2 := by
        rw [Bool.eq_iff_iff, decide_eq_true_iff, shutdown_mem_iff h]
      rw [hreport, hstopped]
      rfl
    · rw [hreport]
      exact Nat.zero_add _
    · rw [hwarnings]
      exact Relay.limitWarnings_handleLines rfl hfailure
    · intro call hcall
      obtain ⟨before, line, after, earlier, later, hsplit, hline, hbefore, hjournal, hout⟩ :=
        Relay.warned_in_time rfl hfailure hcall
      refine ⟨before, line, after,
        spawnNote settings pid :: .started (tracerCommand settings pid) :: earlier,
        later ++ (ending.conclude.journal ++
          [.logged (.sessionEnded (sessionReport settings pid output ending))]),
        hsplit, hline, hbefore, ?_, hout []⟩
      rw [hjournal]
      simp only [List.append_assoc, List.cons_append]

/-- Output with a whole payload, a byte that is no text, and a truncated payload in a last line that
is not ended. -/
def raggedOutput : List UInt8 :=
  ("write(1, \"hi\", 2) = 2\n".toList.map fun c => c.toNat.toUInt8) ++ [0xFF, 0x0A] ++
    "write(1, \"ab\"..., 5) = 5".toList.map fun c => c.toNat.toUInt8

/-- This output on the second stream, with the first stream closed in the middle of a line. -/
def raggedArrivals : List Arrival :=
  (raggedOutput.take 9).map (.byte .stderr) ++ .closed .stdout ::
    (raggedOutput.drop 9).map (.byte .stderr) ++ [.closed .stderr]

theorem session_is_fold_ragged :
    Arrives .stderr raggedOutput (.exited 3) .ignores (.closes (.exited 3)) raggedArrivals ∧
    let sink : Sink := ⟨({ maxWrite := some 1 } : Faults).behaviour, 0, 0⟩
    let session := runSession {} 7 (.ran raggedOutput (.closes (.exited 3))) sink
    (watchSession {} 7 (.exited 3) .ignores raggedArrivals sink).value = some session.value ∧
    Journal.output session.journal = ⟨[[104, 105], [97, 98]], []⟩ ∧
    Journal.limitWarnings session.journal = [.firstTruncated 1 5 2 9999] ∧
    ∃ sink', session.value = .ok (⟨7, some 3, 2, 4, 0, 1, false⟩, sink') := by
  have harrives : Arrives .stderr raggedOutput (.exited 3) .ignores (.closes (.exited 3))
      raggedArrivals := .closes (by decide +kernel) (by decide +kernel)
  obtain ⟨⟨hvalue, -⟩, houtput, -, hdone⟩ :=
    session_is_fold {} 7 ⟨({ maxWrite := some 1 } : Faults).behaviour, 0, 0⟩ harrives
  obtain ⟨hreport, -, hwarnings, -⟩ := hdone (by decide +kernel)
  refine ⟨harrives, hvalue, ?_, ?_, ?_⟩
  · rw [houtput]
    decide +kernel
  · rw [hwarnings]
    decide +kernel
  · exact ⟨_, hreport.trans (congrArg Except.ok (Prod.ext (by decide +kernel) rfl))⟩

end Session

end TraceRelay
