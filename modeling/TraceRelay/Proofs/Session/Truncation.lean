import TraceRelay.Proofs.Session.Whole

/-!
# The warning about the string limit

A payload that the tracer cut short makes the output incomplete. The first one that a session relays
is a warning, which names the string limit, and the others are only noted: of all that a session
logs, the warning is found once, before that payload, or not at all.

Delivering logs nothing, so that the warnings are those of the lines. Those of some lines are
decided by the count of truncated payloads before them; the statement about a list is by induction
on it.
-/

namespace TraceRelay

/-- The warning about a payload that was cut short. -/
def limitWarning (settings : Settings) (call : TracedWrite) : Log.Event :=
  .firstTruncated call.fd call.length call.payload.length settings.tracer.stringLimit

/-- Whether the event is a warning about the string limit. -/
def Log.Event.namesLimit : Log.Event → Bool
  | .firstTruncated .. => true
  | _ => false

/-- The warnings about the string limit, in order. -/
def Journal.limitWarnings (journal : List Action) : List Log.Event :=
  (events journal).filter (·.namesLimit)

/-- The first call that is relayed in part only. -/
def firstTruncated? (settings : Settings) (lines : List String) : Option TracedWrite :=
  (relayedCalls settings lines).find? (·.truncated)

namespace Journal

@[simp] theorem limitWarnings_nil : limitWarnings [] = [] := rfl

@[simp] theorem limitWarnings_append (before later : List Action) :
    limitWarnings (before ++ later) = limitWarnings before ++ limitWarnings later := by
  simp [limitWarnings]

theorem limitWarnings_cons (a : Action) (journal : List Action) :
    limitWarnings (a :: journal) = limitWarnings [a] ++ limitWarnings journal :=
  limitWarnings_append [a] journal

@[simp] theorem limitWarnings_limitWarning (settings : Settings) (call : TracedWrite) :
    limitWarnings [.logged (limitWarning settings call)] = [limitWarning settings call] := rfl

theorem limitWarnings_of_not_isLog {actions : List Action}
    (h : ∀ a ∈ actions, a.isLog = false) : limitWarnings actions = [] := by
  induction actions with
  | nil => rfl
  | cons a actions ih =>
    rw [limitWarnings_cons, ih fun b hb => h b (List.mem_cons_of_mem a hb), List.append_nil]
    have ha := h a List.mem_cons_self
    cases a <;> first | rfl | cases ha

end Journal

/-! ## Delivering -/

namespace Sink

theorem writeFrom_not_isLog (skip : Nat) (bytes : List UInt8) (sink : Sink) :
    ∀ a ∈ (writeFrom skip bytes sink).journal, a.isLog = false := by
  induction bytes generalizing skip sink with
  | nil => simp [writeFrom]
  | cons byte bytes ih =>
    cases skip with
    | succ skip => exact ih skip sink
    | zero =>
      rw [writeFrom]
      dsimp only
      split
      · simp
      · simp
      · next count _ =>
        refine List.forall_mem_cons.mpr ⟨rfl, ?_⟩
        exact ih count { sink with writes := sink.writes + 1 }

/-- Delivering logs nothing. -/
theorem deliver_not_isLog (bytes : List UInt8) (sink : Sink) :
    ∀ a ∈ (deliver bytes sink).journal, a.isLog = false := by
  have hwritten := writeFrom_not_isLog 0 bytes sink
  have hflush : ∀ next : Sink, ∀ a ∈ (flush next).journal, a.isLog = false := by
    intro next
    unfold flush
    dsimp only
    split <;> simp [Action.isLog]
  unfold deliver
  rw [Journaled.journal_bind]
  intro a ha
  rcases List.mem_append.mp ha with ha | ha
  · exact hwritten a ha
  · split at ha
    · simp at ha
    · exact hflush _ a ha

end Sink

/-! ## Handling lines -/

namespace Relay

variable {settings : Settings} {line : String} {call : TracedWrite} {relay : Relay}

/-- What is noted of a payload before it is delivered. -/
def truncationNote (settings : Settings) (call : TracedWrite) (report : Report) : List Action :=
  if call.truncated = false then []
  else if report.truncatedPayloads = 0 then [.logged (limitWarning settings call)]
  else [.logged (.truncatedAgain call.fd call.length call.payload.length)]

/-- A payload is noted, if it was cut short, and then delivered. -/
theorem relayPayload_journal (settings : Settings) (call : TracedWrite) (relay : Relay) :
    (relayPayload settings call relay).journal =
      truncationNote settings call relay.report ++ (relay.sink.deliver call.payload).journal := by
  generalize hdelivery : relay.sink.deliver call.payload = delivery
  obtain ⟨⟨sink, failure⟩, journal⟩ := delivery
  cases htruncated : call.truncated with
  | false => cases failure <;> simp [relayPayload, truncationNote, htruncated, hdelivery]
  | true =>
    have hnote : (noteTruncated settings call relay.report).journal =
        truncationNote settings call relay.report := by
      by_cases hfirst : relay.report.truncatedPayloads = 0
      · simp [noteTruncated, truncationNote, htruncated, hfirst, limitWarning]
      · simp [noteTruncated, truncationNote, htruncated, hfirst]
    cases failure <;> simp [relayPayload, htruncated, hdelivery, hnote]

theorem limitWarnings_noteOther (line : String) :
    Journal.limitWarnings (noteOther line).journal = [] := by
  unfold noteOther
  dsimp only
  split
  · rfl
  · split <;> rfl

theorem limitWarnings_of_none (h : relayed? settings line = none) (relay : Relay) :
    Journal.limitWarnings (handleLine settings line relay).journal = [] := by
  unfold relayed? at h
  unfold handleLine
  cases hread : TracedWrite.ofLine line with
  | error error => rfl
  | ok read? =>
    cases read? with
    | none => simpa using limitWarnings_noteOther line
    | some call =>
      simp only [hread] at h
      simp only [handleWrite, TracedWrite.succeeded, ← selects_iff] at h ⊢
      split
      · rfl
      · simp_all

theorem limitWarnings_of_some (h : relayed? settings line = some call) (relay : Relay) :
    Journal.limitWarnings (handleLine settings line relay).journal =
      if call.truncated = true ∧ relay.report.truncatedPayloads = 0 then
        [limitWarning settings call]
      else [] := by
  have hdeliver := Journal.limitWarnings_of_not_isLog (relay.sink.deliver_not_isLog call.payload)
  rw [handleLine_of_some h, relayPayload_journal, Journal.limitWarnings_append, hdeliver,
    List.append_nil]
  unfold truncationNote
  cases call.truncated with
  | false => rfl
  | true =>
    by_cases hfirst : relay.report.truncatedPayloads = 0
    · simp [hfirst]
    · simp only [hfirst, and_false, if_false, Bool.true_eq_false]
      rfl

/-- Once a payload was cut short there is no further warning. -/
theorem limitWarnings_handleLines_of_pos {lines : List String}
    (hpos : 0 < relay.report.truncatedPayloads) :
    Journal.limitWarnings (handleLines settings lines relay).journal = [] := by
  induction lines generalizing relay with
  | nil => rfl
  | cons line lines ih =>
    have hline : Journal.limitWarnings (handleLine settings line relay).journal = [] := by
      cases hrelayed : relayed? settings line with
      | none => exact limitWarnings_of_none hrelayed relay
      | some call => rw [limitWarnings_of_some hrelayed, if_neg (by omega)]
    cases hfailure : (handleLine settings line relay).value.failure with
    | some cause => rw [handleLines_cons_of_some hfailure, hline]
    | none =>
      obtain ⟨hreport, -⟩ := (handles_line settings line relay).relayed hfailure
      have hpos' : 0 < (handleLine settings line relay).value.relay.report.truncatedPayloads := by
        rw [hreport]
        exact Nat.lt_of_lt_of_le hpos (Nat.le_add_right ..)
      rw [handleLines_cons_of_none hfailure]
      simp only [Journal.limitWarnings_append, hline, ih hpos', List.append_nil]

/-- **One warning at most, and about the first truncated payload.** -/
theorem limitWarnings_handleLines {lines : List String}
    (hnone : relay.report.truncatedPayloads = 0)
    (hdone : (handleLines settings lines relay).value.failure = none) :
    Journal.limitWarnings (handleLines settings lines relay).journal =
      (firstTruncated? settings lines).toList.map (limitWarning settings) := by
  induction lines generalizing relay with
  | nil => rfl
  | cons line lines ih =>
    cases hfailure : (handleLine settings line relay).value.failure with
    | some cause =>
      rw [handleLines_cons_of_some hfailure, hfailure] at hdone
      cases hdone
    | none =>
      rw [handleLines_cons_of_none hfailure] at hdone ⊢
      obtain ⟨hreport, -⟩ := (handles_line settings line relay).relayed hfailure
      have hcount : (handleLine settings line relay).value.relay.report.truncatedPayloads =
          (relayedCalls settings [line]).countP (·.truncated) := by
        rw [hreport]
        simp [Report.after, hnone]
      rw [firstTruncated?, ← List.singleton_append, relayedCalls_append, List.find?_append]
      simp only [Journal.limitWarnings_append]
      cases hrelayed : relayed? settings line with
      | none =>
        rw [relayedCalls_singleton_of_none hrelayed] at hcount ⊢
        rw [limitWarnings_of_none hrelayed, ih hcount hdone]
        rfl
      | some call =>
        rw [relayedCalls_singleton_of_some hrelayed] at hcount ⊢
        rw [limitWarnings_of_some hrelayed]
        cases htruncated : call.truncated with
        | false =>
          -- The payload is whole, so the first truncated one is among the later lines.
          rw [ih (by simpa [htruncated] using hcount) hdone]
          simp [firstTruncated?, htruncated]
        | true =>
          rw [limitWarnings_handleLines_of_pos (by simp [hcount, htruncated])]
          simp [hnone, htruncated]

/-! ## Where the warning stands -/

/-- If all the lines are handled, those of a first part are, and then the others. -/
theorem handleLines_append {before later : List String}
    (hdone : (handleLines settings (before ++ later) relay).value.failure = none) :
    let first := handleLines settings before relay
    let rest := handleLines settings later first.value.relay
    first.value.failure = none ∧
      handleLines settings (before ++ later) relay =
        ⟨rest.value, first.journal ++ rest.journal⟩ := by
  induction before generalizing relay with
  | nil => exact ⟨rfl, rfl⟩
  | cons line before ih =>
    rw [List.cons_append] at hdone ⊢
    cases hfailure : (handleLine settings line relay).value.failure with
    | some cause =>
      rw [handleLines_cons_of_some hfailure, hfailure] at hdone
      cases hdone
    | none =>
      rw [handleLines_cons_of_none hfailure] at hdone
      obtain ⟨hfirst, hrest⟩ := ih hdone
      simp only [handleLines_cons_of_none hfailure, hfirst, hrest, List.append_assoc, and_self]

/-- The first line is handled before the others. -/
theorem exists_handleLines_cons (settings : Settings) (line : String) (lines : List String)
    (relay : Relay) : ∃ rest, (handleLines settings (line :: lines) relay).journal =
      (handleLine settings line relay).journal ++ rest := by
  cases hfailure : (handleLine settings line relay).value.failure with
  | some cause => exact ⟨[], by rw [handleLines_cons_of_some hfailure, List.append_nil]⟩
  | none => exact ⟨_, by rw [handleLines_cons_of_none hfailure]⟩

/-- The line of the first truncated payload. -/
theorem exists_of_firstTruncated {lines : List String}
    (h : firstTruncated? settings lines = some call) :
    ∃ before line after, lines = before ++ line :: after ∧ relayed? settings line = some call ∧
      call.truncated = true ∧ firstTruncated? settings before = none := by
  obtain ⟨htruncated, whole, rest, hcalls, hwhole⟩ := List.find?_eq_some_iff_append.mp h
  obtain ⟨before, later, hlines, hbefore, hlater⟩ := List.filterMap_eq_append_iff.mp hcalls
  obtain ⟨passed, line, after, hsplit, hpassed, hline, -⟩ := List.filterMap_eq_cons_iff.mp hlater
  refine ⟨before ++ passed, line, after, ?_, hline, htruncated, ?_⟩
  · rw [hlines, hsplit, List.append_assoc]
  · have hnil : relayedCalls settings passed = [] := List.filterMap_eq_nil_iff.mpr hpassed
    rw [firstTruncated?, relayedCalls_append, hnil, List.append_nil, relayedCalls, hbefore]
    exact List.find?_eq_none.mpr fun c hc => by simpa using hwhole c hc

/-- **The warning stands before its payload**: all payloads before are out, and no byte of this one
is. -/
theorem warned_in_time {lines : List String} (hnone : relay.report.truncatedPayloads = 0)
    (hdone : (handleLines settings lines relay).value.failure = none)
    (hfirst : firstTruncated? settings lines = some call) :
    ∃ before line after earlier later, lines = before ++ line :: after ∧
      relayed? settings line = some call ∧ firstTruncated? settings before = none ∧
      (handleLines settings lines relay).journal =
        earlier ++ .logged (limitWarning settings call) :: later ∧
      ∀ flushed, Output.afterAll ⟨flushed, []⟩ earlier =
        ⟨flushed ++ relayedPayloads settings before, []⟩ := by
  obtain ⟨before, line, after, rfl, hline, htruncated, hbefore⟩ := exists_of_firstTruncated hfirst
  obtain ⟨hfailure, hsplit⟩ := handleLines_append hdone
  obtain ⟨hreport, -, houtput⟩ := (handles_lines settings before relay).relayed hfailure
  have hcount : (handleLines settings before relay).value.relay.report.truncatedPayloads = 0 := by
    rw [hreport, Report.after, hnone, Nat.zero_add, List.countP_eq_zero]
    exact fun c hc => by simpa using List.find?_eq_none.mp hbefore c hc
  rw [hsplit] at hdone ⊢
  -- Nothing was truncated so far, so that this payload is the one that is warned about.
  obtain ⟨rest, hrest⟩ := exists_handleLines_cons settings line after
    (handleLines settings before relay).value.relay
  rw [handleLine_of_some hline, relayPayload_journal, truncationNote, htruncated,
    if_neg (by simp), if_pos hcount] at hrest
  exact ⟨before, line, after, _, _, rfl, hline, hbefore, by rw [hrest]; rfl, houtput⟩

end Relay

end TraceRelay
