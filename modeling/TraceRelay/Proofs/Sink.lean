import TraceRelay.Proofs.Journal
import TraceRelay.Sink

/-!
# Delivering a payload

What reaches the output when a payload is delivered: all of it in one flush, or, when a call on the
output fails, what was taken of it before. The answers of the output are arbitrary.
-/

namespace TraceRelay

/-- Why a write came to nothing, if it did: an output that takes no byte has failed. -/
def WriteReply.refusal? : WriteReply → Option OsError
  | .fail cause => some cause
  | .accept 0 => some .writeZero
  | .accept (_ + 1) => none

/-- An output that never fails: each write takes something, and each flush succeeds. -/
structure SinkBehaviour.Steady (b : SinkBehaviour) : Prop where
  write : ∀ call offered, 0 < offered → ∃ count, b.write call offered = .accept (count + 1)
  flush : ∀ call, b.flush call = none

/-- A limit on what one write takes is no failure. -/
theorem Faults.steady (n : Nat) : ({ maxWrite := some (n + 1) } : Faults).behaviour.Steady := by
  refine ⟨?_, fun call => rfl⟩
  intro call offered hoffered
  refine ⟨min offered (n + 1) - 1, ?_⟩
  show WriteReply.accept (min offered (n + 1)) = _
  congr 1
  omega

namespace Sink

/-- Bytes that are already taken are dropped. -/
theorem writeFrom_skip (skip : Nat) (bytes : List UInt8) (sink : Sink) :
    writeFrom skip bytes sink = writeFrom 0 (bytes.drop skip) sink := by
  induction bytes generalizing skip with
  | nil => simp [writeFrom]
  | cons byte bytes ih =>
    cases skip with
    | zero => rfl
    | succ skip => rw [writeFrom, ih, List.drop_succ_cons]

/-- What writing some bytes comes to: what was taken of them, what was left, and for what reason. -/
structure Writes (bytes : List UInt8) (sink : Sink) (written : Journaled Delivery)
    (taken left : List UInt8) : Prop where
  split : bytes = taken ++ left
  output : ∀ o : Output, o.afterAll written.journal = ⟨o.flushed, o.unflushed ++ taken⟩
  behaviour : written.value.sink.behaviour = sink.behaviour
  flushes : written.value.sink.flushes = sink.flushes
  isRelay : ∀ a ∈ written.journal, a.isRelay = true
  left_eq_nil : written.value.failure = none → left = []
  refused : ∀ cause, written.value.failure = some cause → left ≠ [] ∧
    (sink.behaviour.write written.value.sink.writes left.length).refusal? = some cause

/-- A write that comes to nothing leaves all that was offered. -/
theorem writes_of_refused {byte : UInt8} {bytes : List UInt8} {sink : Sink} {cause : OsError}
    (h : (sink.behaviour.write (sink.writes + 1) (bytes.length + 1)).refusal? = some cause) :
    Writes (byte :: bytes) sink ⟨⟨{ sink with writes := sink.writes + 1 }, some cause⟩, []⟩ []
      (byte :: bytes) := by
  refine ⟨rfl, by simp, rfl, rfl, by simp, by simp, ?_⟩
  intro cause' hcause
  cases hcause
  exact ⟨by simp, h⟩

/-- After a write that takes some bytes, what is written is these and what is written of the
rest. -/
theorem Writes.accept {byte : UInt8} {bytes taken left : List UInt8} {sink : Sink} {count : Nat}
    {written : Journaled Delivery}
    (h : Writes (bytes.drop count) { sink with writes := sink.writes + 1 } written taken left) :
    Writes (byte :: bytes) sink
      ⟨written.value, .wrote ((byte :: bytes).take (count + 1)) :: written.journal⟩
      ((byte :: bytes).take (count + 1) ++ taken) left := by
  refine ⟨?_, ?_, h.behaviour, h.flushes, ?_, h.left_eq_nil, h.refused⟩
  · rw [List.append_assoc, ← h.split, ← List.drop_succ_cons (a := byte), List.take_append_drop]
  · intro o
    simp [Output.after, h.output, List.append_assoc]
  · intro a ha
    rcases List.mem_cons.mp ha with ha | ha
    · rw [ha]
      rfl
    · exact h.isRelay a ha

/-- **Writing takes a prefix.** By induction on what is still to be written: each write that does
not fail takes at least one byte. -/
theorem exists_writes (bytes : List UInt8) (sink : Sink) :
    ∃ taken left, Writes bytes sink (writeFrom 0 bytes sink) taken left := by
  induction hlen : bytes.length using Nat.strongRecOn generalizing bytes sink with
  | _ n ih =>
    cases bytes with
    | nil => exact ⟨[], [], rfl, by simp [writeFrom], rfl, rfl, by simp [writeFrom], fun _ => rfl,
        by simp [writeFrom]⟩
    | cons byte bytes =>
      rw [writeFrom]
      dsimp only
      split
      · next cause hreply => exact ⟨[], byte :: bytes, writes_of_refused (by rw [hreply]; rfl)⟩
      · next hreply => exact ⟨[], byte :: bytes, writes_of_refused (by rw [hreply]; rfl)⟩
      · next count hreply =>
        -- The rest is written as if it were offered anew, by a sink that has answered once.
        have hlt : (bytes.drop count).length < n := by
          rw [List.length_drop, ← hlen, List.length_cons]
          omega
        obtain ⟨taken, left, hw⟩ := ih _ hlt (bytes.drop count)
          { sink with writes := sink.writes + 1 } rfl
        rw [← writeFrom_skip] at hw
        exact ⟨_, left, hw.accept⟩

theorem flush_of_some {sink : Sink} {cause : OsError}
    (h : sink.behaviour.flush (sink.flushes + 1) = some cause) :
    flush sink = ⟨⟨{ sink with flushes := sink.flushes + 1 }, some cause⟩, []⟩ := by
  simp [flush, h, pure]

theorem flush_of_none {sink : Sink} (h : sink.behaviour.flush (sink.flushes + 1) = none) :
    flush sink = ⟨⟨{ sink with flushes := sink.flushes + 1 }, none⟩, [.flushed]⟩ := by
  simp [flush, h, pure, bind, Journaled.act]

/-- How a delivery that follows some flushes breaks off, with some bytes left to be written: the
last call on the sink was a flush if none are left, and a write of all of them otherwise. -/
structure BreaksOff (flushes : Nat) (sink : Sink) (left : List UInt8) (cause : OsError) : Prop where
  flush : left = [] →
    sink.behaviour.flush sink.flushes = some cause ∧ sink.flushes = flushes + 1
  write : left ≠ [] →
    (sink.behaviour.write sink.writes left.length).refusal? = some cause ∧ sink.flushes = flushes

/-- What delivering some bytes comes to: one flush of all of them, or a part of them unflushed. -/
structure Delivers (bytes : List UInt8) (sink : Sink) (delivery : Journaled Delivery) : Prop where
  behaviour : delivery.value.sink.behaviour = sink.behaviour
  isRelay : ∀ a ∈ delivery.journal, a.isRelay = true
  delivered : delivery.value.failure = none → delivery.value.sink.flushes = sink.flushes + 1 ∧
    ∀ o : Output, o.afterAll delivery.journal = ⟨o.flushed ++ [o.unflushed ++ bytes], []⟩
  brokenOff : ∀ cause, delivery.value.failure = some cause → ∃ taken left,
    bytes = taken ++ left ∧ BreaksOff sink.flushes delivery.value.sink left cause ∧
      ∀ o : Output, o.afterAll delivery.journal = ⟨o.flushed, o.unflushed ++ taken⟩

/-- **Delivery is all or a prefix.** Either every byte is taken and flushed at once, or the bytes
that were taken are a prefix, which is all of them only if the flush failed. -/
theorem delivers_deliver (bytes : List UInt8) (sink : Sink) :
    Delivers bytes sink (deliver bytes sink) := by
  obtain ⟨taken, left, hw⟩ := exists_writes bytes sink
  cases hwritten : (writeFrom 0 bytes sink).value.failure with
  | some cause =>
    have hdeliver : deliver bytes sink = writeFrom 0 bytes sink := by
      simp [deliver, bind, pure, hwritten]
    obtain ⟨hne, hrefused⟩ := hw.refused cause hwritten
    rw [← hw.behaviour] at hrefused
    rw [hdeliver]
    refine ⟨hw.behaviour, hw.isRelay, ?_, ?_⟩
    · intro h
      rw [hwritten] at h
      cases h
    · intro _ hcause
      rw [hwritten, Option.some.injEq] at hcause
      subst hcause
      exact ⟨taken, left, hw.split, ⟨fun h => absurd h hne, fun _ => ⟨hrefused, hw.flushes⟩⟩,
        hw.output⟩
  | none =>
    -- Nothing is left, so that the flush is called; whether it fails decides the rest.
    have hleft : left = [] := hw.left_eq_nil hwritten
    have hbytes : bytes = taken := by rw [hw.split, hleft, List.append_nil]
    subst hbytes
    let written := (writeFrom 0 bytes sink).value.sink
    have hdeliver : deliver bytes sink =
        ⟨(flush written).value, (writeFrom 0 bytes sink).journal ++ (flush written).journal⟩ := by
      simp [deliver, bind, hwritten, written]
    have hflushes : written.flushes + 1 = sink.flushes + 1 := by rw [hw.flushes]
    rw [hdeliver]
    cases hflush : written.behaviour.flush (written.flushes + 1) with
    | some cause =>
      rw [flush_of_some hflush]
      refine ⟨hw.behaviour, by simpa using hw.isRelay, by simp, ?_⟩
      intro _ hcause
      cases hcause
      exact ⟨bytes, [], by simp, ⟨fun _ => ⟨hflush, hflushes⟩, fun h => absurd rfl h⟩,
        by simpa using hw.output⟩
    | none =>
      rw [flush_of_none hflush]
      refine ⟨hw.behaviour, ?_, fun _ => ⟨hflushes, ?_⟩, by simp⟩
      · intro a ha
        rcases List.mem_append.mp ha with ha | ha
        · exact hw.isRelay a ha
        · rw [List.mem_singleton.mp ha]
          rfl
      · intro o
        simp [hw.output, Output.after]

/-- A sink that never fails breaks nothing off. -/
theorem not_breaksOff_of_steady {sink : Sink} (hsteady : sink.behaviour.Steady) {flushes : Nat}
    {left : List UInt8} {cause : OsError} : ¬BreaksOff flushes sink left cause := by
  intro hbreaks
  by_cases hleft : left = []
  · obtain ⟨hflush, -⟩ := hbreaks.flush hleft
    rw [hsteady.flush] at hflush
    cases hflush
  · obtain ⟨hrefused, -⟩ := hbreaks.write hleft
    obtain ⟨count, hreply⟩ :=
      hsteady.write sink.writes left.length (List.length_pos_iff.mpr hleft)
    rw [hreply] at hrefused
    cases hrefused

end Sink

end TraceRelay
