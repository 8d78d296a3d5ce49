import TraceRelay.Proofs.Run.Pacing

/-!
# The counter of failed sessions

A run counts the failed sessions in a row in 32 bits. The count is the length of the row as long as
it fits, which it does under every limit on the length: the run gives up before. Without a limit the
row may be as long as the run, and the count is its length modulo `2 ^ 32`: it starts over at zero,
and the pauses with it.
-/

namespace TraceRelay.Run

variable {settings : Settings} {world : World} {sink : Sink} {journal : List Action}
  {lookups : List Target.Outcome} {state : State}

theorem toNat_succ_mod (n : UInt32) : (n + 1).toNat = (n.toNat + 1) % 2 ^ 32 :=
  UInt32.toNat_add n 1

/-- One more session changes the count as it changes the length of the row, up to multiples of
`2 ^ 32`. -/
theorem toNat_failuresAfter {sessions : List Tracer.Outcome} {failures : UInt32}
    (h : failures.toNat = failedInARow settings sessions % 2 ^ 32) (tracer : Tracer.Outcome) :
    (failuresAfter settings failures [tracer]).toNat =
      failedInARow settings (sessions ++ [tracer]) % 2 ^ 32 := by
  rw [failuresAfter_singleton, failedInARow_append]
  by_cases hfails : tracer.fails settings = true
  · rw [if_pos hfails, if_pos hfails, toNat_succ_mod, h, Nat.mod_add_mod]
  · rw [if_neg hfails, if_neg hfails]
    rfl

/-- The count is the length of the last row of failed sessions, modulo its range. -/
theorem Reaches.toNat_failures_mod (h : Reaches settings world sink journal lookups state) :
    state.failures.toNat =
      failedInARow settings (world.sessions (Journal.started .tracer journal)) % 2 ^ 32 := by
  induction h with
  | start => rfl
  | @turn journal outcome lookups state actions next before again ih =>
    obtain ⟨sessions, hadds⟩ := (step_of_turn_eq again).adds (by simp)
    obtain ⟨-, hsessions, -⟩ := before.books.adds hadds
    obtain ⟨-, -, hfailures, -⟩ := hadds.again next rfl
    rw [hsessions, hfailures]
    rcases hadds.sessions_eq with hnone | hone
    · rw [hnone, List.append_nil]
      exact ih
    · rw [hone]
      exact toNat_failuresAfter ih state.nextTracer

/-- Under a limit the row is shorter than it, and the count is its length. -/
theorem Reaches.failedInARow_lt (h : Reaches settings world sink journal lookups state)
    (hlimit : 0 < settings.tracer.maxConsecutiveFailures) :
    failedInARow settings (world.sessions (Journal.started .tracer journal)) <
      settings.tracer.maxConsecutiveFailures.toNat := by
  rw [← Nat.not_le, ← inARow_iff_le]
  exact h.not_inARow_started hlimit

/-- **The count overflows with the rows whose length is a multiple of its range**, and with no
other. Under a limit there is no such row, so that a count is always the length of the row. -/
theorem failures_counted_modulo (h : Reaches settings world sink journal lookups state) :
    let row := failedInARow settings (world.sessions (Journal.started .tracer journal))
    state.failures.toNat = row % 2 ^ 32 ∧
    (state.failures.toNat = 2 ^ 32 - 1 ↔ 2 ^ 32 ∣ row + 1) ∧
    (2 ^ 32 ∣ row + 1 ↔ state.failures + 1 = 0) ∧
    (0 < settings.tracer.maxConsecutiveFailures ∨ row + 1 < 2 ^ 32 →
      state.failures.toNat < 2 ^ 32 - 1 ∧ (state.failures + 1).toNat = row + 1) := by
  have hcount := h.toNat_failures_mod
  have hsucc := toNat_succ_mod state.failures
  intro row
  refine ⟨hcount, by omega, ?_, ?_⟩
  · rw [← UInt32.toNat_inj, hsucc, UInt32.toNat_zero]
    omega
  · intro hsmall
    have hrow : row + 1 < 2 ^ 32 := by
      rcases hsmall with hlimit | hrow
      · have hlt := h.failedInARow_lt hlimit
        have := settings.tracer.maxConsecutiveFailures.toNat_lt
        omega
      · exact hrow
    omega

/-! ## Without a limit -/

/-- Settings under which the tracer is never given up. -/
def unlimited : Settings where
  tracer := { maxConsecutiveFailures := 0 }

/-- A tracer that says nothing and fails. -/
def muteTracer : Tracer.Outcome :=
  .ran [] (.closes (.exited 1))

/-- A world in which so many sessions fail, one after the other. -/
def relentless (count : Nat) : World where
  lookups := List.replicate count foundTarget
  tracers := List.replicate count muteTracer

/-- Without a limit the run goes on after a session that fails. -/
theorem turn_of_mute (h : state.nextTracer = muteTracer) :
    ∃ next actions, turn unlimited none foundTarget state = ⟨.again next, actions⟩ ∧
      next.failures = state.failures + 1 ∧ next.tracers = state.tracers.tail := by
  have hfails : state.nextTracer.fails unlimited = true := by
    rw [h]
    rfl
  have hfound : (Target.resolve unlimited.lookup targetName foundTarget).value = .ok 7 := by
    decide +kernel
  rcases hturn : turn unlimited none foundTarget state with ⟨next, actions⟩
  have hstep := step_of_turn_eq hturn
  cases hstep with
  | targetLost lost | retried lost | stoppedInRetry lost =>
    rw [hfound] at lost
    cases lost
  | tracerRefused found tracer =>
    rw [h] at tracer
    cases tracer
  | outputFailed session failure =>
    rw [session.not_fails_of_some failure] at hfails
    cases hfails
  | sessionStopped session =>
    have htracer := session.tracer
    rw [h] at htracer
    cases htracer
  | tracerGivenUp session done givesUp => exact absurd givesUp.2.1 (by decide)
  | paused session done goesOn =>
    refine ⟨_, _, rfl, ?_, rfl⟩
    show failuresAfter unlimited state.failures [state.nextTracer] = _
    rw [failuresAfter_singleton, if_pos hfails]
  | stoppedInPause session done goesOn stops => cases stops

/-- Any number of failed sessions can precede a lookup. By induction on the number. -/
theorem reaches_relentless (sink : Sink) {count failed : Nat} (hle : failed ≤ count) :
    ∃ journal state, Reaches unlimited (relentless count) sink journal
        (List.replicate (count - failed) foundTarget) state ∧
      state.failures = UInt32.ofNat failed ∧
      state.tracers = List.replicate (count - failed) muteTracer := by
  induction failed with
  | zero => exact ⟨[], _, .start (by simp [relentless]), rfl, rfl⟩
  | succ failed ih =>
    obtain ⟨journal, state, hreaches, hfailures, htracers⟩ := ih (by omega)
    obtain ⟨left, hleft⟩ : ∃ left, count - failed = left + 1 := ⟨count - failed - 1, by omega⟩
    rw [hleft, List.replicate_succ] at hreaches htracers
    have hmute : state.nextTracer = muteTracer := by
      rw [State.nextTracer, htracers]
      rfl
    obtain ⟨next, actions, hturn, hnext, hrest⟩ := turn_of_mute hmute
    have hcount : count - (failed + 1) = left := by omega
    refine ⟨journal ++ actions, next, ?_, ?_, ?_⟩
    · rw [hcount]
      exact hreaches.turn hturn
    · rw [hnext, hfailures, UInt32.ofNat_add]
      rfl
    · rw [hrest, htracers, hcount]
      rfl

/-- Before the last of so many sessions the row is one short of a multiple of the range. -/
theorem failures_counted_modulo_relentless :
    ∃ journal lookups state,
      Reaches unlimited (relentless (2 ^ 32)) bytewise journal lookups state ∧
      2 ^ 32 ∣ failedInARow unlimited
        ((relentless (2 ^ 32)).sessions (Journal.started .tracer journal)) + 1 ∧
      state.failures + 1 = 0 := by
  obtain ⟨journal, state, hreaches, hfailures, -⟩ :=
    @reaches_relentless bytewise (2 ^ 32) (2 ^ 32 - 1) (by omega)
  obtain ⟨-, hlast, hoverflow, -⟩ := failures_counted_modulo hreaches
  have hdvd := hlast.mp (by rw [hfailures]; decide)
  exact ⟨journal, _, state, hreaches, hdvd, hoverflow.mp hdvd⟩

/-- **Without a limit the count can overflow**: in a run of `2 ^ 32` failed sessions the last of
them is counted from the largest count to zero, and the pause falls from the longest to the
shortest. -/
theorem count_overflows_without_limit :
    ∃ journal lookups state next actions,
      Reaches unlimited (relentless (2 ^ 32)) bytewise journal (foundTarget :: lookups) state ∧
      state.failures.toNat = 2 ^ 32 - 1 ∧ state.nextTracer.fails unlimited = true ∧
      turn unlimited none foundTarget state = ⟨.again next, actions⟩ ∧ next.failures = 0 ∧
      pauseAfter unlimited.tracer state.failures = .ofMillis 30000 ∧
      pauseAfter unlimited.tracer next.failures = .ofMillis 500 := by
  obtain ⟨journal, state, hreaches, hfailures, htracers⟩ :=
    @reaches_relentless bytewise (2 ^ 32) (2 ^ 32 - 1) (by omega)
  have hone : 2 ^ 32 - (2 ^ 32 - 1) = 1 := by omega
  rw [hone] at hreaches htracers
  have hmute : state.nextTracer = muteTracer := by
    rw [State.nextTracer, htracers]
    rfl
  obtain ⟨next, actions, hturn, hnext, -⟩ := turn_of_mute hmute
  have hzero : next.failures = 0 := by
    rw [hnext, hfailures]
    decide
  refine ⟨journal, [], state, next, actions, hreaches, ?_, ?_, hturn, hzero, ?_, ?_⟩
  · rw [hfailures]
    decide
  · rw [hmute]
    rfl
  · rw [hfailures]
    decide +kernel
  · rw [hzero]
    decide +kernel

end TraceRelay.Run
