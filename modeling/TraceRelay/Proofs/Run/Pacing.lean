import TraceRelay.Proofs.Duration
import TraceRelay.Proofs.Run.GivingUp
import TraceRelay.Proofs.Run.Search

/-!
# How a run is paced

A run takes time only by sleeping: once after each lookup that fails, and once after each session.
So the time from the start of a lookup to the start of the next is the pause between them, which
depends on nothing but whether the first of the two failed and, if it did not, on the number of
failed sessions in a row. No sleep is longer than the longest one.
-/

namespace TraceRelay

namespace Journal

/-- The times at which lookups are started, or fail to, counted in nanoseconds from `clock`. -/
def lookupTimes (clock : Nat) (journal : List Action) : List Nat :=
  ((timed clock journal).filter (·.2.role? = some .lookup)).map (·.1)

@[simp] theorem lookupTimes_append (clock : Nat) (before later : List Action) :
    lookupTimes clock (before ++ later) =
      lookupTimes clock before ++ lookupTimes (clock + elapsed before) later := by
  simp [lookupTimes, timed_append]

theorem length_lookupTimes (clock : Nat) (journal : List Action) :
    (lookupTimes clock journal).length = attempted .lookup journal := by
  induction journal generalizing clock with
  | nil => rfl
  | cons a journal ih =>
    rw [attempted_cons, ← List.singleton_append, lookupTimes_append, List.length_append, ih,
      Nat.add_comm]
    cases a <;> simp [lookupTimes, timed, Action.role?] <;> split <;> simp_all

/-- All that a run does in between takes no time. -/
theorem elapsed_of_isRelay {actions : List Action} (h : ∀ a ∈ actions, a.isRelay = true) :
    elapsed actions = 0 := by
  induction actions with
  | nil => rfl
  | cons a actions ih =>
    rw [← List.singleton_append, elapsed_append, ih fun b hb => h b (by simp [hb])]
    have ha := h a (by simp)
    cases a <;> simp_all [Action.isRelay, elapsed]

theorem elapsed_of_isLog {actions : List Action} (h : ∀ a ∈ actions, a.isLog = true) :
    elapsed actions = 0 :=
  elapsed_of_isRelay fun a ha => Action.isRelay_of_isLog (h a ha)

@[simp] theorem elapsed_slept (duration : Duration) :
    elapsed [.slept duration] = duration.nanos := by
  simp [elapsed]

end Journal

namespace Run

/-- The number of sessions at the end of a list that failed one after the other. -/
def failedInARow (settings : Settings) (sessions : List Tracer.Outcome) : Nat :=
  (sessions.rtakeWhile (·.fails settings)).length

/-- The nanoseconds that a sleep of so many milliseconds takes. -/
def asleep (ms : Nat) : Nat :=
  min (ms * nanosPerMilli) longestSleep.nanos

/-- The milliseconds between a session and the next lookup, the session being the last of so many
failed ones in a row. -/
def restartPause (settings : Settings) (failures : Nat) : Nat :=
  min (settings.tracer.restartDelay.toNat * min (2 ^ (failures - 1)) (2 ^ 32 - 1))
    settings.tracer.maxRestartDelay.toNat

/-- The nanoseconds between the start of the nth lookup of a world, counted from zero, and the start
of the next one. -/
def World.pause (settings : Settings) (world : World) (n : Nat) : Nat :=
  if world.lookups[n]?.any (·.fails settings.lookup targetName) then
    asleep settings.lookup.retryInterval.toNat
  else asleep (restartPause settings
    (failedInARow settings (world.sessions (world.found settings (n + 1)))))

/-- When the nth lookup of a world is started. -/
def World.clock (settings : Settings) (world : World) (n : Nat) : Nat :=
  ((List.range n).map (world.pause settings)).sum

section Pauses

variable {settings : Settings}

theorem failedInARow_append (settings : Settings) (sessions : List Tracer.Outcome)
    (tracer : Tracer.Outcome) : failedInARow settings (sessions ++ [tracer]) =
      if tracer.fails settings then failedInARow settings sessions + 1 else 0 :=
  length_rtakeWhile_concat ..

theorem inARow_iff_le (settings : Settings) (sessions : List Tracer.Outcome) (count : Nat) :
    InARow settings count sessions ↔ count ≤ failedInARow settings sessions := by
  induction sessions using List.reverseRecOn generalizing count with
  | nil =>
    constructor
    · intro hrow
      exact hrow.le_length
    · intro hle
      rw [Nat.le_zero.mp hle]
      exact inARow_zero settings []
  | append_singleton sessions tracer ih =>
    cases count with
    | zero => simp [inARow_zero]
    | succ count =>
      rw [inARow_succ_append, ih, failedInARow_append]
      by_cases hfails : tracer.fails settings = true <;> simp [hfails]

theorem restartPause_zero (settings : Settings) : restartPause settings 0 =
    min settings.tracer.restartDelay.toNat settings.tracer.maxRestartDelay.toNat := by
  simp [restartPause]

theorem restartPause_mono {failures later : Nat} (h : failures ≤ later) :
    restartPause settings failures ≤ restartPause settings later := by
  have hpow : 2 ^ (failures - 1) ≤ 2 ^ (later - 1) :=
    Nat.pow_le_pow_right Nat.zero_lt_two (by omega)
  have hgrowth : min (2 ^ (failures - 1)) (2 ^ 32 - 1) ≤ min (2 ^ (later - 1)) (2 ^ 32 - 1) := by
    omega
  have := Nat.mul_le_mul_left settings.tracer.restartDelay.toNat hgrowth
  unfold restartPause
  omega

theorem asleep_mono {ms longer : Nat} (h : ms ≤ longer) : asleep ms ≤ asleep longer := by
  have := Nat.mul_le_mul_right nanosPerMilli h
  unfold asleep
  omega

theorem nanos_pauseAfter (settings : Settings) (failures : UInt32) :
    (pauseAfter settings.tracer failures).nanos =
      restartPause settings failures.toNat * nanosPerMilli := by
  have hrepetitions : (if failures = 0 then 0 else failures - 1).toNat = failures.toNat - 1 := by
    split
    · next hzero =>
      rw [hzero]
      rfl
    · next hpos =>
      rw [UInt32.toNat_sub_of_le]
      · rfl
      · rw [UInt32.le_iff_toNat_le]
        have : failures.toNat ≠ 0 := fun h => hpos (UInt32.toNat_inj.mp h)
        show 1 ≤ failures.toNat
        omega
  rw [pauseAfter, Duration.nanos_backoff, Duration.nanos_ofMillis, Duration.nanos_ofMillis,
    hrepetitions, Nat.mul_right_comm, Nat.mul_min_mul_right]
  rfl

end Pauses

section Turn

variable {settings : Settings} {stop : Option Stop} {outcome : Target.Outcome} {state : State}

/-- A turn begins with its lookup. -/
theorem Step.exists_cons {actions : List Action} {next : Next}
    (h : Step settings stop outcome state actions next) :
    ∃ rest, actions = outcome.attempt settings.lookup targetName :: rest := by
  cases h with
  | targetLost | retried | stoppedInRetry | tracerRefused => exact ⟨_, rfl⟩
  | @outputFailed pid | @sessionStopped pid | @tracerGivenUp pid | @paused pid
  | @stoppedInPause pid =>
    obtain ⟨notes, -, hopening⟩ := opening_eq_cons settings outcome pid
    rw [hopening]
    exact ⟨_, rfl⟩

/-- The lookup of a turn is started at once. -/
theorem Step.lookupTimes_eq {actions : List Action} {next : Next}
    (h : Step settings stop outcome state actions next) (clock : Nat) :
    Journal.lookupTimes clock actions = [clock] := by
  obtain ⟨rest, rfl⟩ := h.exists_cons
  have hone := h.attempted_lookup
  rw [Journal.attempted_cons, Target.role?_attempt, if_pos rfl] at hone
  have hfirst :
      Journal.lookupTimes clock [outcome.attempt settings.lookup targetName] = [clock] := by
    cases outcome <;> rfl
  rw [← List.singleton_append, Journal.lookupTimes_append, hfirst]
  -- No other lookup is attempted in the turn.
  have hrest := Journal.length_lookupTimes
    (clock + Journal.elapsed [outcome.attempt settings.lookup targetName]) rest
  rw [Nat.succ.inj hone] at hrest
  rw [List.eq_nil_of_length_eq_zero hrest, List.append_nil]

theorem elapsed_attempt (settings : LookupSettings) (name : String) (outcome : Target.Outcome) :
    Journal.elapsed [outcome.attempt settings name] = 0 := by
  cases outcome <;> rfl

theorem elapsed_opening (settings : Settings) (outcome : Target.Outcome) (pid : UInt32) :
    Journal.elapsed (opening settings outcome pid) = 0 := by
  obtain ⟨notes, hlogs, hopening⟩ := opening_eq_cons settings outcome pid
  rw [hopening, ← List.singleton_append, Journal.elapsed_append, Journal.elapsed_append,
    elapsed_attempt, Journal.elapsed_of_isLog hlogs]
  rfl

/-- A turn that is not the last takes the time of its pause. -/
theorem Step.elapsed_eq {actions : List Action} {next : State} {lookups : List Target.Outcome}
    (h : Step settings stop outcome state actions (.again next))
    (hcounts : Counts settings lookups state.attempts) :
    Journal.elapsed actions =
      if outcome.fails settings.lookup targetName then asleep settings.lookup.retryInterval.toNat
      else asleep (restartPause settings next.failures.toNat) := by
  cases h with
  | retried lost verdict goesOn logs =>
    rw [if_pos (fails_of_error lost), ← List.singleton_append, Journal.elapsed_append,
      Journal.elapsed_append, elapsed_attempt, Journal.elapsed_of_isLog logs, Journal.elapsed_slept,
      Duration.nanos_shorter, Target.delay_of_wait verdict, hcounts.interval,
      Duration.nanos_ofMillis]
    simp [asleep]
  | paused session done goesOn awake logs =>
    rw [not_fails_of_ok session.found, Journal.elapsed_append, Journal.elapsed_append,
      Journal.elapsed_append, elapsed_opening, Journal.elapsed_of_isRelay session.isRelay,
      Journal.elapsed_of_isLog logs, Journal.elapsed_slept, Duration.nanos_shorter,
      nanos_pauseAfter]
    simp [asleep, State.followed]

end Turn

section History

variable {settings : Settings} {world : World} {sink : Sink} {journal : List Action}
  {lookups : List Target.Outcome} {state : State}

theorem World.clock_succ (settings : Settings) (world : World) (n : Nat) :
    world.clock settings (n + 1) = world.clock settings n + world.pause settings n := by
  simp [World.clock, List.range_succ]

/-- The count of failed sessions is that of the last row, as long as it cannot overflow. -/
theorem Reaches.toNat_failures (h : Reaches settings world sink journal lookups state)
    (hsmall : Journal.started .tracer journal < 2 ^ 32) :
    state.failures.toNat =
      failedInARow settings (world.sessions (Journal.started .tracer journal)) := by
  have hiff : ∀ count, count ≤ failedInARow settings
      (world.sessions (Journal.started .tracer journal)) ↔ count ≤ state.failures.toNat := by
    intro count
    rw [← inARow_iff_le, h.inARow_iff (.inr hsmall)]
  exact Nat.le_antisymm ((hiff _).mpr (Nat.le_refl _)) ((hiff _).mp (Nat.le_refl _))

/-- **Each lookup is started when the pauses before it are over.** -/
theorem Reaches.paced (h : Reaches settings world sink journal lookups state)
    (hsmall : Journal.started .tracer journal < 2 ^ 32) :
    Journal.elapsed journal = world.clock settings (Journal.attempted .lookup journal) ∧
      Journal.lookupTimes 0 journal =
        (List.range (Journal.attempted .lookup journal)).map (world.clock settings) := by
  induction h with
  | start => exact ⟨rfl, rfl⟩
  | @turn journal outcome lookups state actions next before again ih =>
    have hstep := step_of_turn_eq again
    have hreached := (before.turn again).started_eq_found
    have hfailures := (before.turn again).toNat_failures hsmall
    rw [Journal.started_append] at hsmall
    obtain ⟨helapsed, htimes⟩ := ih (by omega)
    rw [hreached] at hfailures
    rw [Journal.attempted_append, hstep.attempted_lookup] at hfailures ⊢
    refine ⟨?_, ?_⟩
    · rw [Journal.elapsed_append, helapsed, hstep.elapsed_eq before.counts, World.clock_succ,
        World.pause, before.lookup_eq, hfailures]
      rfl
    · rw [Journal.lookupTimes_append, htimes, hstep.lookupTimes_eq, Nat.zero_add, helapsed,
        List.range_succ, List.map_append]
      rfl

theorem run_lookupTimes (settings : Settings) (world : World) (sink : Sink)
    (hsmall : Journal.started .tracer (run settings world sink).journal < 2 ^ 32) :
    Journal.lookupTimes 0 (run settings world sink).journal =
      (List.range (Journal.attempted .lookup (run settings world sink).journal)).map
        (world.clock settings) := by
  have hends := run_ends settings world sink
  generalize run settings world sink = ran at hends hsmall
  cases hends with
  | atStart => rfl
  | hanging before =>
    rw [Journal.started_append] at hsmall
    obtain ⟨helapsed, htimes⟩ := before.paced (by omega)
    rw [Journal.lookupTimes_append, htimes, helapsed, Journal.attempted_append]
    show _ = (List.range (_ + 1)).map _
    rw [List.range_succ, List.map_append, Nat.zero_add]
    rfl
  | finished before last =>
    rw [Journal.started_append] at hsmall
    obtain ⟨helapsed, htimes⟩ := before.paced (by omega)
    have hstep := step_of_turn_eq last
    rw [Journal.lookupTimes_append, htimes, hstep.lookupTimes_eq, helapsed,
      Journal.attempted_append, hstep.attempted_lookup, List.range_succ, List.map_append,
      Nat.zero_add]
    rfl

theorem clock_eq_of_lookupTimes
    (hsmall : Journal.started .tracer (run settings world sink).journal < 2 ^ 32) {n time : Nat}
    (h : (Journal.lookupTimes 0 (run settings world sink).journal)[n]? = some time) :
    time = world.clock settings n := by
  rw [run_lookupTimes settings world sink hsmall, List.getElem?_map] at h
  obtain ⟨i, hi, rfl⟩ := Option.map_eq_some_iff.mp h
  obtain ⟨_, hget⟩ := List.getElem?_eq_some_iff.mp hi
  rw [List.getElem_range] at hget
  rw [hget]

/-- **Lookups are paced.** From the start of a lookup to that of the next it takes the retry
interval if the first of them failed. Otherwise it takes the pause after the session in between,
which is the shortest one if the session did not fail, and grows with each failed session in a row
up to the longest restart delay, whatever lookups failed in the meantime. Every sleep is cut to the
longest one. -/
theorem lookups_are_paced (settings : Settings) (world : World) (sink : Sink)
    (hsmall : Journal.started .tracer (run settings world sink).journal < 2 ^ 32) :
    let ran := run settings world sink
    let times := Journal.lookupTimes 0 ran.journal
    let tracer := settings.tracer
    times.length = Journal.attempted .lookup ran.journal ∧
    (∀ n outcome start next, world.lookups[n]? = some outcome → times[n]? = some start →
      times[n + 1]? = some next →
      let failures := failedInARow settings (world.sessions (world.found settings (n + 1)))
      next = start + asleep (
        if outcome.fails settings.lookup targetName then settings.lookup.retryInterval.toNat
        else if failures = 0 then min tracer.restartDelay.toNat tracer.maxRestartDelay.toNat
        else restartPause settings failures)) ∧
    ∀ failures later, failures ≤ later →
      asleep (restartPause settings failures) ≤ asleep (restartPause settings later) ∧
      asleep (restartPause settings later) ≤ tracer.maxRestartDelay.toNat * nanosPerMilli := by
  refine ⟨Journal.length_lookupTimes 0 _, ?_, ?_⟩
  · intro n outcome start next houtcome hstart hnext
    rw [clock_eq_of_lookupTimes hsmall hstart, clock_eq_of_lookupTimes hsmall hnext,
      World.clock_succ, World.pause, houtcome, Option.any_some]
    dsimp only
    split
    · rfl
    · split
      · next hzero => rw [hzero, restartPause_zero]
      · rfl
  · intro failures later hle
    refine ⟨asleep_mono (restartPause_mono hle), ?_⟩
    calc asleep (restartPause settings later)
      _ ≤ restartPause settings later * nanosPerMilli := Nat.min_le_left ..
      _ ≤ settings.tracer.maxRestartDelay.toNat * nanosPerMilli :=
        Nat.mul_le_mul_right _ (Nat.min_le_right ..)

/-- Two sessions that fail with a failed lookup between them. -/
def twoFailures : World where
  lookups := [.ended (.exited 1) [], .ended (.exited 0) [0x37, 0x0A], .ended .killed [],
    .ended (.exited 0) [0x38, 0x0A], .ended (.exited 1) []]
  tracers := [.ran [] (.closes (.exited 1)), .ran [] (.closes .killed)]

theorem lookups_are_paced_over_two_failures :
    let ran := run {} twoFailures bytewise
    let times := Journal.lookupTimes 0 ran.journal
    Journal.started .tracer ran.journal < 2 ^ 32 ∧ twoFailures.lookups.length = 5 ∧
      times[3]? = some 1500000000 ∧ times[4]? = some 2500000000 ∧
      2500000000 = 1500000000 + asleep 1000 := by
  have hsmall : Journal.started .tracer (run {} twoFailures bytewise).journal < 2 ^ 32 := by
    decide +kernel
  have hstart : (Journal.lookupTimes 0 (run {} twoFailures bytewise).journal)[3]? =
      some 1500000000 := by decide +kernel
  have hnext : (Journal.lookupTimes 0 (run {} twoFailures bytewise).journal)[4]? =
      some 2500000000 := by decide +kernel
  obtain ⟨-, hpaced, -⟩ := lookups_are_paced {} twoFailures bytewise hsmall
  refine ⟨hsmall, rfl, hstart, hnext, ?_⟩
  exact (hpaced 3 _ _ _ rfl hstart hnext).trans (by decide +kernel)

/-- **No sleep is longer than the longest one**: after a failed lookup the next one is started
thirty years later, although the retry interval is longer. -/
theorem lookup_before_long_interval_is_over :
    let settings : Settings := { lookup := { retryInterval := 9007199254740992 } }
    let world : World := { lookups := [.ended (.exited 1) []], tracers := [] }
    let times := Journal.lookupTimes 0 (run settings world bytewise).journal
    times[0]? = some 0 ∧ times[1]? = some (946080000000 * nanosPerMilli) ∧
      946080000000 * nanosPerMilli ≠ 0 + settings.lookup.retryInterval.toNat * nanosPerMilli := by
  decide +kernel

end History

end Run

end TraceRelay
