import Mathlib.Algebra.Order.Ring.Nat
import Mathlib.Data.List.DropRight
import TraceRelay.Proofs.Run.Commands

/-!
# When the search for the target is given up

The run counts the failed lookups since the target was last found, whatever sessions and pauses came
before. The count is a view of the lookups so far, exact until it stays at the largest number of 32
bits, which no limit exceeds; so the search is given up with the first row of failed lookups that
reaches the limit, and without a limit never.
-/

namespace TraceRelay.Run

/-- The number of lookups at the end of a list that failed one after the other. -/
def missedInARow (settings : Settings) (lookups : List Target.Outcome) : Nat :=
  (lookups.rtakeWhile (·.fails settings.lookup targetName)).length

/-- The number of failed lookups in a row with which the search is given up: the first one is always
looked at. -/
def allowedMisses (limit : UInt32) : Nat :=
  max limit.toNat 1

/-- One more element extends a row at the end of a list, or ends it. -/
theorem length_rtakeWhile_concat {α : Type} (p : α → Bool) (xs : List α) (x : α) :
    ((xs ++ [x]).rtakeWhile p).length = if p x then (xs.rtakeWhile p).length + 1 else 0 := by
  rw [List.rtakeWhile_concat]
  split <;> simp

/-- What the run knows of the lookups so far. -/
structure Counts (settings : Settings) (lookups : List Target.Outcome)
    (attempts : Target.Attempts) : Prop where
  interval : attempts.interval = .ofMillis settings.lookup.retryInterval
  limit : attempts.limit = settings.lookup.maxAttempts
  count : attempts.count.toNat = min (missedInARow settings lookups) (2 ^ 32 - 1)

section Counting

variable {settings : Settings} {lookups : List Target.Outcome} {outcome : Target.Outcome}
  {attempts counted : Target.Attempts} {verdict : Target.Verdict}

theorem missedInARow_of_fails (lookups : List Target.Outcome)
    (h : outcome.fails settings.lookup targetName = true) :
    missedInARow settings (lookups ++ [outcome]) = missedInARow settings lookups + 1 := by
  rw [missedInARow, length_rtakeWhile_concat, if_pos h, missedInARow]

theorem missedInARow_of_not_fails (lookups : List Target.Outcome)
    (h : outcome.fails settings.lookup targetName = false) :
    missedInARow settings (lookups ++ [outcome]) = 0 := by
  rw [missedInARow, length_rtakeWhile_concat, if_neg (by simp [h])]

theorem Counts.initial (settings : Settings) (world : World) (sink : Sink) :
    Counts settings [] (State.initial settings world sink).attempts :=
  ⟨rfl, rfl, rfl⟩

/-- A lookup that finds its target starts the count anew. -/
theorem Counts.clear (h : Counts settings lookups attempts)
    (hfound : outcome.fails settings.lookup targetName = false) :
    Counts settings (lookups ++ [outcome]) attempts.clear := by
  refine ⟨h.interval, h.limit, ?_⟩
  rw [missedInARow_of_not_fails lookups hfound]
  rfl

/-- A lookup that fails is counted. -/
theorem Counts.countFailure (h : Counts settings lookups attempts)
    (hfails : outcome.fails settings.lookup targetName = true)
    (hcount : attempts.countFailure.value = (verdict, counted)) :
    Counts settings (lookups ++ [outcome]) counted := by
  have hvalue := Target.countFailure_value attempts
  rw [hcount] at hvalue
  obtain ⟨-, rfl⟩ := Prod.mk.inj hvalue
  refine ⟨h.interval, h.limit, ?_⟩
  dsimp only
  rw [Target.toNat_saturatingSucc, h.count, missedInARow_of_fails lookups hfails]
  unfold UInt32.size
  omega

/-- The verdict on a failed lookup is to give up when its row reaches the limit. -/
theorem Counts.giveUp_iff (h : Counts settings lookups attempts)
    (hfails : outcome.fails settings.lookup targetName = true)
    (hcount : attempts.countFailure.value = (verdict, counted)) :
    verdict = .giveUp ↔ ∃ limit, settings.lookup.maxAttempts = some limit ∧
      allowedMisses limit ≤ missedInARow settings (lookups ++ [outcome]) := by
  have hnext := h.countFailure hfails hcount
  have hvalue := Target.countFailure_value attempts
  rw [hcount] at hvalue
  obtain ⟨hverdict, hcounted⟩ := Prod.mk.inj hvalue
  rw [← hcounted, h.limit] at hverdict
  -- The count falls short of the row only beyond every limit.
  have hreaches : ∀ limit : UInt32, limit ≤ counted.count ↔
      allowedMisses limit ≤ missedInARow settings (lookups ++ [outcome]) := by
    intro limit
    have hlimit := limit.toNat_lt
    have hrow := missedInARow_of_fails lookups hfails
    rw [UInt32.le_iff_toNat_le, hnext.count, allowedMisses]
    omega
  simp only [← hreaches]
  rw [hverdict]
  split
  · next hgiveUp => simpa using hgiveUp
  · next hwait => simpa using hwait

/-- The count with which the search is given up. -/
theorem Counts.count_eq (h : Counts settings (lookups ++ [outcome]) attempts)
    (hfails : outcome.fails settings.lookup targetName = true) {limit : UInt32}
    (hbefore : missedInARow settings lookups < allowedMisses limit)
    (hreached : allowedMisses limit ≤ missedInARow settings (lookups ++ [outcome])) :
    attempts.count.toNat = allowedMisses limit := by
  have hlimit := limit.toNat_lt
  rw [missedInARow_of_fails lookups hfails] at hreached
  rw [h.count, missedInARow_of_fails lookups hfails]
  unfold allowedMisses at *
  omega

end Counting

section History

variable {settings : Settings} {world : World} {sink : Sink} {journal : List Action}
  {lookups : List Target.Outcome} {state : State} {outcome : Target.Outcome}

/-- The lookups of a run, those of a turn included. -/
theorem Reaches.take_append (h : Reaches settings world sink journal (outcome :: lookups) state)
    {actions : List Action} {next : Next}
    (hstep : Step settings world.stop outcome state actions next) :
    world.lookups.take (Journal.attempted .lookup (journal ++ actions)) =
      world.lookups.take (Journal.attempted .lookup journal) ++ [outcome] := by
  rw [Journal.attempted_append, hstep.attempted_lookup, h.books.take_succ]

/-- **The count is the length of the last row of failed lookups.** -/
theorem Reaches.counts (h : Reaches settings world sink journal lookups state) :
    Counts settings (world.lookups.take (Journal.attempted .lookup journal)) state.attempts := by
  induction h with
  | start => exact .initial settings world sink
  | turn before again ih =>
    have hstep := step_of_turn_eq again
    rw [before.take_append hstep]
    cases hstep with
    | retried lost verdict => exact ih.countFailure (fails_of_error lost) verdict
    | paused session => exact ih.clear (not_fails_of_ok session.found)

/-- A turn after which the run goes on has not reached the limit. -/
theorem Reaches.missed_lt (h : Reaches settings world sink journal lookups state) {limit : UInt32}
    (hlimit : settings.lookup.maxAttempts = some limit) :
    missedInARow settings (world.lookups.take (Journal.attempted .lookup journal)) <
      allowedMisses limit := by
  cases h with
  | start => exact Nat.lt_of_lt_of_le Nat.zero_lt_one (Nat.le_max_right ..)
  | turn before again =>
    have hstep := step_of_turn_eq again
    rw [before.take_append hstep]
    cases hstep with
    | retried lost verdict =>
      have hgiveUp := before.counts.giveUp_iff (fails_of_error lost) verdict
      rw [← Nat.not_le]
      intro hreached
      cases hgiveUp.mpr ⟨limit, hlimit, hreached⟩
    | paused session =>
      rw [missedInARow_of_not_fails _ (not_fails_of_ok session.found)]
      exact Nat.lt_of_lt_of_le Nat.zero_lt_one (Nat.le_max_right ..)

/-- Before a state is reached no row of failed lookups has reached the limit. -/
theorem Reaches.missed_take_lt (h : Reaches settings world sink journal lookups state)
    {limit : UInt32} (hlimit : settings.lookup.maxAttempts = some limit) {count : Nat}
    (hcount : count ≤ Journal.attempted .lookup journal) :
    missedInARow settings (world.lookups.take count) < allowedMisses limit := by
  induction h with
  | start h =>
    have hstart : Reaches settings world sink [] world.lookups _ := .start h
    rw [Nat.le_zero.mp hcount]
    exact hstart.missed_lt hlimit
  | turn before again ih =>
    rcases Nat.lt_or_ge (Journal.attempted .lookup _) count with hlt | hle
    · have hall := (step_of_turn_eq again).attempted_lookup
      rw [Journal.attempted_append, hall] at hcount
      have heq : count = Journal.attempted .lookup _ + 1 := Nat.le_antisymm hcount hlt
      rw [heq, ← hall, ← Journal.attempted_append]
      exact (before.turn again).missed_lt hlimit
    · exact ih hle

/-- The last turn loses the target, and then gives up or is stopped; or it has found the target, and
does not end the run by giving up the search. -/
theorem Step.lost_or_found {stop : Option Stop} {actions : List Action}
    {result : Except Error Summary}
    (h : Step settings stop outcome state actions (.finish result)) :
    (∃ error verdict counted,
      (Target.resolve settings.lookup targetName outcome).value = .error error ∧
      state.attempts.countFailure.value = (verdict, counted) ∧
      (verdict = .giveUp ∧ result = .error (.targetNotFound counted.count error) ∧
          (∃ notes, actions = outcome.attempt settings.lookup targetName :: notes ∧
            ∀ a ∈ notes, a.isLog = true) ∨
        verdict ≠ .giveUp ∧ ∃ summary, result = .ok summary)) ∨
    outcome.fails settings.lookup targetName = false ∧
      ∀ attempts last, result ≠ .error (.targetNotFound attempts last) := by
  cases h with
  | targetLost lost verdict logs =>
    exact .inl ⟨_, _, _, lost, verdict, .inl ⟨rfl, rfl, _, rfl, logs⟩⟩
  | stoppedInRetry lost verdict => exact .inl ⟨_, _, _, lost, verdict, .inr ⟨by simp, _, rfl⟩⟩
  | tracerRefused found => exact .inr ⟨not_fails_of_ok found, by simp⟩
  | outputFailed session => exact .inr ⟨not_fails_of_ok session.found, by simp⟩
  | sessionStopped session => exact .inr ⟨not_fails_of_ok session.found, by simp⟩
  | tracerGivenUp session => exact .inr ⟨not_fails_of_ok session.found, by simp⟩
  | stoppedInPause session => exact .inr ⟨not_fails_of_ok session.found, by simp⟩

/-- The last turn gives up the search just when its lookup fails and completes a row of the number
allowed. -/
theorem Reaches.finish_targetNotFound_iff
    (h : Reaches settings world sink journal (outcome :: lookups) state) {actions : List Action}
    {result : Except Error Summary}
    (hstep : Step settings world.stop outcome state actions (.finish result))
    (attempts : UInt32) (last : Target.Error) :
    result = .error (.targetNotFound attempts last) ↔
      (∃ limit, settings.lookup.maxAttempts = some limit ∧
        allowedMisses limit ≤ missedInARow settings
          (world.lookups.take (Journal.attempted .lookup journal) ++ [outcome]) ∧
        attempts.toNat = allowedMisses limit) ∧
      (Target.resolve settings.lookup targetName outcome).value = .error last := by
  rcases hstep.lost_or_found with ⟨error, verdict, counted, lost, hcount, hverdict⟩ |
    ⟨hfound, hresult⟩
  · have hfails := fails_of_error lost
    have hgiveUp := h.counts.giveUp_iff hfails hcount
    rcases hverdict with ⟨hup, rfl, -⟩ | ⟨hwait, summary, rfl⟩
    · -- The limit is reached, and the count is the limit.
      have hexact : ∀ limit, settings.lookup.maxAttempts = some limit →
          allowedMisses limit ≤ missedInARow settings
            (world.lookups.take (Journal.attempted .lookup journal) ++ [outcome]) →
          counted.count.toNat = allowedMisses limit := fun limit hlimit hreached =>
        (h.counts.countFailure hfails hcount).count_eq hfails (h.missed_lt hlimit) hreached
      constructor
      · intro heq
        cases heq
        obtain ⟨limit, hlimit, hreached⟩ := hgiveUp.mp hup
        exact ⟨⟨limit, hlimit, hreached, hexact limit hlimit hreached⟩, lost⟩
      · rintro ⟨⟨limit, hlimit, hreached, hattempts⟩, hlast⟩
        rw [lost] at hlast
        cases hlast
        rw [← hexact limit hlimit hreached] at hattempts
        rw [UInt32.toNat_inj.mp hattempts]
    · constructor
      · intro heq
        cases heq
      · rintro ⟨⟨limit, hlimit, hreached, -⟩, -⟩
        exact absurd (hgiveUp.mpr ⟨limit, hlimit, hreached⟩) hwait
  · constructor
    · intro heq
      exact absurd heq (hresult attempts last)
    · rintro ⟨-, hlast⟩
      rw [fails_of_error hlast] at hfound
      cases hfound

theorem run_targetNotFound_iff (settings : Settings) (world : World) (sink : Sink)
    (attempts : UInt32) (last : Target.Error) :
    let ran := run settings world sink
    let looked := world.lookups.take (Journal.attempted .lookup ran.journal)
    ran.value = .error (.targetNotFound attempts last) ↔
      (∃ limit, settings.lookup.maxAttempts = some limit ∧
        allowedMisses limit ≤ missedInARow settings looked ∧
        attempts.toNat = allowedMisses limit) ∧
      ∃ outcome, looked.getLast? = some outcome ∧
        (Target.resolve settings.lookup targetName outcome).value = .error last := by
  have hends := run_ends settings world sink
  generalize run settings world sink = ran at hends
  dsimp only
  cases hends with
  | atStart =>
    constructor
    · intro heq
      cases heq
    · rintro ⟨-, outcome, houtcome, -⟩
      cases houtcome
  | @hanging journal state before =>
    constructor
    · intro heq
      cases heq
    · rintro ⟨⟨limit, hlimit, hreached, -⟩, -⟩
      -- All lookups of the world lie behind the run, and their last row is too short.
      have hall := List.drop_eq_nil_iff.mp before.books.lookups
      have hlt := before.missed_lt hlimit
      rw [List.take_of_length_le hall] at hlt
      rw [Journal.attempted_append, List.take_of_length_le (by omega)] at hreached
      omega
  | finished before last' =>
    have hstep := step_of_turn_eq last'
    rw [before.take_append hstep, List.getLast?_concat,
      before.finish_targetNotFound_iff hstep attempts last]
    simp

/-- No row of failed lookups reaches the limit before the last lookup of a run. -/
theorem run_missed_lt (settings : Settings) (world : World) (sink : Sink) {limit : UInt32}
    (hlimit : settings.lookup.maxAttempts = some limit) (count : Nat)
    (hcount : count < Journal.attempted .lookup (run settings world sink).journal) :
    missedInARow settings (world.lookups.take count) < allowedMisses limit := by
  have hends := run_ends settings world sink
  generalize run settings world sink = ran at hends hcount
  cases hends with
  | atStart => cases hcount
  | hanging before =>
    rw [Journal.attempted_append] at hcount
    exact before.missed_take_lt hlimit (Nat.le_of_lt_succ hcount)
  | finished before last =>
    rw [Journal.attempted_append, (step_of_turn_eq last).attempted_lookup] at hcount
    exact before.missed_take_lt hlimit (Nat.le_of_lt_succ hcount)

/-- The lookup with which the search is given up is the last step of the run but for log entries. -/
theorem run_journal_of_targetNotFound {attempts : UInt32} {last : Target.Error}
    (h : (run settings world sink).value = .error (.targetNotFound attempts last)) :
    ∃ (before : List Action) (outcome : Target.Outcome) (notes : List Action),
      (run settings world sink).journal =
        before ++ outcome.attempt settings.lookup targetName :: notes ∧
      ∀ a ∈ notes, a.isLog = true := by
  have hends := run_ends settings world sink
  generalize run settings world sink = ran at hends h
  cases hends with
  | atStart => cases h
  | hanging => cases h
  | finished before last =>
    cases h
    rcases (step_of_turn_eq last).lost_or_found with
      ⟨_, _, _, -, -, ⟨-, -, notes, rfl, hlogs⟩ | ⟨-, _, hresult⟩⟩ | ⟨-, hresult⟩
    · exact ⟨_, _, notes, rfl, hlogs⟩
    · cases hresult
    · exact absurd rfl (hresult _ _)

/-- Without a limit an error ends a run only after a lookup that found the target. -/
theorem run_found_of_unlimited (hlimit : settings.lookup.maxAttempts = none) {error : Error}
    (h : (run settings world sink).value = .error error) :
    ∃ outcome, (world.lookups.take (Journal.attempted .lookup
        (run settings world sink).journal)).getLast? = some outcome ∧
      outcome.fails settings.lookup targetName = false := by
  have hends := run_ends settings world sink
  generalize run settings world sink = ran at hends h
  cases hends with
  | atStart => cases h
  | hanging => cases h
  | @finished _ outcome _ _ _ _ before last =>
    cases h
    have hstep := step_of_turn_eq last
    refine ⟨outcome, by rw [before.take_append hstep, List.getLast?_concat], ?_⟩
    rcases hstep.lost_or_found with ⟨_, _, _, lost, hcount, ⟨hup, -, -⟩ | ⟨-, _, hresult⟩⟩ |
      ⟨hfound, -⟩
    · obtain ⟨limit, hsome, -⟩ := (before.counts.giveUp_iff (fails_of_error lost) hcount).mp hup
      rw [hlimit] at hsome
      cases hsome
    · cases hresult
    · exact hfound

/-- **The run gives the search up with the first row of failed lookups of the number allowed**, and
with no other. Nothing but log entries follows the last lookup. Without a limit no lookup that fails
ends a run with an error. -/
theorem search_given_up_exactly (settings : Settings) (world : World) (sink : Sink) :
    let ran := run settings world sink
    let attempted := Journal.attempted .lookup ran.journal
    let looked := world.lookups.take attempted
    (∀ attempts last, ran.value = .error (.targetNotFound attempts last) ↔
      (∃ limit, settings.lookup.maxAttempts = some limit ∧
        allowedMisses limit ≤ missedInARow settings looked ∧
        attempts.toNat = allowedMisses limit) ∧
      ∃ outcome, looked.getLast? = some outcome ∧
        (Target.resolve settings.lookup targetName outcome).value = .error last) ∧
    (∀ limit, settings.lookup.maxAttempts = some limit → ∀ count < attempted,
      missedInARow settings (world.lookups.take count) < allowedMisses limit) ∧
    (∀ attempts last, ran.value = .error (.targetNotFound attempts last) →
      ∃ (before : List Action) (outcome : Target.Outcome) (notes : List Action),
        ran.journal = before ++ outcome.attempt settings.lookup targetName :: notes ∧
        ∀ a ∈ notes, a.isLog = true) ∧
    (settings.lookup.maxAttempts = none → ∀ error, ran.value = .error error →
      ∃ outcome, looked.getLast? = some outcome ∧
        outcome.fails settings.lookup targetName = false) :=
  ⟨run_targetNotFound_iff settings world sink, fun _ => run_missed_lt settings world sink,
    fun _ _ => run_journal_of_targetNotFound, fun hlimit _ => run_found_of_unlimited hlimit⟩

/-- Settings under which one lookup in a row may fail. -/
def oneMissAllowed : Settings where
  lookup := { maxAttempts := some 2 }

/-- A lookup finds nothing and the next one finds its target; then one cannot be started, and one
lists what is no process id. -/
def mixedMisses : World where
  lookups := [lostTarget, foundTarget, .refused .permissionDenied,
    .ended (.exited 0) "p4\n".toUTF8.toList, foundTarget]
  tracers := []

theorem search_given_up_exactly_mixed :
    let ran := run oneMissAllowed mixedMisses bytewise
    ran.value = .error (.targetNotFound 2 (.parse "p4")) ∧
    Journal.attempted .lookup ran.journal = 4 ∧
    allowedMisses 2 ≤ missedInARow oneMissAllowed (mixedMisses.lookups.take 4) ∧
    missedInARow oneMissAllowed (mixedMisses.lookups.take 3) < allowedMisses 2 ∧
    ∃ (before : List Action) (outcome : Target.Outcome) (notes : List Action),
      ran.journal = before ++ outcome.attempt oneMissAllowed.lookup targetName :: notes ∧
        ∀ a ∈ notes, a.isLog = true := by
  have hvalue : (run oneMissAllowed mixedMisses bytewise).value =
      .error (.targetNotFound 2 (.parse "p4")) := by decide +kernel
  have hattempted :
      Journal.attempted .lookup (run oneMissAllowed mixedMisses bytewise).journal = 4 := by
    decide +kernel
  obtain ⟨hiff, hfirst, hlast, -⟩ := search_given_up_exactly oneMissAllowed mixedMisses bytewise
  obtain ⟨⟨limit, hlimit, hrow, -⟩, -⟩ := (hiff 2 (.parse "p4")).mp hvalue
  cases hlimit
  rw [hattempted] at hrow hfirst
  exact ⟨hvalue, hattempted, hrow, hfirst 2 rfl 3 (by decide), hlast 2 _ hvalue⟩

end History

end TraceRelay.Run
