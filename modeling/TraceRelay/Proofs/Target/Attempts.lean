import Mathlib.Data.List.DropRight
import TraceRelay.Proofs.Target.Lookup

/-!
# Attempts by their history

Attempts are counted from the last time that counting started anew. What is answered to a failure is
decided by the number of failures since then and nothing else: neither what was answered before nor
how often counting has started anew. The count stays at the largest number of 32 bits, which no
limit exceeds, so that a limit is never missed and its absence never noticed.
-/

namespace TraceRelay.Target

/-- Something done to attempts. -/
inductive AttemptCall
  /-- Counts a failed lookup. -/
  | count
  /-- Starts counting anew. -/
  | clear
deriving DecidableEq

/-- The failures counted since counting last started anew. -/
def countedFailures (calls : List AttemptCall) : Nat :=
  (calls.rtakeWhile (· = .count)).length

/-- A number of failures as far as 32 bits hold it. -/
def heldCount (failures : Nat) : Nat :=
  min failures (UInt32.size - 1)

/-- Whether a number of failures, as far as it is held, reaches the limit, if there is one. -/
def Exhausted (limit : Option UInt32) (failures : Nat) : Prop :=
  ∃ most, limit = some most ∧ most.toNat ≤ heldCount failures

namespace Attempts

/-- Attempts of which none is made yet. -/
def fresh (interval : Duration) (limit : Option UInt32) : Attempts :=
  ⟨interval, limit, 0⟩

/-- The answer to a call, if it asks for one, and the attempts after it. -/
def answer (attempts : Attempts) : AttemptCall → Option Verdict × Attempts
  | .count => (some attempts.countFailure.value.1, attempts.countFailure.value.2)
  | .clear => (none, attempts.clear)

/-- The attempts after calls in order. -/
def after (attempts : Attempts) (calls : List AttemptCall) : Attempts :=
  calls.foldl (fun attempts call => (attempts.answer call).2) attempts

/-- What the history of calls says of attempts that were fresh before them. -/
structure Remembers (interval : Duration) (limit : Option UInt32) (calls : List AttemptCall)
    (attempts : Attempts) : Prop where
  interval_eq : attempts.interval = interval
  limit_eq : attempts.limit = limit
  count_eq : attempts.count.toNat = heldCount (countedFailures calls)

end Attempts

section History

variable {interval : Duration} {limit : Option UInt32} {calls : List AttemptCall}
  {attempts : Attempts}

theorem countedFailures_count (calls : List AttemptCall) :
    countedFailures (calls ++ [.count]) = countedFailures calls + 1 := by
  rw [countedFailures, List.rtakeWhile_concat_pos _ _ _ (by simp), List.length_append]
  rfl

theorem countedFailures_clear (calls : List AttemptCall) :
    countedFailures (calls ++ [.clear]) = 0 := by
  rw [countedFailures, List.rtakeWhile_concat_neg _ _ _ (by simp)]
  rfl

theorem countedFailures_replicate (calls : List AttemptCall) (more : Nat) :
    countedFailures (calls ++ List.replicate more .count) = countedFailures calls + more := by
  induction more with
  | zero => simp
  | succ more ih =>
    rw [List.replicate_succ', ← List.append_assoc, countedFailures_count, ih]
    rfl

/-- Counting one more failure holds one more. -/
theorem toNat_saturatingSucc_of_held {count : UInt32} {failures : Nat}
    (h : count.toNat = heldCount failures) :
    (saturatingSucc count).toNat = heldCount (failures + 1) := by
  rw [toNat_saturatingSucc, h]
  unfold heldCount UInt32.size
  omega

theorem Attempts.after_concat (attempts : Attempts) (calls : List AttemptCall)
    (call : AttemptCall) :
    attempts.after (calls ++ [call]) = ((attempts.after calls).answer call).2 := by
  simp [Attempts.after]

theorem Attempts.Remembers.count (h : Remembers interval limit calls attempts) :
    Remembers interval limit (calls ++ [.count]) (attempts.answer .count).2 := by
  rw [Attempts.answer, countFailure_value]
  refine ⟨h.interval_eq, h.limit_eq, ?_⟩
  rw [countedFailures_count]
  exact toNat_saturatingSucc_of_held h.count_eq

theorem Attempts.Remembers.clear (h : Remembers interval limit calls attempts) :
    Remembers interval limit (calls ++ [.clear]) (attempts.answer .clear).2 := by
  refine ⟨h.interval_eq, h.limit_eq, ?_⟩
  rw [countedFailures_clear]
  rfl

/-- Every call is remembered. -/
theorem Attempts.remembers_after (interval : Duration) (limit : Option UInt32)
    (calls : List AttemptCall) :
    Remembers interval limit calls ((fresh interval limit).after calls) := by
  induction calls using List.reverseRecOn with
  | nil => exact ⟨rfl, rfl, rfl⟩
  | append_singleton calls call ih =>
    rw [Attempts.after_concat]
    cases call with
    | count => exact ih.count
    | clear => exact ih.clear

theorem Exhausted.add {failures : Nat} (h : Exhausted limit failures) (more : Nat) :
    Exhausted limit (failures + more) := by
  obtain ⟨most, hlimit, hle⟩ := h
  refine ⟨most, hlimit, ?_⟩
  unfold heldCount at *
  omega

theorem Attempts.Remembers.giveUp_iff (h : Remembers interval limit calls attempts) :
    (attempts.answer .count).1 = some .giveUp ↔
      Exhausted limit (countedFailures (calls ++ [.count])) := by
  have hcount := toNat_saturatingSucc_of_held h.count_eq
  rw [Attempts.answer, countFailure_value, h.limit_eq, countedFailures_count, Exhausted, ← hcount]
  simp only [UInt32.le_iff_toNat_le, Option.some.injEq]
  split
  · next hreached => simpa using hreached
  · next hreached => simpa using hreached

/-- A failure that exhausts no limit is answered by a wait, which tells its number. -/
theorem Attempts.Remembers.wait_of_not_exhausted (h : Remembers interval limit calls attempts)
    (hlimit : ¬ Exhausted limit (countedFailures (calls ++ [.count]))) :
    (attempts.answer .count).1 =
      some (.wait (UInt32.ofNat (heldCount (countedFailures (calls ++ [.count])))) interval) := by
  rw [← h.giveUp_iff] at hlimit
  rw [← h.count.count_eq, UInt32.ofNat_toNat, ← h.interval_eq]
  rw [Attempts.answer, countFailure_value] at hlimit ⊢
  dsimp only at hlimit ⊢
  split
  · next hreached => exact absurd (by rw [if_pos hreached]) hlimit
  · rfl

end History

/-- **Attempts are judged by their history.** Whatever was counted or cleared before on attempts
that were fresh, the answer to one more failure follows from the number of failures since counting
last started anew, this one included: it is to give up just if that number, held at the largest one
of 32 bits, reaches the limit, and to wait for the fixed interval otherwise. That number is also
what the count is afterwards, and clearing makes it zero. So attempts that are given up stay so
until they are cleared, and without a limit they never are. -/
theorem answers_by_history (interval : Duration) (limit : Option UInt32)
    (calls : List AttemptCall) :
    let attempts := (Attempts.fresh interval limit).after calls
    let failures := countedFailures (calls ++ [.count])
    attempts.count.toNat = heldCount (countedFailures calls) ∧
    ((attempts.answer .count).1 = some .giveUp ↔ Exhausted limit failures) ∧
    (¬ Exhausted limit failures →
      (attempts.answer .count).1 = some (.wait (UInt32.ofNat (heldCount failures)) interval)) ∧
    (attempts.answer .count).2.count.toNat = heldCount failures ∧
    (attempts.answer .clear).1 = none ∧ (attempts.answer .clear).2.count = 0 ∧
    ((attempts.answer .count).1 = some .giveUp → ∀ more,
      ((attempts.after (List.replicate more .count)).answer .count).1 = some .giveUp) ∧
    (limit = none → (attempts.answer .count).1 ≠ some .giveUp) := by
  intro attempts failures
  have h : attempts.Remembers interval limit calls := Attempts.remembers_after interval limit calls
  refine ⟨h.count_eq, h.giveUp_iff, h.wait_of_not_exhausted, h.count.count_eq, rfl, rfl, ?_, ?_⟩
  · intro hgiveUp more
    have hmore := Attempts.remembers_after interval limit (calls ++ List.replicate more .count)
    rw [Attempts.after, List.foldl_append] at hmore
    refine hmore.giveUp_iff.mpr ?_
    rw [countedFailures_count, countedFailures_replicate, Nat.add_right_comm,
      ← countedFailures_count]
    exact (h.giveUp_iff.mp hgiveUp).add more
  · intro hnone hgiveUp
    obtain ⟨most, hlimit, -⟩ := h.giveUp_iff.mp hgiveUp
    cases hnone.symm.trans hlimit

/-- A limit of zero is that of one failure, and clearing makes room for one more below a limit of
two.
-/
example (interval : Duration) :
    ((Attempts.fresh interval (some 0)).answer .count).1 = some .giveUp ∧
    (((Attempts.fresh interval (some 2)).after [.count, .clear]).answer .count).1 =
      some (.wait 1 interval) := by
  exact ⟨rfl, rfl⟩

end TraceRelay.Target
