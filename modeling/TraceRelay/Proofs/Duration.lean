import Mathlib.Algebra.Order.Ring.Nat
import TraceRelay.Duration

/-!
# How long a delay is

The delays of the settings in nanoseconds. A delay that grows is cut to the longest duration before
it is capped; the cap is itself a duration, so nothing of this shows. What shows is that the factor
stops growing at the largest number of 32 bits: a delay that doubles without end would go on, and
reach a cap that this one falls short of.
-/

namespace TraceRelay.Duration

theorem nanos_shorter (a b : Duration) : (a.shorter b).nanos = min a.nanos b.nanos := by
  unfold shorter
  split <;> omega

/-- Every number of milliseconds of 64 bits is a duration. -/
theorem nanos_ofMillis (ms : UInt64) : (ofMillis ms).nanos = ms.toNat * nanosPerMilli := by
  have := ms.toNat_lt
  show min (ms.toNat * nanosPerMilli) maxNanos = _
  unfold maxNanos nanosPerSecond nanosPerMilli UInt64.size
  omega

theorem growth_eq (count : UInt32) : growth count = min (2 ^ count.toNat) (2 ^ 32 - 1) := by
  unfold growth UInt32.size
  rw [Nat.one_shiftLeft]
  split
  · next hlt =>
    have hlt : count.toNat ≤ 31 := Nat.le_of_lt_succ (UInt32.lt_iff_toNat_lt.mp hlt)
    have := Nat.pow_le_pow_right Nat.zero_lt_two hlt
    omega
  · next hge =>
    have hge : 32 ≤ count.toNat := UInt32.le_iff_toNat_le.mp (UInt32.not_lt.mp hge)
    have := Nat.pow_le_pow_right Nat.zero_lt_two hge
    omega

theorem nanos_backoff (initial longest : Duration) (count : UInt32) :
    (initial.backoff count longest).nanos =
      min (initial.nanos * min (2 ^ count.toNat) (2 ^ 32 - 1)) longest.nanos := by
  have hlongest := longest.nanos_le
  rw [backoff, nanos_shorter, ← growth_eq]
  show min (min (initial.nanos * growth count) maxNanos) longest.nanos = _
  rw [Nat.min_assoc, Nat.min_eq_right hlongest]

/-- The delay after `count` repetitions of one that doubles without end, up to the cap. -/
def doubled (initial : Duration) (count : Nat) (longest : Duration) : Nat :=
  min (initial.nanos * 2 ^ count) longest.nanos

theorem growth_of_ge {count : UInt32} (h : 32 ≤ count.toNat) : growth count = 2 ^ 32 - 1 := by
  have := Nat.pow_le_pow_right Nat.zero_lt_two h
  rw [growth_eq]
  omega

theorem growth_of_lt {count : UInt32} (h : count.toNat < 32) : growth count = 2 ^ count.toNat := by
  have := Nat.pow_le_pow_right Nat.zero_lt_two (Nat.le_of_lt_succ h)
  rw [growth_eq]
  omega

/-- A factor that stops growing loses nothing just when it comes to nothing or to the cap. -/
theorem min_mul_eq_min_mul_iff {n factor more cap : Nat} (h : factor < more) :
    min (n * factor) cap = min (n * more) cap ↔ n = 0 ∨ cap ≤ n * factor := by
  rcases Nat.eq_zero_or_pos n with rfl | hpos
  · simp
  · have hlt : n * factor < n * more := Nat.mul_lt_mul_of_pos_left h hpos
    omega

/-- **A delay doubles as long as its factor fits 32 bits**, and is then the exact product up to the
cap. After that the factor stays what it is, so that the delay is never longer than one that goes on
doubling, and as long as it only if there is nothing to double or the cap is reached already. -/
theorem backoff_doubles_within_32_bits (initial : Duration) (count : UInt32) (longest : Duration) :
    let delay := (initial.backoff count longest).nanos
    delay = min (initial.nanos * min (2 ^ count.toNat) (2 ^ 32 - 1)) longest.nanos ∧
    delay ≤ initial.doubled count.toNat longest ∧
    (delay = initial.doubled count.toNat longest ↔
      count.toNat < 32 ∨ initial.nanos = 0 ∨ longest.nanos ≤ initial.nanos * (2 ^ 32 - 1)) := by
  have hdelay := nanos_backoff initial longest count
  refine ⟨hdelay, ?_, ?_⟩
  · rw [hdelay, doubled]
    have := Nat.mul_le_mul_left initial.nanos
      (Nat.min_le_left (2 ^ count.toNat) (2 ^ 32 - 1))
    omega
  · rw [hdelay, doubled, ← growth_eq]
    by_cases hcount : count.toNat < 32
    · simp [growth_of_lt hcount, hcount]
    · have hge : 32 ≤ count.toNat := Nat.le_of_not_lt hcount
      have hpow := Nat.pow_le_pow_right Nat.zero_lt_two hge
      rw [growth_of_ge hge, min_mul_eq_min_mul_iff (by omega)]
      simp [hcount]

/-- **Saturation falls short of the cap**: after 32 repetitions a second has grown to one second
less than the 2 ^ 32 that it would double to, although the cap is far off. -/
theorem backoff_falls_short_of_doubled :
    let second := ofParts 1 0
    let longest := ofParts 18446744073709551615 999999999
    (second.backoff 32 longest).nanos = 4294967295 * nanosPerSecond ∧
      second.doubled 32 longest = 4294967296 * nanosPerSecond ∧
      (second.backoff 32 longest).nanos ≠ second.doubled 32 longest := by
  decide +kernel

end TraceRelay.Duration
