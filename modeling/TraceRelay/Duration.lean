/-!
# Durations

A span of time in whole nanoseconds. The longest one has the largest number of seconds that 64 bits
hold and just falls short of one more; what would be longer is cut to it.
-/

namespace TraceRelay

/-- The nanoseconds of a second. -/
def nanosPerSecond : Nat := 1000000000

/-- The nanoseconds of a millisecond. -/
def nanosPerMilli : Nat := 1000000

/-- The length of the longest duration in nanoseconds. -/
def maxNanos : Nat := UInt64.size * nanosPerSecond - 1

/-- A span of time. -/
structure Duration where
  nanos : Nat
  nanos_le : nanos ≤ maxNanos
deriving DecidableEq

namespace Duration

/-- The duration of that many nanoseconds, cut to the longest one. -/
def saturating (nanos : Nat) : Duration :=
  ⟨min nanos maxNanos, Nat.min_le_right _ _⟩

/-- A duration given in milliseconds. -/
def ofMillis (ms : UInt64) : Duration :=
  saturating (ms.toNat * nanosPerMilli)

/-- A duration given in seconds and nanoseconds. -/
def ofParts (secs : UInt64) (nanos : UInt32) : Duration :=
  saturating (secs.toNat * nanosPerSecond + nanos.toNat)

/-- The whole seconds of a duration. -/
def seconds (d : Duration) : Nat :=
  d.nanos / nanosPerSecond

/-- The nanoseconds beyond the whole seconds. -/
def subsecondNanos (d : Duration) : Nat :=
  d.nanos % nanosPerSecond

/-- The duration repeated, cut to the longest one. -/
def scale (d : Duration) (factor : Nat) : Duration :=
  saturating (d.nanos * factor)

/-- The shorter of two durations. -/
def shorter (a b : Duration) : Duration :=
  if a.nanos ≤ b.nanos then a else b

/-- The factor by which a delay has grown after `count` repetitions: a power of two while it fits
32 bits, and from then on the largest number of 32 bits. -/
def growth (count : UInt32) : Nat :=
  if count < 32 then 1 <<< count.toNat else UInt32.size - 1

/-- The delay after `count` repetitions: `initial` grown by the factor, but at most `longest`. -/
def backoff (initial : Duration) (count : UInt32) (longest : Duration) : Duration :=
  (initial.scale (growth count)).shorter longest

end Duration

end TraceRelay
