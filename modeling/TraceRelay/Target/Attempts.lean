import TraceRelay.Journal

/-!
# When to stop looking

The failed lookups since the target was last found are counted. After each there is a wait of fixed
length, and the search is given up once the allowed number is reached; without a number it never is.
The count stays at the largest number of 32 bits when it gets there.
-/

namespace TraceRelay.Target

/-- The failed lookups since the target was last found, and how many are allowed. -/
structure Attempts where
  interval : Duration
  limit : Option UInt32
  count : UInt32 := 0
deriving DecidableEq

/-- What to do after a failed lookup. -/
inductive Verdict
  /-- Look again after the delay; `attempt` counts from one. -/
  | wait (attempt : UInt32) (delay : Duration)
  | giveUp
deriving DecidableEq

/-- The next number, or the same one if it is the largest. -/
def saturatingSucc (n : UInt32) : UInt32 :=
  if n.toNat + 1 < UInt32.size then n + 1 else n

namespace Attempts

/-- Counts one failed lookup and decides what to do next. -/
def countFailure (attempts : Attempts) : Journaled (Verdict × Attempts) :=
  let count := saturatingSucc attempts.count
  let attempts := { attempts with count }
  match attempts.limit with
  | some limit =>
    if limit ≤ count then do
      Journaled.log (.attemptsExhausted count limit)
      return (.giveUp, attempts)
    else return (.wait count attempts.interval, attempts)
  | none => return (.wait count attempts.interval, attempts)

/-- Starts counting anew, the target having been found. -/
def clear (attempts : Attempts) : Attempts :=
  { attempts with count := 0 }

end Attempts

end TraceRelay.Target
