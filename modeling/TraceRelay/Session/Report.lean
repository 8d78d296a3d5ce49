/-!
# What a session and a run amount to

A session is one life of the tracer. Its report counts what was relayed; the summary of a run adds
up the reports. Counts are exact.
-/

namespace TraceRelay

/-- What one session did. Its counts are natural numbers; they stand for counts of 64 bits, as long
as these stay below `2 ^ 64`. -/
structure Report where
  targetPid : UInt32 := 0
  /-- The tracer's exit code; none if a signal killed it. -/
  tracerExit : Option Int := none
  payloads : Nat := 0
  bytes : Nat := 0
  skippedLines : Nat := 0
  /-- Payloads of which the tracer showed only the first part. -/
  truncatedPayloads : Nat := 0
  /-- The session was ended by a shutdown and not by the tracer. -/
  stopped : Bool := false
deriving DecidableEq, Repr

/-- Whether the session ended by itself, relayed nothing, and its tracer did not report success. -/
def Report.isFailure (r : Report) : Bool :=
  !r.stopped && r.payloads == 0 && r.tracerExit != some 0

/-- Totals of a run. As in a `Report` they stand for counts below `2 ^ 64`. -/
structure Summary where
  sessions : Nat := 0
  payloads : Nat := 0
  bytes : Nat := 0
  skippedLines : Nat := 0
  lookupFailures : Nat := 0
deriving DecidableEq, Repr

/-- The totals with one more session. -/
def Summary.add (s : Summary) (r : Report) : Summary where
  sessions := s.sessions + 1
  payloads := s.payloads + r.payloads
  bytes := s.bytes + r.bytes
  skippedLines := s.skippedLines + r.skippedLines
  lookupFailures := s.lookupFailures

end TraceRelay
