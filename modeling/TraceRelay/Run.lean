import TraceRelay.Session.Relay
import TraceRelay.Target.Attempts
import TraceRelay.Target.Resolve

/-!
# The run

A run looks the target up, follows it with a session of the tracer, pauses, and starts over, until a
shutdown or a failure that repetition does not mend. Every session is against a process id that has
just been looked up.

The world of a run is what its commands do and when a shutdown is asked for. A lookup beyond the
listed ones never ends, and a shutdown is asked for while it hangs; a tracer beyond the listed ones
says nothing and succeeds.
-/

namespace TraceRelay.Run

/-- When a shutdown is asked for, other than while a command hangs. -/
inductive Stop
  | atStart
  /-- During the delay after the nth failed lookup. -/
  | duringRetry (n : Nat)
  /-- During the pause after the nth session. -/
  | duringPause (n : Nat)
deriving DecidableEq, Repr

/-- What the commands of a run do, and when it is to stop. -/
structure World where
  lookups : List Target.Outcome
  tracers : List Tracer.Outcome
  stop : Option Stop := none
deriving DecidableEq, Repr

/-- A failure that ends a run. -/
inductive Error
  | tracer (error : Tracer.Error)
  | output (cause : OsError)
  | targetNotFound (attempts : UInt32) (last : Target.Error)
  | tracerFailing (failures : UInt32) (lastExit : Option Int)
deriving DecidableEq, Repr

/-- The text of a failure. -/
def Error.message : Error → String
  | .tracer error => error.message
  | .output cause => "failed to write output: " ++ cause.message
  | .targetNotFound attempts last =>
    "target not found after " ++ attempts.toNat.repr ++ " attempts: " ++ last.message
  | .tracerFailing failures (some code) =>
    "tracer failed " ++ failures.toNat.repr ++ " times in a row (last exit status " ++
      toString code ++ ")"
  | .tracerFailing failures none =>
    "tracer failed " ++ failures.toNat.repr ++ " times in a row (last killed by a signal)"

/-- The texts of what lies behind a failure, the nearest first. -/
def Error.sources : Error → List String
  | .tracer error => error.message :: error.sources
  | .output cause => [cause.message]
  | .targetNotFound _ last => last.message :: last.sources
  | .tracerFailing _ _ => []

/-- A session's failure as one of the run. -/
def Error.ofSession : Session.Error → Error
  | .tracer error => .tracer error
  | .output cause => .output cause

/-- The state of a run between two lookups. -/
structure State where
  attempts : Target.Attempts
  /-- Failed sessions in a row. -/
  failures : UInt32 := 0
  summary : Summary := {}
  sink : Sink
  /-- What the tracers still to come do. -/
  tracers : List Tracer.Outcome

/-- What follows a turn: another one, or the end of the run. -/
inductive Next
  | again (state : State)
  | finish (result : Except Error Summary)

/-- Ends a run that was asked to stop. -/
def conclude (summary : Summary) : Journaled (Except Error Summary) := do
  Journaled.log (.stopped summary)
  return .ok summary

/-- The longest sleep, which is thirty years of 365 days. -/
def longestSleep : Duration :=
  .ofParts (30 * 365 * 24 * 3600) 0

/-- Sleeps, and tells whether the sleep was completed; a shutdown cuts it short. A longer duration
is cut to the longest sleep. -/
def sleep (duration : Duration) (stops : Bool) : Journaled Bool := do
  if stops then
    Journaled.act .shutdown
    return false
  else
    Journaled.act (.slept (duration.shorter longestSleep))
    return true

/-- The pause before the target is looked up again: it grows with the failed sessions in a row. -/
def pauseAfter (settings : TracerSettings) (failures : UInt32) : Duration :=
  let repetitions := if failures = 0 then 0 else failures - 1
  (Duration.ofMillis settings.restartDelay).backoff repetitions (.ofMillis settings.maxRestartDelay)

/-- What follows a failed lookup. -/
def afterFailure (stop : Option Stop) (error : Target.Error) (state : State) : Journaled Next := do
  let summary := { state.summary with lookupFailures := state.summary.lookupFailures + 1 }
  Journaled.log (.lookupFailed error)
  let (verdict, attempts) ← state.attempts.countFailure
  match verdict with
  | .giveUp => return .finish (.error (.targetNotFound attempts.count error))
  | .wait attempt delay =>
    if attempt = 1 then Journaled.log .waitingForTarget
    if ← sleep delay (stop = some (.duringRetry summary.lookupFailures)) then
      return .again { state with attempts, summary }
    else
      return .finish (← conclude summary)

/-- What follows a session that ended by itself or by a shutdown. -/
def afterSession (settings : Settings) (stop : Option Stop) (report : Report) (state : State) :
    Journaled Next := do
  let summary := state.summary.add report
  if report.stopped then return .finish (← conclude summary)
  let failures := if report.isFailure then state.failures + 1 else 0
  if report.isFailure then Journaled.log (.sessionFailed report failures)
  let limit := settings.tracer.maxConsecutiveFailures
  if report.isFailure ∧ 0 < limit ∧ limit ≤ failures then
    return .finish (.error (.tracerFailing failures report.tracerExit))
  if ← sleep (pauseAfter settings.tracer failures)
      (stop = some (.duringPause summary.sessions)) then
    return .again { state with failures, summary }
  else
    return .finish (← conclude summary)

/-- What the next tracer does. -/
def State.nextTracer (state : State) : Tracer.Outcome :=
  state.tracers.head?.getD (.ran [] (.closes (.exited 0)))

/-- Follows the target that was found. -/
def afterFound (settings : Settings) (stop : Option Stop) (pid : UInt32) (state : State) :
    Journaled Next := do
  Journaled.log (.targetFound pid)
  match ← runSession settings pid state.nextTracer state.sink with
  | .error error => return .finish (.error (.ofSession error))
  | .ok (report, sink) =>
    afterSession settings stop report
      { state with attempts := state.attempts.clear, sink, tracers := state.tracers.tail }

/-- One turn: a lookup that ends, and what follows it. -/
def turn (settings : Settings) (stop : Option Stop) (outcome : Target.Outcome) (state : State) :
    Journaled Next := do
  match ← Target.resolve settings.lookup targetName outcome with
  | .error error => afterFailure stop error state
  | .ok pid => afterFound settings stop pid state

/-- Turns until one of them ends the run, or until a lookup hangs and a shutdown is asked for. -/
def turns (settings : Settings) (stop : Option Stop) :
    List Target.Outcome → State → Journaled (Except Error Summary)
  | [], state => do
    Journaled.act (.started ⟨.lookup, Target.arguments settings.lookup targetName⟩)
    Journaled.act .shutdown
    conclude state.summary
  | outcome :: rest, state => do
    match ← turn settings stop outcome state with
    | .again state => turns settings stop rest state
    | .finish result => return result

/-- The state at the start of a run. -/
def State.initial (settings : Settings) (world : World) (sink : Sink) : State where
  attempts := ⟨.ofMillis settings.lookup.retryInterval, settings.lookup.maxAttempts, 0⟩
  sink := sink
  tracers := world.tracers

/-- A whole run. -/
def run (settings : Settings) (world : World) (sink : Sink) :
    Journaled (Except Error Summary) := do
  if world.stop = some .atStart then
    Journaled.act .shutdown
    conclude {}
  else
    turns settings world.stop world.lookups (.initial settings world sink)

end TraceRelay.Run
