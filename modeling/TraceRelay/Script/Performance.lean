import TraceRelay.Session.Tracer
import TraceRelay.Target.Resolve

/-!
# Performances

What a program does in one go, whoever started it: the same performance can be watched as a lookup,
which is over when the program closes its output, or as a tracer, whose lines count one by one.
-/

namespace TraceRelay

/-- The stream that a program writes to. -/
inductive Stream
  | stdout
  | stderr
deriving DecidableEq, Repr

/-- What a program does when it is started: what it writes, to which stream, and how it ends. -/
structure Performance where
  output : List UInt8 := []
  stream : Stream := .stdout
  ending : Tracer.Ending := .closes (.exited 0)
deriving DecidableEq, Repr

namespace Performance

/-- A performance that writes nothing and never ends by itself. -/
def idle : Performance where
  ending := .hangs (.ends .killed)

/-- The bytes written: a program that then hangs ends its last line first. -/
def written (performance : Performance) : List UInt8 :=
  match performance.ending with
  | .closes _ => performance.output
  | .hangs _ =>
    match performance.output.getLast? with
    | none => []
    | some last =>
      if last = 0x0A then performance.output else performance.output ++ [0x0A]

/-- The performance as a lookup, of which only the standard output counts, if it comes to an end. -/
def asLookup? (performance : Performance) : Option Target.Outcome :=
  match performance.ending with
  | .closes status =>
    some (.ended status (if performance.stream = .stdout then performance.written else []))
  | .hangs _ => none

/-- The performance as a tracer, of which both streams count. -/
def asTracer (performance : Performance) : Tracer.Outcome :=
  .ran performance.written performance.ending

end Performance

end TraceRelay
