/-!
# Settings

How the target process is looked up, how the tracer is run, and which descriptors are relayed.
Times are in milliseconds.
-/

namespace TraceRelay

/-- How the target's process id is found. -/
structure LookupSettings where
  command : String := "pgrep"
  /-- The command's arguments; the target's name takes the place of `{name}`. -/
  args : List String := ["\x7bname\x7d"]
  retryInterval : UInt64 := 500
  /-- Failed lookups in a row after which the target is given up; `none` is never. -/
  maxAttempts : Option UInt32 := none
deriving DecidableEq, Repr

/-- How the tracer is run and restarted. -/
structure TracerSettings where
  command : String := "strace"
  /-- The command's arguments; the target's process id and the string limit take the place of
  `{pid}` and `{string_limit}`. -/
  args : List String :=
    ["-p", "\x7bpid\x7d", "-s", "\x7bstring_limit\x7d", "-e", "trace=write"]
  stringLimit : UInt32 := 9999
  restartDelay : UInt64 := 500
  maxRestartDelay : UInt64 := 30000
  /-- Failed sessions in a row after which the tracer is given up; zero is never. -/
  maxConsecutiveFailures : UInt32 := 5
  /-- How long a tracer may take to end once it has been asked to. -/
  stopGrace : UInt64 := 2000
deriving DecidableEq, Repr

/-- Which writes are relayed. -/
structure FilterSettings where
  /-- The descriptors whose writes are relayed; with none given every descriptor is. -/
  fds : List UInt32 := []
deriving DecidableEq, Repr

/-- All settings of a run. -/
structure Settings where
  lookup : LookupSettings := {}
  tracer : TracerSettings := {}
  filter : FilterSettings := {}
deriving DecidableEq, Repr

/-- The name of the process that is followed. -/
def targetName : String := "p4"

end TraceRelay
