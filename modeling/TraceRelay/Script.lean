import TraceRelay.Run
import TraceRelay.Script.Installed
import TraceRelay.Script.Performance

/-!
# Scripted worlds

A script tells what the lookup and the tracer do each time they are started, and which commands can
be started at all. It stands for the outside world, so that a run depends on nothing else.

Each program works off a list of performances, one whenever it is started. Beyond its list the
lookup never ends, and the tracer says nothing and succeeds.
-/

namespace TraceRelay

/-- What the outside world does. -/
structure Script where
  installed : Installed := {}
  lookups : List Performance := []
  tracers : List Performance := []
  stop : Option Run.Stop := none
deriving DecidableEq, Repr

namespace Script

/-- The command of the settings for a role. -/
def command (settings : Settings) : Role → String
  | .lookup => settings.lookup.command
  | .tracer => settings.tracer.command

/-- The program that the lookup command starts. -/
def startLookup (script : Script) (settings : Settings) (name : String) : Except OsError Role :=
  script.installed.start settings.lookup.command (Target.arguments settings.lookup name)

/-- The program that the tracer command starts. That does not depend on the process id. -/
def startTracer (script : Script) (settings : Settings) : Except OsError Role :=
  script.installed.start settings.tracer.command (Tracer.arguments settings.tracer 0)

/-- Commands with the programs that they start in place of the roles that these have in the run. -/
def started (script : Script) (settings : Settings) (commands : List Command) : List Command :=
  commands.map fun c =>
    { c with role := (script.installed.program? (command settings c.role)).getD c.role }

/-- The number of lookups after which a run in which all of them fail is over: as many as the
settings allow, or as it takes until the shutdown. Where nothing ends such a run there is no script.
-/
def failedLookups (settings : Settings) (stop : Option Run.Stop) : Nat :=
  let attempts := settings.lookup.maxAttempts.map fun n => max n.toNat 1
  match attempts, stop with
  | some n, some (.duringRetry m) => min n m
  | some n, _ => n
  | none, some (.duringRetry m) => m
  | none, _ => 0

/-- The performances listed for a program. -/
def listed (script : Script) : Role → List Performance
  | .lookup => script.lookups
  | .tracer => script.tracers

/-- The performances of a program that stands in for the other one, with as many beyond its list as
a run can watch: one that never ends is the last of a run, and of those that find nothing a run sees
no more in a row than it takes to end it, apart from one that is a tracer. -/
def standIn (script : Script) (settings : Settings) : Role → List Performance
  | .lookup => script.lookups ++ [.idle]
  | .tracer => script.tracers ++ List.replicate (failedLookups settings script.stop + 1) {}

/-- The lookups that performances come to, up to the first that never ends. -/
def lookupsOf : List Performance → List Target.Outcome
  | [] => []
  | performance :: rest =>
    match performance.asLookup? with
    | some outcome => outcome :: lookupsOf rest
    | none => []

/-- The lookups and tracers that the performances of one program come to which is both: after a
lookup that finds something the tracer is next, after any other another lookup. -/
def deal (finds : Target.Outcome → Bool) :
    List Performance → List Target.Outcome × List Tracer.Outcome
  | [] => ([], [])
  | performance :: rest =>
    match performance.asLookup? with
    | none => ([], [])
    | some outcome =>
      if finds outcome then
        match rest with
        | [] => ([outcome], [])
        | next :: rest =>
          let dealt := deal finds rest
          (outcome :: dealt.1, next.asTracer :: dealt.2)
      else
        let dealt := deal finds rest
        (outcome :: dealt.1, dealt.2)

/-- What the tracers come to that are performances of a program. -/
def tracersOf (script : Script) (settings : Settings) (program : Role) : List Tracer.Outcome :=
  let performances := match program with
    | .tracer => script.tracers
    | .lookup => script.standIn settings .lookup
  performances.map (·.asTracer)

/-- What the lookups and the tracers of a run come to. -/
def outcomes (script : Script) (settings : Settings) (name : String) :
    List Target.Outcome × List Tracer.Outcome :=
  match script.startLookup settings name, script.startTracer settings with
  | .error cause, _ =>
    (List.replicate (failedLookups settings script.stop) (.refused cause), [])
  | .ok program, .error cause => (lookupsOf (script.standIn settings program), [.refused cause])
  | .ok program, .ok other =>
    if program = other then
      let finds outcome := (Target.resolve settings.lookup name outcome).value.isOk
      deal finds (script.standIn settings program)
    else (lookupsOf (script.standIn settings program), script.tracersOf settings other)

/-- What a single lookup comes to; one that never ends has found nothing. -/
def lookupOutcome (script : Script) (settings : Settings) (name : String) : Target.Outcome :=
  match script.startLookup settings name with
  | .error cause => .refused cause
  | .ok program =>
    let performance := (script.listed program).head?.getD {}
    performance.asLookup?.getD (.ended (.exited 1) [])

/-- What a single tracer comes to; beyond the script it says nothing and succeeds. -/
def tracerOutcome (script : Script) (settings : Settings) : Tracer.Outcome :=
  match script.startTracer settings with
  | .error cause => .refused cause
  | .ok program => (script.tracersOf settings program).head?.getD (.ran [] (.closes (.exited 0)))

/-- The script of one recorded session: the listing of a lookup up to an empty line, and after it
the output of a tracer. -/
def ofRecording (bytes : List UInt8) : Script :=
  let lines := Text.segments (· == 0x0A) bytes
  { lookups := [{ output := (lines.takeWhile (· ≠ [0x0A])).flatten }]
    tracers := [{ output := ((lines.dropWhile (· ≠ [0x0A])).drop 1).flatten }] }

/-- The world of a run. -/
def world (script : Script) (settings : Settings) : Run.World :=
  let (lookups, tracers) := script.outcomes settings targetName
  { lookups, tracers, stop := script.stop }

end Script

end TraceRelay
