import TraceRelay.Journal
import TraceRelay.Text.Segments
import TraceRelay.Text.Template

/-!
# The tracer

The tracer is started against a process id and reports line by line until it closes its output. A
tracer that is still running at a shutdown is asked to end, and killed if it does not.
-/

namespace TraceRelay.Tracer

open Text

/-- Why there is no session with a tracer. -/
inductive Error
  /-- The command could not be started. -/
  | spawn (command : String) (cause : OsError)
deriving DecidableEq, Repr

/-- The text of a failure. -/
def Error.message : Error → String
  | .spawn command cause => "failed to spawn tracer " ++ command ++ ": " ++ cause.message

/-- The texts of what lies behind a failure, the nearest first. -/
def Error.sources : Error → List String
  | .spawn _ cause => [cause.message]

/-- What a running tracer does when it is asked to end. -/
inductive Response
  | ends (status : ExitStatus)
  | ignores
  /-- It had ended before, its streams being held open by another process. -/
  | gone (status : ExitStatus)
deriving DecidableEq, Repr

/-- How the output of a tracer ends: with the tracer, or only at a shutdown. -/
inductive Ending
  | closes (status : ExitStatus)
  | hangs (response : Response)
deriving DecidableEq, Repr

/-- What comes of starting a tracer. -/
inductive Outcome
  | refused (cause : OsError)
  | ran (output : List UInt8) (ending : Ending)
deriving DecidableEq, Repr

/-- The command's arguments for a process id: the id is filled in first, then the string limit. -/
def arguments (settings : TracerSettings) (pid : UInt32) : List String :=
  settings.args.map fun arg =>
    fill "\x7bstring_limit\x7d" settings.stringLimit.toNat.repr
      (fill "\x7bpid\x7d" pid.toNat.repr arg)

/-- The text of one line's bytes. -/
def lineText (bytes : List UInt8) : String :=
  String.ofList (decodeLossy bytes)

/-- The lines of bytes that end with the stream: a last line need not end in a line break. -/
def lines (output : List UInt8) : List String :=
  (segments (· == 0x0A) output).map lineText

/-- The lines of bytes whose stream stays open: a line that is not finished is not handed on. -/
def finishedLines (output : List UInt8) : List String :=
  ((segments (· == 0x0A) output).filter (·.getLast? == some 0x0A)).map lineText

/-- The lines that a session gets to see. -/
def Ending.lines (output : List UInt8) : Ending → List String
  | .closes _ => Tracer.lines output
  | .hangs _ => finishedLines output

/-- Starts the tracer: its output and ending, or why there is none. -/
def start (settings : TracerSettings) (pid : UInt32) (outcome : Outcome) :
    Journaled (Except Error (List UInt8 × Ending)) := do
  let args := arguments settings pid
  Journaled.log (.spawningTracer settings.command args pid)
  match outcome with
  | .refused cause =>
    Journaled.act (.refused ⟨.tracer, args⟩ cause)
    return .error (.spawn settings.command cause)
  | .ran output ending =>
    Journaled.act (.started ⟨.tracer, args⟩)
    return .ok (output, ending)

/-- Asks a tracer to end and kills it if it does not; its exit code, if it has one. -/
def stop : Response → Journaled (Option Int)
  | .ends status => return status.code?
  | .gone status => return status.code?
  | .ignores => do
    Journaled.log .tracerKilled
    return none

end TraceRelay.Tracer
