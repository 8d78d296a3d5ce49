import TraceRelay.Program

/-!
# The command

Commands are not started from here: standard input holds what they print. The process ids that the
lookup lists come first, up to an empty line, and the rest is the output of one tracer; the next
lookup then hangs and the run is stopped. So a recorded session can be relayed again.
-/

namespace TraceRelay.Command

/-- Everything that a stream still holds. -/
partial def readAll (stream : IO.FS.Stream) (soFar : ByteArray) : IO ByteArray := do
  let chunk ← stream.read 65536
  if chunk.isEmpty then return soFar else readAll stream (soFar ++ chunk)

/-- What stands at the path of the settings. -/
def findSettings (path : String) : IO Settings.WorkingDirectory := do
  try
    let bytes ← IO.FS.readBinFile path
    return { path, stored := some (.file bytes.toList) }
  catch e =>
    match e with
    | .noFileOrDirectory .. => return { path }
    | .permissionDenied .. => return { path, stored := some (.unreadable .permissionDenied) }
    | _ => return { path, stored := some .directory }

/-- The program with what its arguments and the system give it. -/
def invocation (args : List String) : IO Program.Invocation := do
  let logFilter ← IO.getEnv "RUST_LOG"
  match CommandLine.parse args with
  | .error _ => return { args, logFilter }
  | .ok options =>
    let directory ← findSettings options.config
    if options.dryRun then return { args, logFilter, directory }
    let recorded ← readAll (← IO.getStdin) ByteArray.empty
    return { args, logFilter, directory, script := Script.ofRecording recorded.toList }

end TraceRelay.Command

/-- Runs the program and hands its output, its log and its exit code to the system. -/
def main (args : List String) : IO UInt32 := do
  let transcript := TraceRelay.Program.run (← TraceRelay.Command.invocation args)
  let stdout ← IO.getStdout
  stdout.write (ByteArray.mk transcript.stdout.toArray)
  stdout.flush
  for line in transcript.log do
    IO.eprintln line
  return UInt32.ofNat transcript.exitCode
