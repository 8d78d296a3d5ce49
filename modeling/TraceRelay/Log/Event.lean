import TraceRelay.Log.Record
import TraceRelay.Session.Report
import TraceRelay.Settings.Basic
import TraceRelay.Target.Error
import TraceRelay.TracedWrite.Read

/-!
# Events of a run

What a run has to say, by meaning. `Event.record` gives each event its words.
-/

namespace TraceRelay.Log

/-- The signals that ask for a shutdown. -/
inductive Signal
  | interrupt
  | terminate
deriving DecidableEq, Repr

/-- The name of a signal. -/
def Signal.name : Signal → String
  | .interrupt => "SIGINT"
  | .terminate => "SIGTERM"

/-- Something that happened in a run. -/
inductive Event
  | configMissing (path : String)
  | severalMatched (pid : UInt32) (ignored : List String)
  | attemptsExhausted (attempts limit : UInt32)
  | shutdownRequested (signal : Signal)
  | lookupFailed (error : Target.Error)
  | waitingForTarget
  | targetFound (pid : UInt32)
  | spawningTracer (command : String) (args : List String) (pid : UInt32)
  | tracerKilled
  | tracerReported (line : String)
  | otherOutput (line : String)
  | malformedLine (error : TracedWrite.Error) (line : String)
  | failedWrite (fd : UInt32) (errno : String)
  | firstTruncated (fd : UInt32) (length : UInt64) (captured : Nat) (limit : UInt32)
  | truncatedAgain (fd : UInt32) (length : UInt64) (captured : Nat)
  | sessionEnded (report : Report)
  | sessionFailed (report : Report) (failures : UInt32)
  | stopped (summary : Summary)
deriving DecidableEq, Repr

/-- The words of an event. -/
def Event.record : Event → Record
  | .configMissing path =>
    .showing .debug .settings "no config file, using defaults" [("path", .shown path)]
  | .severalMatched pid ignored =>
    .showing .debug .target "several processes matched, using the first"
      [("pid", .nat pid.toNat), ("ignored", .shown (Text.quoteList ignored))]
  | .attemptsExhausted attempts limit =>
    .showing .warn .attempts "target lookup attempts exhausted"
      [("attempts", .nat attempts.toNat), ("max_attempts", .nat limit.toNat)]
  | .shutdownRequested signal =>
    .showing .info .shutdown "shutdown requested" [("signal", .text signal.name)]
  | .lookupFailed error =>
    let level := match error with
      | .notFound _ => .debug
      | _ => .warn
    .showing level .run "target lookup failed" [("error", .shown error.message)]
  | .waitingForTarget =>
    .showing .info .run "waiting for target process" [("target_name", .text targetName)]
  | .targetFound pid =>
    .showing .info .run "target process found" [("pid", .nat pid.toNat)]
  | .spawningTracer command args pid =>
    .showing .info .tracer "spawning tracer"
      [("command", .shown command), ("args", .shown (Text.quoteList args)),
        ("target_pid", .nat pid.toNat)]
  | .tracerKilled =>
    { level := .warn, component := .tracer, message := "tracer ignored SIGTERM, killing"
      withheld := ["pid"] }
  | .tracerReported line =>
    .showing .info .run "tracer reported" [("output", .text line)]
  | .otherOutput line =>
    .showing .debug .run "ignoring non-write tracer output" [("line", .text line)]
  | .malformedLine error line =>
    .showing .warn .run "skipping malformed trace line"
      [("error", .shown error.message), ("line", .text line)]
  | .failedWrite fd errno =>
    .showing .debug .run "skipping failed write"
      [("fd", .nat fd.toNat), ("result", .shown ("Failed(" ++ Text.quote errno ++ ")"))]
  | .firstTruncated fd length captured limit =>
    .showing .warn .run
      ("payload truncated at tracer string limit, output is incomplete; " ++
        "raise it with --string-limit")
      [("fd", .nat fd.toNat), ("length", .nat length.toNat), ("captured", .nat captured),
        ("string_limit", .nat limit.toNat)]
  | .truncatedAgain fd length captured =>
    .showing .debug .run "payload truncated at tracer string limit"
      [("fd", .nat fd.toNat), ("length", .nat length.toNat), ("captured", .nat captured)]
  | .sessionEnded report =>
    .showing .info .run "tracer session ended"
      [("pid", .nat report.targetPid.toNat), ("exit_code", .optional report.tracerExit),
        ("payloads", .nat report.payloads), ("bytes", .nat report.bytes),
        ("skipped_lines", .nat report.skippedLines),
        ("truncated_payloads", .nat report.truncatedPayloads)]
  | .sessionFailed report failures =>
    .showing .warn .run "tracer exited without relaying anything"
      [("pid", .nat report.targetPid.toNat), ("exit_code", .optional report.tracerExit),
        ("consecutive_failures", .nat failures.toNat)]
  | .stopped summary =>
    .showing .info .run "stopped"
      [("sessions", .nat summary.sessions), ("payloads", .nat summary.payloads),
        ("bytes", .nat summary.bytes), ("skipped_lines", .nat summary.skippedLines),
        ("lookup_failures", .nat summary.lookupFailures)]

end TraceRelay.Log
