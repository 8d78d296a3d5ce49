import TraceRelay.CommandLine.Parse
import TraceRelay.Log.Filter
import TraceRelay.Script
import TraceRelay.Settings.Render
import TraceRelay.Settings.Load

/-!
# The whole program

From the command line to the exit code: options are read, settings loaded and overridden, and then
either shown (a dry run) or used for a run. What the program prints and logs follows from its
arguments, its environment, its working directory and what the commands do.
-/

namespace TraceRelay

namespace Program

/-- What the program is started with. -/
structure Invocation where
  args : List String := []
  /-- The filter of the log, if the environment gives one. -/
  logFilter : Option String := none
  directory : Settings.WorkingDirectory := {}
  script : Script := {}
  /-- The signal by which a shutdown is asked for. -/
  signal : Log.Signal := .terminate
deriving DecidableEq, Repr

/-- What the program leaves behind. -/
structure Transcript where
  exitCode : Nat
  stdout : List UInt8 := []
  log : List String := []
  commands : List Command := []
deriving DecidableEq, Repr

/-- Exit codes of a program that got past its command line. -/
def exitSuccess : Nat := 0

/-- The exit code of a failure. -/
def exitFailure : Nat := 1

/-- The exit code of a program that breaks off. -/
def exitAborted : Nat := 101

/-- The settings of a run: those of the working directory with those of the command line. -/
def resolve (options : CommandLine.Options) (directory : Settings.WorkingDirectory) :
    Journaled (Except Settings.LoadError Settings) := do
  let loaded ← Settings.load directory options.config
  return loaded.map options.override

/-- The filter of the log: that of the environment if it can be read, else that of the options.
There is none if the environment's filter cannot even be taken apart. -/
def logFilter? (options : CommandLine.Options) (given : Option String) : Option Log.Filter :=
  match given.map Log.Filter.parse with
  | some (.ok filter) => some filter
  | some (.error .splitCharacter) => none
  | some (.error .malformed) | none => some (.atLeast options.leastLevel)

/-- The records of a journal; a shutdown is announced with the signal that asked for it. -/
def records (signal : Log.Signal) (journal : List Action) : List Log.Record :=
  journal.filterMap fun
    | .logged event => some event.record
    | .shutdown => some (Log.Event.shutdownRequested signal).record
    | _ => none

/-- The lines that a filter lets through. -/
def logLines (filter : Log.Filter) (records : List Log.Record) : List String :=
  (records.filter filter.admits).map (·.line)

/-- A record of the program itself. -/
def record (level : Log.Level) (message : String)
    (fields : List (String × Log.FieldValue)) : Log.Record :=
  .showing level .program message fields

/-- The bytes of a text. -/
def textBytes (s : String) : List UInt8 :=
  Text.encode s.toList

/-- A dry run: the target and the settings are printed. -/
def dryRun (settings : Settings) : Transcript × List Log.Record :=
  let heading := "target = " ++ Text.quote targetName ++ "\n"
  match Settings.render settings with
  | .ok rendered => ({ exitCode := exitSuccess, stdout := textBytes (heading ++ rendered) }, [])
  | .error error =>
    ({ exitCode := exitFailure, stdout := textBytes heading },
      [record .error "failed to render configuration" [("error", .shown error.message)]])

/-- A run on the standard output. -/
def follow (settings : Settings) (script : Script) (signal : Log.Signal) (sink : Sink) :
    Transcript × List Log.Record :=
  let run := Run.run settings (script.world settings) sink
  let output := Journal.output run.journal
  let ended : Nat × List Log.Record := match run.value with
    | .ok _ => (exitSuccess, [])
    | .error error =>
      (exitFailure, [record .error "follow stopped" [("error", .shown error.message)]])
  ({ exitCode := ended.1
     stdout := output.flushed.flatten ++ output.unflushed
     commands := script.started settings (Journal.commands run.journal) },
    record .info "follow starting" [("target_name", .text targetName)] ::
      records signal run.journal ++ ended.2)

/-- What a program does whose command line could be read. -/
def runWith (options : CommandLine.Options) (invocation : Invocation) (sink : Sink) :
    Transcript × List Log.Record :=
  let resolved := resolve options invocation.directory
  let opening := record .debug "parsed CLI arguments" [("cli", .shown options.summary)] ::
    records invocation.signal resolved.journal
  let (transcript, rest) : Transcript × List Log.Record := match resolved.value with
    | .error error =>
      ({ exitCode := exitFailure },
        [record .error "invalid configuration" [("error", .shown error.message)]])
    | .ok settings =>
      if options.dryRun then dryRun settings
      else follow settings invocation.script invocation.signal sink
  (transcript, opening ++ rest)

/-- The whole program with its standard output. Without a filter for its log it breaks off before it
does anything. -/
def runOn (sink : Sink) (invocation : Invocation) : Transcript :=
  match CommandLine.parse invocation.args with
  | .error refusal =>
    let stdout := match refusal with
      | .displayHelp => CommandLine.helpText
      | .displayVersion => CommandLine.versionText
      | _ => ""
    { exitCode := refusal.exitCode, stdout := textBytes stdout }
  | .ok options =>
    match logFilter? options invocation.logFilter with
    | none => { exitCode := exitAborted }
    | some filter =>
      let (transcript, records) := runWith options invocation sink
      { transcript with log := logLines filter records }

/-- An output that takes everything. -/
def steadySink : Sink where
  behaviour := Faults.behaviour {}

/-- The whole program over a standard output that takes everything. -/
def run (invocation : Invocation) : Transcript :=
  runOn steadySink invocation

end Program

end TraceRelay
