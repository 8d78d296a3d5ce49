import TraceRelay.Log.Record
import TraceRelay.Settings.Basic
import TraceRelay.Text.Numeral
import TraceRelay.Text.Quoted

/-!
# Command line options

The table of options, the help text that is made from it, and what the options mean for the
settings.
-/

namespace TraceRelay.CommandLine

/-- Options that take a value. -/
inductive Valued
  | config
  | intervalMs
  | maxAttempts
  | strace
  | stringLimit
  | fd
deriving DecidableEq, Repr

/-- Options that take none. -/
inductive Flag
  | dryRun
  | verbose
  | quiet
  | help
  | version
deriving DecidableEq, Repr

/-- An option of either kind. -/
inductive Switch
  | valued (option : Valued)
  | flag (option : Flag)
deriving DecidableEq, Repr

/-- How an option is spelled and explained. -/
structure Entry where
  switch : Switch
  short : Option Char
  long : String
  /-- What stands for the value in the help text. -/
  placeholder : Option String
  explanation : String
deriving DecidableEq, Repr

/-- All options in the order of the help text. -/
def entries : List Entry := [
  ⟨.valued .config, some 'c', "config", some "CONFIG", "Config file path [default: follow.toml]"⟩,
  ⟨.valued .intervalMs, none, "interval-ms", some "INTERVAL_MS",
    "Delay between target lookups in milliseconds (overrides config)"⟩,
  ⟨.valued .maxAttempts, none, "max-attempts", some "MAX_ATTEMPTS",
    "Give up after this many failed lookups (default: never)"⟩,
  ⟨.valued .strace, none, "strace", some "STRACE", "Tracer binary (overrides config)"⟩,
  ⟨.valued .stringLimit, none, "string-limit", some "STRING_LIMIT",
    "Maximum captured string length passed to the tracer (overrides config)"⟩,
  ⟨.valued .fd, none, "fd", some "FD",
    "Only relay writes to this fd; repeatable (overrides config)"⟩,
  ⟨.flag .dryRun, none, "dry-run", none,
    "Validate config and print resolved settings, don't run"⟩,
  ⟨.flag .verbose, some 'v', "verbose", none,
    "Extra logging (lookup attempts, skipped lines)"⟩,
  ⟨.flag .quiet, some 'q', "quiet", none, "Only warnings and errors"⟩,
  ⟨.flag .help, some 'h', "help", none, "Print help"⟩,
  ⟨.flag .version, some 'V', "version", none, "Print version"⟩]

/-- The option with a long name. -/
def long? (name : String) : Option Switch :=
  (entries.find? (·.long = name)).map (·.switch)

/-- The option with a short name. -/
def short? (name : Char) : Option Switch :=
  (entries.find? (·.short = some name)).map (·.switch)

/-- The spelling of an option in the help text. -/
def Entry.usage (e : Entry) : String :=
  (match e.short with
    | some c => "-" ++ c.toString ++ ", "
    | none => "    ") ++
  "--" ++ e.long ++
  (match e.placeholder with
    | some name => " <" ++ name ++ ">"
    | none => "")

/-- The text that explains the command line. -/
def helpText : String :=
  let width := (entries.map (·.usage.length)).foldl max 0
  let line (e : Entry) : String :=
    "  " ++ e.usage ++ String.ofList (List.replicate (width + 2 - e.usage.length) ' ') ++
      e.explanation ++ "\n"
  "Tail a running process's output by tracing its write syscalls with strace\n\n" ++
    "Usage: follow [OPTIONS]\n\nOptions:\n" ++ String.join (entries.map line)

/-- The text that tells the version. -/
def versionText : String :=
  "follow 0.1.0\n"

/-- What a command line asks for. -/
structure Options where
  config : String := "follow.toml"
  intervalMs : Option UInt64 := none
  maxAttempts : Option UInt32 := none
  strace : Option String := none
  stringLimit : Option UInt32 := none
  fds : List UInt32 := []
  dryRun : Bool := false
  verbose : Bool := false
  quiet : Bool := false
deriving DecidableEq, Repr

/-- The settings with those that the command line overrides. -/
def Options.override (options : Options) (settings : Settings) : Settings where
  lookup := { settings.lookup with
    retryInterval := options.intervalMs.getD settings.lookup.retryInterval
    maxAttempts := options.maxAttempts.or settings.lookup.maxAttempts }
  tracer := { settings.tracer with
    command := options.strace.getD settings.tracer.command
    stringLimit := options.stringLimit.getD settings.tracer.stringLimit }
  filter := { fds := if options.fds = [] then settings.filter.fds else options.fds }

/-- The level from which on the log is shown. -/
def Options.leastLevel (options : Options) : Log.Level :=
  if options.verbose then .debug else if options.quiet then .warn else .info

/-- The options as a record, for the log. -/
def Options.summary (options : Options) : String :=
  let maybe {α : Type} (shown : α → String) : Option α → String
    | some a => "Some(" ++ shown a ++ ")"
    | none => "None"
  let fields : List (String × String) := [
    ("config", Text.quote options.config),
    ("interval_ms", maybe (·.toNat.repr) options.intervalMs),
    ("max_attempts", maybe (·.toNat.repr) options.maxAttempts),
    ("strace", maybe Text.quote options.strace),
    ("string_limit", maybe (·.toNat.repr) options.stringLimit),
    ("fds", Text.bracketed (options.fds.map (·.toNat.repr))),
    ("dry_run", toString options.dryRun),
    ("verbose", toString options.verbose),
    ("quiet", toString options.quiet)]
  "Cli \x7b " ++ ", ".intercalate (fields.map fun (name, value) => name ++ ": " ++ value) ++
    " \x7d"

end TraceRelay.CommandLine
