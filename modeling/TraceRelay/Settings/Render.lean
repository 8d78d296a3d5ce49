import TraceRelay.Settings.Basic
import TraceRelay.Toml.Quotation

/-!
# Settings as a document

The three sections in order, each with all its fields; a limit that is not set is left out. Lists of
two or more items take one line for each item. Numbers of a document have a sign and 64 bits, so a
setting beyond them cannot be written.
-/

namespace TraceRelay

namespace Settings

/-- Why settings cannot be written as a document. -/
inductive RenderError
  | outOfRange
deriving DecidableEq, Repr

/-- The text of a failure. -/
def RenderError.message : RenderError → String
  | .outOfRange => "out-of-range value for u64 type"

/-- One line of a section. -/
def renderField (name : String) (value : List Char) : List Char :=
  name.toList ++ " = ".toList ++ value ++ ['\n']

/-- A list of values. -/
def renderList : List (List Char) → List Char
  | [] => ['[', ']']
  | [item] => '[' :: item ++ [']']
  | items =>
    ['[', '\n'] ++ items.flatMap (fun item => "    ".toList ++ item ++ [',', '\n']) ++ [']']

/-- A number of 32 bits, which always fits. -/
def renderUInt32 (n : UInt32) : List Char :=
  n.toNat.repr.toList

/-- A number of 64 bits, if it fits. -/
def renderUInt64 (n : UInt64) : Except RenderError (List Char) :=
  if n.toNat ≤ Int64.maxValue.toInt.toNat then .ok n.toNat.repr.toList else .error .outOfRange

end Settings

open Settings

/-- The section of the lookup. -/
def LookupSettings.render (s : LookupSettings) : Except RenderError (List Char) := do
  let retryInterval ← renderUInt64 s.retryInterval
  return "[lookup]\n".toList ++
    renderField "command" (Toml.writeString s.command) ++
    renderField "args" (renderList (s.args.map Toml.writeString)) ++
    renderField "retry_interval_ms" retryInterval ++
    (match s.maxAttempts with
      | some n => renderField "max_attempts" (renderUInt32 n)
      | none => [])

/-- The section of the tracer. -/
def TracerSettings.render (s : TracerSettings) : Except RenderError (List Char) := do
  let restartDelay ← renderUInt64 s.restartDelay
  let maxRestartDelay ← renderUInt64 s.maxRestartDelay
  let stopGrace ← renderUInt64 s.stopGrace
  return "[tracer]\n".toList ++
    renderField "command" (Toml.writeString s.command) ++
    renderField "args" (renderList (s.args.map Toml.writeString)) ++
    renderField "string_limit" (renderUInt32 s.stringLimit) ++
    renderField "restart_delay_ms" restartDelay ++
    renderField "max_restart_delay_ms" maxRestartDelay ++
    renderField "max_consecutive_failures" (renderUInt32 s.maxConsecutiveFailures) ++
    renderField "stop_grace_ms" stopGrace

/-- The section of the filter. -/
def FilterSettings.render (s : FilterSettings) : List Char :=
  "[filter]\n".toList ++ renderField "fds" (renderList (s.fds.map renderUInt32))

/-- The settings as a document. -/
def Settings.render (settings : Settings) : Except RenderError String := do
  let lookup ← settings.lookup.render
  let tracer ← settings.tracer.render
  return String.ofList (lookup ++ ['\n'] ++ tracer ++ ['\n'] ++ settings.filter.render)

end TraceRelay
