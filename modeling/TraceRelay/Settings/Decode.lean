import TraceRelay.Settings.Basic
import TraceRelay.Toml.Node

/-!
# Settings from a document

Each section is a table; what a section does not mention keeps its default, and names that no
setting has are passed over. A section may also be written as an array of its values in order, of
which the last may be missing. A time in place of a section counts as an empty one.
-/

namespace TraceRelay

/-! ## Values of a document -/

namespace Toml.Node

/-- The text of a string. -/
def text? : Node → Option String
  | .string text => some text
  | _ => none

/-- An integer that is not negative and less than a limit. -/
def natural? (limit : Nat) : Node → Option Nat
  | .integer n => if 0 ≤ n ∧ n < limit then some n.toNat else none
  | _ => none

/-- An unsigned integer of 32 bits. -/
def uint32? (node : Node) : Option UInt32 :=
  (node.natural? UInt32.size).map UInt32.ofNat

/-- An unsigned integer of 64 bits. -/
def uint64? (node : Node) : Option UInt64 :=
  (node.natural? UInt64.size).map UInt64.ofNat

/-- A list of values of one kind. -/
def list? {α : Type} (item? : Node → Option α) : Node → Option (List α)
  | .array items => items.mapM item?
  | .tables members => members.mapM fun entries => item? (.table .header entries)
  | _ => none

/-- The values of a section by name: those of a table, or those of an array under the names of the
fields in order. -/
def fields? (names : List String) : Node → Option Entries
  | .inline entries => some entries
  | .table _ entries => some entries
  | .array items => some (names.zip items)
  | .tables members => some (names.zip (members.map (Node.table .header)))
  | .dateTime => some []
  | _ => none

end Toml.Node

open Toml

/-- The value of a field, or its default if the entries do not mention it. -/
def Toml.Entries.field {α : Type} (entries : Entries) (name : String) (read? : Node → Option α)
    (default : α) : Option α :=
  match entries.lookup name with
  | none => some default
  | some node => read? node

/-- The section of a name, or its default if the entries do not mention it. -/
def Toml.Entries.section? {α : Type} (entries : Entries) (name : String) (fields : List String)
    (read? : Entries → Option α) (default : α) : Option α :=
  entries.field name (fun node => (node.fields? fields).bind read?) default

/-! ## Sections -/

/-- The names of the lookup's fields in order. -/
def LookupSettings.fieldNames : List String :=
  ["command", "args", "retry_interval_ms", "max_attempts"]

/-- The settings of the lookup. -/
def LookupSettings.ofEntries? (s : Entries) : Option LookupSettings := do
  let base : LookupSettings := {}
  let command ← s.field "command" Node.text? base.command
  let args ← s.field "args" (Node.list? Node.text?) base.args
  let retryInterval ← s.field "retry_interval_ms" Node.uint64? base.retryInterval
  let maxAttempts ← s.field "max_attempts" (fun node => node.uint32?.map some) base.maxAttempts
  return { command, args, retryInterval, maxAttempts }

/-- The names of the tracer's fields in order. -/
def TracerSettings.fieldNames : List String :=
  ["command", "args", "string_limit", "restart_delay_ms", "max_restart_delay_ms",
    "max_consecutive_failures", "stop_grace_ms"]

/-- The settings of the tracer. -/
def TracerSettings.ofEntries? (s : Entries) : Option TracerSettings := do
  let base : TracerSettings := {}
  let command ← s.field "command" Node.text? base.command
  let args ← s.field "args" (Node.list? Node.text?) base.args
  let stringLimit ← s.field "string_limit" Node.uint32? base.stringLimit
  let restartDelay ← s.field "restart_delay_ms" Node.uint64? base.restartDelay
  let maxRestartDelay ← s.field "max_restart_delay_ms" Node.uint64? base.maxRestartDelay
  let maxConsecutiveFailures ← s.field "max_consecutive_failures" Node.uint32?
    base.maxConsecutiveFailures
  let stopGrace ← s.field "stop_grace_ms" Node.uint64? base.stopGrace
  return { command, args, stringLimit, restartDelay, maxRestartDelay, maxConsecutiveFailures,
           stopGrace }

/-- The names of the filter's fields in order. -/
def FilterSettings.fieldNames : List String :=
  ["fds"]

/-- The settings of the filter. -/
def FilterSettings.ofEntries? (s : Entries) : Option FilterSettings := do
  let base : FilterSettings := {}
  let fds ← s.field "fds" (Node.list? Node.uint32?) base.fds
  return { fds }

/-- The settings of a document. -/
def Settings.ofDocument? (document : Entries) : Option Settings := do
  let base : Settings := {}
  let lookup ← document.section? "lookup" LookupSettings.fieldNames LookupSettings.ofEntries?
    base.lookup
  let tracer ← document.section? "tracer" TracerSettings.fieldNames TracerSettings.ofEntries?
    base.tracer
  let filter ← document.section? "filter" FilterSettings.fieldNames FilterSettings.ofEntries?
    base.filter
  return { lookup, tracer, filter }

end TraceRelay
