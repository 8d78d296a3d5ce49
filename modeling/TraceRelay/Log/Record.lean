import TraceRelay.Text.Quoted

/-!
# Log records

A record has a level, the component that speaks, a message and named fields. A text field is quoted
when the record is written on a line; a shown field already is what it looks like.
-/

namespace TraceRelay.Log

/-- How much a record matters. -/
inductive Level
  | trace
  | debug
  | info
  | warn
  | error
deriving DecidableEq, Repr

/-- The rank of a level: the higher, the more it matters. -/
def Level.rank : Level → Nat
  | .trace => 0
  | .debug => 1
  | .info => 2
  | .warn => 3
  | .error => 4

/-- The name of a level in lower case. -/
def Level.name : Level → String
  | .trace => "trace"
  | .debug => "debug"
  | .info => "info"
  | .warn => "warn"
  | .error => "error"

/-- The name of a level at the front of a line. -/
def Level.heading : Level → String
  | .trace => "TRACE"
  | .debug => "DEBUG"
  | .info => "INFO"
  | .warn => "WARN"
  | .error => "ERROR"

/-- The part of the program that a record comes from. -/
inductive Component
  | program
  | settings
  | target
  | attempts
  | shutdown
  | run
  | tracer
deriving DecidableEq, Repr

/-- The path by which a filter names a component. -/
def Component.path : Component → String
  | .program => "follow"
  | .settings => "follow::config"
  | .target => "follow::lookup"
  | .attempts => "follow::retry"
  | .shutdown => "follow::signals"
  | .run => "follow::tailer"
  | .tracer => "follow::tracer"

/-- The value of a field. -/
inductive FieldValue
  | text (s : String)
  | shown (s : String)
deriving DecidableEq, Repr

/-- The value as it is, without quotes. -/
def FieldValue.plain : FieldValue → String
  | .text s => s
  | .shown s => s

/-- The value as it stands on a line. -/
def FieldValue.onLine : FieldValue → String
  | .text s => Text.quote s
  | .shown s => s

/-- A number as the value of a field. -/
def FieldValue.nat (n : Nat) : FieldValue :=
  .shown n.repr

/-- A number that may be missing as the value of a field. -/
def FieldValue.optional : Option Int → FieldValue
  | some n => .shown ("Some(" ++ toString n ++ ")")
  | none => .shown "None"

/-- One entry of the log. -/
structure Record where
  level : Level
  component : Component
  message : String
  fields : List (String × FieldValue) := []
  /-- The names of fields whose values are not shown. -/
  withheld : List String := []
deriving DecidableEq, Repr

/-- A record that shows all its fields. -/
def Record.showing (level : Level) (component : Component) (message : String)
    (fields : List (String × FieldValue)) : Record :=
  { level, component, message, fields }

/-- The text before the first line break, which may begin with a carriage return. -/
def firstLine (cs : List Char) : List Char :=
  let line := cs.takeWhile (· ≠ '\n')
  if line.getLast? = some '\r' then line.dropLast else line

/-- The record on a line: level, message and fields, cut at the first line break. -/
def Record.line (r : Record) : String :=
  let fields := r.fields.map fun (name, value) => " " ++ name ++ "=" ++ value.onLine
  let text := r.level.heading ++ " " ++ r.message ++ String.join fields
  String.ofList (firstLine text.toList)

end TraceRelay.Log
