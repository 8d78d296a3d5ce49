import TraceRelay.CommandLine.Options

/-!
# Reading the command line

Arguments are read from left to right. An option that takes a value may wait for the next argument;
it is settled when the next option begins or the arguments end. Where several things are wrong, the
first one met in this order is reported.
-/

namespace TraceRelay.CommandLine

/-- Why a command line yields no options: a fault, or a request for a text. -/
inductive Refusal
  /-- An option without its value, or with an empty one that must not be. -/
  | invalidValue
  /-- A value that the option cannot take. -/
  | valueValidation
  | unknownArgument
  /-- An option given twice, or together with one that it excludes. -/
  | argumentConflict
  /-- A value for an option that takes none. -/
  | tooManyValues
  | displayHelp
  | displayVersion
deriving DecidableEq, Repr

/-- The exit code of a program whose command line yields no options. -/
def Refusal.exitCode : Refusal → Nat
  | .displayHelp => 0
  | .displayVersion => 0
  | _ => 2

/-- The arguments read so far. -/
structure Reading where
  options : Options := {}
  given : List Switch := []
  /-- The last option if it is not settled yet, and its value if there is one. -/
  pending : Option (Valued × Option String) := none
deriving DecidableEq, Repr

/-- A number of 32 bits; a minus sign may stand before zero. -/
def value32? (text : String) : Option UInt32 :=
  (Text.int64? text.toList).bind fun n =>
    if 0 ≤ n ∧ n.toNat < UInt32.size then some (UInt32.ofNat n.toNat) else none

/-- The options with the value of one of them. -/
def Options.assign (options : Options) (option : Valued) (text : String) :
    Except Refusal Options :=
  let number {α : Type} (value? : Option α) (set : α → Options) : Except Refusal Options :=
    match value? with
    | some value => .ok (set value)
    | none => .error .valueValidation
  match option with
  | .config => if text = "" then .error .invalidValue else .ok { options with config := text }
  | .intervalMs =>
    number (Text.uint64? text.toList) fun n => { options with intervalMs := some n }
  | .maxAttempts => number (value32? text) fun n => { options with maxAttempts := some n }
  | .strace => .ok { options with strace := some text }
  | .stringLimit => number (value32? text) fun n => { options with stringLimit := some n }
  | .fd => number (value32? text) fun n => { options with fds := options.fds ++ [n] }

namespace Reading

/-- Gives an option its value. Only descriptors may be given more than once. -/
def give (r : Reading) (option : Valued) (value : Option String) : Except Refusal Reading :=
  match value with
  | none => .error .invalidValue
  | some text =>
    if option ≠ .fd ∧ .valued option ∈ r.given then .error .argumentConflict
    else do
      let options ← r.options.assign option text
      return ⟨options, .valued option :: r.given, none⟩

/-- Settles the option that waits. -/
def settle (r : Reading) : Except Refusal Reading :=
  match r.pending with
  | none => .ok r
  | some (option, value) => { r with pending := none }.give option value

/-- Sets an option without a value. -/
def raise (r : Reading) (flag : Flag) : Except Refusal Reading := do
  let r ← r.settle
  if .flag flag ∈ r.given then throw .argumentConflict
  let options ← match flag with
    | .dryRun => .ok { r.options with dryRun := true }
    | .verbose => .ok { r.options with verbose := true }
    | .quiet => .ok { r.options with quiet := true }
    | .help => .error Refusal.displayHelp
    | .version => .error .displayVersion
  return ⟨options, .flag flag :: r.given, none⟩

/-- Begins an option with a value that is attached or still to come. -/
def start (r : Reading) (option : Valued) (attached : Option String) :
    Except Refusal Reading := do
  let r ← r.settle
  match attached with
  | some text => r.give option (some text)
  | none => return { r with pending := some (option, none) }

/-- Reads the short options of one argument; the first that takes a value takes what is left. -/
def cluster (r : Reading) : List Char → Except Refusal Reading
  | [] => .ok r
  | c :: cs =>
    match short? c with
    | none => .error .unknownArgument
    | some (.flag flag) => do
      let r ← r.raise flag
      r.cluster cs
    | some (.valued option) =>
      match cs with
      | [] => r.start option none
      | '=' :: cs => r.start option (some (String.ofList cs))
      | cs => r.start option (some (String.ofList cs))

/-- Reads an argument that is no option: it can only be the value that an option waits for. -/
def word (r : Reading) (text : String) : Except Refusal Reading :=
  match r.pending with
  | some (option, none) => .ok { r with pending := some (option, some text) }
  | _ => .error .unknownArgument

/-- Reads a long option: its name, and its value after an equals sign. -/
def long (r : Reading) (cs : List Char) : Except Refusal Reading :=
  let name := String.ofList (cs.takeWhile (· ≠ '='))
  let attached := match cs.dropWhile (· ≠ '=') with
    | [] => none
    | _ :: value => some (String.ofList value)
  match long? name, attached with
  | none, _ => .error .unknownArgument
  | some (.flag _), some _ => .error .tooManyValues
  | some (.flag flag), none => r.raise flag
  | some (.valued option), attached => r.start option attached

/-- Reads one argument. -/
def argument (r : Reading) (arg : String) : Except Refusal Reading :=
  match arg.toList with
  | '-' :: '-' :: cs => r.long cs
  | ['-'] => r.word arg
  | '-' :: cs => r.cluster cs
  | _ => r.word arg

/-- The options once all arguments are read. -/
def finish (r : Reading) : Except Refusal Options := do
  let r ← r.settle
  if r.options.verbose ∧ r.options.quiet then throw .argumentConflict
  return r.options

/-- Reads arguments; none may follow two dashes. -/
def arguments (r : Reading) : List String → Except Refusal Options
  | [] => r.finish
  | arg :: args =>
    if arg = "--" then
      if args = [] then r.finish else .error .unknownArgument
    else do
      let r ← r.argument arg
      r.arguments args

end Reading

/-- The options of a command line. -/
def parse (args : List String) : Except Refusal Options :=
  Reading.arguments {} args

end TraceRelay.CommandLine
