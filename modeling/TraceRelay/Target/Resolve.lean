import TraceRelay.Journal
import TraceRelay.Text.Segments
import TraceRelay.Text.Template

/-!
# Resolving the target

The lookup command lists process ids, one a line; the first one listed is the target. Exit code one
says that nothing matched.
-/

namespace TraceRelay.Target

open Text

/-- What came of a lookup command. -/
inductive Outcome
  | refused (cause : OsError)
  | ended (status : ExitStatus) (stdout : List UInt8)
deriving DecidableEq, Repr

/-- The command's arguments, with the target's name in place of `{name}`. -/
def arguments (settings : LookupSettings) (name : String) : List String :=
  settings.args.map (fill "\x7bname\x7d" name)

/-- The lines of a listing that are not blank, without the white space around them. -/
def entries (stdout : List Char) : List (List Char) :=
  ((segments (· == '\n') stdout).map trim).filter (· ≠ [])

/-- The process id that a listing begins with, which is not zero. -/
def readListing (stdout : List Char) (name : String) : Journaled (Except Error UInt32) :=
  match entries stdout with
  | [] => return .error (.notFound name)
  | first :: others =>
    match (uint32? first).filter (0 < ·) with
    | none => return .error (.parse (String.ofList first))
    | some pid => do
      if others ≠ [] then
        Journaled.log (.severalMatched pid (others.map String.ofList))
      return .ok pid

/-- The process id that a lookup command found. -/
def resolve (settings : LookupSettings) (name : String) (outcome : Outcome) :
    Journaled (Except Error UInt32) := do
  let command : Command := ⟨.lookup, arguments settings name⟩
  match outcome with
  | .refused cause =>
    Journaled.act (.refused command cause)
    return .error (.query settings.command cause)
  | .ended status stdout =>
    Journaled.act (.started command)
    match status.code? with
    | some 0 => readListing (decodeLossy stdout) name
    | some 1 => return .error (.notFound name)
    | code => return .error (.status settings.command code)

end TraceRelay.Target
