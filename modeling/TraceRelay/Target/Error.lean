import TraceRelay.Process
import TraceRelay.Text.Quoted

/-!
# Failures of a lookup

All of them pass: the lookup is repeated until the attempts run out.
-/

namespace TraceRelay.Target

/-- Why the target's process id was not found. -/
inductive Error
  /-- The command ran and listed nothing. -/
  | notFound (name : String)
  /-- The command could not be started. -/
  | query (command : String) (cause : OsError)
  /-- The command ended in another way than by finding or not finding something. -/
  | status (command : String) (code : Option Int)
  /-- The first line listed is not a process id. -/
  | parse (output : String)
deriving DecidableEq, Repr

/-- The text of a failure. -/
def Error.message : Error → String
  | .notFound name => "no process matching '" ++ name ++ "'"
  | .query command cause => "failed to run " ++ command ++ ": " ++ cause.message
  | .status command (some code) => command ++ " exited with status " ++ toString code
  | .status command none => command ++ " was killed by a signal"
  | .parse output => "unexpected process listing output: " ++ Text.quote output

/-- The texts of what lies behind a failure, the nearest first. -/
def Error.sources : Error → List String
  | .query _ cause => [cause.message]
  | _ => []

end TraceRelay.Target
