/-!
# Commands and how they end

The two commands that a run starts, why the system may refuse something, and the ways in which a
process ends.
-/

namespace TraceRelay

/-- Why the system refuses an operation. -/
inductive OsError
  | notFound
  | permissionDenied
  | notADirectory
  | isADirectory
  | nameTooLong
  | nulInCommand
  | nulInPath
  | invalidText
  | brokenPipe
  | writeZero
deriving DecidableEq, Repr

/-- The text of a refusal. -/
def OsError.message : OsError → String
  | .notFound => "No such file or directory (os error 2)"
  | .permissionDenied => "Permission denied (os error 13)"
  | .notADirectory => "Not a directory (os error 20)"
  | .isADirectory => "Is a directory (os error 21)"
  | .nameTooLong => "File name too long (os error 36)"
  | .nulInCommand => "nul byte found in provided data"
  | .nulInPath => "file name contained an unexpected NUL byte"
  | .invalidText => "stream did not contain valid UTF-8"
  | .brokenPipe => "broken pipe"
  | .writeZero => "write zero"

/-- How a process ended: with an exit code, or killed by a signal. -/
inductive ExitStatus
  | exited (code : Int)
  | killed
deriving DecidableEq, Repr

/-- The end of a process that exits with a code, of which the system keeps the lowest byte. -/
def ExitStatus.ofCode (code : Int) : ExitStatus :=
  .exited (code % 256)

/-- The exit code, which a killed process has not. -/
def ExitStatus.code? : ExitStatus → Option Int
  | .exited code => some code
  | .killed => none

/-- The two commands of a run. -/
inductive Role
  | lookup
  | tracer
deriving DecidableEq, Repr

/-- A command with its arguments. -/
structure Command where
  role : Role
  args : List String
deriving DecidableEq, Repr

end TraceRelay
