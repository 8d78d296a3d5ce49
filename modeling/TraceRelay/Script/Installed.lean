import TraceRelay.Settings.Directory

/-!
# Installed programs

Two programs can be started: the one that lists process ids and the one that traces. Which of them a
command starts depends on its name alone, so the settings may well have either of them stand in for
the other.
-/

namespace TraceRelay

/-- The programs that can be found: the lookup and the tracer, by the names under which they are
installed (an empty name is no program), and names of files that are not executable. -/
structure Installed where
  lookup : String := "pgrep"
  tracer : String := "strace"
  blocked : List String := []
deriving DecidableEq, Repr

namespace Installed

/-- The program that a command starts, called by the role that it is made for. Of two programs with
one name the tracer is there. -/
def program? (installed : Installed) (command : String) : Option Role :=
  if command = "" then none
  else if command = installed.tracer then some .tracer
  else if command = installed.lookup then some .lookup
  else none

/-- The program that a command starts, or why it starts none. A text that is handed to the system
ends at its first NUL, so none may hold one. Directories cannot be started. -/
def start (installed : Installed) (command : String) (args : List String) : Except OsError Role :=
  if (command :: args).any (·.contains '\x00') then .error .nulInCommand
  else
    match installed.program? command with
    | some program => .ok program
    | none =>
      if installed.blocked.contains command then .error .permissionDenied
      else
        match ({} : Settings.WorkingDirectory).read command with
        | .error .isADirectory => .error .permissionDenied
        | .error cause => .error cause
        | .ok _ => .error .notFound

end Installed

end TraceRelay
