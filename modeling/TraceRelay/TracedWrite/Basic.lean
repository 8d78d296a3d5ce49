/-!
# Traced write calls

What a trace line says about one call: the descriptor, the bytes handed over as far as the tracer
shows them, the length that the caller passed, and the result.
-/

namespace TraceRelay

/-- The result of a traced call. -/
inductive WriteResult
  /-- The number of bytes that the kernel accepted. -/
  | written (count : UInt64)
  /-- The call failed or was interrupted for a restart; the name of the error, if one is shown. A
  restarted call shows up again once it is issued anew. -/
  | failed (errno : String)
  /-- The process ended inside the call. -/
  | unknown
deriving DecidableEq, Repr

/-- One decoded write call. -/
structure TracedWrite where
  fd : UInt32
  payload : List UInt8
  /-- The length that the caller passed. -/
  length : UInt64
  /-- The tracer cut the payload at its string limit. -/
  truncated : Bool
  result : WriteResult
deriving DecidableEq, Repr

/-- Whether the call may have moved bytes. -/
def TracedWrite.succeeded (call : TracedWrite) : Bool :=
  match call.result with
  | .failed _ => false
  | _ => true

end TraceRelay
