import TraceRelay.Journal

/-!
# Writing to the output

The output takes as many bytes of each write as it likes, so a payload is offered again until all of
it is taken. A write that takes nothing is a failure.
-/

namespace TraceRelay

/-- The answer to a write. -/
inductive WriteReply
  | accept (count : Nat)
  | fail (cause : OsError)
deriving DecidableEq, Repr

/-- How an output behaves: the answer to the nth write, which depends on the number of bytes
offered, and the failure of the nth flush, if it fails. Calls are counted from one. -/
structure SinkBehaviour where
  write : (call offered : Nat) → WriteReply
  flush : (call : Nat) → Option OsError

/-- An output and the number of calls made so far. -/
structure Sink where
  behaviour : SinkBehaviour
  writes : Nat := 0
  flushes : Nat := 0

/-- A sink after some calls, and the failure that ended them, if any. -/
structure Delivery where
  sink : Sink
  failure : Option OsError

namespace Sink

/-- Offers the bytes until all are taken; the first `skip` of them already are. -/
def writeFrom : (skip : Nat) → List UInt8 → Sink → Journaled Delivery
  | _, [], sink => return ⟨sink, none⟩
  | skip + 1, _ :: bytes, sink => writeFrom skip bytes sink
  | 0, byte :: bytes, sink =>
    let next := { sink with writes := sink.writes + 1 }
    match sink.behaviour.write next.writes (bytes.length + 1) with
    | .fail cause => return ⟨next, some cause⟩
    | .accept 0 => return ⟨next, some .writeZero⟩
    | .accept (count + 1) => do
      Journaled.act (.wrote ((byte :: bytes).take (count + 1)))
      writeFrom count bytes next

/-- Flushes what was written. -/
def flush (sink : Sink) : Journaled Delivery :=
  let next := { sink with flushes := sink.flushes + 1 }
  match sink.behaviour.flush next.flushes with
  | some cause => return ⟨next, some cause⟩
  | none => do
    Journaled.act .flushed
    return ⟨next, none⟩

/-- Writes the bytes and flushes them. -/
def deliver (bytes : List UInt8) (sink : Sink) : Journaled Delivery := do
  let written ← writeFrom 0 bytes sink
  match written.failure with
  | some _ => return written
  | none => flush written.sink

end Sink

/-- An output that misbehaves at given calls: a write or a flush that fails, a write that takes
nothing, and a limit on the bytes that one write takes. -/
structure Faults where
  failWrite : Option Nat := none
  zeroWrite : Option Nat := none
  failFlush : Option Nat := none
  maxWrite : Option Nat := none
deriving DecidableEq, Repr

/-- The behaviour with these faults. -/
def Faults.behaviour (f : Faults) : SinkBehaviour where
  write call offered :=
    if f.failWrite = some call then .fail .brokenPipe
    else if f.zeroWrite = some call then .accept 0
    else .accept (min offered (f.maxWrite.getD offered))
  flush call := if f.failFlush = some call then some .brokenPipe else none

end TraceRelay
