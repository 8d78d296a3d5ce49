import TraceRelay.Main
import TraceRelay.Proofs.TracedWrite.Payload
import TraceRelay.Shutdown
import TraceRelay.Proofs.TracedWrite.Grammar
import TraceRelay.Proofs.TracedWrite.Read
import TraceRelay.Proofs.Journal
import TraceRelay.Proofs.Sink
import TraceRelay.Proofs.Session.Relay
import TraceRelay.Proofs.Session.Whole
import TraceRelay.Proofs.Target.Lookup
import TraceRelay.Proofs.Run.Turn
import TraceRelay.Proofs.Run.Accounts
import TraceRelay.Proofs.Run.Output
import TraceRelay.Proofs.Run.GivingUp
import TraceRelay.Proofs.Run.Commands
import TraceRelay.Proofs.Run.Search
import TraceRelay.Proofs.Duration
import TraceRelay.Proofs.Run.Pacing
import TraceRelay.Proofs.Run.Stopping
import TraceRelay.Proofs.Program
import TraceRelay.Proofs.Session.Accepted
import TraceRelay.Proofs.Session.Watching
import TraceRelay.Proofs.Run.FailureCount
import TraceRelay.Proofs.DryRun
import TraceRelay.Proofs.TracedWrite.Decoding
import TraceRelay.Proofs.Session.Lines
import TraceRelay.Proofs.TracedWrite.Cut
import TraceRelay.Proofs.Target.Attempts
import TraceRelay.Proofs.Target.Listing
import TraceRelay.Proofs.Session.Arguments
import TraceRelay.Proofs.TracedWrite.LinePositions
import TraceRelay.Proofs.TracedWrite.EscapeOffset
import TraceRelay.Proofs.Session.Undelivered
import TraceRelay.Proofs.Shutdown
