import TraceRelay.Watch

/-!
# The shutdown latch

A shutdown is requested through one trigger and watched through any number of handles, which are
receivers of one channel. The trigger is the channel's sender; a handle waits for the channel's
value to be true, and when it is told instead that the sender is gone, its wait goes on for ever.
-/

namespace TraceRelay.Shutdown

/-- The answer to a poll. -/
inductive Readiness
  | ready
  | pending
deriving DecidableEq, Repr

/-- What has become of the wait of a handle. -/
inductive Waiting
  /-- There is none under way. -/
  | idle
  /-- It was polled, and is suspended until the channel has something new. -/
  | suspended
  /-- It was told that the trigger is gone, and does not ask again. -/
  | endless
deriving DecidableEq, Repr

variable {w : Watch Bool}

structure Handle (w : Watch Bool) where
  receiver : w.Receiver
  waiting : Waiting := .idle

/-- Whether a handle sees the latch as fired. -/
def Handle.isFired (channel : w.Channel) (handle : Handle w) : Bool :=
  w.borrow channel handle.receiver

def Handle.clone (handle : Handle w) : Handle w :=
  { receiver := w.clone handle.receiver }

/-- Polls a handle's wait for the value true. -/
def Handle.ask (channel : w.Channel) (handle : Handle w) (underWay : Bool) : Readiness × Handle w :=
  let (answer, receiver) := w.poll channel handle.receiver underWay id
  match answer with
  | .found => (.ready, { receiver })
  | .closed => (.pending, { receiver, waiting := .endless })
  | .pending => (.pending, { receiver, waiting := .suspended })

/-- Polls the wait of a handle, a new one when there is none under way. -/
def Handle.await (channel : w.Channel) (handle : Handle w) : Readiness × Handle w :=
  match handle.waiting with
  | .idle => handle.ask channel false
  | .suspended => handle.ask channel true
  | .endless => (.pending, handle)

/-- Gives up the wait of a handle. -/
def Handle.abandon (handle : Handle w) : Handle w :=
  { handle with waiting := .idle }

/-- The latch over a channel, with its handles in the order they were made. -/
structure LatchOn (w : Watch Bool) where
  channel : w.Channel := (w.create false).1
  /-- Whether the trigger still exists. -/
  armed : Bool := true
  handles : List (Handle w) := [{ receiver := (w.create false).2 }]

abbrev Latch := LatchOn (Watch.versioned Bool)

/-- Something done to a latch. -/
inductive Operation
  /-- Makes another handle from a given one. -/
  | clone (handle : Nat)
  | fire
  /-- Drops the trigger. -/
  | disarm
  /-- Asks once whether a new wait of a handle is over, and gives it up. -/
  | poll (handle : Nat)
  /-- Asks whether the wait of a handle is over, and keeps it if it is not. -/
  | await (handle : Nat)
  /-- Gives up the wait of a handle. -/
  | abandon (handle : Nat)
deriving DecidableEq, Repr

def LatchOn.clone (latch : LatchOn w) (i : Nat) : LatchOn w :=
  { latch with handles := latch.handles ++ (latch.handles[i]?.map Handle.clone).toList }

def LatchOn.fire (latch : LatchOn w) : LatchOn w :=
  if latch.armed then { latch with channel := w.send latch.channel true } else latch

def LatchOn.disarm (latch : LatchOn w) : LatchOn w :=
  if latch.armed then { latch with channel := w.close latch.channel, armed := false } else latch

def LatchOn.abandon (latch : LatchOn w) (i : Nat) : LatchOn w :=
  { latch with handles := latch.handles.modify i Handle.abandon }

def LatchOn.await (latch : LatchOn w) (i : Nat) : Option Readiness × LatchOn w :=
  match latch.handles[i]? with
  | none => (none, latch)
  | some handle =>
    let (readiness, handle) := handle.await latch.channel
    (some readiness, { latch with handles := latch.handles.set i handle })

def LatchOn.poll (latch : LatchOn w) (i : Nat) : Option Readiness × LatchOn w :=
  let (readiness, latch) := (latch.abandon i).await i
  (readiness, latch.abandon i)

/-- The answer to an operation, of those that poll, and the latch after it. -/
def LatchOn.apply (latch : LatchOn w) : Operation → Option Readiness × LatchOn w
  | .clone i => (none, latch.clone i)
  | .fire => (none, latch.fire)
  | .disarm => (none, latch.disarm)
  | .poll i => latch.poll i
  | .await i => latch.await i
  | .abandon i => (none, latch.abandon i)

/-- What an operation shows: the answer to a poll, and what every handle sees afterwards. -/
structure Observation where
  readiness : Option Readiness
  triggered : List Bool
deriving DecidableEq, Repr

/-- What an operation shows, and the latch after it. -/
def LatchOn.step (latch : LatchOn w) (operation : Operation) : Observation × LatchOn w :=
  let (readiness, next) := latch.apply operation
  (⟨readiness, next.handles.map (Handle.isFired next.channel)⟩, next)

/-- What operations in order show. -/
def LatchOn.observe : LatchOn w → List Operation → List Observation
  | _, [] => []
  | latch, operation :: operations =>
    let (observation, next) := latch.step operation
    observation :: next.observe operations

end TraceRelay.Shutdown
