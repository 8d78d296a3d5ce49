/-!
# Watched values

A channel that carries one value: its sender replaces the value, any number of receivers look at it
and wait until it is as they need it. The channel is a part the program is given, so it stands here
as a `Watch`, the operations the program uses, and what the program relies on is `Watch.Lawful`.
`Watch.versioned` is a channel that numbers the values it is given, and every receiver the number of
the value it saw last.
-/

namespace TraceRelay

/-- What a poll of a wait for a value answers. -/
inductive Watch.Answer
  /-- The value is as it was waited for. -/
  | found
  /-- The sender is gone, so the value will not change any more. -/
  | closed
  | pending
deriving DecidableEq, Repr

/-- A channel that carries one value of type `α`. -/
structure Watch (α : Type) where
  Channel : Type
  Receiver : Type
  /-- A channel with a value, its sender in place, and its first receiver. -/
  create : α → Channel × Receiver
  /-- Replaces the value. -/
  send : Channel → α → Channel
  /-- Drops the sender. -/
  close : Channel → Channel
  clone : Receiver → Receiver
  /-- The value that a receiver sees now. -/
  borrow : Channel → Receiver → α
  /-- Polls a receiver's wait for a value, one that is under way or a new one. -/
  poll : Channel → Receiver → (underWay : Bool) → (α → Bool) →
    Watch.Answer × Receiver
  /-- Whether a receiver came from a channel. -/
  Belongs : Channel → Receiver → Prop
  /-- Whether the sender is gone. -/
  isClosed : Channel → Bool
  /-- Whether a value was sent since a receiver, or the one it was cloned from, last waited. -/
  unseen : Channel → Receiver → Bool

variable {α : Type}

/-- What holds of a channel. -/
structure Watch.Lawful (w : Watch α) : Prop where
  /-- All receivers share one value. -/
  borrow_shared : ∀ {channel receiver other}, w.Belongs channel receiver → w.Belongs channel other →
    w.borrow channel receiver = w.borrow channel other
  belongs_create : ∀ value, w.Belongs (w.create value).1 (w.create value).2
  borrow_create : ∀ value, w.borrow (w.create value).1 (w.create value).2 = value
  isClosed_create : ∀ value, w.isClosed (w.create value).1 = false
  belongs_send : ∀ {channel receiver} value, w.Belongs channel receiver →
    w.Belongs (w.send channel value) receiver
  borrow_send : ∀ {channel receiver} value, w.Belongs channel receiver →
    w.borrow (w.send channel value) receiver = value
  isClosed_send : ∀ channel value, w.isClosed (w.send channel value) = w.isClosed channel
  /-- A value that is sent is new to every receiver, also when it equals the one before. -/
  unseen_send : ∀ {channel receiver} value, w.Belongs channel receiver →
    w.unseen (w.send channel value) receiver = true
  belongs_close : ∀ {channel receiver}, w.Belongs channel receiver →
    w.Belongs (w.close channel) receiver
  borrow_close : ∀ {channel receiver}, w.Belongs channel receiver →
    w.borrow (w.close channel) receiver = w.borrow channel receiver
  isClosed_close : ∀ channel, w.isClosed (w.close channel) = true
  unseen_close : ∀ {channel receiver}, w.Belongs channel receiver →
    w.unseen (w.close channel) receiver = w.unseen channel receiver
  belongs_clone : ∀ {channel receiver}, w.Belongs channel receiver →
    w.Belongs channel (w.clone receiver)
  /-- A clone has seen what its source has seen. -/
  unseen_clone : ∀ {channel receiver}, w.Belongs channel receiver →
    w.unseen channel (w.clone receiver) = w.unseen channel receiver
  /-- The value is tested before a missing sender is reported: by a new wait in any case, by a wait
  under way when there is one it has not seen. -/
  poll_answer : ∀ {channel receiver} underWay wanted, w.Belongs channel receiver →
    (w.poll channel receiver underWay wanted).1 =
      if (!underWay || w.unseen channel receiver) && wanted (w.borrow channel receiver) then .found
      else if w.isClosed channel then .closed
      else .pending
  belongs_poll : ∀ {channel receiver} underWay wanted, w.Belongs channel receiver →
    w.Belongs channel (w.poll channel receiver underWay wanted).2
  unseen_poll : ∀ {channel receiver} underWay wanted, w.Belongs channel receiver →
    w.unseen channel (w.poll channel receiver underWay wanted).2 = false

/-- A channel with the number of its value. -/
structure Versioned (α : Type) where
  value : α
  version : Nat
  closed : Bool
deriving DecidableEq, Repr

/-- The answer to a poll of a wait whose receiver saw the value of a number last. -/
def Versioned.answer (channel : Versioned α) (seen : Nat) (underWay : Bool) (wanted : α → Bool) :
    Watch.Answer :=
  if (!underWay || seen != channel.version) && wanted channel.value then .found
  else if channel.closed then .closed
  else .pending

/-- Channels that number their values. -/
def Watch.versioned (α : Type) : Watch α where
  Channel := Versioned α
  Receiver := Nat
  create value := (⟨value, 0, false⟩, 0)
  send channel value := { channel with value, version := channel.version + 1 }
  close channel := { channel with closed := true }
  clone seen := seen
  borrow channel _ := channel.value
  poll channel seen underWay wanted := (channel.answer seen underWay wanted, channel.version)
  Belongs channel seen := seen ≤ channel.version
  isClosed := Versioned.closed
  unseen channel seen := seen != channel.version

end TraceRelay
