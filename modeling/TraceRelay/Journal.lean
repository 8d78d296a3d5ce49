import TraceRelay.Duration
import TraceRelay.Log.Event
import TraceRelay.Process

/-!
# The journal of a run

Everything that can be observed of a run, in order: commands started or refused, bytes written and
flushed, events, completed sleeps, and the moment a shutdown is requested. What a run printed,
logged or waited is a view of its journal.

A computation that keeps a journal is a `Journaled` value: its result and the steps it took. The
journal of two computations one after the other is the one after the other.
-/

namespace TraceRelay

/-- One observable step. -/
inductive Action
  | started (command : Command)
  | refused (command : Command) (cause : OsError)
  | wrote (bytes : List UInt8)
  | flushed
  | logged (event : Log.Event)
  | slept (duration : Duration)
  | shutdown
deriving DecidableEq

/-- A result with the steps that led to it. -/
structure Journaled (α : Type) where
  value : α
  journal : List Action

namespace Journaled

variable {α β : Type}

instance : Monad Journaled where
  pure a := ⟨a, []⟩
  bind x f := ⟨(f x.value).value, x.journal ++ (f x.value).journal⟩

@[simp] theorem value_pure (a : α) : (pure a : Journaled α).value = a := rfl

@[simp] theorem journal_pure (a : α) : (pure a : Journaled α).journal = [] := rfl

@[simp] theorem value_bind (x : Journaled α) (f : α → Journaled β) :
    (x >>= f).value = (f x.value).value := rfl

@[simp] theorem journal_bind (x : Journaled α) (f : α → Journaled β) :
    (x >>= f).journal = x.journal ++ (f x.value).journal := rfl

/-- Takes one step. -/
def act (a : Action) : Journaled Unit :=
  ⟨(), [a]⟩

@[simp] theorem journal_act (a : Action) : (act a).journal = [a] := rfl

/-- Logs one event. -/
def log (e : Log.Event) : Journaled Unit :=
  act (.logged e)

@[simp] theorem journal_log (e : Log.Event) : (log e).journal = [.logged e] := rfl

end Journaled

/-! ## Views -/

/-- What the output has received: the bytes before each flush, and those after the last. -/
structure Output where
  flushed : List (List UInt8) := []
  unflushed : List UInt8 := []
deriving DecidableEq, Repr

/-- The output after one more step. -/
def Output.after (o : Output) : Action → Output
  | .wrote bytes => ⟨o.flushed, o.unflushed ++ bytes⟩
  | .flushed => ⟨o.flushed ++ [o.unflushed], []⟩
  | _ => o

namespace Journal

/-- What the output has received. -/
def output (journal : List Action) : Output :=
  journal.foldl Output.after {}

/-- The commands started, in order. -/
def commands (journal : List Action) : List Command :=
  journal.filterMap fun
    | .started command => some command
    | _ => none

@[simp] theorem commands_append (before later : List Action) :
    commands (before ++ later) = commands before ++ commands later := by
  simp [commands]

/-- The events logged, in order. -/
def events (journal : List Action) : List Log.Event :=
  journal.filterMap fun
    | .logged event => some event
    | _ => none

@[simp] theorem events_append (before later : List Action) :
    events (before ++ later) = events before ++ events later := by
  simp [events]

/-- The time taken, in nanoseconds: all of it is slept. -/
def elapsed : List Action → Nat
  | [] => 0
  | .slept duration :: rest => duration.nanos + elapsed rest
  | _ :: rest => elapsed rest

@[simp] theorem elapsed_append (before later : List Action) :
    elapsed (before ++ later) = elapsed before + elapsed later := by
  induction before with
  | nil => simp [elapsed]
  | cons action before ih => cases action <;> simp [elapsed, ih, Nat.add_assoc]

/-- Each step with the time at which it is taken, counted in nanoseconds from `clock`. -/
def timed : (clock : Nat) → List Action → List (Nat × Action)
  | _, [] => []
  | clock, .slept duration :: rest =>
    (clock, .slept duration) :: timed (clock + duration.nanos) rest
  | clock, action :: rest => (clock, action) :: timed clock rest

theorem timed_append (clock : Nat) (before later : List Action) :
    timed clock (before ++ later) =
      timed clock before ++ timed (clock + elapsed before) later := by
  induction before generalizing clock with
  | nil => simp [timed, elapsed]
  | cons action before ih =>
    cases action <;> simp [timed, elapsed, ih, Nat.add_assoc]

end Journal

end TraceRelay
