import TraceRelay.Journal

/-!
# Reading a journal

What the actions of a part of a run do to the output, and which commands it starts or fails to
start. Most parts only log something, or log and write: neither starts a command, and the former
leaves the output alone.
-/

namespace TraceRelay

/-- Whether the action leaves nothing but a log entry. -/
def Action.isLog : Action → Bool
  | .logged _ => true
  | _ => false

/-- Whether the action logs, writes or flushes: all that handling lines can do. -/
def Action.isRelay : Action → Bool
  | .logged _ | .wrote _ | .flushed => true
  | _ => false

/-- The role of the command that the action starts or fails to start. -/
def Action.role? : Action → Option Role
  | .started command => some command.role
  | .refused command _ => some command.role
  | _ => none

theorem Action.isRelay_of_isLog {a : Action} (h : a.isLog = true) : a.isRelay = true := by
  cases a <;> simp_all [Action.isLog, Action.isRelay]

/-- The output after some actions. -/
def Output.afterAll (o : Output) (actions : List Action) : Output :=
  actions.foldl Output.after o

@[simp] theorem Output.afterAll_nil (o : Output) : o.afterAll [] = o := rfl

@[simp] theorem Output.afterAll_cons (o : Output) (a : Action) (actions : List Action) :
    o.afterAll (a :: actions) = (o.after a).afterAll actions := rfl

@[simp] theorem Output.afterAll_append (o : Output) (before later : List Action) :
    o.afterAll (before ++ later) = (o.afterAll before).afterAll later :=
  List.foldl_append

theorem Output.after_of_isLog {a : Action} (h : a.isLog = true) (o : Output) : o.after a = o := by
  cases a <;> simp_all [Action.isLog, Output.after]

/-- Log entries leave the output alone. -/
theorem Output.afterAll_of_isLog {actions : List Action} (h : ∀ a ∈ actions, a.isLog = true)
    (o : Output) : o.afterAll actions = o := by
  induction actions generalizing o with
  | nil => rfl
  | cons a actions ih =>
    rw [Output.afterAll_cons, Output.after_of_isLog (h a (by simp))]
    exact ih (fun b hb => h b (by simp [hb])) o

namespace Journal

theorem output_eq_afterAll (journal : List Action) : output journal = Output.afterAll {} journal :=
  rfl

/-- The commands that were to be started, in order, with those that were refused. -/
def attempts (journal : List Action) : List Command :=
  journal.filterMap fun
    | .started command => some command
    | .refused command _ => some command
    | _ => none

/-- The number of commands of a role that were started. -/
def started (role : Role) (journal : List Action) : Nat :=
  (commands journal).countP (·.role = role)

/-- The number of commands of a role that were started or refused. -/
def attempted (role : Role) (journal : List Action) : Nat :=
  (attempts journal).countP (·.role = role)

@[simp] theorem attempts_append (before later : List Action) :
    attempts (before ++ later) = attempts before ++ attempts later := by
  simp [attempts]

@[simp] theorem started_append (role : Role) (before later : List Action) :
    started role (before ++ later) = started role before + started role later := by
  simp [started]

@[simp] theorem attempted_append (role : Role) (before later : List Action) :
    attempted role (before ++ later) = attempted role before + attempted role later := by
  simp [attempted]

/-- Handling lines starts no command. -/
theorem commands_of_isRelay {actions : List Action} (h : ∀ a ∈ actions, a.isRelay = true) :
    commands actions = [] := by
  refine List.filterMap_eq_nil_iff.mpr fun a ha => ?_
  have := h a ha
  cases a <;> simp_all [Action.isRelay]

theorem attempts_of_isRelay {actions : List Action} (h : ∀ a ∈ actions, a.isRelay = true) :
    attempts actions = [] := by
  refine List.filterMap_eq_nil_iff.mpr fun a ha => ?_
  have := h a ha
  cases a <;> simp_all [Action.isRelay]

theorem started_of_isRelay {actions : List Action} (h : ∀ a ∈ actions, a.isRelay = true)
    (role : Role) : started role actions = 0 := by
  rw [started, commands_of_isRelay h]
  rfl

theorem attempted_of_isRelay {actions : List Action} (h : ∀ a ∈ actions, a.isRelay = true)
    (role : Role) : attempted role actions = 0 := by
  rw [attempted, attempts_of_isRelay h]
  rfl

/-- The steps that start a command or fail to, in order. -/
def spawns (journal : List Action) : List Action :=
  journal.filter (·.role?.isSome)

@[simp] theorem spawns_nil : spawns [] = [] := rfl

@[simp] theorem spawns_append (before later : List Action) :
    spawns (before ++ later) = spawns before ++ spawns later :=
  List.filter_append ..

theorem spawns_of_isRelay {actions : List Action} (h : ∀ a ∈ actions, a.isRelay = true) :
    spawns actions = [] := by
  refine List.filter_eq_nil_iff.mpr fun a ha => ?_
  have := h a ha
  cases a <;> simp_all [Action.isRelay, Action.role?]

theorem spawns_of_isLog {actions : List Action} (h : ∀ a ∈ actions, a.isLog = true) :
    spawns actions = [] :=
  spawns_of_isRelay fun a ha => Action.isRelay_of_isLog (h a ha)

@[simp] theorem attempted_nil (role : Role) : attempted role [] = 0 := rfl

theorem attempted_cons (role : Role) (a : Action) (journal : List Action) :
    attempted role (a :: journal) =
      attempted role journal + if a.role? = some role then 1 else 0 := by
  cases a <;> simp [attempted, attempts, Action.role?, List.countP_cons]

@[simp] theorem attempted_spawns (role : Role) (journal : List Action) :
    attempted role (spawns journal) = attempted role journal := by
  induction journal with
  | nil => rfl
  | cons a journal ih =>
    rw [spawns, List.filter_cons]
    split <;> simp_all [spawns, attempted_cons]

@[simp] theorem started_spawns (role : Role) (journal : List Action) :
    started role (spawns journal) = started role journal := by
  induction journal with
  | nil => rfl
  | cons a journal ih =>
    cases a <;> simp_all [spawns, Action.role?, started, commands, List.countP_cons]

end Journal

end TraceRelay
