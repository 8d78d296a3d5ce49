import TraceRelay.Proofs.Run.Accounts

/-!
# Which commands a run starts

A turn starts its lookup, and if that finds the target a tracer with the process id found; there is
nothing else that starts a command. So the commands of a run are those of its lookups, one after the
other, and every tracer comes right after a lookup that listed the process id it is given.
-/

namespace TraceRelay

/-- The step that starts a tracer against a process id, or fails to. -/
def Tracer.Outcome.attempt (settings : Settings) (pid : UInt32) : Tracer.Outcome → Action
  | .refused cause => .refused (tracerCommand settings pid) cause
  | .ran _ _ => .started (tracerCommand settings pid)

@[simp] theorem Tracer.role?_attempt (settings : Settings) (pid : UInt32)
    (tracer : Tracer.Outcome) : (tracer.attempt settings pid).role? = some .tracer := by
  cases tracer <;> rfl

@[simp] theorem Target.role?_attempt (settings : LookupSettings) (name : String)
    (outcome : Target.Outcome) : (outcome.attempt settings name).role? = some .lookup := by
  cases outcome <;> rfl

namespace Run

/-- The command line of the lookup. -/
def lookupCommand (settings : Settings) : Command :=
  ⟨.lookup, Target.arguments settings.lookup targetName⟩

@[simp] theorem role?_lookupCommand (settings : Settings) :
    (Action.started (lookupCommand settings)).role? = some .lookup := rfl

/-- What a turn starts: the lookup, and a tracer if the lookup finds its target. -/
def starts (settings : Settings) (outcome : Target.Outcome) (tracer : Tracer.Outcome) :
    List Action :=
  outcome.attempt settings.lookup targetName ::
    match (Target.resolve settings.lookup targetName outcome).value with
    | .ok pid => [tracer.attempt settings pid]
    | .error _ => []

/-- How many of the first lookups of a world find the target. -/
def World.found (settings : Settings) (world : World) (count : Nat) : Nat :=
  (world.lookups.take count).countP (!·.fails settings.lookup targetName)

/-- What the turn with the nth lookup of a world starts, counted from zero. Beyond the last lookup
there is one that hangs. -/
def World.starts (settings : Settings) (world : World) (n : Nat) : List Action :=
  match world.lookups[n]? with
  | some outcome => Run.starts settings outcome (world.tracer (world.found settings n))
  | none => [.started (lookupCommand settings)]

section Turn

variable {settings : Settings} {stop : Option Stop} {outcome : Target.Outcome} {state : State}
  {tracer : Tracer.Outcome} {pid : UInt32} {output : List UInt8} {ending : Tracer.Ending}
  {handled : Journaled Relayed} {notes rest : List Action}

theorem starts_of_error {error : Target.Error}
    (h : (Target.resolve settings.lookup targetName outcome).value = .error error) :
    starts settings outcome tracer = [outcome.attempt settings.lookup targetName] := by
  simp [starts, h]

theorem starts_of_ok (h : (Target.resolve settings.lookup targetName outcome).value = .ok pid) :
    starts settings outcome tracer =
      [outcome.attempt settings.lookup targetName, tracer.attempt settings pid] := by
  simp [starts, h]

/-- After the lookup's own command there is only what the rest of the turn starts. -/
theorem spawns_attempt_cons (settings : LookupSettings) (name : String) (outcome : Target.Outcome)
    (rest : List Action) : Journal.spawns (outcome.attempt settings name :: rest) =
      outcome.attempt settings name :: Journal.spawns rest := by
  simp [Journal.spawns]

theorem spawns_opening (settings : Settings) (outcome : Target.Outcome) (pid : UInt32) :
    Journal.spawns (opening settings outcome pid) =
      [outcome.attempt settings.lookup targetName, .started (tracerCommand settings pid)] := by
  obtain ⟨notes, hlogs, hopening⟩ := opening_eq_cons settings outcome pid
  rw [hopening, spawns_attempt_cons, Journal.spawns_append, Journal.spawns_of_isLog hlogs]
  rfl

/-- A turn with a session starts its lookup and its tracer, and nothing after them. -/
theorem InSession.spawns_append (h : InSession settings outcome state pid output ending handled)
    (hrest : Journal.spawns rest = []) :
    Journal.spawns (opening settings outcome pid ++ (handled.journal ++ rest)) =
      starts settings outcome state.nextTracer := by
  rw [Journal.spawns_append, Journal.spawns_append, Journal.spawns_of_isRelay h.isRelay, hrest,
    spawns_opening, starts_of_ok h.found, h.tracer]
  rfl

/-- **What a turn starts.** -/
theorem Step.spawns_eq {actions : List Action} {next : Next}
    (h : Step settings stop outcome state actions next) :
    Journal.spawns actions = starts settings outcome state.nextTracer := by
  cases h with
  | targetLost lost verdict logs =>
    rw [spawns_attempt_cons, Journal.spawns_of_isLog logs, starts_of_error lost]
  | retried lost verdict goesOn logs =>
    rw [spawns_attempt_cons, Journal.spawns_append, Journal.spawns_of_isLog logs,
      starts_of_error lost]
    rfl
  | stoppedInRetry lost verdict stops logs =>
    rw [spawns_attempt_cons, Journal.spawns_append, Journal.spawns_of_isLog logs,
      starts_of_error lost]
    rfl
  | tracerRefused found tracer logs =>
    rw [spawns_attempt_cons, Journal.spawns_append, Journal.spawns_of_isLog logs,
      starts_of_ok found, tracer]
    rfl
  | outputFailed session failure =>
    simpa using session.spawns_append Journal.spawns_nil
  | sessionStopped session done logs =>
    refine session.spawns_append ?_
    rw [← List.singleton_append, Journal.spawns_append, Journal.spawns_of_isLog logs]
    rfl
  | tracerGivenUp session done givesUp logs =>
    exact session.spawns_append (Journal.spawns_of_isLog logs)
  | paused session done goesOn awake logs =>
    refine session.spawns_append ?_
    rw [Journal.spawns_append, Journal.spawns_of_isLog logs]
    rfl
  | stoppedInPause session done goesOn stops logs =>
    refine session.spawns_append ?_
    rw [Journal.spawns_append, Journal.spawns_of_isLog logs]
    rfl

/-- A turn is one lookup. -/
theorem Step.attempted_lookup {actions : List Action} {next : Next}
    (h : Step settings stop outcome state actions next) :
    Journal.attempted .lookup actions = 1 := by
  rw [← Journal.attempted_spawns, h.spawns_eq, starts]
  split <;> simp [Journal.attempted_cons]

theorem Step.started_of_error {actions : List Action} {next : Next} {error : Target.Error}
    (h : Step settings stop outcome state actions next)
    (lost : (Target.resolve settings.lookup targetName outcome).value = .error error) :
    Journal.started .tracer actions = 0 := by
  rw [← Journal.started_spawns, h.spawns_eq, starts_of_error lost]
  cases outcome <;> rfl

theorem Step.started_of_inSession {actions : List Action} {next : Next}
    (h : Step settings stop outcome state actions next)
    (session : InSession settings outcome state pid output ending handled) :
    Journal.started .tracer actions = 1 := by
  rw [← Journal.started_spawns, h.spawns_eq, starts_of_ok session.found, session.tracer]
  cases outcome <;> rfl

theorem refused_ne_attempt {command : Command} {cause : OsError} (hrole : command.role = .tracer) :
    .refused command cause ≠ outcome.attempt settings.lookup targetName := by
  intro heq
  have hroles := congrArg Action.role? heq
  rw [Target.role?_attempt] at hroles
  simp [Action.role?, hrole] at hroles

/-- A tracer that a turn cannot start is the next one. -/
theorem of_refused_mem_starts {command : Command} {cause : OsError}
    (hmem : .refused command cause ∈ starts settings outcome tracer)
    (hrole : command.role = .tracer) :
    ∃ pid, (Target.resolve settings.lookup targetName outcome).value = .ok pid ∧
      tracer = .refused cause ∧ command = tracerCommand settings pid := by
  have hlookup : .refused command cause ≠ outcome.attempt settings.lookup targetName :=
    refused_ne_attempt hrole
  cases hfound : (Target.resolve settings.lookup targetName outcome).value with
  | error error =>
    rw [starts_of_error hfound] at hmem
    exact absurd (List.mem_singleton.mp hmem) hlookup
  | ok pid =>
    rw [starts_of_ok hfound] at hmem
    rcases List.mem_cons.mp hmem with hfirst | hsecond
    · exact absurd hfirst hlookup
    · cases tracer with
      | refused cause' =>
        cases List.mem_singleton.mp hsecond
        exact ⟨pid, rfl, rfl, rfl⟩
      | ran output ending => cases List.mem_singleton.mp hsecond

/-- A turn that finds its target ends the run when the tracer cannot be started. -/
theorem Step.of_refused {actions : List Action} {next : Next} {cause : OsError}
    (h : Step settings stop outcome state actions next)
    (hfound : (Target.resolve settings.lookup targetName outcome).value = .ok pid)
    (htracer : state.nextTracer = .refused cause) :
    ∃ notes, (∀ a ∈ notes, a.isLog = true) ∧
      actions = outcome.attempt settings.lookup targetName ::
        (notes ++ [.refused (tracerCommand settings pid) cause]) ∧
      next = .finish (.error (.tracer (.spawn settings.tracer.command cause))) := by
  cases h with
  | targetLost lost => simp [hfound] at lost
  | retried lost => simp [hfound] at lost
  | stoppedInRetry lost => simp [hfound] at lost
  | tracerRefused found tracer logs =>
    rw [hfound] at found
    rw [htracer] at tracer
    cases found
    cases tracer
    exact ⟨_, logs, rfl, rfl⟩
  | outputFailed session => cases htracer.symm.trans session.tracer
  | sessionStopped session => cases htracer.symm.trans session.tracer
  | tracerGivenUp session => cases htracer.symm.trans session.tracer
  | paused session => cases htracer.symm.trans session.tracer
  | stoppedInPause session => cases htracer.symm.trans session.tracer

/-- A turn that is not the last starts a tracer just when its lookup finds the target. -/
theorem Step.started_tracer {actions : List Action} {next : State}
    (h : Step settings stop outcome state actions (.again next)) :
    Journal.started .tracer actions =
      if outcome.fails settings.lookup targetName then 0 else 1 := by
  have hstep := h
  cases h with
  | retried lost => rw [hstep.started_of_error lost, if_pos (fails_of_error lost)]
  | paused session =>
    rw [hstep.started_of_inSession session, not_fails_of_ok session.found]
    rfl

end Turn

section History

variable {settings : Settings} {world : World} {sink : Sink} {journal : List Action}
  {lookups : List Target.Outcome} {state : State} {outcome : Target.Outcome}

/-- The lookup that is next. -/
theorem Reaches.lookup_eq (h : Reaches settings world sink journal (outcome :: lookups) state) :
    world.lookups[Journal.attempted .lookup journal]? = some outcome := by
  rw [← List.head?_drop, h.books.lookups]
  rfl

/-- Each lookup that found the target was followed by a session. -/
theorem Reaches.started_eq_found (h : Reaches settings world sink journal lookups state) :
    Journal.started .tracer journal =
      world.found settings (Journal.attempted .lookup journal) := by
  induction h with
  | start => rfl
  | turn before again ih =>
    have hstep := step_of_turn_eq again
    rw [Journal.started_append, Journal.attempted_append, hstep.attempted_lookup,
      hstep.started_tracer, ih, World.found, World.found, before.books.take_succ,
      List.countP_append, List.countP_singleton]
    cases Target.Outcome.fails settings.lookup targetName _ <;> rfl

/-- The part of a run up to the end of a turn. -/
theorem Reaches.spawns_append (h : Reaches settings world sink journal (outcome :: lookups) state)
    (hjournal : Journal.spawns journal =
      (List.range (Journal.attempted .lookup journal)).flatMap (world.starts settings))
    {actions : List Action} {next : Next}
    (hstep : Step settings world.stop outcome state actions next) :
    Journal.spawns (journal ++ actions) =
      (List.range (Journal.attempted .lookup (journal ++ actions))).flatMap
        (world.starts settings) := by
  have hstarts : world.starts settings (Journal.attempted .lookup journal) =
      starts settings outcome state.nextTracer := by
    rw [World.starts, h.lookup_eq, ← h.started_eq_found, ← h.books.nextTracer]
  rw [Journal.spawns_append, hjournal, hstep.spawns_eq, Journal.attempted_append,
    hstep.attempted_lookup, List.range_succ, List.flatMap_append, List.flatMap_singleton, hstarts]

theorem Reaches.spawns_eq (h : Reaches settings world sink journal lookups state) :
    Journal.spawns journal =
      (List.range (Journal.attempted .lookup journal)).flatMap (world.starts settings) := by
  induction h with
  | start => rfl
  | turn before again ih => exact before.spawns_append ih (step_of_turn_eq again)

/-- **What a run starts.** -/
theorem run_spawns (settings : Settings) (world : World) (sink : Sink) :
    let ran := run settings world sink
    Journal.spawns ran.journal =
      (List.range (Journal.attempted .lookup ran.journal)).flatMap (world.starts settings) := by
  have hends := run_ends settings world sink
  generalize run settings world sink = ran at hends
  dsimp only
  cases hends with
  | atStart => rfl
  | @hanging journal state before =>
    have hnone : world.lookups[Journal.attempted .lookup journal]? = none := by
      rw [← List.head?_drop, before.books.lookups]
      rfl
    rw [Journal.spawns_append, Journal.attempted_append, before.spawns_eq]
    show _ = (List.range (Journal.attempted .lookup journal + 1)).flatMap _
    rw [List.range_succ, List.flatMap_append, List.flatMap_singleton, World.starts, hnone]
    rfl
  | finished before last => exact before.spawns_append before.spawns_eq (step_of_turn_eq last)

/-- A tracer that cannot be started is the last step of the run. -/
theorem Step.of_mem_refused {stop : Option Stop} {actions : List Action} {next : Next}
    (h : Step settings stop outcome state actions next) {command : Command} {cause : OsError}
    (hmem : .refused command cause ∈ actions) (hrole : command.role = .tracer) :
    next = .finish (.error (.tracer (.spawn settings.tracer.command cause))) ∧
      ∃ init, actions = init ++ [.refused command cause] ∧ .refused command cause ∉ init := by
  have hstarts : .refused command cause ∈ starts settings outcome state.nextTracer := by
    rw [← h.spawns_eq, Journal.spawns, List.mem_filter]
    exact ⟨hmem, rfl⟩
  obtain ⟨pid, hfound, htracer, rfl⟩ := of_refused_mem_starts hstarts hrole
  obtain ⟨notes, hlogs, rfl, rfl⟩ := h.of_refused hfound htracer
  refine ⟨rfl, outcome.attempt settings.lookup targetName :: notes, rfl, ?_⟩
  rw [List.mem_cons, not_or]
  refine ⟨refused_ne_attempt hrole, ?_⟩
  intro hnote
  cases hlogs _ hnote

theorem Reaches.not_mem_refused (h : Reaches settings world sink journal lookups state)
    {command : Command} (hrole : command.role = .tracer) (cause : OsError) :
    .refused command cause ∉ journal := by
  induction h with
  | start => simp
  | turn _ again ih =>
    rw [List.mem_append, not_or]
    refine ⟨ih, ?_⟩
    intro hmem
    obtain ⟨hnext, -⟩ := (step_of_turn_eq again).of_mem_refused hmem hrole
    cases hnext

theorem eq_nil_of_append_cons_eq_concat {α : Type} {before after init : List α} {a b : α}
    (h : before ++ a :: after = init ++ [b]) (ha : a ∉ init) : after = [] := by
  rcases List.eq_nil_or_concat after with hnil | ⟨later, last, hlast⟩
  · exact hnil
  · rw [hlast, List.concat_eq_append, ← List.cons_append, ← List.append_assoc] at h
    obtain ⟨hinit, -⟩ := List.append_inj' h rfl
    refine absurd ?_ ha
    rw [← hinit]
    simp

/-- A run ends at once with a tracer that cannot be started. -/
theorem run_of_refused {before after : List Action} {command : Command} {cause : OsError}
    (h : (run settings world sink).journal = before ++ .refused command cause :: after)
    (hrole : command.role = .tracer) : after = [] ∧
      (run settings world sink).value =
        .error (.tracer (.spawn settings.tracer.command cause)) := by
  have hends := run_ends settings world sink
  generalize run settings world sink = ran at hends h
  have hmem : .refused command cause ∈ ran.journal := by
    rw [h]
    simp
  cases hends with
  | atStart => simp at hmem
  | hanging reached => simp [reached.not_mem_refused hrole] at hmem
  | @finished journal outcome lookups state actions result reached last =>
    have hbefore := reached.not_mem_refused hrole cause
    rw [List.mem_append, or_iff_right hbefore] at hmem
    obtain ⟨hnext, init, hactions, hinit⟩ := (step_of_turn_eq last).of_mem_refused hmem hrole
    dsimp only at h
    rw [hactions, ← List.append_assoc] at h
    refine ⟨eq_nil_of_append_cons_eq_concat h.symm ?_, by cases hnext; rfl⟩
    rw [List.mem_append, not_or]
    exact ⟨hbefore, hinit⟩

end History

/-! ## From one command to the next -/

/-- Whatever comes next is a lookup. -/
def LookupNext (steps : List Action) : Prop :=
  ∀ next ∈ steps.head?, next.role? = some .lookup

/-- Every tracer comes right after a lookup that found the process id it is started with, and every
lookup that finds something is followed by one attempt to start a tracer. -/
structure AttachedAfresh (settings : Settings) (world : World) (steps : List Action) : Prop where
  /-- A tracer, whether it can be started or not. -/
  tracer : ∀ before action after, steps = before ++ action :: after →
    action.role? = some .tracer → ∃ earlier outcome pid,
      before = earlier ++ [.started (lookupCommand settings)] ∧
      world.lookups[Journal.attempted .lookup earlier]? = some outcome ∧ outcome.Lists pid ∧
      (∃ tracer : Tracer.Outcome, action = tracer.attempt settings pid) ∧ LookupNext after
  /-- A lookup that finds something. -/
  found : ∀ before action after, steps = before ++ action :: after →
    action.role? = some .lookup → ∀ outcome pid,
      world.lookups[Journal.attempted .lookup before]? = some outcome → outcome.Lists pid →
      ∃ (tracer : Tracer.Outcome) (rest : List Action),
        after = tracer.attempt settings pid :: rest ∧ LookupNext rest
  /-- A lookup that finds nothing. -/
  lost : ∀ before action after, steps = before ++ action :: after →
    action.role? = some .lookup → ∀ outcome,
      world.lookups[Journal.attempted .lookup before]? = some outcome →
      (∀ pid, ¬outcome.Lists pid) → LookupNext after

section Turns

variable {settings : Settings} {world : World} {n : Nat} {before after : List Action}
  {action : Action}

/-- A turn starts a lookup alone, or one that finds a process id and a tracer against it. -/
theorem World.starts_cases (settings : Settings) (world : World) (n : Nat) :
    (∃ lookup, world.starts settings n = [lookup] ∧ lookup.role? = some .lookup ∧
      ∀ outcome, world.lookups[n]? = some outcome → ∀ pid, ¬outcome.Lists pid) ∨
    ∃ outcome pid, world.lookups[n]? = some outcome ∧ outcome.Lists pid ∧
      world.starts settings n = [.started (lookupCommand settings),
        (world.tracer (world.found settings n)).attempt settings pid] := by
  unfold World.starts
  cases hlookup : world.lookups[n]? with
  | none => exact .inl ⟨_, rfl, rfl, by simp⟩
  | some outcome =>
    dsimp only
    cases hfound : (Target.resolve settings.lookup targetName outcome).value with
    | error error =>
      refine .inl ⟨_, starts_of_error hfound, by simp, ?_⟩
      intro outcome' houtcome pid hlists
      cases houtcome
      rw [← Target.resolve_eq_ok_iff settings.lookup targetName, hfound] at hlists
      cases hlists
    | ok pid =>
      have hlists := (Target.resolve_eq_ok_iff ..).mp hfound
      obtain ⟨stdout, first, others, rfl, -⟩ := id hlists
      exact .inr ⟨_, pid, rfl, hlists, starts_of_ok hfound⟩

/-- The first turns attempt one lookup each. -/
theorem World.attempted_starts (settings : Settings) (world : World) (n : Nat) :
    Journal.attempted .lookup ((List.range n).flatMap (world.starts settings)) = n := by
  induction n with
  | zero => rfl
  | succ n ih =>
    have hone : Journal.attempted .lookup (world.starts settings n) = 1 := by
      rcases world.starts_cases settings n with ⟨lookup, hstarts, hrole, -⟩ |
        ⟨outcome, pid, -, -, hstarts⟩
      · simp [hstarts, Journal.attempted_cons, hrole]
      · simp [hstarts, Journal.attempted_cons]
    rw [List.range_succ, List.flatMap_append, List.flatMap_singleton, Journal.attempted_append, ih,
      hone]

theorem World.lookupNext_starts (settings : Settings) (world : World) (n : Nat) :
    LookupNext (world.starts settings n) := by
  rcases world.starts_cases settings n with ⟨lookup, hstarts, hrole, -⟩ |
    ⟨outcome, pid, -, -, hstarts⟩
  · simpa [LookupNext, hstarts] using hrole
  · simp [LookupNext, hstarts]

/-- Each step of some turns is one of a certain turn. By induction on the number of turns: the step
is one of the last turn, or of those before it. -/
theorem World.exists_turn
    (h : (List.range n).flatMap (world.starts settings) = before ++ action :: after) :
    ∃ i left right rest, world.starts settings i = left ++ action :: right ∧
      before = (List.range i).flatMap (world.starts settings) ++ left ∧
      after = right ++ rest ∧ LookupNext rest := by
  induction n generalizing after with
  | zero => simp at h
  | succ n ih =>
    rw [List.range_succ, List.flatMap_append, List.flatMap_singleton] at h
    rcases List.append_eq_append_iff.mp h with ⟨left, hbefore, hstarts⟩ | ⟨later, hrange, hafter⟩
    · exact ⟨n, left, after, [], hstarts, hbefore, by simp, by simp [LookupNext]⟩
    · cases later with
      | nil =>
        refine ⟨n, [], after, [], hafter.symm, ?_, by simp, by simp [LookupNext]⟩
        rw [hrange]
        simp
      | cons first later =>
        rw [List.cons_append, List.cons.injEq] at hafter
        obtain ⟨rfl, hafter⟩ := hafter
        obtain ⟨i, left, right, rest, hstarts, hbefore, hlater, hnext⟩ := ih hrange
        refine ⟨i, left, right, rest ++ world.starts settings n, hstarts, hbefore, ?_, ?_⟩
        · rw [hafter, hlater, List.append_assoc]
        · cases rest with
          | nil => exact world.lookupNext_starts settings n
          | cons => exact hnext

/-- Where a step can stand: it is a lookup that finds nothing, one that finds something, or the
tracer after one. -/
theorem World.step_cases
    (h : (List.range n).flatMap (world.starts settings) = before ++ action :: after) :
    (action.role? = some .lookup ∧ LookupNext after ∧
      ∀ outcome, world.lookups[Journal.attempted .lookup before]? = some outcome →
        ∀ pid, ¬outcome.Lists pid) ∨
    (∃ outcome pid tracer rest,
      world.lookups[Journal.attempted .lookup before]? = some outcome ∧ outcome.Lists pid ∧
      action = .started (lookupCommand settings) ∧
      after = Tracer.Outcome.attempt settings pid tracer :: rest ∧ LookupNext rest) ∨
    ∃ earlier outcome pid tracer, before = earlier ++ [.started (lookupCommand settings)] ∧
      world.lookups[Journal.attempted .lookup earlier]? = some outcome ∧ outcome.Lists pid ∧
      action = Tracer.Outcome.attempt settings pid tracer ∧ LookupNext after := by
  obtain ⟨i, left, right, rest, hturn, rfl, rfl, hnext⟩ := world.exists_turn h
  rcases world.starts_cases settings i with ⟨lookup, hstarts, hrole, hlost⟩ |
    ⟨outcome, pid, houtcome, hlists, hstarts⟩
  · rw [hstarts] at hturn
    obtain ⟨rfl, rfl, rfl⟩ : left = [] ∧ lookup = action ∧ right = [] := by
      cases left <;> simp_all
    left
    simpa [world.attempted_starts settings i] using ⟨hrole, hnext, hlost⟩
  · rw [hstarts] at hturn
    right
    rcases left with _ | ⟨first, left⟩
    · left
      simp only [List.nil_append, List.cons.injEq] at hturn
      obtain ⟨rfl, rfl⟩ := hturn
      refine ⟨outcome, pid, _, rest, ?_, hlists, rfl, rfl, hnext⟩
      rw [List.append_nil, world.attempted_starts]
      exact houtcome
    · right
      obtain ⟨rfl, rfl, rfl, rfl⟩ : first = .started (lookupCommand settings) ∧ left = [] ∧
          action = (world.tracer (world.found settings i)).attempt settings pid ∧ right = [] := by
        cases left <;> simp_all
      refine ⟨_, outcome, pid, _, rfl, ?_, hlists, rfl, hnext⟩
      rw [world.attempted_starts]
      exact houtcome

/-- **Turns attach their tracers afresh.** -/
theorem World.attachedAfresh (settings : Settings) (world : World) (n : Nat) :
    AttachedAfresh settings world ((List.range n).flatMap (world.starts settings)) := by
  refine ⟨?_, ?_, ?_⟩
  · intro before action after h hrole
    rcases world.step_cases h with ⟨hlookup, -⟩ | ⟨_, _, _, _, -, -, rfl, -⟩ |
      ⟨earlier, outcome, pid, tracer, hbefore, houtcome, hlists, rfl, hnext⟩
    · rw [hlookup] at hrole
      cases hrole
    · cases hrole
    · exact ⟨earlier, outcome, pid, hbefore, houtcome, hlists, ⟨tracer, rfl⟩, hnext⟩
  · intro before action after h hrole outcome pid houtcome hlists
    rcases world.step_cases h with ⟨-, -, hlost⟩ |
      ⟨outcome', pid', tracer, rest, houtcome', hlists', -, hafter, hnext⟩ |
      ⟨_, _, _, _, -, -, -, rfl, -⟩
    · exact absurd hlists (hlost outcome houtcome pid)
    · rw [houtcome, Option.some.injEq] at houtcome'
      subst houtcome'
      obtain rfl := hlists.unique hlists'
      exact ⟨tracer, rest, hafter, hnext⟩
    · simp at hrole
  · intro before action after h hrole outcome houtcome hlost
    rcases world.step_cases h with ⟨-, hnext, -⟩ |
      ⟨outcome', pid, _, _, houtcome', hlists, -⟩ | ⟨_, _, _, _, -, -, -, rfl, -⟩
    · exact hnext
    · rw [houtcome, Option.some.injEq] at houtcome'
      exact absurd (houtcome' ▸ hlists) (hlost pid)
    · simp at hrole

end Turns

/-- **Every tracer is attached to a process id that has just been looked up.** The commands of a run
are those of its lookups, each that finds its target followed by a tracer with the process id found;
so no tracer is started but right after such a lookup. A tracer that cannot be started is the last
step of the run. -/
theorem every_tracer_attached_afresh (settings : Settings) (world : World) (sink : Sink) :
    let ran := run settings world sink
    let steps := Journal.spawns ran.journal
    steps = (List.range (Journal.attempted .lookup ran.journal)).flatMap (world.starts settings) ∧
    AttachedAfresh settings world steps ∧
    ∀ before command cause after, ran.journal = before ++ .refused command cause :: after →
      command.role = .tracer → after = [] ∧
        ran.value = .error (.tracer (.spawn settings.tracer.command cause)) := by
  have hsteps := run_spawns settings world sink
  refine ⟨hsteps, ?_, fun _ _ _ _ => run_of_refused⟩
  dsimp only at hsteps ⊢
  rw [hsteps]
  exact world.attachedAfresh settings _

/-- A session with the process 7, a lookup that finds nothing, and a process 9 that no tracer can be
started against. -/
def secondRefused : World where
  lookups := [foundTarget, lostTarget, .ended (.exited 0) [0x39, 0x0A], foundTarget]
  tracers := [.ran [] (.closes (.exited 0)), .refused .notFound]

theorem every_tracer_attached_afresh_refused :
    let ran := run {} secondRefused bytewise
    Journal.spawns ran.journal =
      [.started (lookupCommand {}), .started (tracerCommand {} 7), .started (lookupCommand {}),
        .started (lookupCommand {}), .refused (tracerCommand {} 9) .notFound] ∧
    AttachedAfresh {} secondRefused (Journal.spawns ran.journal) ∧
    ran.value = .error (.tracer (.spawn "strace" .notFound)) := by
  have hattempted : Journal.attempted .lookup (run {} secondRefused bytewise).journal = 3 := by
    decide +kernel
  obtain ⟨hsteps, hafresh, hrefused⟩ := every_tracer_attached_afresh {} secondRefused bytewise
  rw [hattempted] at hsteps
  have hpart : .refused (tracerCommand {} 9) .notFound ∈
      (run {} secondRefused bytewise).journal := by decide +kernel
  obtain ⟨before, after, hjournal⟩ := List.append_of_mem hpart
  exact ⟨hsteps.trans (by decide +kernel), hafresh, (hrefused _ _ _ _ hjournal rfl).2⟩

end Run

end TraceRelay
