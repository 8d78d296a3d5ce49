import TraceRelay.Proofs.Run.Turn

/-!
# The history of a run

A run reaches one state after another, each by a turn, until a turn ends it, a lookup hangs, or a
shutdown comes first. Facts about whole runs are proved by induction on how a state is reached, one
turn at a time, and then for each way in which a run can end.
-/

namespace TraceRelay.Run

variable {settings : Settings} {world : World} {sink : Sink}

/-- The states in which a run looks its target up, each with the journal so far and the lookups
that are still to come. -/
inductive Reaches (settings : Settings) (world : World) (sink : Sink) :
    List Action → List Target.Outcome → State → Prop
  | start (h : world.stop ≠ some .atStart) :
      Reaches settings world sink [] world.lookups (.initial settings world sink)
  | turn {journal outcome lookups state actions next}
      (before : Reaches settings world sink journal (outcome :: lookups) state)
      (again : turn settings world.stop outcome state = ⟨.again next, actions⟩) :
      Reaches settings world sink (journal ++ actions) lookups next

/-- The ways in which a run can end. -/
inductive Ends (settings : Settings) (world : World) (sink : Sink) :
    Journaled (Except Error Summary) → Prop
  | atStart (h : world.stop = some .atStart) :
      Ends settings world sink ⟨.ok {}, [.shutdown, .logged (.stopped {})]⟩
  | hanging {journal state} (before : Reaches settings world sink journal [] state) :
      Ends settings world sink ⟨.ok state.summary, journal ++
        [.started ⟨.lookup, Target.arguments settings.lookup targetName⟩, .shutdown,
          .logged (.stopped state.summary)]⟩
  | finished {journal outcome lookups state actions result}
      (before : Reaches settings world sink journal (outcome :: lookups) state)
      (last : turn settings world.stop outcome state = ⟨.finish result, actions⟩) :
      Ends settings world sink ⟨result, journal ++ actions⟩

theorem turn_eq_again_or_finish (settings : Settings) (stop : Option Stop)
    (outcome : Target.Outcome) (state : State) :
    (∃ next actions, turn settings stop outcome state = ⟨.again next, actions⟩) ∨
      ∃ result actions, turn settings stop outcome state = ⟨.finish result, actions⟩ := by
  obtain ⟨next, actions⟩ := turn settings stop outcome state
  cases next with
  | again next => exact .inl ⟨next, actions, rfl⟩
  | finish result => exact .inr ⟨result, actions, rfl⟩

/-- What is still to come of a run decides its end. -/
theorem Reaches.run_eq {journal : List Action} {lookups : List Target.Outcome} {state : State}
    (h : Reaches settings world sink journal lookups state) :
    run settings world sink =
      ⟨(turns settings world.stop lookups state).value,
        journal ++ (turns settings world.stop lookups state).journal⟩ := by
  induction h with
  | start h => simp [run, h]
  | turn _ again ih =>
    rw [ih]
    simp [turns, bind, again]

theorem Reaches.ends {journal : List Action} {lookups : List Target.Outcome} {state : State}
    (h : Reaches settings world sink journal lookups state) :
    Ends settings world sink (run settings world sink) := by
  induction lookups generalizing journal state with
  | nil =>
    rw [h.run_eq]
    exact .hanging h
  | cons outcome lookups ih =>
    -- Either the next state is reached and the rest of the lookups decides, or this is the end.
    rcases turn_eq_again_or_finish settings world.stop outcome state with
      ⟨next, actions, hagain⟩ | ⟨result, actions, hlast⟩
    · exact ih (h.turn hagain)
    · have hturns : turns settings world.stop (outcome :: lookups) state = ⟨result, actions⟩ := by
        simp [turns, bind, pure, hlast]
      rw [h.run_eq, hturns]
      exact .finished h hlast

/-- **How a run ends.** -/
theorem run_ends (settings : Settings) (world : World) (sink : Sink) :
    Ends settings world sink (run settings world sink) := by
  by_cases hstart : world.stop = some .atStart
  · have hrun : run settings world sink = ⟨.ok {}, [.shutdown, .logged (.stopped {})]⟩ := by
      simp [run, conclude, bind, pure, Journaled.act, Journaled.log, hstart]
    rw [hrun]
    exact .atStart hstart
  · exact (Reaches.start hstart).ends

theorem step_of_turn_eq {stop : Option Stop} {outcome : Target.Outcome} {state : State}
    {next : Next} {actions : List Action} (h : turn settings stop outcome state = ⟨next, actions⟩) :
    Step settings stop outcome state actions next := by
  have hstep := turn_step settings stop outcome state
  rw [h] at hstep
  exact hstep

end TraceRelay.Run
