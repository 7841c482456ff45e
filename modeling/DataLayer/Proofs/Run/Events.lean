import DataLayer.Proofs.Run.Phases

/-!
The order of events in a run. The observers and the actions of all phases make one sequence of
events. A run goes through this sequence until the first of them fails, and the error of that event
gets its phase as its stage.
-/

namespace DataLayer

/-- What happens in a run: an observer is told of a phase, or the phase acts. -/
inductive Event (m : Type → Type) where
  | before (observer : Observer m) (phase : Phase m)
  | action (phase : Phase m)
  | after (observer : Observer m) (phase : Phase m)

namespace Event

variable {m : Type → Type}

/-- The phase during which an event happens. -/
def phase : Event m → Phase m
  | before _ p | action p | after _ p => p

def step : Event m → RunM m Unit
  | before o p => o.before p.name
  | action p => p.action
  | after o p => o.after p.name

end Event

/-- The observers in order, the phase, and the observers again. -/
def Phase.events {m : Type → Type} (observers : List (Observer m)) (p : Phase m) :
    List (Event m) :=
  observers.map (.before · p) ++ [.action p] ++ observers.map (.after · p)

/-- The events of all phases in order. -/
def eventsOf {m : Type → Type} (observers : List (Observer m)) (phases : List (Phase m)) :
    List (Event m) :=
  phases.flatMap (·.events observers)

variable {σ : Type}

/-- Events that succeed one after the other lead from one state and store to another. -/
inductive Performs : List (Event (StateM σ)) → RunState → σ → RunState → σ → Prop where
  | nil (st : RunState) (s : σ) : Performs [] st s st s
  | cons {event : Event (StateM σ)} {rest : List (Event (StateM σ))} {st st₁ st₂ : RunState}
      {s s₁ s₂ : σ} (h : (event.step.run.run st).run s = ((.ok (), st₁), s₁))
      (hrest : Performs rest st₁ s₁ st₂ s₂) : Performs (event :: rest) st s st₂ s₂

/-! Steps in order. -/

theorem run_runSteps_cons (x : RunM (StateM σ) Unit) (xs : List (RunM (StateM σ) Unit))
    (st : RunState) (s : σ) :
    ((runSteps (x :: xs)).run.run st).run s =
      match (x.run.run st).run s with
      | ((.error e, st'), s') => ((.error e, st'), s')
      | ((.ok _, st'), s') => ((runSteps xs).run.run st').run s' := by
  rw [runSteps, RunM.run_bind]
  obtain ⟨⟨result, st'⟩, s'⟩ := (x.run.run st).run s
  cases result <;> rfl

theorem run_runSteps_append (xs ys : List (RunM (StateM σ) Unit)) (st : RunState) (s : σ) :
    ((runSteps (xs ++ ys)).run.run st).run s =
      match ((runSteps xs).run.run st).run s with
      | ((.error e, st'), s') => ((.error e, st'), s')
      | ((.ok _, st'), s') => ((runSteps ys).run.run st').run s' := by
  induction xs generalizing st s with
  | nil => rfl
  | cons x xs ih =>
    rw [List.cons_append, run_runSteps_cons, run_runSteps_cons]
    obtain ⟨⟨result, st'⟩, s'⟩ := (x.run.run st).run s
    cases result with
    | error e => rfl
    | ok _ => exact ih st' s'

/-- Steps that are run in one stage are each run in this stage. -/
theorem run_inStage_runSteps (stage : String) (xs : List (RunM (StateM σ) Unit)) (st : RunState)
    (s : σ) :
    ((inStage stage (runSteps xs)).run.run st).run s =
      ((runSteps (xs.map (inStage stage))).run.run st).run s := by
  induction xs generalizing st s with
  | nil => rfl
  | cons x xs ih =>
    rw [List.map_cons, run_runSteps_cons, run_inStage, run_inStage, run_runSteps_cons]
    obtain ⟨⟨result, st'⟩, s'⟩ := (x.run.run st).run s
    cases result with
    | error e => rfl
    | ok _ => exact (run_inStage stage (runSteps xs) st' s').symm.trans (ih st' s')

/-! Phases as sequences of events. -/

/-- An event, with its phase as the stage of a failure. -/
def Event.staged (event : Event (StateM σ)) : RunM (StateM σ) Unit :=
  inStage event.phase.description event.step

theorem run_phase (observers : List (Observer (StateM σ))) (p : Phase (StateM σ)) (st : RunState)
    (s : σ) :
    ((p.run observers).run.run st).run s =
      ((runSteps ((p.events observers).map Event.staged)).run.run st).run s := by
  have hsteps : (p.steps observers).map (inStage p.description) =
      (p.events observers).map Event.staged := by
    simp only [Phase.steps, Phase.events, List.map_append, List.map_map, List.map_singleton]
    rfl
  rw [Phase.run, run_inStage_runSteps, hsteps]

theorem run_runPhases (observers : List (Observer (StateM σ))) (phases : List (Phase (StateM σ)))
    (st : RunState) (s : σ) :
    ((runPhases observers phases).run.run st).run s =
      ((runSteps ((eventsOf observers phases).map Event.staged)).run.run st).run s := by
  induction phases generalizing st s with
  | nil => rfl
  | cons p phases ih =>
    have hevents : (eventsOf observers (p :: phases)).map Event.staged =
        (p.events observers).map Event.staged ++ (eventsOf observers phases).map Event.staged := by
      rw [eventsOf, List.flatMap_cons, List.map_append, eventsOf]
    have hphases : runPhases observers (p :: phases) =
        runSteps (p.run observers :: phases.map (·.run observers)) := rfl
    rw [hphases, run_runSteps_cons, run_phase, hevents, run_runSteps_append]
    obtain ⟨⟨result, st'⟩, s'⟩ :=
      ((runSteps ((p.events observers).map Event.staged)).run.run st).run s
    cases result with
    | error e => rfl
    | ok _ => exact ih st' s'

/-! Events that succeed, and the first that does not. -/

theorem run_staged (event : Event (StateM σ)) (st : RunState) (s : σ) :
    (event.staged.run.run st).run s =
      match (event.step.run.run st).run s with
      | ((.error e, st'), s') => ((.error (e.inStage event.phase.description), st'), s')
      | ((.ok a, st'), s') => ((.ok a, st'), s') :=
  run_inStage event.phase.description event.step st s

theorem run_events_eq_ok {events : List (Event (StateM σ))} {st st' : RunState} {s s' : σ} :
    ((runSteps (events.map Event.staged)).run.run st).run s = ((.ok (), st'), s') ↔
      Performs events st s st' s' := by
  induction events generalizing st s with
  | nil =>
    constructor
    · intro h
      cases h
      exact .nil _ _
    · intro h
      cases h
      rfl
  | cons event events ih =>
    rw [List.map_cons, run_runSteps_cons, run_staged]
    cases hstep : (event.step.run.run st).run s with
    | mk ending s₁ =>
      obtain ⟨result, st₁⟩ := ending
      cases result with
      | error e =>
        constructor
        · intro h
          cases h
        · intro h
          cases h with
          | cons hok _ =>
            rw [hstep] at hok
            cases hok
      | ok _ =>
        dsimp only
        rw [ih]
        constructor
        · intro h
          exact .cons hstep h
        · intro h
          cases h with
          | cons hok hrest =>
            rw [hstep] at hok
            cases hok
            exact hrest

/-- A failure comes from an event of which all before it have succeeded. -/
theorem run_events_eq_error {events : List (Event (StateM σ))} {st st' : RunState} {s s' : σ}
    {e' : RunError} :
    ((runSteps (events.map Event.staged)).run.run st).run s = ((.error e', st'), s') ↔
      ∃ before event after st₁ s₁ e, events = before ++ event :: after ∧
        Performs before st s st₁ s₁ ∧ (event.step.run.run st₁).run s₁ = ((.error e, st'), s') ∧
        e' = e.inStage event.phase.description := by
  induction events generalizing st s with
  | nil =>
    constructor
    · intro h
      cases h
    · rintro ⟨before, event, after, _, _, _, hsplit, -⟩
      exact absurd hsplit (by simp)
  | cons first events ih =>
    rw [List.map_cons, run_runSteps_cons, run_staged]
    cases hstep : (first.step.run.run st).run s with
    | mk ending s₂ =>
      obtain ⟨result, st₂⟩ := ending
      cases result with
      | error e =>
        constructor
        · intro h
          cases h
          exact ⟨[], first, events, st, s, e, rfl, .nil _ _, hstep, rfl⟩
        · rintro ⟨before, event, after, st₁, s₁, e₁, hsplit, hbefore, hfails, rfl⟩
          cases hbefore with
          | nil =>
            obtain ⟨rfl, -⟩ := List.cons.inj hsplit
            rw [hstep] at hfails
            cases hfails
            rfl
          | cons hok _ =>
            obtain ⟨rfl, -⟩ := List.cons.inj hsplit
            rw [hstep] at hok
            cases hok
      | ok _ =>
        dsimp only
        rw [ih]
        constructor
        · rintro ⟨before, event, after, st₁, s₁, e, rfl, hbefore, hfails, rfl⟩
          exact ⟨first :: before, event, after, st₁, s₁, e, rfl, .cons hstep hbefore, hfails, rfl⟩
        · rintro ⟨before, event, after, st₁, s₁, e, hsplit, hbefore, hfails, rfl⟩
          cases hbefore with
          | nil =>
            obtain ⟨rfl, -⟩ := List.cons.inj hsplit
            rw [hstep] at hfails
            cases hfails
          | cons hok hrest =>
            obtain ⟨rfl, hevents⟩ := List.cons.inj hsplit
            rw [hstep] at hok
            cases hok
            exact ⟨_, event, after, st₁, s₁, e, hevents, hrest, hfails, rfl⟩

/-- A run succeeds if all its events do, in the order of the phases. Otherwise it ends with the
first event that fails: those before it have succeeded, and none behind it happens. The error of the
run is that of the event, with the phase as its stage unless it has one; its cause stays, and no
further stage is added. -/
theorem events_happen_in_order [FileSystem (StateM σ)] (observers : List (Observer (StateM σ)))
    (added : List (Phase (StateM σ))) (st : RunState) (s : σ) :
    let phases := Phase.resolution ++ added
    let events := eventsOf observers phases
    let ending := ((runPhases observers phases).run.run st).run s
    (∀ st' s', ending = ((.ok (), st'), s') ↔ Performs events st s st' s') ∧
    ∀ e' st' s', ending = ((.error e', st'), s') ↔
      ∃ before event after st₁ s₁ e, events = before ++ event :: after ∧
        Performs before st s st₁ s₁ ∧ (event.step.run.run st₁).run s₁ = ((.error e, st'), s') ∧
        (e' = match e.stages with
          | [] => ⟨[event.phase.description], e.fault⟩
          | _ :: _ => e) ∧
        e'.fault = e.fault ∧ ∀ stage, e'.inStage stage = e' := by
  intro phases events ending
  have hending : ending = ((runSteps (events.map Event.staged)).run.run st).run s :=
    run_runPhases observers phases st s
  constructor
  · intro st' s'
    rw [hending]
    exact run_events_eq_ok
  · intro e' st' s'
    rw [hending, run_events_eq_error]
    constructor
    · rintro ⟨before, event, after, st₁, s₁, e, hsplit, hbefore, hfails, rfl⟩
      exact ⟨before, event, after, st₁, s₁, e, hsplit, hbefore, hfails, rfl,
        e.inStage_fault _, fun stage => e.inStage_inStage _ stage⟩
    · rintro ⟨before, event, after, st₁, s₁, e, hsplit, hbefore, hfails, rfl, -⟩
      exact ⟨before, event, after, st₁, s₁, e, hsplit, hbefore, hfails, rfl⟩

end DataLayer
