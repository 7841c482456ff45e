import DataLayer.Run.Generation

/-!
What the phases of a run make of its state, one after the other. A run that succeeds has resolved
the model of the schema that it has loaded, and its files are those that this model is rendered to:
the files of the entities, then the class and its interface.
-/

namespace DataLayer

variable {σ : Type} {α β : Type}

/-! Steps from a state. -/

theorem RunM.run_bind (x : RunM (StateM σ) α) (f : α → RunM (StateM σ) β) (st : RunState) (s : σ) :
    ((x >>= f).run.run st).run s =
      match (x.run.run st).run s with
      | ((.error e, st'), s') => ((.error e, st'), s')
      | ((.ok a, st'), s') => ((f a).run.run st').run s' := by
  rw [ExceptT.run_bind, StateT.run_bind, StateT.run_bind]
  cases hending : (x.run.run st).run s with
  | mk ending s' =>
    obtain ⟨result, st'⟩ := ending
    cases result <;> rfl

theorem RunM.run_get_bind (f : RunState → RunM (StateM σ) β) (st : RunState) (s : σ) :
    ((get >>= f).run.run st).run s = ((f st).run.run st).run s := rfl

theorem RunM.run_lift (x : StateM σ α) (st : RunState) (s : σ) :
    ((liftM x : RunM (StateM σ) α).run.run st).run s =
      ((.ok (x.run s).1, st), (x.run s).2) := rfl

theorem run_inStage (stage : String) (x : RunM (StateM σ) Unit) (st : RunState) (s : σ) :
    ((inStage stage x).run.run st).run s =
      match (x.run.run st).run s with
      | ((.error e, st'), s') => ((.error (e.inStage stage), st'), s')
      | ((.ok a, st'), s') => ((.ok a, st'), s') := by
  cases hending : (x.run.run st).run s with
  | mk ending s' =>
    obtain ⟨result, st'⟩ := ending
    have hrun : StateT.run (StateT.run x st) s = ((result, st'), s') := hending
    unfold inStage
    simp only [tryCatch, tryCatchThe, MonadExceptOf.tryCatch, ExceptT.tryCatch, ExceptT.run_mk]
    rw [StateT.run_bind, StateT.run_bind, hrun]
    cases result <;> rfl

/-- The first phase that fails ends the run. -/
theorem run_runPhases_cons (p : Phase (StateM σ)) (ps : List (Phase (StateM σ))) (st : RunState)
    (s : σ) :
    ((runPhases [] (p :: ps)).run.run st).run s =
      match (p.action.run.run st).run s with
      | ((.error e, st'), s') => ((.error (e.inStage p.description), st'), s')
      | ((.ok _, st'), s') => ((runPhases [] ps).run.run st').run s' := by
  have hsteps : runPhases [] (p :: ps) =
      inStage p.description (p.action >>= fun _ => pure ()) >>= fun _ => runPhases [] ps := rfl
  rw [hsteps, RunM.run_bind, run_inStage, RunM.run_bind]
  obtain ⟨⟨result, st'⟩, s'⟩ := (p.action.run.run st).run s
  cases result <;> rfl

namespace Phase

/-! The phases. -/

section Phases

variable {st st' : RunState} {s s' : σ}

theorem run_loadedSchema {t : Schema.Tree} (h : st.schema = some t) :
    ((loadedSchema : RunM (StateM σ) Schema.Tree).run.run st).run s = ((.ok t, st), s) := by
  unfold loadedSchema
  rw [RunM.run_get_bind, h]
  rfl

theorem run_entities {t : Schema.Tree} (h : st.schema = some t) :
    ((entities : Phase (StateM σ)).action.run.run st).run s =
      ((.ok (), { st with model := { st.model with
        entities := (Model.entitiesOf st.config t.tables).1 } }.warnAll "entities"
          (Model.entitiesOf st.config t.tables).2), s) := by
  show ((loadedSchema >>= _ : RunM (StateM σ) Unit).run.run st).run s = _
  rw [RunM.run_bind, run_loadedSchema h]
  rfl

theorem run_accessors {t : Schema.Tree} (h : st.schema = some t) :
    ((accessors : Phase (StateM σ)).action.run.run st).run s =
      ((.ok (), { st with model := (Model.addKeys st.config t.keys st.model).1 }.warnAll "methods"
          (Model.addKeys st.config t.keys st.model).2), s) := by
  show ((loadedSchema >>= _ : RunM (StateM σ) Unit).run.run st).run s = _
  rw [RunM.run_bind, run_loadedSchema h]
  rfl

theorem run_routines {t : Schema.Tree} (h : st.schema = some t) :
    ((routines : Phase (StateM σ)).action.run.run st).run s =
      ((.ok (), { st with model := { st.model with routines := t.routines } }), s) := by
  show ((loadedSchema >>= _ : RunM (StateM σ) Unit).run.run st).run s = _
  rw [RunM.run_bind, run_loadedSchema h]
  rfl

/-- Files are added to those that there are, or none at all. -/
theorem run_addFiles (files : RunState → Except RenderFailure (List OutputFile)) :
    ((addFiles files : RunM (StateM σ) Unit).run.run st).run s =
      match files st with
      | .error f => ((.error (.ofFault (.render f)), st), s)
      | .ok new => ((.ok (), { st with files := st.files ++ new }), s) := by
  unfold addFiles
  rw [RunM.run_get_bind]
  cases files st <;> rfl

variable [FileSystem (StateM σ)]

theorem run_load :
    ((load : Phase (StateM σ)).action.run.run st).run s =
      match (Package.load st.package : StateM σ (Except SchemaError Schema.Tree)).run s with
      | (.error e, s') => ((.error (.ofFault (.schema e)), st), s')
      | (.ok t, s') => ((.ok (), { st with schema := some t }), s') := by
  show ((get >>= fun st : RunState =>
    (liftM (Package.load st.package : StateM σ (Except SchemaError Schema.Tree)) >>= _ :
      RunM (StateM σ) Unit)).run.run st).run s = _
  rw [RunM.run_get_bind, RunM.run_bind, RunM.run_lift]
  obtain ⟨result, s'⟩ :=
    (Package.load st.package : StateM σ (Except SchemaError Schema.Tree)).run s
  cases result <;> rfl

end Phases

end Phase

/-! Runs of phases. -/

namespace RunState

/-- The state after a schema has been loaded. -/
def loaded (c : Config) (package : String) (t : Schema.Tree) : RunState :=
  { start c package with schema := some t }

/-- The state after a schema has been resolved. -/
def resolved (c : Config) (package : String) (t : Schema.Tree) : RunState where
  config := c
  package := package
  schema := some t
  model := (Model.ofSchema c t).1
  files := []
  diagnostics :=
    (Model.entitiesOf c t.tables).2.map (fun w => .warning "entities" w.message) ++
    (Model.addKeys c t.keys { Model.empty with
      entities := (Model.entitiesOf c t.tables).1 }).2.map fun w => .warning "methods" w.message

section Resolved

variable (c : Config) (package : String) (t : Schema.Tree)

@[simp] theorem resolved_config : (resolved c package t).config = c := rfl

@[simp] theorem resolved_model : (resolved c package t).model = (Model.ofSchema c t).1 := rfl

@[simp] theorem resolved_files : (resolved c package t).files = [] := rfl

end Resolved

/-- The state after the files of a model have been rendered. -/
def rendered (r : Renderer) (st : RunState) : Except RunError RunState :=
  match r.entityFiles st.config st.model st.model.entities with
  | .error f => .error ((RunError.ofFault (.render f)).inStage "rendering entity files")
  | .ok files =>
    match r.aggregateFiles st.config st.model with
    | .error f => .error ((RunError.ofFault (.render f)).inStage "rendering the data-access class")
    | .ok files' => .ok { st with files := st.files ++ files ++ files' }

end RunState

/-- The state that phases lead to, if they succeed. -/
def RunState.ofEnding (ending : Except RunError Unit × RunState) : Except RunError RunState :=
  ending.1.map fun _ => ending.2

/-- How phases end, and the store that they leave. -/
def endOf (phases : List (Phase (StateM σ))) (st : RunState) (s : σ) :
    Except RunError RunState × σ :=
  let ending := ((runPhases [] phases).run.run st).run s
  (RunState.ofEnding ending.1, ending.2)

theorem endOf_cons (p : Phase (StateM σ)) (ps : List (Phase (StateM σ))) (st : RunState) (s : σ) :
    endOf (p :: ps) st s =
      match (p.action.run.run st).run s with
      | ((.error e, _), s') => (.error (e.inStage p.description), s')
      | ((.ok _, st'), s') => endOf ps st' s' := by
  unfold endOf
  rw [run_runPhases_cons]
  obtain ⟨⟨result, st'⟩, s'⟩ := (p.action.run.run st).run s
  cases result <;> rfl

theorem endOf_rendering (r : Renderer) (st : RunState) (s : σ) :
    endOf (Phase.rendering r) st s = (st.rendered r, s) := by
  unfold Phase.rendering RunState.rendered
  rw [endOf_cons, Phase.renderEntities, Phase.run_addFiles]
  cases r.entityFiles st.config st.model st.model.entities with
  | error f => rfl
  | ok files =>
    dsimp only
    rw [endOf_cons, Phase.renderAggregate, Phase.run_addFiles]
    dsimp only
    cases r.aggregateFiles st.config st.model <;> rfl

theorem endOf_eq_ok {phases : List (Phase (StateM σ))} {st st' : RunState} {s s' : σ} :
    endOf phases st s = (.ok st', s') ↔
      ((runPhases [] phases).run.run st).run s = ((.ok (), st'), s') := by
  unfold endOf
  obtain ⟨⟨result, st₁⟩, s₁⟩ := ((runPhases [] phases).run.run st).run s
  cases result with
  | error e =>
    constructor
    · intro h
      cases h
    · intro h
      cases h
  | ok _ =>
    constructor
    · intro h
      cases h
      rfl
    · intro h
      cases h
      rfl

/-- The phases that resolve a schema when it has been loaded. -/
theorem endOf_loaded (c : Config) (package : String) (t : Schema.Tree)
    (rest : List (Phase (StateM σ))) (s : σ) :
    endOf ([Phase.entities, Phase.accessors, Phase.routines] ++ rest) (.loaded c package t) s =
      endOf rest (.resolved c package t) s := by
  show endOf (Phase.entities :: Phase.accessors :: Phase.routines :: rest) _ s = _
  rw [endOf_cons, Phase.run_entities rfl]
  dsimp only
  rw [endOf_cons, Phase.run_accessors rfl]
  dsimp only
  rw [endOf_cons, Phase.run_routines rfl]
  rfl

variable [FileSystem (StateM σ)]

theorem endOf_resolution (c : Config) (package : String) (rest : List (Phase (StateM σ))) (s : σ) :
    endOf (Phase.resolution ++ rest) (.start c package) s =
      match (Package.load package : StateM σ (Except SchemaError Schema.Tree)).run s with
      | (.error e, s') =>
        (.error ((RunError.ofFault (.schema e)).inStage "loading the schema package"), s')
      | (.ok t, s') => endOf rest (.resolved c package t) s' := by
  have hphases : (Phase.resolution ++ rest : List (Phase (StateM σ))) =
      Phase.load :: ([Phase.entities, Phase.accessors, Phase.routines] ++ rest) := rfl
  rw [hphases, endOf_cons, Phase.run_load]
  have hpackage : (RunState.start c package).package = package := rfl
  rw [hpackage]
  obtain ⟨result, s'⟩ := (Package.load package : StateM σ (Except SchemaError Schema.Tree)).run s
  cases result with
  | error e => rfl
  | ok t => exact endOf_loaded c package t rest s'

namespace Mode

/-- What the phases behind the resolution make of a state. -/
def rendered (r : Renderer) (st : RunState) : Mode → Except RunError RunState
  | .resolve => .ok st
  | .render | .write => st.rendered r

/-- A run is decided by the schema in its package. -/
theorem run_eq (mode : Mode) (r : Renderer) (c : Config) (package : String) (s : σ) :
    (mode.run r c package : StateM σ (Except RunError RunState)).run s =
      match (Package.load package : StateM σ (Except SchemaError Schema.Tree)).run s with
      | (.error e, s') =>
        (.error ((RunError.ofFault (.schema e)).inStage "loading the schema package"), s')
      | (.ok t, s') => (mode.rendered r (.resolved c package t), s') := by
  have hrun : (mode.run r c package : StateM σ (Except RunError RunState)).run s =
      endOf (mode.phases r) (.start c package) s := by
    unfold run endOf
    rw [StateT.run_bind]
    obtain ⟨⟨result, st'⟩, s'⟩ :=
      ((runPhases [] (mode.phases r) : RunM (StateM σ) Unit).run.run (.start c package)).run s
    cases result <;> rfl
  rw [hrun]
  cases mode with
  | resolve =>
    have hphases : phases r .resolve = (Phase.resolution ++ [] : List (Phase (StateM σ))) := rfl
    rw [hphases, endOf_resolution]
    rfl
  | render | write =>
    unfold phases
    rw [endOf_resolution]
    simp only [endOf_rendering]
    rfl

end Mode

end DataLayer
