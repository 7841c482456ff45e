import DataLayer.Proofs.Files.Tree
import DataLayer.Run.Generation

/-!
A run changes files at its very end only. Everything before the files are written reads from the
store, whatever comes of it, and what is written then is what the phases have made.
-/

namespace DataLayer

variable {σ : Type} {α β : Type}

/-- A program that leaves the store it runs on as it is. -/
def ReadOnly (x : StateM σ α) : Prop := ∀ s, (x.run s).2 = s

namespace ReadOnly

theorem pure (a : α) : ReadOnly (Pure.pure a : StateM σ α) := fun _ => rfl

/-- What follows runs on the same store. -/
theorem run_bind {x : StateM σ α} (hx : ReadOnly x) (f : α → StateM σ β) (s : σ) :
    (x >>= f).run s = (f (x.run s).1).run s := by
  show (f (x.run s).1).run (x.run s).2 = _
  rw [hx s]

theorem bind {x : StateM σ α} {f : α → StateM σ β} (hx : ReadOnly x) (hf : ∀ a, ReadOnly (f a)) :
    ReadOnly (x >>= f) := by
  intro s
  rw [hx.run_bind f s]
  exact hf _ s

variable [FileSystem (StateM σ)] [FileStore σ]

theorem isFile (path : String) : ReadOnly (isFile path : StateM σ Bool) :=
  FileStore.isFile_state path

theorem readFile (path : String) : ReadOnly (readFile path : StateM σ (Option (List UInt8))) :=
  FileStore.readFile_state path

theorem load (path : String) :
    ReadOnly (Package.load path : StateM σ (Except SchemaError Schema.Tree)) := by
  refine (readFile path).bind fun content => ?_
  cases content with
  | none => exact pure _
  | some bytes =>
    dsimp only
    cases Package.documentOf path bytes with
    | error e => exact pure _
    | ok document => exact pure _

theorem preflight (c : Config) (o : RunOptions) :
    ReadOnly (preflight c o : StateM σ (Except RunError Readiness)) := by
  unfold DataLayer.preflight
  split
  · exact pure _
  · split
    · exact pure _
    · split
      · exact pure _
      · next path hpath =>
        refine (isFile path).bind fun found => ?_
        cases found with
        | false => exact pure _
        | true => exact pure _

end ReadOnly

/-- A step of a run that leaves the store as it is, from every state of the run. -/
def ReadOnlyStep (x : RunM (StateM σ) α) : Prop := ∀ st, ReadOnly (x.run.run st)

namespace ReadOnlyStep

theorem pure (a : α) : ReadOnlyStep (Pure.pure a : RunM (StateM σ) α) := fun _ _ => rfl

theorem throw (e : RunError) : ReadOnlyStep (throw e : RunM (StateM σ) α) := fun _ _ => rfl

theorem get : ReadOnlyStep (get : RunM (StateM σ) RunState) := fun _ _ => rfl

theorem modify (f : RunState → RunState) : ReadOnlyStep (modify f : RunM (StateM σ) Unit) :=
  fun _ _ => rfl

theorem lift {x : StateM σ α} (hx : ReadOnly x) : ReadOnlyStep (liftM x : RunM (StateM σ) α) := by
  intro st
  show ReadOnly ((x >>= fun a => Pure.pure (a, st)) >>= fun p => Pure.pure (Except.ok p.1, p.2))
  exact (hx.bind fun _ => ReadOnly.pure _).bind fun _ => ReadOnly.pure _

theorem bind {x : RunM (StateM σ) α} {f : α → RunM (StateM σ) β} (hx : ReadOnlyStep x)
    (hf : ∀ a, ReadOnlyStep (f a)) : ReadOnlyStep (x >>= f) := by
  intro st
  show ReadOnly (x.run.run st >>= fun p => (ExceptT.bindCont f p.1).run p.2)
  refine (hx st).bind fun p => ?_
  obtain ⟨result, st'⟩ := p
  cases result with
  | error e => exact ReadOnly.pure _
  | ok a => exact hf a st'

theorem inStage (stage : String) {x : RunM (StateM σ) Unit} (hx : ReadOnlyStep x) :
    ReadOnlyStep (inStage stage x) := by
  intro st
  unfold DataLayer.inStage
  simp only [tryCatch, tryCatchThe, MonadExceptOf.tryCatch, ExceptT.tryCatch, ExceptT.run_mk]
  rw [StateT.run_bind]
  refine ReadOnly.bind (hx st) fun p => ?_
  obtain ⟨result, st'⟩ := p
  cases result with
  | error e => exact ReadOnly.pure _
  | ok _ => exact ReadOnly.pure _

theorem runSteps {steps : List (RunM (StateM σ) Unit)} (h : ∀ x ∈ steps, ReadOnlyStep x) :
    ReadOnlyStep (runSteps steps) := by
  induction steps with
  | nil => exact pure ()
  | cons x rest ih =>
    have hrest := ih fun y hy => h y (List.mem_cons_of_mem x hy)
    exact (h x (List.mem_cons_self ..)).bind fun _ => hrest

/-- Phases of which each only reads, together with observers that only read, only read. -/
theorem runPhases {observers : List (Observer (StateM σ))} {phases : List (Phase (StateM σ))}
    (hbefore : ∀ ob ∈ observers, ∀ name, ReadOnlyStep (ob.before name))
    (hafter : ∀ ob ∈ observers, ∀ name, ReadOnlyStep (ob.after name))
    (hphases : ∀ p ∈ phases, ReadOnlyStep p.action) :
    ReadOnlyStep (runPhases observers phases) := by
  refine runSteps fun x hx => ?_
  obtain ⟨p, hp, rfl⟩ := List.mem_map.mp hx
  refine inStage _ (runSteps fun y hy => ?_)
  simp only [Phase.steps, List.mem_append, List.mem_map, List.mem_singleton] at hy
  rcases hy with (⟨ob, hob, rfl⟩ | rfl) | ⟨ob, hob, rfl⟩
  · exact hbefore ob hob p.name
  · exact hphases p hp
  · exact hafter ob hob p.name

end ReadOnlyStep

/-! The phases of a run. -/

namespace Phase

theorem loadedSchema_readOnly : ReadOnlyStep (loadedSchema : RunM (StateM σ) Schema.Tree) := by
  refine ReadOnlyStep.get.bind fun st => ?_
  cases st.schema with
  | none => exact ReadOnlyStep.throw _
  | some t => exact ReadOnlyStep.pure t

theorem addFiles_readOnly (files : RunState → Except RenderFailure (List OutputFile)) :
    ReadOnlyStep (addFiles files : RunM (StateM σ) Unit) := by
  refine ReadOnlyStep.get.bind fun st => ?_
  cases files st with
  | error f => exact ReadOnlyStep.throw _
  | ok new => exact ReadOnlyStep.modify _

theorem rendering_readOnly (r : Renderer) {p : Phase (StateM σ)} (h : p ∈ rendering r) :
    ReadOnlyStep p.action := by
  simp only [rendering, List.mem_cons, List.not_mem_nil, or_false] at h
  rcases h with rfl | rfl
  all_goals exact addFiles_readOnly _

variable [FileSystem (StateM σ)] [FileStore σ]

theorem load_readOnly : ReadOnlyStep (load : Phase (StateM σ)).action := by
  refine ReadOnlyStep.get.bind fun st => ?_
  refine (ReadOnlyStep.lift (ReadOnly.load st.package)).bind fun result => ?_
  cases result with
  | error e => exact ReadOnlyStep.throw _
  | ok t => exact ReadOnlyStep.modify _

theorem resolution_readOnly {p : Phase (StateM σ)} (h : p ∈ resolution) :
    ReadOnlyStep p.action := by
  simp only [resolution, List.mem_cons, List.not_mem_nil, or_false] at h
  rcases h with rfl | rfl | rfl | rfl
  · exact load_readOnly
  all_goals exact loadedSchema_readOnly.bind fun _ => ReadOnlyStep.modify _

end Phase

namespace Mode

variable [FileSystem (StateM σ)] [FileStore σ]

theorem phases_readOnly (mode : Mode) (r : Renderer) {p : Phase (StateM σ)}
    (h : p ∈ mode.phases r) : ReadOnlyStep p.action := by
  cases mode with
  | resolve => exact Phase.resolution_readOnly h
  | render | write =>
    rcases List.mem_append.mp h with h | h
    · exact Phase.resolution_readOnly h
    · exact Phase.rendering_readOnly r h

theorem run_readOnly (mode : Mode) (r : Renderer) (c : Config) (package : String) :
    ReadOnly (mode.run r c package : StateM σ (Except RunError RunState)) := by
  have hphases : ReadOnlyStep (runPhases [] (mode.phases r) : RunM (StateM σ) Unit) :=
    ReadOnlyStep.runPhases (by simp) (by simp) fun p hp => mode.phases_readOnly r hp
  refine (hphases (.start c package)).bind fun p => ?_
  obtain ⟨result, st⟩ := p
  cases result with
  | error e => exact ReadOnly.pure _
  | ok _ => exact ReadOnly.pure _

end Mode

/-! Whole runs. -/

variable [FileSystem (StateM σ)]

theorem run_writeFiles (files : List OutputFile) (s : σ) :
    (writeFiles .write files : StateM σ (Except RunError (List String))).run s =
      match (OutputFile.flush files : StateM σ (Except String (List String))).run s with
      | (.error path, s') =>
        (.error ((RunError.ofFault (.unwritable path)).inStage "writing generated files"), s')
      | (.ok written, s') => (.ok written, s') := by
  rw [writeFiles, StateT.run_bind]
  obtain ⟨result, t⟩ := (OutputFile.flush files : StateM σ (Except String (List String))).run s
  cases result <;> rfl

variable [FileStore σ]

/-- The configuration is checked first, then the phases run, and files are written last. -/
theorem run_generate_eq (r : Renderer) (c : Config) (o : RunOptions) (mode : Mode) (s : σ) :
    (generate r c o mode : StateM σ (Except RunError Outcome)).run s =
      match ((preflight c o : StateM σ (Except RunError Readiness)).run s).1 with
      | .error e => (.error e, s)
      | .ok (.skip reason) => (.ok (.skipped reason), s)
      | .ok (.ready package) =>
        match ((mode.run r c package : StateM σ (Except RunError RunState)).run s).1 with
        | .error e => (.error e, s)
        | .ok st =>
          match (writeFiles mode st.files : StateM σ (Except RunError (List String))).run s with
          | (.error e, s') => (.error e, s')
          | (.ok written, s') =>
            (.ok (.generated ⟨package, st.model, st.files, st.diagnostics, written⟩), s') := by
  have hpreflight : ReadOnly (preflight c o : StateM σ (Except RunError Readiness)) :=
    ReadOnly.preflight c o
  unfold generate
  rw [hpreflight.run_bind]
  rcases ((preflight c o : StateM σ (Except RunError Readiness)).run s).1 with
    e | reason | package
  · rfl
  · rfl
  · dsimp only
    rw [(mode.run_readOnly r c package).run_bind]
    cases ((mode.run r c package : StateM σ (Except RunError RunState)).run s).1 with
    | error e => rfl
    | ok st =>
      dsimp only
      rw [StateT.run_bind]
      obtain ⟨written, t⟩ :=
        (writeFiles mode st.files : StateM σ (Except RunError (List String))).run s
      cases written <;> rfl

/-- A run either ends before any file is written, or all its phases have succeeded and it goes on
to write the files that they have made. -/
theorem run_generate (r : Renderer) (c : Config) (o : RunOptions) (mode : Mode) (s : σ) :
    (∃ e, (generate r c o mode : StateM σ (Except RunError Outcome)).run s = (.error e, s)) ∨
    (∃ reason, (generate r c o mode : StateM σ (Except RunError Outcome)).run s =
      (.ok (.skipped reason), s)) ∨
    ∃ (package : String) (st : RunState),
      ((mode.run r c package : StateM σ (Except RunError RunState)).run s).1 = .ok st ∧
      (generate r c o mode : StateM σ (Except RunError Outcome)).run s =
        match (writeFiles mode st.files : StateM σ (Except RunError (List String))).run s with
        | (.error e, s') => (.error e, s')
        | (.ok written, s') =>
          (.ok (.generated ⟨package, st.model, st.files, st.diagnostics, written⟩), s') := by
  rw [run_generate_eq]
  rcases ((preflight c o : StateM σ (Except RunError Readiness)).run s).1 with
    e | reason | package
  · exact Or.inl ⟨e, rfl⟩
  · exact Or.inr (Or.inl ⟨reason, rfl⟩)
  · dsimp only
    cases hrun : ((mode.run r c package : StateM σ (Except RunError RunState)).run s).1 with
    | error e => exact Or.inl ⟨e, rfl⟩
    | ok st => exact Or.inr (Or.inr ⟨package, st, hrun, rfl⟩)

theorem generate_readOnly (r : Renderer) (c : Config) (o : RunOptions) {mode : Mode}
    (h : mode ≠ .write) : ReadOnly (generate r c o mode : StateM σ (Except RunError Outcome)) := by
  intro s
  rcases run_generate r c o mode s with ⟨e, he⟩ | ⟨reason, hreason⟩ | ⟨package, st, -, hst⟩
  · rw [he]
  · rw [hreason]
  · rw [hst]
    cases mode with
    | resolve | render => rfl
    | write => contradiction

/-- A run that only resolves or renders changes nothing, and neither does one that is skipped or
fails before its files are written. One that succeeds has written what it has made, in order: every
path leads to a file with the content of the last one made for it, and all else is as before. -/
theorem generate_writes_last (r : Renderer) (c : Config) (o : RunOptions) (s : σ) :
    ((generate r c o .resolve : StateM σ (Except RunError Outcome)).run s).2 = s ∧
    ((generate r c o .render : StateM σ (Except RunError Outcome)).run s).2 = s ∧
    match (generate r c o .write : StateM σ (Except RunError Outcome)).run s with
    | (.error e, s') => (∃ path, e.fault = .unwritable path) ∨ s' = s
    | (.ok (.skipped _), s') => s' = s
    | (.ok (.generated g), s') =>
      g.written = g.files.map (·.path) ∧
      (∀ path ∈ g.written, ∃ f : FileStore.File σ, FileStore.fileAt? s' path = some f ∧
        ∃ before file after, g.files = before ++ file :: after ∧
          FileStore.fileAt? s' file.path = some f ∧
          FileStore.octets? s' f = some (Text.octets file.content) ∧
          ∀ later ∈ after, FileStore.fileAt? s' later.path ≠ some f) ∧
      ∀ f : FileStore.File σ, (∀ path ∈ g.written, FileStore.fileAt? s' path ≠ some f) →
        FileStore.octets? s' f = FileStore.octets? s f := by
  refine ⟨generate_readOnly r c o (by decide) s, generate_readOnly r c o (by decide) s, ?_⟩
  rcases run_generate r c o .write s with ⟨e, he⟩ | ⟨reason, hreason⟩ | ⟨package, st, -, hst⟩
  · rw [he]
    exact Or.inr rfl
  · rw [hreason]
  · rw [hst, run_writeFiles]
    cases hflush : (OutputFile.flush st.files : StateM σ (Except String (List String))).run s with
    | mk result s' =>
      cases result with
      | error path => exact Or.inl ⟨path, rfl⟩
      | ok written =>
        obtain ⟨rfl, hflushes⟩ := FileStore.flush_flushes hflush
        refine ⟨rfl, fun path hpath => ?_, fun f hf => hflushes.octets f fun file hfile => ?_⟩
        · obtain ⟨file, hfile, rfl⟩ := List.mem_map.mp hpath
          exact hflushes.holds file hfile
        · exact hf file.path (List.mem_map_of_mem hfile)

/-- A configuration with nothing but names and paths in it. -/
def Config.bare : Config where
  enabled := true
  features := ⟨true, true, true, true⟩
  asyncDefaults := ⟨false, false, false⟩
  requirePackage := true
  classAccess := "public"
  sourceProject := none
  package := some "schema.dacpac"
  modelNamespace := "Models"
  accessNamespace := "Access"
  modelDirectory := "out"
  accessDirectory := "out"
  className := "Store"
  fileNameInfix := none
  usings := []
  enabledConfigurations := []
  overrides := ⟨[], [], [], [], [], []⟩

/-- A disk with a schema package in which no table is declared. -/
def FileTree.withPackage : FileTree :=
  FileTree.empty.put ["work", "schema.dacpac"] (.file (Package.Archive.encode
    [(Text.octets Package.entryName, Text.octets "<DataSchemaModel></DataSchemaModel>")]))

/-- The paths that a run has written, each with the place that it leads to afterwards. -/
def Outcome.writtenPlaces (result : Except RunError Outcome) (t : FileTree) :
    List (String × Option Place) :=
  match result with
  | .ok (.generated g) => g.written.map fun path => (path, t.filePlace? path)
  | _ => []

/-- The class and its interface are written, here as the templates that they come from, and the
package stays as it is. -/
theorem generate_writes_last_withPackage :
    ∃ g s', (generate (fun template _ => pure template) Config.bare ⟨"Debug", none⟩ .write :
        StateM FileTree (Except RunError Outcome)).run FileTree.withPackage =
          (.ok (.generated g), s') ∧
      g.written = ["out/Store.cs", "out/IStore.cs"] ∧
      (∀ path ∈ g.written, ∃ p, s'.filePlace? path = some p ∧
        ∃ file ∈ g.files, s'.octetsAt? p = some (Text.octets file.content)) ∧
      s'.octetsAt? ["work", "schema.dacpac"] =
        FileTree.withPackage.octetsAt? ["work", "schema.dacpac"] := by
  have hplaces : (fun ending => Outcome.writtenPlaces ending.1 ending.2)
      ((generate (fun template _ => pure template) Config.bare ⟨"Debug", none⟩ .write :
        StateM FileTree (Except RunError Outcome)).run FileTree.withPackage) =
      [("out/Store.cs", some ["work", "out", "Store.cs"]),
        ("out/IStore.cs", some ["work", "out", "IStore.cs"])] := by
    decide +kernel
  have hlast := (generate_writes_last (fun template _ => pure template) Config.bare
    ⟨"Debug", none⟩ FileTree.withPackage).2.2
  revert hplaces hlast
  obtain ⟨result, s'⟩ := (generate (fun template _ => pure template) Config.bare
    ⟨"Debug", none⟩ .write : StateM FileTree (Except RunError Outcome)).run FileTree.withPackage
  intro hplaces hlast
  rcases result with e | reason | g
  · cases hplaces
  · cases hplaces
  · obtain ⟨-, hholds, hothers⟩ := hlast
    have hwritten : g.written = ["out/Store.cs", "out/IStore.cs"] := by
      have hfirst := congrArg (List.map Prod.fst) hplaces
      simpa [Outcome.writtenPlaces, Function.comp_def] using hfirst
    simp only [Outcome.writtenPlaces, hwritten] at hplaces
    refine ⟨g, s', rfl, hwritten, fun path hpath => ?_, hothers _ fun path hpath => ?_⟩
    · obtain ⟨p, hp, before, file, after, hfiles, -, hcontent, -⟩ := hholds path hpath
      exact ⟨p, hp, file, by simp [hfiles], hcontent⟩
    · show s'.filePlace? path ≠ some ["work", "schema.dacpac"]
      rw [hwritten] at hpath
      simp only [List.map_cons, List.map_nil, List.cons.injEq, Prod.mk.injEq] at hplaces
      simp only [List.mem_cons, List.not_mem_nil, or_false] at hpath
      rcases hpath with rfl | rfl
      · rw [hplaces.1.2]
        decide
      · rw [hplaces.2.1.2]
        decide

end DataLayer
