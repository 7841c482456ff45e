import DataLayer.Proofs.Files.SteadyTree
import DataLayer.Proofs.Run.Modes

/-!
A run that is repeated. What a run reads is the schema package, and what it writes is told by that,
by the configuration and by the templates. So unless it has written into the package itself, it
makes the same files once more, finds the same directories, and leaves everything as it is.
-/

namespace DataLayer

open FileStore SteadyStore

variable {σ : Type} [FileSystem (StateM σ)] {s s' : σ}

theorem withoutPackage_ne_ready (c : Config) (fault : RunFault) (reason : SkipReason)
    (package : String) : withoutPackage c fault reason ≠ .ok (.ready package) := by
  unfold withoutPackage
  split
  · simp
  · simp

variable [SteadyStore σ]

/-- A run goes ahead with the package that it is given, or else with that of the configuration. -/
theorem preflight_eq_ready_iff {c : Config} {o : RunOptions} {package : String} :
    ((preflight c o : StateM σ (Except RunError Readiness)).run s).1 = .ok (.ready package) ↔
      c.enabled = true ∧ c.isEnabledFor o.configuration = true ∧
        (o.package <|> c.packagePath? o.configuration) = some package ∧
        (fileAt? s package).isSome = true := by
  have hreturn (result : Except RunError Readiness) :
      ((pure result : StateM σ (Except RunError Readiness)).run s).1 = result := rfl
  unfold preflight
  cases c.enabled with
  | false =>
    simp only [Bool.not_false, if_true, hreturn]
    simp
  | true =>
    cases c.isEnabledFor o.configuration with
    | false =>
      simp only [Bool.not_true, Bool.not_false, Bool.false_eq_true, if_false, if_true, hreturn]
      simp
    | true =>
      simp only [Bool.not_true, Bool.false_eq_true, if_false, true_and]
      cases (o.package <|> c.packagePath? o.configuration) with
      | none => simp only [hreturn, withoutPackage_ne_ready, reduceCtorEq, false_and]
      | some path =>
        dsimp only
        rw [(ReadOnly.isFile path).run_bind, isFile_eq]
        cases hfile : (fileAt? s path).isSome with
        | false =>
          simp only [Bool.false_eq_true, if_false, hreturn, withoutPackage_ne_ready, false_iff]
          rintro ⟨heq, hpackage⟩
          obtain rfl := Option.some.inj heq
          rw [hfile] at hpackage
          contradiction
        | true =>
          simp only [if_true, hreturn, Except.ok.injEq, Readiness.ready.injEq, Option.some.injEq]
          constructor
          · rintro rfl
            exact ⟨rfl, hfile⟩
          · exact fun h => h.1

/-- What is loaded depends on what is read. -/
theorem load_congr {package : String}
    (h : ((readFile package : StateM σ (Option (List UInt8))).run s').1 =
      ((readFile package : StateM σ (Option (List UInt8))).run s).1) :
    ((Package.load package : StateM σ (Except SchemaError Schema.Tree)).run s').1 =
      ((Package.load package : StateM σ (Except SchemaError Schema.Tree)).run s).1 := by
  unfold Package.load
  rw [(ReadOnly.readFile package).run_bind, (ReadOnly.readFile package).run_bind, h]
  cases ((readFile package : StateM σ (Option (List UInt8))).run s).1 with
  | none => rfl
  | some bytes =>
    dsimp only
    cases Package.documentOf package bytes <;> rfl

/-- A run that has written files has gone ahead with its package, and has rendered the schema in
it. -/
theorem run_generate_written {r : Renderer} {c : Config} {o : RunOptions} {g : Generation}
    (h : (generate r c o .write : StateM σ (Except RunError Outcome)).run s =
      (.ok (.generated g), s')) :
    ((preflight c o : StateM σ (Except RunError Readiness)).run s).1 = .ok (.ready g.package) ∧
    ∃ t st, ((Package.load g.package : StateM σ (Except SchemaError Schema.Tree)).run s).1 = .ok t ∧
      (RunState.resolved c g.package t).rendered r = .ok st ∧
      (OutputFile.flush st.files : StateM σ (Except String (List String))).run s =
        (.ok g.written, s') ∧
      g = ⟨g.package, st.model, st.files, st.diagnostics, g.written⟩ := by
  rw [run_generate_loaded] at h
  cases hready : ((preflight c o : StateM σ (Except RunError Readiness)).run s).1 with
  | error e =>
    simp only [hready] at h
    cases h
  | ok readiness =>
    cases readiness with
    | skip reason =>
      simp only [hready] at h
      cases h
    | ready package =>
      simp only [hready] at h
      cases hload :
        ((Package.load package : StateM σ (Except SchemaError Schema.Tree)).run s).1 with
      | error e =>
        simp only [hload] at h
        cases h
      | ok t =>
        simp only [hload, Mode.rendered] at h
        cases hrendered : (RunState.resolved c package t).rendered r with
        | error e =>
          simp only [hrendered] at h
          cases h
        | ok st =>
          simp only [hrendered, run_writeFiles] at h
          cases hflush :
            (OutputFile.flush st.files : StateM σ (Except String (List String))).run s with
          | mk result u =>
            cases result with
            | error path =>
              simp only [hflush] at h
              cases h
            | ok written =>
              simp only [hflush] at h
              cases h
              exact ⟨rfl, t, st, hload, hrendered, hflush, rfl⟩

/-- A run that has written files can be repeated on what it has left, unless one of its files is the
package that it has read. It makes the same once more, and leaves everything as it is. -/
theorem generate_again (r : Renderer) (c : Config) (o : RunOptions) {g : Generation}
    (h : (generate r c o .write : StateM σ (Except RunError Outcome)).run s =
      (.ok (.generated g), s'))
    (hpackage : ∀ path ∈ g.written, fileAt? s' path ≠ fileAt? s' g.package) :
    (generate r c o .write : StateM σ (Except RunError Outcome)).run s' =
      (.ok (.generated g), s') := by
  obtain ⟨hready, t, st, hload, hrendered, hflush, hg⟩ := run_generate_written h
  obtain ⟨henabled, hconfiguration, hpath, hfile⟩ := preflight_eq_ready_iff.mp hready
  obtain ⟨f, hf⟩ := Option.isSome_iff_exists.mp hfile
  obtain ⟨hwritten, hflushes⟩ := flush_flushes hflush
  have hf' : fileAt? s' g.package = some f := hflushes.grows _ _ hf
  have hoctets : octets? s' f = octets? s f := by
    apply hflushes.octets
    intro file hmem hfile
    apply hpackage file.path
    · rw [hwritten]
      exact List.mem_map_of_mem hmem
    · rw [hfile, hf']
  have hready' : ((preflight c o : StateM σ (Except RunError Readiness)).run s').1 =
      .ok (.ready g.package) :=
    preflight_eq_ready_iff.mpr ⟨henabled, hconfiguration, hpath, by rw [hf']; rfl⟩
  have hload' := load_congr (readFile_eq (steps_flush hflush) hf hoctets)
  rw [run_generate_loaded, hready']
  dsimp only
  rw [hload', hload]
  simp only [Mode.rendered]
  rw [hrendered]
  dsimp only
  rw [run_writeFiles, flush_again hflush]
  dsimp only
  rw [← hg]

/-- Whether a run has written files and none of them is its package. -/
def Outcome.sparesPackage (result : Except RunError Outcome) (t : FileTree) : Bool :=
  match result with
  | .ok (.generated g) => g.written.all fun path => t.filePlace? path != t.filePlace? g.package
  | _ => false

/-- The class and its interface are written again, with the templates that they come from. -/
theorem generate_again_withPackage :
    ∃ g s', (generate (fun template _ => pure template) Config.bare ⟨"Debug", none⟩ .write :
        StateM FileTree (Except RunError Outcome)).run FileTree.withPackage =
          (.ok (.generated g), s') ∧
      (generate (fun template _ => pure template) Config.bare ⟨"Debug", none⟩ .write :
        StateM FileTree (Except RunError Outcome)).run s' = (.ok (.generated g), s') := by
  have hspares : (fun ending => Outcome.sparesPackage ending.1 ending.2)
      ((generate (fun template _ => pure template) Config.bare ⟨"Debug", none⟩ .write :
        StateM FileTree (Except RunError Outcome)).run FileTree.withPackage) = true := by
    decide +kernel
  cases hrun : (generate (fun template _ => pure template) Config.bare ⟨"Debug", none⟩ .write :
      StateM FileTree (Except RunError Outcome)).run FileTree.withPackage with
  | mk result s' =>
    rw [hrun] at hspares
    rcases result with e | reason | g
    · cases hspares
    · cases hspares
    · have hpackage : ∀ path ∈ g.written, s'.filePlace? path ≠ s'.filePlace? g.package := by
        intro path hpath
        exact bne_iff_ne.mp (List.all_eq_true.mp hspares path hpath)
      exact ⟨g, s', rfl, generate_again _ _ _ hrun hpackage⟩

end DataLayer
