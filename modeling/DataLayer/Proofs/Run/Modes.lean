import DataLayer.Proofs.Run.Generation
import DataLayer.Proofs.Run.Phases
import DataLayer.Report.Operation

/-!
Runs of different length from the same store. They do the same as far as they go together, so a run
that only resolves, or only renders, tells how a longer one ends unless that fails to write; and
reports show what these runs have found.
-/

namespace DataLayer

/-- The remarks of a run; one that is skipped makes none. -/
def Outcome.diagnostics : Outcome → List Diagnostic
  | skipped _ => []
  | generated g => g.diagnostics

/-- The paths of the files of a run. -/
def Outcome.paths : Outcome → List String
  | skipped _ => []
  | generated g => g.files.map (·.path)

/-- Rendering adds files to a state and changes nothing else. -/
theorem RunState.exists_files_of_rendered {r : Renderer} {st st' : RunState}
    (h : st.rendered r = .ok st') : ∃ files, st' = { st with files := files } := by
  unfold rendered at h
  split at h
  · contradiction
  · split at h
    · contradiction
    · exact ⟨_, (Except.ok.inj h).symm⟩

variable {σ : Type} [FileSystem (StateM σ)] [FileStore σ]

/-- With a package, a run is decided by the schema in it and by what it renders from that. -/
theorem run_generate_loaded (r : Renderer) (c : Config) (o : RunOptions) (mode : Mode) (s : σ) :
    (generate r c o mode : StateM σ (Except RunError Outcome)).run s =
      match ((preflight c o : StateM σ (Except RunError Readiness)).run s).1 with
      | .error e => (.error e, s)
      | .ok (.skip reason) => (.ok (.skipped reason), s)
      | .ok (.ready package) =>
        match ((Package.load package : StateM σ (Except SchemaError Schema.Tree)).run s).1 with
        | .error e =>
          (.error ((RunError.ofFault (.schema e)).inStage "loading the schema package"), s)
        | .ok t =>
          match mode.rendered r (.resolved c package t) with
          | .error e => (.error e, s)
          | .ok st =>
            match (writeFiles mode st.files : StateM σ (Except RunError (List String))).run s with
            | (.error e, s') => (.error e, s')
            | (.ok written, s') =>
              (.ok (.generated ⟨package, st.model, st.files, st.diagnostics, written⟩), s') := by
  rw [run_generate_eq]
  rcases ((preflight c o : StateM σ (Except RunError Readiness)).run s).1 with
    e | reason | package
  · rfl
  · rfl
  · dsimp only
    rw [Mode.run_eq]
    obtain ⟨result, s'⟩ :=
      (Package.load package : StateM σ (Except SchemaError Schema.Tree)).run s
    cases result with
    | error e => rfl
    | ok t => cases mode.rendered r (.resolved c package t) <;> rfl

/-- A run has resolved the schema in its package, and has gone no further. Its remarks are the
warnings about entities and then those about keys. -/
structure Generation.Resolves (c : Config) (s : σ) (g : Generation) : Prop where
  schema : ∃ t, ((Package.load g.package : StateM σ (Except SchemaError Schema.Tree)).run s).1 =
      .ok t ∧
    g.model = (Model.ofSchema c t).1 ∧
    g.diagnostics =
      (Model.entitiesOf c t.tables).2.map (fun w => .warning "entities" w.message) ++
      (Model.addKeys c t.keys { Model.empty with
        entities := (Model.entitiesOf c t.tables).1 }).2.map fun w => .warning "methods" w.message
  files : g.files = []
  written : g.written = []

/-- How the runs that resolve, render and write end from one store. A failure or a skip of one is
that of the longer ones as well, and what they make is the same as far as they go. Only the run that
writes leaves another store, and ends as writing the rendered files does. -/
inductive EndTogether (c : Config) (s : σ) : Except RunError Outcome × σ →
    Except RunError Outcome × σ → Except RunError Outcome × σ → Prop
  | failed (e : RunError) : EndTogether c s (.error e, s) (.error e, s) (.error e, s)
  | skipped (reason : SkipReason) : EndTogether c s (.ok (.skipped reason), s)
      (.ok (.skipped reason), s) (.ok (.skipped reason), s)
  | unrendered {g : Generation} (resolves : g.Resolves c s) (e : RunError) :
      EndTogether c s (.ok (.generated g), s) (.error e, s) (.error e, s)
  | unwritten {g : Generation} (resolves : g.Resolves c s) {files : List OutputFile}
      {path : String} {s' : σ}
      (flush : (OutputFile.flush files : StateM σ (Except String (List String))).run s =
        (.error path, s')) :
      EndTogether c s (.ok (.generated g), s) (.ok (.generated { g with files := files }), s)
        (.error ((RunError.ofFault (.unwritable path)).inStage "writing generated files"), s')
  | written {g : Generation} (resolves : g.Resolves c s) {files : List OutputFile} {s' : σ}
      (flush : (OutputFile.flush files : StateM σ (Except String (List String))).run s =
        (.ok (files.map (·.path)), s'))
      (flushes : FileStore.Flushes files s s') :
      EndTogether c s (.ok (.generated g), s) (.ok (.generated { g with files := files }), s)
        (.ok (.generated { g with files := files, written := files.map (·.path) }), s')

theorem generate_endTogether (r : Renderer) (c : Config) (o : RunOptions) (s : σ) :
    EndTogether c s ((generate r c o .resolve : StateM σ (Except RunError Outcome)).run s)
      ((generate r c o .render : StateM σ (Except RunError Outcome)).run s)
      ((generate r c o .write : StateM σ (Except RunError Outcome)).run s) := by
  simp only [run_generate_loaded]
  rcases ((preflight c o : StateM σ (Except RunError Readiness)).run s).1 with
    e | reason | package
  · exact .failed e
  · exact .skipped reason
  · dsimp only
    cases hload :
      ((Package.load package : StateM σ (Except SchemaError Schema.Tree)).run s).1 with
    | error e => exact .failed _
    | ok t =>
      have hresolves : Generation.Resolves c s
          ⟨package, (Model.ofSchema c t).1, [], (RunState.resolved c package t).diagnostics, []⟩ :=
        ⟨⟨t, hload, rfl, rfl⟩, rfl, rfl⟩
      simp only [Mode.rendered]
      cases hrendered : (RunState.resolved c package t).rendered r with
      | error e => exact .unrendered hresolves e
      | ok st =>
        obtain ⟨files, rfl⟩ := RunState.exists_files_of_rendered hrendered
        dsimp only
        rw [run_writeFiles]
        cases hflush : (OutputFile.flush files : StateM σ (Except String (List String))).run s with
        | mk result s' =>
          cases result with
          | error path => exact .unwritten hresolves hflush
          | ok written =>
            obtain ⟨rfl, hflushes⟩ := FileStore.flush_flushes hflush
            exact .written hresolves hflush hflushes

/-! Reports. -/

omit [FileStore σ] in
/-- An operation fails as its run does, and reports any other outcome. -/
theorem Operation.run_eq (op : Operation) (path : String) (r : Renderer) (c : Config)
    (o : RunOptions) (s : σ) :
    (op.run path r c o : StateM σ (Except RunError Report)).run s =
      match (DataLayer.generate r c o op.mode : StateM σ (Except RunError Outcome)).run s with
      | (.error e, s') => (.error e, s')
      | (.ok outcome, s') => (.ok (op.report path (phaseNames (StateM σ) r) outcome), s') := by
  unfold Operation.run
  rw [StateT.run_bind]
  obtain ⟨result, s'⟩ :=
    (DataLayer.generate r c o op.mode : StateM σ (Except RunError Outcome)).run s
  cases result <;> rfl

/-- All remarks are warnings, and about no place in particular. -/
def Outcome.OnlyWarns (outcome : Outcome) : Prop :=
  ∀ d ∈ outcome.diagnostics, d = .warning d.phase d.message

theorem Outcome.onlyWarns_skipped (reason : SkipReason) : (skipped reason).OnlyWarns := by
  simp [OnlyWarns, diagnostics]

omit [FileStore σ] in
theorem Generation.Resolves.onlyWarns {c : Config} {s : σ} {g : Generation}
    (h : g.Resolves c s) (files : List OutputFile) (written : List String) :
    (Outcome.generated { g with files := files, written := written }).OnlyWarns := by
  obtain ⟨t, -, -, hdiagnostics⟩ := h.schema
  intro d hd
  simp only [Outcome.diagnostics, hdiagnostics, List.mem_append, List.mem_map] at hd
  rcases hd with ⟨w, -, rfl⟩ | ⟨w, -, rfl⟩ <;> rfl

theorem EndTogether.onlyWarns {c : Config} {s : σ}
    {resolved rendered written : Except RunError Outcome × σ}
    (h : EndTogether c s resolved rendered written) {outcome : Outcome}
    (houtcome : resolved.1 = .ok outcome ∨ rendered.1 = .ok outcome ∨ written.1 = .ok outcome) :
    outcome.OnlyWarns := by
  cases h with
  | failed e => simp at houtcome
  | skipped reason =>
    obtain rfl : Outcome.skipped reason = outcome := by simpa using houtcome
    exact Outcome.onlyWarns_skipped reason
  | unrendered resolves e =>
    obtain rfl := by simpa using houtcome
    exact resolves.onlyWarns _ _
  | unwritten resolves flush =>
    obtain rfl | rfl := by simpa using houtcome
    all_goals exact resolves.onlyWarns _ _
  | written resolves flush flushes =>
    obtain rfl | rfl | rfl := by simpa using houtcome
    all_goals exact resolves.onlyWarns _ _

theorem generate_onlyWarns {r : Renderer} {c : Config} {o : RunOptions} {mode : Mode} {s s' : σ}
    {outcome : Outcome}
    (h : (generate r c o mode : StateM σ (Except RunError Outcome)).run s = (.ok outcome, s')) :
    outcome.OnlyWarns := by
  have hended : ((generate r c o mode : StateM σ (Except RunError Outcome)).run s).1 =
      .ok outcome := congrArg Prod.fst h
  refine (generate_endTogether r c o s).onlyWarns ?_
  cases mode with
  | resolve => exact .inl hended
  | render => exact .inr (.inl hended)
  | write => exact .inr (.inr hended)

/-- What the report of a check or a generation tells of an outcome. Its remarks are the warnings of
the run, with no error among them, and a preview has the path and the content of every file. -/
structure Outcome.ReportedBy (op : Operation) (outcome : Outcome) (report : Report) : Prop where
  success : report.success = true
  remarks : report.lines.filter Line.isRemark = outcome.diagnostics.map fun d => .warning d.message
  preview : ∀ g, op = .generate true → outcome = .generated g →
    report.lines.filter (!·.isRemark) =
      g.files.flatMap (fun f => [.divider f.path, .preformatted f.content]) ++
        [.divider "Summary",
          .preformatted (toString g.files.length ++ " files would be generated")]

/-! Warnings come first in a report, and none follow. -/

section Remarks

variable {warnings : List String} {rest : List Line}

theorem Line.filter_isRemark (h : ∀ l ∈ rest, l.isRemark = false) :
    (warnings.map warning ++ rest).filter isRemark = warnings.map warning := by
  have hrest : rest.filter isRemark = [] := List.filter_eq_nil_iff.mpr fun l hl => by simp [h l hl]
  have hwarnings : (warnings.map warning).filter isRemark = warnings.map warning :=
    List.filter_eq_self.mpr fun l hl => by
      obtain ⟨text, -, rfl⟩ := List.mem_map.mp hl
      rfl
  rw [List.filter_append, hwarnings, hrest, List.append_nil]

theorem Line.filter_not_isRemark (h : ∀ l ∈ rest, l.isRemark = false) :
    (warnings.map warning ++ rest).filter (!·.isRemark) = rest := by
  have hrest : rest.filter (!·.isRemark) = rest :=
    List.filter_eq_self.mpr fun l hl => by simp [h l hl]
  have hwarnings : (warnings.map warning).filter (!·.isRemark) = [] :=
    List.filter_eq_nil_iff.mpr fun l hl => by
      obtain ⟨text, -, rfl⟩ := List.mem_map.mp hl
      simp [isRemark]
  rw [List.filter_append, hwarnings, hrest, List.nil_append]

end Remarks

theorem CheckReport.isRemark_resultLines (report : CheckReport) :
    ∀ l ∈ report.resultLines, l.isRemark = false := by
  intro l hl
  simp only [resultLines, summaryLines, List.mem_cons, List.mem_append, List.mem_map,
    List.mem_flatMap, List.not_mem_nil, or_false] at hl
  rcases hl with rfl | ⟨_, -, rfl⟩ | ⟨_, -, rfl | rfl | rfl | rfl⟩ <;> rfl

theorem GenerationReport.isRemark_writtenLines (g : Generation) :
    ∀ l ∈ writtenLines g, l.isRemark = false := by
  intro l hl
  simp only [writtenLines, List.mem_cons, List.mem_append, List.mem_map, List.not_mem_nil,
    or_false] at hl
  rcases hl with (rfl | rfl | rfl | rfl) | ⟨_, -, rfl⟩ <;> rfl

theorem GenerationReport.isRemark_previewLines (g : Generation) :
    ∀ l ∈ previewLines g, l.isRemark = false := by
  intro l hl
  simp only [previewLines, List.mem_cons, List.mem_append, List.mem_flatMap, List.not_mem_nil,
    or_false] at hl
  rcases hl with ⟨_, -, rfl | rfl⟩ | rfl | rfl <;> rfl

namespace Outcome.OnlyWarns

variable {outcome : Outcome}

theorem details_warning (h : outcome.OnlyWarns) :
    CheckReport.details .warning outcome.diagnostics = outcome.diagnostics.map (·.message) := by
  have hall : outcome.diagnostics.filter (·.severity == .warning) = outcome.diagnostics := by
    refine List.filter_eq_self.mpr fun d hd => ?_
    rw [h d hd]
    rfl
  rw [CheckReport.details, hall]
  refine List.map_congr_left fun d hd => ?_
  rw [h d hd]
  rfl

theorem details_of_ne (h : outcome.OnlyWarns) {severity : Severity} (hne : severity ≠ .warning) :
    CheckReport.details severity outcome.diagnostics = [] := by
  rw [CheckReport.details, List.map_eq_nil_iff, List.filter_eq_nil_iff]
  intro d hd hseverity
  rw [h d hd] at hseverity
  exact hne (eq_of_beq hseverity).symm

theorem ofOutcome_eq (h : outcome.OnlyWarns) (path : String) :
    (CheckReport.ofOutcome path outcome).errors = [] ∧
    (CheckReport.ofOutcome path outcome).warnings = outcome.diagnostics.map (·.message) ∧
    (CheckReport.ofOutcome path outcome).infos = [] := by
  cases outcome with
  | skipped reason => exact ⟨rfl, rfl, rfl⟩
  | generated g =>
    exact ⟨h.details_of_ne (by decide), h.details_warning, h.details_of_ne (by decide)⟩

theorem lines_ofOutcome (h : outcome.OnlyWarns) (path : String) :
    ∃ rest, (CheckReport.ofOutcome path outcome).lines =
        (outcome.diagnostics.map (·.message)).map .warning ++ rest ∧
      ∀ l ∈ rest, l.isRemark = false := by
  obtain ⟨herrors, hwarnings, hinfos⟩ := h.ofOutcome_eq path
  refine ⟨(if (CheckReport.ofOutcome path outcome).warnings.isEmpty then [] else [.newline]) ++
    (CheckReport.ofOutcome path outcome).resultLines, ?_, ?_⟩
  · simp [CheckReport.lines, CheckReport.isValid, herrors, hwarnings, hinfos]
  · intro l hl
    rcases List.mem_append.mp hl with hl | hl
    · split at hl
      · cases hl
      · obtain rfl := List.mem_singleton.mp hl
        rfl
    · exact CheckReport.isRemark_resultLines _ l hl

theorem reportedBy_check (h : outcome.OnlyWarns) (path : String)
    (phases : List (String × String)) :
    outcome.ReportedBy .check (Operation.check.report path phases outcome) := by
  refine ⟨?_, ?_, ?_⟩
  · show (CheckReport.ofOutcome path outcome).errors.isEmpty = true
    rw [(h.ofOutcome_eq path).1]
    rfl
  · obtain ⟨rest, hlines, hrest⟩ := h.lines_ofOutcome path
    show (CheckReport.ofOutcome path outcome).lines.filter Line.isRemark = _
    rw [hlines, Line.filter_isRemark hrest, List.map_map]
    rfl
  · intro g hop
    cases hop

theorem lines_generated {g : Generation} (h : (generated g).OnlyWarns) (dryRun : Bool) :
    GenerationReport.lines dryRun (.generated g) =
      (g.diagnostics.map (·.message)).map .warning ++
        if dryRun then GenerationReport.previewLines g else GenerationReport.writtenLines g := by
  have hwarnings : g.warnings.map (fun d => Line.warning d.detail) =
      (CheckReport.details .warning g.diagnostics).map .warning := by
    rw [CheckReport.details, List.map_map]
    rfl
  have hdetails : CheckReport.details .warning g.diagnostics = g.diagnostics.map (·.message) :=
    h.details_warning
  unfold GenerationReport.lines
  dsimp only
  rw [hwarnings, hdetails]

theorem reportedBy_generate (h : outcome.OnlyWarns) (dryRun : Bool) (path : String)
    (phases : List (String × String)) :
    outcome.ReportedBy (.generate dryRun)
      ((Operation.generate dryRun).report path phases outcome) := by
  cases outcome with
  | skipped reason => exact ⟨rfl, rfl, by simp⟩
  | generated g =>
    refine ⟨rfl, ?_, ?_⟩
    · show (GenerationReport.lines dryRun (.generated g)).filter Line.isRemark = _
      rw [h.lines_generated, Line.filter_isRemark, List.map_map]
      · rfl
      · intro l hl
        cases dryRun with
        | true => exact GenerationReport.isRemark_previewLines g l hl
        | false => exact GenerationReport.isRemark_writtenLines g l hl
    · intro g' hop hg
      obtain rfl : dryRun = true := Operation.generate.inj hop
      obtain rfl : g = g' := Outcome.generated.inj hg
      show (GenerationReport.lines true (.generated g)).filter (!·.isRemark) = _
      rw [h.lines_generated]
      exact Line.filter_not_isRemark (GenerationReport.isRemark_previewLines g)

end Outcome.OnlyWarns

/-- Runs of all lengths do the same as far as they go together, and the remarks that a check, a
preview and a generation report are the same warnings. -/
theorem modes_agree (r : Renderer) (c : Config) (o : RunOptions) (s : σ) :
    EndTogether c s ((generate r c o .resolve : StateM σ (Except RunError Outcome)).run s)
      ((generate r c o .render : StateM σ (Except RunError Outcome)).run s)
      ((generate r c o .write : StateM σ (Except RunError Outcome)).run s) ∧
    ∀ (op : Operation) (path : String), op ≠ .explain →
      match (generate r c o op.mode : StateM σ (Except RunError Outcome)).run s with
      | (.error e, s') =>
        (op.run path r c o : StateM σ (Except RunError Report)).run s = (.error e, s')
      | (.ok outcome, s') => ∃ report,
        (op.run path r c o : StateM σ (Except RunError Report)).run s = (.ok report, s') ∧
          outcome.ReportedBy op report := by
  refine ⟨generate_endTogether r c o s, fun op path hop => ?_⟩
  rw [op.run_eq]
  cases hended : (generate r c o op.mode : StateM σ (Except RunError Outcome)).run s with
  | mk result s' =>
    cases result with
    | error e => rfl
    | ok outcome =>
      have honly := generate_onlyWarns hended
      refine ⟨_, rfl, ?_⟩
      cases op with
      | explain => contradiction
      | check => exact honly.reportedBy_check path _
      | generate dryRun => exact honly.reportedBy_generate dryRun path _

/-- A configuration with an override of a column that no table has. -/
def Config.withUnusedOverride : Config :=
  { Config.bare with overrides := { Config.bare.overrides with
      columns := [("dbo.Order.Total", ⟨"dbo.Order.Total", none, none, none⟩)] } }

/-- A check goes through with the one warning, and the preview has it in front of both files. -/
theorem modes_agree_withUnusedOverride :
    (∃ report, (Operation.check.run "dacgen.toml" (fun template _ => pure template)
        Config.withUnusedOverride ⟨"Debug", none⟩ :
          StateM FileTree (Except RunError Report)).run FileTree.withPackage =
            (.ok report, FileTree.withPackage) ∧
      report.success = true ∧
      report.lines.filter Line.isRemark =
        [.warning "column override 'dbo.Order.Total' matches no column"]) ∧
    ∃ report, ((Operation.generate true).run "dacgen.toml" (fun template _ => pure template)
        Config.withUnusedOverride ⟨"Debug", none⟩ :
          StateM FileTree (Except RunError Report)).run FileTree.withPackage =
            (.ok report, FileTree.withPackage) ∧
      report.lines.filter Line.isRemark =
        [.warning "column override 'dbo.Order.Total' matches no column"] ∧
      ∃ files : List OutputFile, files.map (·.path) = ["out/Store.cs", "out/IStore.cs"] ∧
        report.lines.filter (!·.isRemark) =
          files.flatMap (fun f => [.divider f.path, .preformatted f.content]) ++
            [.divider "Summary", .preformatted "2 files would be generated"] := by
  have hagree := modes_agree (fun template _ => pure template) Config.withUnusedOverride
    ⟨"Debug", none⟩ FileTree.withPackage
  have hcheck := hagree.2 .check "dacgen.toml" (by decide)
  have hpreview := hagree.2 (.generate true) "dacgen.toml" (by decide)
  have hrendered : ((generate (fun template _ => pure template) Config.withUnusedOverride
      ⟨"Debug", none⟩ .render : StateM FileTree (Except RunError Outcome)).run
        FileTree.withPackage).1.toOption.map
          (fun outcome => (outcome.diagnostics, outcome.paths)) =
      some ([.warning "entities" "column override 'dbo.Order.Total' matches no column"],
        ["out/Store.cs", "out/IStore.cs"]) := by
    decide +kernel
  obtain ⟨hends, -⟩ := hagree
  dsimp only [Operation.mode] at hcheck hpreview
  rw [if_pos rfl] at hpreview
  revert hends hcheck hpreview hrendered
  generalize (generate (fun template _ => pure template) Config.withUnusedOverride
    ⟨"Debug", none⟩ .resolve : StateM FileTree (Except RunError Outcome)).run
      FileTree.withPackage = resolved
  generalize (generate (fun template _ => pure template) Config.withUnusedOverride
    ⟨"Debug", none⟩ .render : StateM FileTree (Except RunError Outcome)).run
      FileTree.withPackage = rendered
  generalize (generate (fun template _ => pure template) Config.withUnusedOverride
    ⟨"Debug", none⟩ .write : StateM FileTree (Except RunError Outcome)).run
      FileTree.withPackage = written
  intro hcheck hpreview hrendered hends
  obtain ⟨g, files, rfl, rfl⟩ : ∃ g files,
      resolved = (.ok (.generated g), FileTree.withPackage) ∧
      rendered = (.ok (.generated { g with files := files }), FileTree.withPackage) := by
    cases hends with
    | failed e => simp [Except.toOption] at hrendered
    | skipped reason => simp [Except.toOption, Outcome.paths] at hrendered
    | unrendered resolves e => simp [Except.toOption] at hrendered
    | unwritten resolves flush => exact ⟨_, _, rfl, rfl⟩
    | written resolves flush flushes => exact ⟨_, _, rfl, rfl⟩
  obtain ⟨report, hreport, hchecked⟩ := hcheck
  obtain ⟨report', hreport', hpreviewed⟩ := hpreview
  simp only [Except.toOption, Option.map_some, Option.some.injEq, Prod.mk.injEq,
    Outcome.diagnostics, Outcome.paths] at hrendered
  have hlength : files.length = 2 := by simpa using congrArg List.length hrendered.2
  refine ⟨⟨report, hreport, hchecked.success, ?_⟩, report', hreport', ?_, files, hrendered.2, ?_⟩
  · rw [hchecked.remarks]
    simp [Outcome.diagnostics, hrendered.1, Diagnostic.warning]
  · rw [hpreviewed.remarks]
    simp [Outcome.diagnostics, hrendered.1, Diagnostic.warning]
  · rw [hpreviewed.preview _ rfl rfl]
    dsimp only
    rw [hlength]
    rfl

end DataLayer
