import DataLayer.Proofs.Model.Ignoring
import DataLayer.Proofs.Run.OutputPaths
import DataLayer.Proofs.Text.Trimming

/-!
Which directories the files of a run are in. The name of a file is joined to its directory as it
is. So the file of an entity is in the directory of the models unless its name has a slash; the
name that an override gives has none, but that of a table may have one. The class and its interface
are named by an identifier, and are in their directory unless what stands behind it has a slash.
-/

namespace DataLayer

namespace Config

variable (c : Config)

/-- Nothing that stands in the names of all files has a slash. -/
def PlainInfix : Prop := ∀ infixPart ∈ c.fileNameInfix, '/' ∉ infixPart.toList

theorem plainInfix_iff : c.PlainInfix ↔ '/' ∉ (c.typeFileName "").toList := by
  have hslash : Text.isBlank '/' = false := Text.isBlank_eq_false (by decide) (by decide)
  unfold PlainInfix typeFileName
  cases hinfix : c.fileNameInfix with
  | none => simp
  | some infixPart =>
    have htrim : '/' ∈ (Text.trim infixPart).toList ↔ '/' ∈ infixPart.toList := by
      rw [Text.trim, String.toList_ofList, Text.mem_trimChars_iff hslash]
    by_cases hempty : (Text.trim infixPart).isEmpty
    · have hnone : '/' ∉ infixPart.toList := by
        rw [← htrim, String.isEmpty_iff.mp hempty]
        simp
      simp [Option.filter, hempty, hnone]
    · simp [Option.filter, hempty, htrim]

theorem notMem_slash_typeFileName_iff (name : String) :
    '/' ∉ (c.typeFileName name).toList ↔ '/' ∉ name.toList ∧ c.PlainInfix := by
  rw [c.plainInfix_iff, typeFileName_eq, String.toList_append, List.mem_append, not_or]

/-- The last segment of the name of a file counts. -/
theorem exists_getLast?_typeFileName (name : String) :
    ∃ last, (Text.splitAt '/' (c.typeFileName name).toList).getLast? = some last ∧
      Path.isSkipped last = false := by
  have hend : (c.typeFileName name).toList.getLast? = some 's' := by
    unfold typeFileName
    cases (c.fileNameInfix.map Text.trim).filter (!·.isEmpty) <;>
      simp [List.getLast?_append, List.getLast?_cons]
  obtain ⟨last, hlast, hs⟩ := Text.exists_getLast?_splitAt hend (by decide : 's' ≠ '/')
  refine ⟨last, hlast, ?_⟩
  obtain ⟨front, rfl⟩ := List.getLast?_eq_some_iff.mp hs
  cases front <;> simp [Path.isSkipped]

theorem inDirectory_typePath_iff (directory name : String) :
    Path.InDirectory (c.typePath directory name) directory ↔
      Path.Stays directory (c.typeFileName name) := by
  obtain ⟨last, hlast, hcounts⟩ := c.exists_getLast?_typeFileName name
  exact Path.inDirectory_join_iff hlast hcounts

/-- A name that starts neither with a slash nor with a dot stays if it has no slash. -/
theorem inDirectory_typePath_of_head {name : String} {first : Char}
    (hname : name.toList.head? = some first) (hplain : '/' ∉ name.toList) (hdot : first ≠ '.')
    (directory : String) :
    Path.InDirectory (c.typePath directory name) directory ↔ c.PlainInfix := by
  have hslash : first ≠ '/' := by
    rintro rfl
    exact hplain (List.mem_of_mem_head? hname)
  have hfirst : (c.typeFileName name).toList.head? = some first := by
    rw [typeFileName_eq, String.toList_append, List.head?_append, hname]
    rfl
  rw [inDirectory_typePath_iff, Path.stays_iff_notMem hfirst hslash hdot,
    notMem_slash_typeFileName_iff, and_iff_right hplain]

theorem inDirectory_accessPaths_iff (hclass : Identifier.IsValid c.className) {path : String}
    (hpath : path ∈ c.accessPaths) :
    Path.InDirectory path c.accessDirectory ↔ c.PlainInfix := by
  have hslash := Identifier.notMem_slash hclass
  rcases List.mem_pair.mp hpath with rfl | rfl
  · obtain ⟨⟨first, hfirst, -⟩, -⟩ := Identifier.isValid_iff.mp hclass
    apply c.inDirectory_typePath_of_head hfirst hslash
    rintro rfl
    exact Identifier.notMem_dot hclass (List.mem_of_mem_head? hfirst)
  · have hfirst : ("I" ++ c.className).toList.head? = some 'I' := by simp
    exact c.inDirectory_typePath_of_head hfirst (by simp [hslash]) (by decide) _

end Config

/-- The display name of an entity is that of an override, or else that of its table. -/
theorem Model.name_of_mem_ofSchema {c : Config} {t : Schema.Tree} {e : Entity}
    (he : e ∈ (ofSchema c t).1.entities) :
    e.name = ((c.overrides.entity? e.table).bind (·.name)).getD (SqlName.short e.table) := by
  have hmem : e.unlinked ∈ (entitiesOf c t.tables).1 := by
    rw [← map_unlinked_ofSchema]
    exact List.mem_map_of_mem he
  obtain ⟨table, -, added, -, heq⟩ :=
    exists_of_forall₂_mem (forall₂_entitiesFrom c [] _) hmem
  have hname := congrArg Entity.name heq
  have htable : e.table = table.name := congrArg Entity.table heq
  rw [htable]
  exact hname

variable {σ : Type}

/-- The phases succeed on a model without properties and declarations. -/
theorem exists_run_of_bare {c : Config} {t : Schema.Tree}
    (hproperties : ∀ e ∈ (Model.ofSchema c t).1.entities, e.properties = [])
    (hdeclarations : (Model.ofSchema c t).1.declarations = []) (package : String) (s : σ) :
    ∃ st, ((runPhases [] (Phase.fromSchema c.renderer) : RunM (StateM σ) Unit).run.run
      (.loaded c package t)).run s = ((.ok (), st), s) := by
  have haggregate : ∃ texts,
      c.renderer.aggregateTexts c (Model.ofSchema c t).1 = .ok texts := by
    rw [aggregateTexts_eq, hdeclarations]
    exact ⟨_, rfl⟩
  obtain ⟨texts, htexts⟩ := haggregate
  refine exists_run_fromSchema (fun e he => ?_) htexts package s
  rw [entityText_eq, hproperties e he]
  exact ⟨_, rfl⟩

/-- Every file of a run is joined to its directory. The file of an entity is in the directory of the
models exactly if its name stays there, which it does for names without a slash, those of overrides
among them. The class and its interface are in their directory exactly if the infix has no slash. -/
theorem files_in_directories_iff (r : Renderer) {source package : String} {c : Config}
    (t : Schema.Tree) {s s' : σ} {st : RunState} (hc : Config.ofText source = .ok c)
    (h : ((runPhases [] (Phase.fromSchema r) : RunM (StateM σ) Unit).run.run
      (.loaded c package t)).run s = ((.ok (), st), s')) :
    st.files.map (·.path) = (Model.ofSchema c t).1.entities.map
      (fun e => c.typePath c.modelDirectory e.name) ++ c.accessPaths ∧
    (∀ e ∈ (Model.ofSchema c t).1.entities,
      (Path.InDirectory (c.typePath c.modelDirectory e.name) c.modelDirectory ↔
        Path.Stays c.modelDirectory (c.typeFileName e.name)) ∧
      (c.PlainInfix → ((c.overrides.entity? e.table).bind (·.name)).isSome ∨
          '/' ∉ (SqlName.short e.table).toList →
        Path.InDirectory (c.typePath c.modelDirectory e.name) c.modelDirectory)) ∧
    ∀ path ∈ c.accessPaths, Path.InDirectory path c.accessDirectory ↔ c.PlainInfix := by
  obtain ⟨hmodel, hpaths⟩ := map_path_of_run h
  refine ⟨?_, fun e he => ⟨c.inDirectory_typePath_iff _ _, fun hinfix hname => ?_⟩,
    fun path => c.inDirectory_accessPaths_iff (Config.isValid_className hc)⟩
  · rw [hpaths, hmodel, Config.outputPaths, List.map_map]
    rfl
  · have hslash : '/' ∉ e.name.toList := by
      rw [Model.name_of_mem_ofSchema he]
      cases hoverride : (c.overrides.entity? e.table).bind (·.name) with
      | some name => exact Identifier.notMem_slash (Config.isValid_entityName hc hoverride)
      | none => simpa [hoverride] using hname
    rw [c.inDirectory_typePath_iff]
    exact Path.stays_of_notMem ((c.notMem_slash_typeFileName_iff _).mpr ⟨hslash, hinfix⟩) _

/-- Tables of which one has a slash in its name. -/
def Schema.Tree.slashed : Schema.Tree := .ofTables "[dbo].[T]" "[dbo].[a/b]"

/-- The file of the table without a slash is in the directory, that of the other is not. -/
theorem files_in_directories_iff_slashed :
    ∃ st, ((runPhases [] (Phase.fromSchema fun template _ => pure template) :
        RunM (StateM FileTree) Unit).run.run
      (.loaded Config.initial "Db.dacpac" .slashed)).run FileTree.empty =
        ((.ok (), st), FileTree.empty) ∧
      st.files.map (·.path) =
        ["Models/T.cs", "Models/a/b.cs", "Data/DataAccess.cs", "Data/IDataAccess.cs"] ∧
      Path.InDirectory "Models/T.cs" "Models" ∧ ¬Path.InDirectory "Models/a/b.cs" "Models" ∧
      Path.InDirectory "Data/DataAccess.cs" "Data" := by
  have hnames : (Model.ofSchema Config.initial .slashed).1.entities.map (·.name) =
      ["T", "a/b"] := by decide +kernel
  have hplain : Config.initial.typePath "Models" "T" = "Models/T.cs" := by decide +kernel
  have hslashed : Config.initial.typePath "Models" "a/b" = "Models/a/b.cs" := by decide +kernel
  have haccess : Config.initial.accessPaths = ["Data/DataAccess.cs", "Data/IDataAccess.cs"] := by
    decide +kernel
  have hrun : ∃ st, ((runPhases [] (Phase.fromSchema fun template _ => pure template) :
        RunM (StateM FileTree) Unit).run.run
      (.loaded Config.initial "Db.dacpac" .slashed)).run FileTree.empty =
        ((.ok (), st), FileTree.empty) :=
    exists_run_fromSchema (fun e _ => ⟨Code.entityTemplate, rfl⟩) rfl "Db.dacpac" FileTree.empty
  obtain ⟨st, hst⟩ := hrun
  obtain ⟨hpaths, hentities, hclass⟩ := files_in_directories_iff (fun template _ => pure template)
    .slashed Config.ofText_empty hst
  have hstays {name : String} (h : name ∈ ["T", "a/b"]) :
      Path.InDirectory (Config.initial.typePath "Models" name) "Models" ↔
        Path.Stays "Models" (Config.initial.typeFileName name) := by
    rw [← hnames] at h
    obtain ⟨e, he, rfl⟩ := List.mem_map.mp h
    exact (hentities e he).1
  refine ⟨st, hst, ?_, ?_, ?_, ?_⟩
  · rw [hpaths, haccess, ← hplain, ← hslashed]
    have hmap := congrArg (List.map (Config.initial.typePath "Models")) hnames
    rw [List.map_map] at hmap
    exact congrArg (· ++ _) hmap
  · rw [← hplain, hstays (by simp)]
    exact Path.stays_of_notMem (by decide +kernel) _
  · rw [← hslashed, hstays (by simp), Path.stays_iff_notMem (c := 'a')] <;> decide +kernel
  · rw [← show Config.initial.accessDirectory = "Data" from rfl]
    apply (hclass _ (by simp [haccess])).mpr
    simp [Config.PlainInfix, Config.initial]

/-- Tables whose names lead into a directory below that of the models and away from it. -/
def Schema.Tree.astray : Schema.Tree := .ofTables "[dbo].[a/b]" "[dbo].[/T]"

/-- The files of tables need not be in the directory of the models. -/
theorem files_leave_directories_astray :
    Config.ofText "" = .ok Config.initial ∧
    ∃ st, ((runPhases [] (Phase.fromSchema Config.initial.renderer) :
        RunM (StateM FileTree) Unit).run.run
      (.loaded Config.initial "Db.dacpac" .astray)).run FileTree.empty =
        ((.ok (), st), FileTree.empty) ∧
      st.files.map (·.path) =
        ["Models/a/b.cs", "/T.cs", "Data/DataAccess.cs", "Data/IDataAccess.cs"] ∧
      Config.initial.modelDirectory = "Models" ∧
      ¬Path.InDirectory "Models/a/b.cs" "Models" ∧ ¬Path.InDirectory "/T.cs" "Models" := by
  obtain ⟨hnames, hproperties, hdeclarations, houtput⟩ :
      (Model.ofSchema Config.initial .astray).1.entities.map (·.name) = ["a/b", "/T"] ∧
      (∀ e ∈ (Model.ofSchema Config.initial .astray).1.entities, e.properties = []) ∧
      (Model.ofSchema Config.initial .astray).1.declarations = [] ∧
      Config.initial.outputPaths ["a/b", "/T"] =
        ["Models/a/b.cs", "/T.cs", "Data/DataAccess.cs", "Data/IDataAccess.cs"] := by
    decide +kernel
  obtain ⟨st, hst⟩ := exists_run_of_bare hproperties hdeclarations "Db.dacpac" FileTree.empty
  obtain ⟨hmodel, hpaths⟩ := map_path_of_run hst
  rw [hmodel, hnames, houtput] at hpaths
  refine ⟨Config.ofText_empty, st, hst, hpaths, rfl, ?_, ?_⟩ <;> decide +kernel

end DataLayer
