import DataLayer.Proofs.Code.EntityFile
import DataLayer.Proofs.Config.Checked
import DataLayer.Proofs.Config.Identifiers
import DataLayer.Proofs.Files.Paths
import DataLayer.Proofs.Files.Store
import DataLayer.Proofs.Run.Phases

/-!
Where the files of a run go. The file of a type is named for the display name of its entity, or for
the class, and nothing compares these names. So two files of one run have the same path if two
entities have the same display name, or if an entity has that of the class or of its interface and
both directories are the same; otherwise their paths differ.
-/

namespace DataLayer

namespace Config

/-- What the name of a file adds to that of the type in it. -/
theorem typeFileName_eq (c : Config) (name : String) :
    c.typeFileName name = name ++ c.typeFileName "" := by
  unfold typeFileName
  cases (c.fileNameInfix.map Text.trim).filter (!·.isEmpty) <;> simp [String.append_assoc]

theorem head?_typeFileName (c : Config) : (c.typeFileName "").toList.head? = some '.' := by
  unfold typeFileName
  cases (c.fileNameInfix.map Text.trim).filter (!·.isEmpty) <;> simp

/-- The path of the file of a type in a directory. -/
def typePath (c : Config) (directory typeName : String) : String :=
  Path.join directory (c.typeFileName typeName)

variable {c : Config} {directory directory' name name' : String}

theorem typePath_eq (h : '/' ∉ name.toList) :
    c.typePath directory name = Path.join directory "" ++ name ++ c.typeFileName "" := by
  have hrelative : Path.isAbsolute (c.typeFileName name) = false := by
    rw [← Bool.not_eq_true, Path.isAbsolute_iff, typeFileName_eq, String.toList_append]
    cases hname : name.toList with
    | nil => simp [head?_typeFileName]
    | cons first rest =>
      intro hfirst
      obtain rfl : first = '/' := by simpa using hfirst
      simp [hname] at h
  rw [typePath, Path.join_eq_append hrelative, typeFileName_eq, String.append_assoc]

/-- Files of different types have the same path only if the types have the same name. -/
theorem typePath_inj (h : '/' ∉ name.toList) (h' : '/' ∉ name'.toList) :
    c.typePath directory name = c.typePath directory' name' ↔
      Path.join directory "" = Path.join directory' "" ∧ name = name' := by
  constructor
  · intro heq
    rw [typePath_eq h, typePath_eq h', ← String.toList_inj] at heq
    simp only [String.toList_append] at heq
    obtain ⟨hdirectory, hname⟩ := Path.append_inj_of_slash (Path.join_empty directory)
      (Path.join_empty directory') h h' (List.append_cancel_right heq)
    exact ⟨String.toList_inj.mp hdirectory, String.toList_inj.mp hname⟩
  · rintro ⟨hdirectory, rfl⟩
    rw [typePath_eq h, typePath_eq h, hdirectory]

theorem nodup_map_typePath_iff {names : List String} (h : ∀ name ∈ names, '/' ∉ name.toList) :
    (names.map (c.typePath directory)).Nodup ↔ names.Nodup := by
  refine ⟨List.Nodup.of_map _, List.Nodup.map_on fun name hname name' hname' heq => ?_⟩
  exact ((typePath_inj (h name hname) (h name' hname')).mp heq).2

theorem typePath_mem_map_iff {names : List String} (hnames : ∀ name ∈ names, '/' ∉ name.toList)
    (hname : '/' ∉ name.toList) :
    c.typePath directory' name ∈ names.map (c.typePath directory) ↔
      Path.join directory "" = Path.join directory' "" ∧ name ∈ names := by
  rw [List.mem_map]
  constructor
  · rintro ⟨name', hname', heq⟩
    obtain ⟨hdirectory, rfl⟩ := (typePath_inj (hnames name' hname') hname).mp heq
    exact ⟨hdirectory, hname'⟩
  · rintro ⟨hdirectory, hmem⟩
    exact ⟨name, hmem, (typePath_inj hname hname).mpr ⟨hdirectory, rfl⟩⟩

/-- The paths of the class and of its interface. -/
def accessPaths (c : Config) : List String :=
  [c.typePath c.accessDirectory c.className, c.typePath c.accessDirectory ("I" ++ c.className)]

/-- The paths of the files of a run. -/
def outputPaths (c : Config) (names : List String) : List String :=
  names.map (c.typePath c.modelDirectory) ++ c.accessPaths

theorem accessPaths_nodup (hclass : '/' ∉ c.className.toList) : c.accessPaths.Nodup := by
  have hinterface : '/' ∉ ("I" ++ c.className).toList := by simp [hclass]
  have hpair : c.typePath c.accessDirectory c.className ≠
      c.typePath c.accessDirectory ("I" ++ c.className) := by
    rw [ne_eq, typePath_inj hclass hinterface]
    rintro ⟨-, heq⟩
    simpa using congrArg String.length heq
  exact List.nodup_cons.mpr ⟨by simpa using hpair, List.nodup_singleton _⟩

theorem outputPaths_nodup_iff (hclass : Identifier.IsValid c.className) {names : List String}
    (hnames : ∀ name ∈ names, '/' ∉ name.toList) :
    (c.outputPaths names).Nodup ↔ names.Nodup ∧
      (Path.join c.modelDirectory "" = Path.join c.accessDirectory "" →
        c.className ∉ names ∧ "I" ++ c.className ∉ names) := by
  have hslash : '/' ∉ c.className.toList := Identifier.notMem_slash hclass
  have hslash' : '/' ∉ ("I" ++ c.className).toList := by simp [hslash]
  have hdisjoint : List.Disjoint (names.map (c.typePath c.modelDirectory)) c.accessPaths ↔
      (Path.join c.modelDirectory "" = Path.join c.accessDirectory "" →
        c.className ∉ names ∧ "I" ++ c.className ∉ names) := by
    rw [List.disjoint_right, accessPaths, List.forall_mem_cons, List.forall_mem_singleton,
      typePath_mem_map_iff hnames hslash, typePath_mem_map_iff hnames hslash']
    constructor
    · rintro ⟨hclass, hinterface⟩ hsame
      exact ⟨fun h => hclass ⟨hsame, h⟩, fun h => hinterface ⟨hsame, h⟩⟩
    · intro hdifferent
      exact ⟨fun h => (hdifferent h.1).1 h.2, fun h => (hdifferent h.1).2 h.2⟩
  rw [outputPaths, List.nodup_append', nodup_map_typePath_iff hnames, hdisjoint]
  simp [accessPaths_nodup hslash]

end Config

/-! The files of a run. -/

namespace Renderer

variable {r : Renderer} {c : Config} {m : Model} {files : List OutputFile}

theorem map_path_entityFiles {es : List Entity} (h : r.entityFiles c m es = .ok files) :
    files.map (·.path) = (es.map (·.name)).map (c.typePath c.modelDirectory) := by
  induction es generalizing files with
  | nil =>
    obtain rfl := Except.ok.inj h
    rfl
  | cons e es ih =>
    obtain ⟨text, -, h⟩ := Except.bind_eq_ok.mp h
    obtain ⟨rest, hrest, h⟩ := Except.bind_eq_ok.mp h
    obtain rfl := Except.ok.inj h
    rw [List.map_cons, ih hrest]
    rfl

theorem exists_entityFiles {es : List Entity}
    (h : ∀ e ∈ es, ∃ text, r.entityText c m e = .ok text) :
    ∃ files, r.entityFiles c m es = .ok files := by
  induction es with
  | nil => exact ⟨[], rfl⟩
  | cons e es ih =>
    obtain ⟨text, htext⟩ := h e (List.mem_cons_self ..)
    obtain ⟨files, hfiles⟩ := ih fun e' he' => h e' (List.mem_cons_of_mem e he')
    rw [entityFiles, htext, hfiles]
    exact ⟨_, rfl⟩

theorem map_path_aggregateFiles (h : r.aggregateFiles c m = .ok files) :
    files.map (·.path) = c.accessPaths := by
  obtain ⟨⟨classText, interfaceText⟩, -, h⟩ := Except.bind_eq_ok.mp h
  obtain rfl := Except.ok.inj h
  rfl

end Renderer

theorem RunState.map_path_of_rendered {r : Renderer} {st st' : RunState}
    (h : st.rendered r = .ok st') :
    st'.model = st.model ∧ st'.files.map (·.path) =
      st.files.map (·.path) ++ st.config.outputPaths (st.model.entities.map (·.name)) := by
  unfold rendered at h
  split at h
  · contradiction
  · next files hfiles =>
    split at h
    · contradiction
    · next files' hfiles' =>
      obtain rfl := Except.ok.inj h
      refine ⟨rfl, ?_⟩
      rw [Config.outputPaths, ← Renderer.map_path_entityFiles hfiles,
        ← Renderer.map_path_aggregateFiles hfiles', List.map_append, List.map_append,
        List.append_assoc]

theorem RunState.exists_rendered {r : Renderer} (st : RunState) {texts : String × String}
    (hentities : ∀ e ∈ st.model.entities, ∃ text, r.entityText st.config st.model e = .ok text)
    (haggregate : r.aggregateTexts st.config st.model = .ok texts) :
    ∃ st', st.rendered r = .ok st' := by
  obtain ⟨files, hfiles⟩ := Renderer.exists_entityFiles hentities
  rw [rendered, hfiles, Renderer.aggregateFiles, haggregate]
  exact ⟨_, rfl⟩

variable {σ : Type}

/-- The phases behind the loading of a schema. -/
def Phase.fromSchema (r : Renderer) : List (Phase (StateM σ)) :=
  [entities, accessors, routines] ++ rendering r

theorem endOf_fromSchema (r : Renderer) (c : Config) (package : String) (t : Schema.Tree) (s : σ) :
    endOf (Phase.fromSchema r) (.loaded c package t) s =
      ((RunState.resolved c package t).rendered r, s) := by
  rw [Phase.fromSchema, endOf_loaded, endOf_rendering]

/-- The phases succeed if all files can be rendered. -/
theorem exists_run_fromSchema {r : Renderer} {c : Config} {t : Schema.Tree}
    {texts : String × String}
    (hentities : ∀ e ∈ (Model.ofSchema c t).1.entities,
      ∃ text, r.entityText c (Model.ofSchema c t).1 e = .ok text)
    (haggregate : r.aggregateTexts c (Model.ofSchema c t).1 = .ok texts) (package : String)
    (s : σ) :
    ∃ st, ((runPhases [] (Phase.fromSchema r) : RunM (StateM σ) Unit).run.run
      (.loaded c package t)).run s = ((.ok (), st), s) := by
  obtain ⟨st, hst⟩ := RunState.exists_rendered (.resolved c package t) hentities haggregate
  refine ⟨st, ?_⟩
  rw [← endOf_eq_ok, endOf_fromSchema, hst]

/-- The phases behind the loading of a schema make one file for every entity, one for the class
and one for its interface. -/
theorem map_path_of_run {r : Renderer} {c : Config} {package : String} {t : Schema.Tree}
    {s s' : σ} {st : RunState}
    (h : ((runPhases [] (Phase.fromSchema r) : RunM (StateM σ) Unit).run.run
      (.loaded c package t)).run s = ((.ok (), st), s')) :
    st.model = (Model.ofSchema c t).1 ∧
      st.files.map (·.path) = c.outputPaths (st.model.entities.map (·.name)) := by
  rw [← endOf_eq_ok, endOf_fromSchema] at h
  obtain ⟨hmodel, hpaths⟩ := RunState.map_path_of_rendered (Prod.mk.inj h).1
  rw [hpaths, hmodel]
  simp

/-- Files that are led to by different paths keep their contents. -/
theorem FileStore.octets_of_flush [FileSystem (StateM σ)] [FileStore σ]
    {files : List OutputFile} {s s' : σ} {written : List String}
    (h : (OutputFile.flush files : StateM σ (Except String (List String))).run s =
      (.ok written, s'))
    (hnodup : (files.map fun file => fileAt? s' file.path).Nodup) {file : OutputFile}
    (hfile : file ∈ files) :
    ∃ f : File σ, fileAt? s' file.path = some f ∧
      octets? s' f = some (Text.octets file.content) := by
  obtain ⟨-, hflushes⟩ := flush_flushes h
  obtain ⟨f, hf, before, last, after, rfl, hlast, hcontent, -⟩ := hflushes.holds file hfile
  have hsame : last = file := List.inj_on_of_nodup_map hnodup (by simp) hfile (hlast.trans hf.symm)
  subst hsame
  exact ⟨f, hf, hcontent⟩

/-- The files of a run have different paths if their entities have different display names, none of
them the name of the class or of its interface in the same directory. Files that are led to by
different paths are all there after they have been written. -/
theorem output_paths_nodup_iff [FileSystem (StateM σ)] [FileStore σ] (r : Renderer)
    {source package : String} {c : Config} (t : Schema.Tree) {s s' : σ} {st : RunState}
    (hc : Config.ofText source = .ok c)
    (h : ((runPhases [] (Phase.fromSchema r) : RunM (StateM σ) Unit).run.run
      (.loaded c package t)).run s = ((.ok (), st), s'))
    (hnames : ∀ e ∈ (Model.ofSchema c t).1.entities, '/' ∉ e.name.toList) :
    st.files.length = (Model.ofSchema c t).1.entities.length + 2 ∧
    ((st.files.map (·.path)).Nodup ↔
      ((Model.ofSchema c t).1.entities.map (·.name)).Nodup ∧
      (Path.join c.modelDirectory "" = Path.join c.accessDirectory "" →
        c.className ∉ (Model.ofSchema c t).1.entities.map (·.name) ∧
        "I" ++ c.className ∉ (Model.ofSchema c t).1.entities.map (·.name))) ∧
    ∀ s₁ s₂ written, (OutputFile.flush st.files : StateM σ (Except String (List String))).run s₁ =
        (.ok written, s₂) →
      (st.files.map fun file => FileStore.fileAt? s₂ file.path).Nodup →
      ∀ file ∈ st.files, ∃ f : FileStore.File σ, FileStore.fileAt? s₂ file.path = some f ∧
        FileStore.octets? s₂ f = some (Text.octets file.content) := by
  obtain ⟨hmodel, hpaths⟩ := map_path_of_run h
  rw [hmodel] at hpaths
  have hslash : ∀ name ∈ (Model.ofSchema c t).1.entities.map (·.name), '/' ∉ name.toList := by
    intro name hname
    obtain ⟨e, he, rfl⟩ := List.mem_map.mp hname
    exact hnames e he
  refine ⟨?_, ?_, fun s₁ s₂ written hflush hnodup file => FileStore.octets_of_flush hflush hnodup⟩
  · have hlength := congrArg List.length hpaths
    simpa [Config.outputPaths, Config.accessPaths] using hlength
  · rw [hpaths]
    exact Config.outputPaths_nodup_iff (Config.isValid_className hc) hslash

/-- A schema of two tables without columns. -/
def Schema.Tree.ofTables (table table' : String) : Schema.Tree :=
  .ofXml (.schema [.table table [], .table table' []])

/-- Tables of the same name in two schemas. -/
def Schema.Tree.twins : Schema.Tree := .ofTables "[a].[T]" "[b].[T]"

/-- Twins have the same file. The configuration is that of an empty document. -/
theorem output_paths_repeat_twins :
    Config.ofText "" = .ok Config.initial ∧
    (Schema.Tree.twins.tables.map (·.name)).Nodup ∧
    ∃ st, ((runPhases [] (Phase.fromSchema Config.initial.renderer) :
        RunM (StateM FileTree) Unit).run.run
      (.loaded Config.initial "Db.dacpac" .twins)).run FileTree.empty =
        ((.ok (), st), FileTree.empty) ∧
      st.files.map (·.path) =
        ["Models/T.cs", "Models/T.cs", "Data/DataAccess.cs", "Data/IDataAccess.cs"] ∧
      ¬(st.files.map (·.path)).Nodup := by
  obtain ⟨htables, hnames, hproperties, hdeclarations⟩ :
      Schema.Tree.twins.tables.map (·.name) = ["[a].[T]", "[b].[T]"] ∧
      (Model.ofSchema Config.initial .twins).1.entities.map (·.name) = ["T", "T"] ∧
      (∀ e ∈ (Model.ofSchema Config.initial .twins).1.entities, e.properties = []) ∧
      (Model.ofSchema Config.initial .twins).1.declarations = [] := by
    decide +kernel
  have haggregate : ∃ texts, Config.initial.renderer.aggregateTexts Config.initial
      (Model.ofSchema Config.initial .twins).1 = .ok texts := by
    rw [aggregateTexts_eq, hdeclarations]
    exact ⟨_, rfl⟩
  obtain ⟨texts, htexts⟩ := haggregate
  obtain ⟨st, hst⟩ := exists_run_fromSchema
    (fun e he => ⟨_, by rw [entityText_eq, hproperties e he]; rfl⟩) htexts "Db.dacpac"
    FileTree.empty
  have houtput : Config.initial.outputPaths ["T", "T"] =
      ["Models/T.cs", "Models/T.cs", "Data/DataAccess.cs", "Data/IDataAccess.cs"] := by
    decide +kernel
  obtain ⟨hmodel, hpaths⟩ := map_path_of_run hst
  rw [hmodel, hnames, houtput] at hpaths
  refine ⟨Config.ofText_empty, ?_, st, hst, hpaths, ?_⟩
  · rw [htables]
    decide
  · rw [hpaths]
    decide

/-- Tables of different names. -/
def Schema.Tree.neighbours : Schema.Tree := .ofTables "[a].[T]" "[b].[U]"

/-- Tables of different names have different files, here with the templates in them. -/
theorem output_paths_nodup_iff_two_tables :
    ∃ st, ((runPhases [] (Phase.fromSchema fun template _ => pure template) :
        RunM (StateM FileTree) Unit).run.run
      (.loaded Config.initial "Db.dacpac" .neighbours)).run FileTree.empty =
        ((.ok (), st), FileTree.empty) ∧
      st.files.length = 4 ∧ (st.files.map (·.path)).Nodup := by
  have hnames : (Model.ofSchema Config.initial .neighbours).1.entities.map (·.name) =
      ["T", "U"] := by decide +kernel
  have hslash : ∀ e ∈ (Model.ofSchema Config.initial .neighbours).1.entities,
      '/' ∉ e.name.toList := by
    intro e he
    have hmem : e.name ∈ ["T", "U"] := hnames ▸ List.mem_map_of_mem he
    simp only [List.mem_cons, List.not_mem_nil, or_false] at hmem
    rcases hmem with hname | hname <;> simp [hname]
  have hrun : ∃ st, ((runPhases [] (Phase.fromSchema fun template _ => pure template) :
        RunM (StateM FileTree) Unit).run.run
      (.loaded Config.initial "Db.dacpac" .neighbours)).run FileTree.empty =
        ((.ok (), st), FileTree.empty) :=
    exists_run_fromSchema (fun e _ => ⟨Code.entityTemplate, rfl⟩) rfl "Db.dacpac" FileTree.empty
  obtain ⟨st, hst⟩ := hrun
  obtain ⟨hlength, hnodup, -⟩ := output_paths_nodup_iff (fun template _ => pure template)
    .neighbours Config.ofText_empty hst hslash
  have hcount : (Model.ofSchema Config.initial .neighbours).1.entities.length = 2 := by
    simpa using congrArg List.length hnames
  rw [hcount] at hlength
  rw [hnames] at hnodup
  exact ⟨st, hst, hlength, hnodup.mpr ⟨by decide, fun _ => by simp [Config.initial]⟩⟩

end DataLayer
