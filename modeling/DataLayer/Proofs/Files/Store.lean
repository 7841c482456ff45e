import DataLayer.OutputFiles
import DataLayer.Text.Utf8

/-!
File systems as states. A store tells which file a path leads to and what is in it. Reading leaves
a store as it is, creating directories changes no file, and writing changes one. From this follows
what a list of output files leaves behind once all of it has been written.
-/

namespace DataLayer

/-- File operations on a state, with the files in it. The laws are those of operating systems. An
operation that changes files may fail in any way, and may have been carried out in part then. -/
class FileStore (σ : Type) [FileSystem (StateM σ)] where
  /-- What tells a file from all others, whatever path leads to it. -/
  File : Type
  /-- The regular file that a path leads to. -/
  fileAt? : σ → String → Option File
  octets? : σ → File → Option (List UInt8)
  isFile_state (path : String) (s : σ) : ((isFile path : StateM σ Bool).run s).2 = s
  readFile_state (path : String) (s : σ) :
    ((readFile path : StateM σ (Option (List UInt8))).run s).2 = s
  createDirectories_octets? (path : String) (s : σ) (f : File) :
    octets? ((createDirectories path : StateM σ Bool).run s).2 f = octets? s f
  createDirectories_fileAt? (path : String) {s : σ} {p : String} {f : File} :
    fileAt? s p = some f →
      fileAt? ((createDirectories path : StateM σ Bool).run s).2 p = some f
  writeFile_octets? {path content : String} {s s' : σ} :
    (writeFile path content : StateM σ Bool).run s = (true, s') →
      ∃ f, fileAt? s' path = some f ∧ octets? s' f = some (Text.octets content) ∧
        ∀ g, g ≠ f → octets? s' g = octets? s g
  writeFile_fileAt? {path content : String} {s s' : σ} {p : String} {f : File} :
    (writeFile path content : StateM σ Bool).run s = (true, s') →
      fileAt? s p = some f → fileAt? s' p = some f

/-! What the operations on output files do to a state, step by step. -/

namespace OutputFile

variable {σ : Type} [FileSystem (StateM σ)]

theorem run_createParent (file : OutputFile) (s : σ) :
    (createParent file : StateM σ (Except String Unit)).run s =
      match Path.parent? file.path with
      | none => (.ok (), s)
      | some parent =>
        match (createDirectories parent : StateM σ Bool).run s with
        | (false, t) => (.error parent, t)
        | (true, t) => (.ok (), t) := by
  unfold createParent
  cases Path.parent? file.path with
  | none => rfl
  | some parent =>
    dsimp only
    rw [StateT.run_bind]
    obtain ⟨done, t⟩ := (createDirectories parent : StateM σ Bool).run s
    cases done <;> rfl

theorem run_createParents_cons (file : OutputFile) (rest : List OutputFile) (s : σ) :
    (createParents (file :: rest) : StateM σ (Except String Unit)).run s =
      match (createParent file : StateM σ (Except String Unit)).run s with
      | (.error path, t) => (.error path, t)
      | (.ok _, t) => (createParents rest : StateM σ (Except String Unit)).run t := by
  rw [createParents, StateT.run_bind]
  obtain ⟨result, t⟩ := (createParent file : StateM σ (Except String Unit)).run s
  cases result <;> rfl

theorem run_write (file : OutputFile) (s : σ) :
    (write file : StateM σ Bool).run s =
      match (createParent file : StateM σ (Except String Unit)).run s with
      | (.error _, t) => (false, t)
      | (.ok _, t) => (writeFile file.path file.content : StateM σ Bool).run t := by
  rw [write, StateT.run_bind]
  obtain ⟨result, t⟩ := (createParent file : StateM σ (Except String Unit)).run s
  cases result <;> rfl

theorem run_writeAll_cons (file : OutputFile) (rest : List OutputFile) (s : σ) :
    (writeAll (file :: rest) : StateM σ (Except String (List String))).run s =
      match (write file : StateM σ Bool).run s with
      | (false, t) => (.error file.path, t)
      | (true, t) =>
        match (writeAll rest : StateM σ (Except String (List String))).run t with
        | (.error path, u) => (.error path, u)
        | (.ok paths, u) => (.ok (file.path :: paths), u) := by
  rw [writeAll, StateT.run_bind]
  obtain ⟨done, t⟩ := (write file : StateM σ Bool).run s
  cases done with
  | false => rfl
  | true =>
    dsimp only
    show ((writeAll rest : StateM σ (Except String (List String))) >>= _).run t = _
    rw [StateT.run_bind]
    obtain ⟨result, u⟩ := (writeAll rest : StateM σ (Except String (List String))).run t
    cases result <;> rfl

theorem run_flush (files : List OutputFile) (s : σ) :
    (flush files : StateM σ (Except String (List String))).run s =
      match (createParents files : StateM σ (Except String Unit)).run s with
      | (.error path, t) => (.error path, t)
      | (.ok _, t) => (writeAll files : StateM σ (Except String (List String))).run t := by
  rw [flush, StateT.run_bind]
  obtain ⟨result, t⟩ := (createParents files : StateM σ (Except String Unit)).run s
  cases result <;> rfl

end OutputFile

namespace FileStore

variable {σ : Type} [FileSystem (StateM σ)] [FileStore σ] {s s' s'' : σ}

/-- A step that leads no path to another file. -/
def Grows (s s' : σ) : Prop := ∀ p (f : File σ), fileAt? s p = some f → fileAt? s' p = some f

/-- A step that changes no file. -/
structure Creates (s s' : σ) : Prop where
  grows : Grows s s'
  octets : ∀ f : File σ, octets? s' f = octets? s f

/-- A step that puts a content in place of that of one file. -/
structure Writes (file : OutputFile) (s s' : σ) : Prop where
  grows : Grows s s'
  octets : ∃ f : File σ, fileAt? s' file.path = some f ∧
    octets? s' f = some (Text.octets file.content) ∧ ∀ g, g ≠ f → octets? s' g = octets? s g

/-- A file holds the content of the last of some output files whose path leads to it. -/
def HoldsLast (files : List OutputFile) (s : σ) (f : File σ) : Prop :=
  ∃ before file after, files = before ++ file :: after ∧ fileAt? s file.path = some f ∧
    octets? s f = some (Text.octets file.content) ∧
    ∀ later ∈ after, fileAt? s later.path ≠ some f

/-- What writing output files in order does to a store. -/
structure Flushes (files : List OutputFile) (s s' : σ) : Prop where
  grows : Grows s s'
  holds : ∀ file ∈ files, ∃ f : File σ, fileAt? s' file.path = some f ∧ HoldsLast files s' f
  octets : ∀ f : File σ, (∀ file ∈ files, fileAt? s' file.path ≠ some f) →
    octets? s' f = octets? s f

theorem Grows.refl (s : σ) : Grows s s := fun _ _ h => h

theorem Grows.trans (h : Grows s s') (h' : Grows s' s'') : Grows s s'' :=
  fun p f hf => h' p f (h p f hf)

theorem Creates.refl (s : σ) : Creates s s := ⟨Grows.refl s, fun _ => rfl⟩

theorem Creates.trans (h : Creates s s') (h' : Creates s' s'') : Creates s s'' :=
  ⟨h.grows.trans h'.grows, fun f => (h'.octets f).trans (h.octets f)⟩

theorem Writes.after_creates {file : OutputFile} (h : Creates s s') (h' : Writes file s' s'') :
    Writes file s s'' := by
  obtain ⟨f, hf, hcontent, hothers⟩ := h'.octets
  refine ⟨h.grows.trans h'.grows, f, hf, hcontent, ?_⟩
  intro g hg
  rw [hothers g hg, h.octets g]

theorem Flushes.after_creates {files : List OutputFile} (h : Creates s s')
    (h' : Flushes files s' s'') : Flushes files s s'' := by
  refine ⟨h.grows.trans h'.grows, h'.holds, ?_⟩
  intro f hf
  rw [h'.octets f hf, h.octets f]

theorem Flushes.nil (s : σ) : Flushes [] s s := ⟨Grows.refl s, by simp, fun _ _ => rfl⟩

/-- The first file keeps its content unless a later one leads to the same place. -/
theorem Flushes.cons {file : OutputFile} {rest : List OutputFile} (h : Writes file s s')
    (h' : Flushes rest s' s'') : Flushes (file :: rest) s s'' := by
  have hextend (f : File σ) (hf : HoldsLast rest s'' f) : HoldsLast (file :: rest) s'' f := by
    obtain ⟨before, last, after, rfl, hlast⟩ := hf
    exact ⟨file :: before, last, after, rfl, hlast⟩
  obtain ⟨f, hf, hcontent, hothers⟩ := h.octets
  have hf' := h'.grows _ _ hf
  refine ⟨h.grows.trans h'.grows, ?_, ?_⟩
  · intro x hx
    rcases List.mem_cons.mp hx with rfl | hx
    · refine ⟨f, hf', ?_⟩
      by_cases hlater : ∃ later ∈ rest, fileAt? s'' later.path = some f
      · obtain ⟨later, hmem, hl⟩ := hlater
        obtain ⟨g, hg, hholds⟩ := h'.holds later hmem
        obtain rfl : f = g := Option.some.inj (hl.symm.trans hg)
        exact hextend f hholds
      · have hnone : ∀ later ∈ rest, fileAt? s'' later.path ≠ some f :=
          fun later hmem hl => hlater ⟨later, hmem, hl⟩
        exact ⟨[], x, rest, rfl, hf', (h'.octets f hnone).trans hcontent, hnone⟩
    · obtain ⟨g, hg, hholds⟩ := h'.holds x hx
      exact ⟨g, hg, hextend g hholds⟩
  · intro g hg
    have hne : g ≠ f := by
      rintro rfl
      exact hg file (List.mem_cons_self ..) hf'
    rw [h'.octets g fun x hx => hg x (List.mem_cons_of_mem file hx), hothers g hne]

theorem createParent_creates (file : OutputFile) (s : σ) :
    Creates s ((OutputFile.createParent file : StateM σ (Except String Unit)).run s).2 := by
  rw [OutputFile.run_createParent]
  cases Path.parent? file.path with
  | none => exact Creates.refl s
  | some parent =>
    have hcreates : Creates s ((createDirectories parent : StateM σ Bool).run s).2 :=
      ⟨fun p f => createDirectories_fileAt? parent, createDirectories_octets? parent s⟩
    dsimp only
    revert hcreates
    obtain ⟨done, t⟩ := (createDirectories parent : StateM σ Bool).run s
    cases done <;> exact id

theorem createParents_creates (files : List OutputFile) (s : σ) :
    Creates s ((OutputFile.createParents files : StateM σ (Except String Unit)).run s).2 := by
  induction files generalizing s with
  | nil => exact Creates.refl s
  | cons file rest ih =>
    have hfirst := createParent_creates file s
    rw [OutputFile.run_createParents_cons]
    revert hfirst
    obtain ⟨result, t⟩ := (OutputFile.createParent file : StateM σ (Except String Unit)).run s
    intro hfirst
    cases result with
    | error path => exact hfirst
    | ok _ => exact hfirst.trans (ih t)

theorem write_writes {file : OutputFile}
    (h : (OutputFile.write file : StateM σ Bool).run s = (true, s')) : Writes file s s' := by
  have hparent := createParent_creates file s
  rw [OutputFile.run_write] at h
  revert h hparent
  obtain ⟨result, t⟩ := (OutputFile.createParent file : StateM σ (Except String Unit)).run s
  intro h hparent
  cases result with
  | error path => cases h
  | ok _ =>
    have hwrites : Writes file t s' := ⟨fun p f => writeFile_fileAt? h, writeFile_octets? h⟩
    exact hwrites.after_creates hparent

/-- Writing files reports their paths in order. -/
theorem writeAll_flushes {files : List OutputFile} {paths : List String}
    (h : (OutputFile.writeAll files : StateM σ (Except String (List String))).run s =
      (.ok paths, s')) : paths = files.map (·.path) ∧ Flushes files s s' := by
  induction files generalizing s paths with
  | nil =>
    cases h
    exact ⟨rfl, Flushes.nil _⟩
  | cons file rest ih =>
    rw [OutputFile.run_writeAll_cons] at h
    cases hwrite : (OutputFile.write file : StateM σ Bool).run s with
    | mk done t =>
      rw [hwrite] at h
      cases done with
      | false => cases h
      | true =>
        cases hrest : (OutputFile.writeAll rest : StateM σ (Except String (List String))).run t with
        | mk result u =>
          simp only [hrest] at h
          cases result with
          | error path => cases h
          | ok written =>
            cases h
            obtain ⟨rfl, hflushes⟩ := ih hrest
            exact ⟨rfl, hflushes.cons (write_writes hwrite)⟩

theorem flush_flushes {files : List OutputFile} {paths : List String}
    (h : (OutputFile.flush files : StateM σ (Except String (List String))).run s =
      (.ok paths, s')) : paths = files.map (·.path) ∧ Flushes files s s' := by
  have hparents := createParents_creates files s
  rw [OutputFile.run_flush] at h
  revert h hparents
  obtain ⟨result, t⟩ := (OutputFile.createParents files : StateM σ (Except String Unit)).run s
  intro h hparents
  cases result with
  | error path => cases h
  | ok _ =>
    obtain ⟨hpaths, hflushes⟩ := writeAll_flushes h
    exact ⟨hpaths, hflushes.after_creates hparents⟩

end FileStore

end DataLayer
