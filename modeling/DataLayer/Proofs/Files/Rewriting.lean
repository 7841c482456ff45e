import DataLayer.Proofs.Files.Store
import Mathlib.Logic.Relation

/-!
Files that are written once more. On a store where directories and files that are there stay
usable, output files that have been written can be written again, and then nothing has changed:
the last content of every file is the same as before.
-/

namespace DataLayer

/-- A step that changes files: directories are created as far as possible, or a file is written. -/
inductive FileStep {σ : Type} [FileSystem (StateM σ)] (s : σ) : σ → Prop
  | creates (path : String) : FileStep s ((createDirectories path : StateM σ Bool).run s).2
  | writes {path content : String} {s' : σ}
      (written : (writeFile path content : StateM σ Bool).run s = (true, s')) : FileStep s s'

/-- A store on which directories that have been created are there, and files that have been written
can be overwritten, whatever happens in between. Reading gives no more than what is in a file, and a
state has no more to it than its shape and what is in its files. -/
class SteadyStore (σ : Type) [FileSystem (StateM σ)] extends FileStore σ where
  /-- All of a state but what is in its files. -/
  Shape : Type
  shape : σ → Shape
  HasDirectory : σ → String → Prop
  CanOverwrite : σ → String → Prop
  ext {s s' : σ} : shape s = shape s' → (∀ f, octets? s f = octets? s' f) → s = s'
  isFile_eq (path : String) (s : σ) :
    ((isFile path : StateM σ Bool).run s).1 = (fileAt? s path).isSome
  readFile_eq {path : String} {s s' : σ} {f : File} :
    Relation.ReflTransGen FileStep s s' → fileAt? s path = some f → octets? s' f = octets? s f →
      ((readFile path : StateM σ (Option (List UInt8))).run s').1 =
        ((readFile path : StateM σ (Option (List UInt8))).run s).1
  hasDirectory_of_created {path : String} {s s' : σ} :
    (createDirectories path : StateM σ Bool).run s = (true, s') → HasDirectory s' path
  hasDirectory_step {path : String} {s s' : σ} :
    FileStep s s' → HasDirectory s path → HasDirectory s' path
  createDirectories_eq {path : String} {s : σ} :
    HasDirectory s path → (createDirectories path : StateM σ Bool).run s = (true, s)
  canOverwrite_of_written {path content : String} {s s' : σ} :
    (writeFile path content : StateM σ Bool).run s = (true, s') → CanOverwrite s' path
  canOverwrite_step {path : String} {s s' : σ} :
    FileStep s s' → CanOverwrite s path → CanOverwrite s' path
  overwrite {path : String} {s : σ} (content : String) :
    CanOverwrite s path →
      ∃ s', (writeFile path content : StateM σ Bool).run s = (true, s') ∧ shape s' = shape s

namespace SteadyStore

open FileStore

variable {σ : Type} [FileSystem (StateM σ)]

/-- What writing output files does is a number of steps. -/
abbrev Steps : σ → σ → Prop := Relation.ReflTransGen FileStep

section Steps

variable {s s' : σ}

theorem steps_createParent (file : OutputFile) (s : σ) :
    Steps s ((OutputFile.createParent file : StateM σ (Except String Unit)).run s).2 := by
  rw [OutputFile.run_createParent]
  cases Path.parent? file.path with
  | none => exact .refl
  | some parent =>
    have hstep := FileStep.creates (s := s) parent
    dsimp only
    revert hstep
    obtain ⟨done, t⟩ := (createDirectories parent : StateM σ Bool).run s
    intro hstep
    cases done <;> exact .single hstep

theorem steps_createParents (files : List OutputFile) (s : σ) :
    Steps s ((OutputFile.createParents files : StateM σ (Except String Unit)).run s).2 := by
  induction files generalizing s with
  | nil => exact .refl
  | cons file rest ih =>
    have hfirst := steps_createParent file s
    rw [OutputFile.run_createParents_cons]
    revert hfirst
    obtain ⟨result, t⟩ := (OutputFile.createParent file : StateM σ (Except String Unit)).run s
    intro hfirst
    cases result with
    | error path => exact hfirst
    | ok _ => exact hfirst.trans (ih t)

theorem steps_write {file : OutputFile}
    (h : (OutputFile.write file : StateM σ Bool).run s = (true, s')) : Steps s s' := by
  have hparent := steps_createParent file s
  rw [OutputFile.run_write] at h
  revert h hparent
  obtain ⟨result, t⟩ := (OutputFile.createParent file : StateM σ (Except String Unit)).run s
  intro h hparent
  cases result with
  | error path => cases h
  | ok _ => exact hparent.tail (.writes h)

/-- The files of a list are written one by one. -/
theorem writeAll_cons {file : OutputFile} {rest : List OutputFile} {paths : List String}
    (h : (OutputFile.writeAll (file :: rest) : StateM σ (Except String (List String))).run s =
      (.ok paths, s')) :
    ∃ t paths', (OutputFile.write file : StateM σ Bool).run s = (true, t) ∧
      (OutputFile.writeAll rest : StateM σ (Except String (List String))).run t =
        (.ok paths', s') := by
  rw [OutputFile.run_writeAll_cons] at h
  revert h
  obtain ⟨done, t⟩ := (OutputFile.write file : StateM σ Bool).run s
  intro h
  cases done with
  | false => cases h
  | true =>
    cases hrest : (OutputFile.writeAll rest : StateM σ (Except String (List String))).run t with
    | mk result u =>
      simp only [hrest] at h
      cases result with
      | error path => cases h
      | ok paths' =>
        cases h
        exact ⟨t, paths', rfl, hrest⟩

theorem steps_writeAll {files : List OutputFile} {paths : List String}
    (h : (OutputFile.writeAll files : StateM σ (Except String (List String))).run s =
      (.ok paths, s')) : Steps s s' := by
  induction files generalizing s paths with
  | nil =>
    cases h
    exact .refl
  | cons file rest ih =>
    obtain ⟨t, paths', hfirst, hrest⟩ := writeAll_cons h
    exact (steps_write hfirst).trans (ih hrest)

/-- Directories come first, then files. -/
theorem flush_eq_ok {files : List OutputFile} {paths : List String}
    (h : (OutputFile.flush files : StateM σ (Except String (List String))).run s =
      (.ok paths, s')) :
    ∃ t, (OutputFile.createParents files : StateM σ (Except String Unit)).run s = (.ok (), t) ∧
      (OutputFile.writeAll files : StateM σ (Except String (List String))).run t =
        (.ok paths, s') := by
  rw [OutputFile.run_flush] at h
  revert h
  obtain ⟨result, t⟩ := (OutputFile.createParents files : StateM σ (Except String Unit)).run s
  intro h
  cases result with
  | error path => cases h
  | ok _ => exact ⟨t, rfl, h⟩

theorem steps_flush {files : List OutputFile} {paths : List String}
    (h : (OutputFile.flush files : StateM σ (Except String (List String))).run s =
      (.ok paths, s')) : Steps s s' := by
  obtain ⟨t, hparents, hall⟩ := flush_eq_ok h
  have hfirst := steps_createParents files s
  rw [hparents] at hfirst
  exact hfirst.trans (steps_writeAll hall)

end Steps

variable [SteadyStore σ] {s s' : σ}

theorem Steps.hasDirectory {path : String} (h : Steps s s') (hs : HasDirectory s path) :
    HasDirectory s' path := by
  induction h with
  | refl => exact hs
  | tail _ hstep ih => exact hasDirectory_step hstep ih

theorem Steps.canOverwrite {path : String} (h : Steps s s') (hs : CanOverwrite s path) :
    CanOverwrite s' path := by
  induction h with
  | refl => exact hs
  | tail _ hstep ih => exact canOverwrite_step hstep ih

/-- The directory that an output file goes to, if it has one, is there. -/
def HasParent (s : σ) (file : OutputFile) : Prop :=
  ∀ parent, Path.parent? file.path = some parent → HasDirectory s parent

theorem HasParent.of_steps {file : OutputFile} (hs : HasParent s file) (h : Steps s s') :
    HasParent s' file :=
  fun parent hparent => h.hasDirectory (hs parent hparent)

theorem hasParent_of_createParent {file : OutputFile}
    (h : (OutputFile.createParent file : StateM σ (Except String Unit)).run s = (.ok (), s')) :
    HasParent s' file := by
  intro parent hparent
  rw [OutputFile.run_createParent, hparent] at h
  dsimp only at h
  cases hcreate : (createDirectories parent : StateM σ Bool).run s with
  | mk done t =>
    rw [hcreate] at h
    cases done with
    | false => cases h
    | true =>
      cases h
      exact hasDirectory_of_created hcreate

theorem createParent_eq {file : OutputFile} (h : HasParent s file) :
    (OutputFile.createParent file : StateM σ (Except String Unit)).run s = (.ok (), s) := by
  rw [OutputFile.run_createParent]
  cases hparent : Path.parent? file.path with
  | none => rfl
  | some parent =>
    dsimp only
    rw [createDirectories_eq (h parent hparent)]

theorem hasParent_of_createParents {files : List OutputFile}
    (h : (OutputFile.createParents files : StateM σ (Except String Unit)).run s = (.ok (), s')) :
    ∀ file ∈ files, HasParent s' file := by
  induction files generalizing s with
  | nil => simp
  | cons file rest ih =>
    rw [OutputFile.run_createParents_cons] at h
    cases hfirst : (OutputFile.createParent file : StateM σ (Except String Unit)).run s with
    | mk result t =>
      rw [hfirst] at h
      cases result with
      | error path => cases h
      | ok _ =>
        have hsteps := steps_createParents rest t
        dsimp only at h
        rw [h] at hsteps
        exact List.forall_mem_cons.mpr
          ⟨(hasParent_of_createParent hfirst).of_steps hsteps, ih h⟩

theorem createParents_eq {files : List OutputFile} (h : ∀ file ∈ files, HasParent s file) :
    (OutputFile.createParents files : StateM σ (Except String Unit)).run s = (.ok (), s) := by
  induction files with
  | nil => rfl
  | cons file rest ih =>
    obtain ⟨hfile, hrest⟩ := List.forall_mem_cons.mp h
    rw [OutputFile.run_createParents_cons, createParent_eq hfile]
    exact ih hrest

theorem canOverwrite_of_write {file : OutputFile}
    (h : (OutputFile.write file : StateM σ Bool).run s = (true, s')) :
    CanOverwrite s' file.path := by
  rw [OutputFile.run_write] at h
  revert h
  obtain ⟨result, t⟩ := (OutputFile.createParent file : StateM σ (Except String Unit)).run s
  intro h
  cases result with
  | error path => cases h
  | ok _ => exact canOverwrite_of_written h

theorem canOverwrite_of_writeAll {files : List OutputFile} {paths : List String}
    (h : (OutputFile.writeAll files : StateM σ (Except String (List String))).run s =
      (.ok paths, s')) : ∀ file ∈ files, CanOverwrite s' file.path := by
  induction files generalizing s paths with
  | nil => simp
  | cons file rest ih =>
    obtain ⟨t, paths', hfirst, hrest⟩ := writeAll_cons h
    have hfile := (steps_writeAll hrest).canOverwrite (canOverwrite_of_write hfirst)
    exact List.forall_mem_cons.mpr ⟨hfile, ih hrest⟩

/-- Files that are there are written without a change to anything but what is in them. -/
theorem exists_writeAll {files : List OutputFile}
    (h : ∀ file ∈ files, HasParent s file ∧ CanOverwrite s file.path) :
    ∃ s', (OutputFile.writeAll files : StateM σ (Except String (List String))).run s =
        (.ok (files.map (·.path)), s') ∧ shape s' = shape s := by
  induction files generalizing s with
  | nil => exact ⟨s, rfl, rfl⟩
  | cons file rest ih =>
    obtain ⟨⟨hparent, hoverwrite⟩, hrest⟩ := List.forall_mem_cons.mp h
    obtain ⟨t, hwritten, hshape⟩ := overwrite file.content hoverwrite
    have hwrite : (OutputFile.write file : StateM σ Bool).run s = (true, t) := by
      rw [OutputFile.run_write, createParent_eq hparent]
      exact hwritten
    have hsteps := steps_write hwrite
    obtain ⟨s', hall, hshape'⟩ := ih (s := t) fun later hlater =>
      ⟨(hrest later hlater).1.of_steps hsteps, hsteps.canOverwrite (hrest later hlater).2⟩
    refine ⟨s', ?_, hshape'.trans hshape⟩
    rw [OutputFile.run_writeAll_cons, hwrite]
    dsimp only
    rw [hall]
    rfl

/-- The last file of a list that leads to a place is told by the list. -/
theorem last_unique {α : Type} {p : α → Prop} {l before before' after after' : List α} {a a' : α}
    (h : l = before ++ a :: after) (h' : l = before' ++ a' :: after') (ha : p a) (ha' : p a')
    (hafter : ∀ later ∈ after, ¬p later) (hafter' : ∀ later ∈ after', ¬p later) : a = a' := by
  rw [h] at h'
  rcases List.append_eq_append_iff.mp h' with ⟨between, -, hlater⟩ | ⟨between, -, hlater⟩
  · cases between with
    | nil => exact (List.cons.inj hlater).1
    | cons first more =>
      obtain ⟨-, rfl⟩ := List.cons.inj hlater
      exact absurd ha' (hafter a' (by simp))
  · cases between with
    | nil => exact (List.cons.inj hlater).1.symm
    | cons first more =>
      obtain ⟨-, rfl⟩ := List.cons.inj hlater
      exact absurd ha (hafter' a (by simp))

/-- What a list of output files leaves in a file does not depend on what was there before. -/
theorem octets?_of_holdsLast {files : List OutputFile} {f : File σ}
    (hpaths : ∀ file ∈ files, fileAt? s file.path = fileAt? s' file.path)
    (h : HoldsLast files s f) (h' : HoldsLast files s' f) : octets? s f = octets? s' f := by
  obtain ⟨before, file, after, hfiles, hfile, hcontent, hlast⟩ := h
  obtain ⟨before', file', after', hfiles', hfile', hcontent', hlast'⟩ := h'
  have hsame : file = file' := by
    apply last_unique (p := fun file => fileAt? s file.path = some f) hfiles hfiles' hfile
    · rw [hpaths file' (by simp [hfiles'])]
      exact hfile'
    · exact hlast
    · intro later hlater
      rw [hpaths later (by simp [hfiles', hlater])]
      exact hlast' later hlater
  rw [hcontent, hcontent', hsame]

/-- Output files that have been written can be written again, which leaves all as it is. -/
theorem flush_again {files : List OutputFile} {written : List String}
    (h : (OutputFile.flush files : StateM σ (Except String (List String))).run s =
      (.ok written, s')) :
    (OutputFile.flush files : StateM σ (Except String (List String))).run s' =
      (.ok written, s') := by
  obtain ⟨hwritten, hflushes⟩ := flush_flushes h
  obtain ⟨t, hparents, hall⟩ := flush_eq_ok h
  have hhave : ∀ file ∈ files, HasParent s' file := fun file hfile =>
    (hasParent_of_createParents hparents file hfile).of_steps (steps_writeAll hall)
  obtain ⟨s'', hagain, hshape⟩ := exists_writeAll fun file hfile =>
    ⟨hhave file hfile, canOverwrite_of_writeAll hall file hfile⟩
  have hflush : (OutputFile.flush files : StateM σ (Except String (List String))).run s' =
      (.ok written, s'') := by
    rw [OutputFile.run_flush, createParents_eq hhave, hwritten]
    exact hagain
  obtain ⟨-, hflushes'⟩ := flush_flushes hflush
  have hpaths : ∀ file ∈ files, fileAt? s'' file.path = fileAt? s' file.path := by
    intro file hfile
    obtain ⟨f, hf, -⟩ := hflushes.holds file hfile
    rw [hf]
    exact hflushes'.grows _ _ hf
  have hoctets : ∀ f : File σ, octets? s'' f = octets? s' f := by
    intro f
    by_cases hto : ∃ file ∈ files, fileAt? s'' file.path = some f
    · obtain ⟨file, hfile, hf⟩ := hto
      obtain ⟨g, hg, hholds⟩ := hflushes.holds file hfile
      obtain ⟨g', hg', hholds'⟩ := hflushes'.holds file hfile
      obtain rfl : g' = f := Option.some.inj (hg'.symm.trans hf)
      obtain rfl : g = g' := by
        apply Option.some.inj
        rw [← hg, ← hg', hpaths file hfile]
      exact octets?_of_holdsLast hpaths hholds' hholds
    · exact hflushes'.octets f fun file hfile hf => hto ⟨file, hfile, hf⟩
  rw [hflush, ext hshape hoctets]

end SteadyStore

end DataLayer
