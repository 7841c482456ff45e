import DataLayer.Proofs.Files.Rewriting
import DataLayer.Proofs.Files.Tree

/-!
Disks as values can be written again. A file that is replaced keeps its entry, so a disk is told by
its entries with empty files and by what is in its files.
-/

namespace DataLayer

/-! Entries with empty files. -/

def FileEntry.emptied : FileEntry → FileEntry
  | .directory => .directory
  | .file _ => .file []

def FileEntry.octets? : FileEntry → Option (List UInt8)
  | .directory => none
  | .file bytes => some bytes

theorem FileEntry.eq_of_emptied {e e' : FileEntry} (h : e.emptied = e'.emptied)
    (hoctets : e.octets? = e'.octets?) : e = e' := by
  cases e with
  | directory =>
    cases e' with
    | directory => rfl
    | file bytes => cases h
  | file bytes =>
    cases e' with
    | directory => cases h
    | file bytes' =>
      obtain rfl := Option.some.inj hoctets
      rfl

namespace FileTree

/-- Empties the files at places that are not hidden by the entries before them. -/
def emptyFiles : List Place → List (Place × FileEntry) → List (Place × FileEntry)
  | _, [] => []
  | hidden, (p, e) :: rest =>
    (p, if p ∈ hidden then e else e.emptied) :: emptyFiles (p :: hidden) rest

theorem emptyFiles_putEntry {hidden : List Place} {es : List (Place × FileEntry)} {p : Place}
    (hp : p ∉ hidden) {old : List UInt8} (hold : es.lookup p = some (.file old))
    (new : List UInt8) : emptyFiles hidden (putEntry p (.file new) es) = emptyFiles hidden es := by
  induction es generalizing hidden with
  | nil => simp at hold
  | cons entry rest ih =>
    obtain ⟨q, e⟩ := entry
    rw [putEntry]
    by_cases hq : q = p
    · subst hq
      obtain rfl : e = .file old := by simpa using hold
      simp [emptyFiles, hp, FileEntry.emptied]
    · have hrest : rest.lookup p = some (.file old) := by
        rwa [List.lookup_cons, beq_false_of_ne (Ne.symm hq)] at hold
      rw [if_neg hq, emptyFiles, emptyFiles, ih (by simp [hp, Ne.symm hq]) hrest]

theorem eq_of_emptyFiles {hidden : List Place} {es es' : List (Place × FileEntry)}
    (h : emptyFiles hidden es = emptyFiles hidden es')
    (hoctets : ∀ p ∉ hidden,
      (es.lookup p).bind FileEntry.octets? = (es'.lookup p).bind FileEntry.octets?) :
    es = es' := by
  induction es generalizing hidden es' with
  | nil =>
    cases es' with
    | nil => rfl
    | cons entry rest => cases h
  | cons entry rest ih =>
    cases es' with
    | nil => cases h
    | cons entry' rest' =>
      obtain ⟨p, e⟩ := entry
      obtain ⟨p', e'⟩ := entry'
      obtain ⟨hentry, hrest⟩ := List.cons.inj h
      obtain ⟨rfl, hentry⟩ := Prod.mk.inj hentry
      have hfirst : e = e' := by
        by_cases hp : p ∈ hidden
        · simpa [hp] using hentry
        · rw [if_neg hp, if_neg hp] at hentry
          exact FileEntry.eq_of_emptied hentry (by simpa using hoctets p hp)
      have hothers : rest = rest' := by
        refine ih hrest fun q hq => ?_
        obtain ⟨hne, hq⟩ := not_or.mp (mt List.mem_cons.mpr hq)
        have hsame := hoctets q hq
        rwa [List.lookup_cons, List.lookup_cons, beq_false_of_ne hne] at hsame
      rw [hfirst, hothers]

/-- A disk with its files emptied. The root is hidden by itself. -/
def emptied (t : FileTree) : FileTree := { t with entries := emptyFiles [[]] t.entries }

theorem octetsAt?_eq (t : FileTree) {p : Place} (hp : p ≠ []) :
    t.octetsAt? p = (t.entries.lookup p).bind FileEntry.octets? := by
  unfold octetsAt? lookup?
  rw [if_neg hp]
  rcases t.entries.lookup p with _ | _ | bytes <;> rfl

theorem eq_of_emptied {t t' : FileTree} (h : t.emptied = t'.emptied)
    (hoctets : ∀ p, t.octetsAt? p = t'.octetsAt? p) : t = t' := by
  obtain ⟨entries, workingDirectory⟩ := t
  obtain ⟨entries', workingDirectory'⟩ := t'
  obtain ⟨hentries, rfl⟩ := FileTree.mk.inj h
  have hsame : entries = entries' := by
    refine eq_of_emptyFiles hentries fun p hp => ?_
    have hne : p ≠ [] := by simpa using hp
    have hat := hoctets p
    rwa [octetsAt?_eq _ hne, octetsAt?_eq _ hne] at hat
  rw [hsame]

theorem emptied_put {t : FileTree} {p : Place} {old : List UInt8}
    (h : t.lookup? p = some (.file old)) (new : List UInt8) :
    (t.put p (.file new)).emptied = t.emptied := by
  have hp : p ≠ [] := by
    rintro rfl
    simp [lookup?] at h
  rw [lookup?, if_neg hp] at h
  unfold emptied put
  rw [emptyFiles_putEntry (by simpa using hp) h]

/-! Directories that are there, and files that can be overwritten. -/

/-- The working directory, or a path that leads to a directory. -/
def HasDirectory (t : FileTree) (path : String) : Prop :=
  path.isEmpty = true ∨ t.isDirectory path = true

/-- A path leads to a file, and does not ask for a directory. -/
def CanOverwrite (t : FileTree) (path : String) : Prop := ∃ p, t.locate path = .found p false

theorem isDirectory_iff {t : FileTree} {path : String} :
    t.isDirectory path = true ↔
      ∃ p d, t.locate path = .found p d ∧ t.lookup? p = some .directory := by
  unfold isDirectory at?
  cases t.locate path <;> simp

theorem Extends.isDirectory {t t' : FileTree} (h : Extends t t') {path : String}
    (hpath : t.isDirectory path = true) : t'.isDirectory path = true := by
  obtain ⟨p, d, hfound, hp⟩ := isDirectory_iff.mp hpath
  exact isDirectory_iff.mpr ⟨p, d, h.locate hfound, h.directory p hp⟩

theorem Extends.hasDirectory {t t' : FileTree} (h : Extends t t') {path : String}
    (hpath : t.HasDirectory path) : t'.HasDirectory path :=
  hpath.imp_right h.isDirectory

theorem Extends.canOverwrite {t t' : FileTree} (h : Extends t t') {path : String}
    (hpath : t.CanOverwrite path) : t'.CanOverwrite path := by
  obtain ⟨p, hp⟩ := hpath
  exact ⟨p, h.locate hp⟩

theorem makeDirectory_isDirectory {t t' : FileTree} {path : String} {target : Target}
    (h : t.makeDirectory path = (some t', target)) : t'.isDirectory path = true := by
  have hextends := (makeDirectory_adds h).toExtends
  unfold makeDirectory at h
  split at h
  · next p d hfree =>
    obtain ⟨hp, -⟩ := FileTree.locate_free hfree
    cases h
    have hentry := lookup?_put_self t hp .directory
    apply isDirectory_iff.mpr
    exact ⟨p, true, hextends.locate_free hfree hentry (Or.inl rfl), hentry⟩
  · cases h

theorem makeDirectories_hasDirectory {path : String} {above : List String} {t t' : FileTree}
    (h : makeDirectories (path :: above) t = (true, t')) : t'.HasDirectory path := by
  rw [makeDirectories] at h
  split at h
  · next hempty => exact Or.inl hempty
  · split at h
    · next made target hmade =>
      cases h
      exact Or.inr (makeDirectory_isDirectory hmade)
    · split at h
      · cases h
      · split at h
        · next made target hmade =>
          cases h
          exact Or.inr (makeDirectory_isDirectory hmade)
        · obtain ⟨hdirectory, rfl⟩ := Prod.mk.inj h
          exact Or.inr hdirectory
    · obtain ⟨hdirectory, rfl⟩ := Prod.mk.inj h
      exact Or.inr hdirectory

theorem makeDirectories_eq {path : String} {t : FileTree} (h : t.HasDirectory path)
    (above : List String) : makeDirectories (path :: above) t = (true, t) := by
  rw [makeDirectories]
  cases hempty : path.isEmpty with
  | true => rfl
  | false =>
    have hdirectory : t.isDirectory path = true := by simpa [HasDirectory, hempty] using h
    obtain ⟨p, d, hfound, -⟩ := isDirectory_iff.mp hdirectory
    have hmake : t.makeDirectory path = (none, .found p d) := by
      unfold makeDirectory
      rw [hfound]
    simp [hmake, hdirectory]

theorem withParents_eq (count : Nat) (path : String) :
    ∃ above, withParents count path = path :: above := by
  cases count <;> exact ⟨_, rfl⟩

theorem createAll_hasDirectory {path : String} {t t' : FileTree}
    (h : t.createAll path = (true, t')) : t'.HasDirectory path := by
  obtain ⟨above, habove⟩ := withParents_eq path.length path
  rw [createAll, habove] at h
  exact makeDirectories_hasDirectory h

theorem createAll_eq {path : String} {t : FileTree} (h : t.HasDirectory path) :
    t.createAll path = (true, t) := by
  obtain ⟨above, habove⟩ := withParents_eq path.length path
  rw [createAll, habove]
  exact makeDirectories_eq h above

theorem write_canOverwrite {t t' : FileTree} {path : String} {bytes : List UInt8}
    (h : t.write path bytes = (true, t')) : t'.CanOverwrite path := by
  unfold write at h
  split at h
  · next p hfound =>
    obtain ⟨hp, old, hold⟩ := locate_found hfound
    cases h
    exact ⟨p, (extends_put_file hp hold bytes).locate hfound⟩
  · next p hfree =>
    obtain ⟨hp, hnone⟩ := FileTree.locate_free hfree
    cases h
    have hfound := (extends_put_free hp hnone (.file bytes)).locate_free hfree
      (lookup?_put_self t hp _) (Or.inr rfl)
    exact ⟨p, hfound⟩
  · cases h

theorem exists_write {t : FileTree} {path : String} (h : t.CanOverwrite path)
    (bytes : List UInt8) : ∃ t', t.write path bytes = (true, t') ∧ t'.emptied = t.emptied := by
  obtain ⟨p, hfound⟩ := h
  obtain ⟨-, old, hold⟩ := locate_found hfound
  refine ⟨t.put p (.file bytes), ?_, emptied_put hold bytes⟩
  rw [write, hfound]

/-- Reading a path gives what is in the file that it leads to. -/
theorem content?_eq (t : FileTree) (path : String) :
    t.content? path = (t.filePlace? path).bind t.octetsAt? := by
  unfold content? at? filePlace? octetsAt?
  cases t.locate path with
  | found p d => rcases hp : t.lookup? p with _ | _ | bytes <;> simp [hp]
  | free p d => rfl
  | missing => rfl
  | refused => rfl

theorem extends_of_step {t t' : FileTree} (h : FileStep t t') : Extends t t' := by
  cases h with
  | creates path => exact (makeDirectories_adds _ t).toExtends
  | writes written =>
    obtain ⟨-, -, -, hextends, -⟩ := write_puts written
    exact hextends

theorem extends_of_steps {t t' : FileTree} (h : Relation.ReflTransGen FileStep t t') :
    Extends t t' := by
  induction h with
  | refl => exact Extends.refl t
  | tail _ hstep ih => exact ih.trans (extends_of_step hstep)

instance : SteadyStore FileTree where
  Shape := FileTree
  shape := emptied
  HasDirectory := HasDirectory
  CanOverwrite := CanOverwrite
  ext := eq_of_emptied
  isFile_eq path t := by
    show (t.content? path).isSome = (t.filePlace? path).isSome
    rw [content?_eq]
    cases hplace : t.filePlace? path with
    | none => rfl
    | some p =>
      obtain ⟨-, bytes, hp⟩ := filePlace?_eq_some.mp hplace
      simp [octetsAt?, hp]
  readFile_eq {path t t' p} hsteps hplace hoctets := by
    show t'.content? path = t.content? path
    have hplace' : t'.filePlace? path = some p := (extends_of_steps hsteps).filePlace? hplace
    rw [content?_eq, content?_eq, hplace', show t.filePlace? path = some p from hplace]
    exact hoctets
  hasDirectory_of_created := createAll_hasDirectory
  hasDirectory_step h := (extends_of_step h).hasDirectory
  createDirectories_eq := createAll_eq
  canOverwrite_of_written := write_canOverwrite
  canOverwrite_step h := (extends_of_step h).canOverwrite
  overwrite content h := exists_write h (Text.octets content)

end FileTree

end DataLayer
