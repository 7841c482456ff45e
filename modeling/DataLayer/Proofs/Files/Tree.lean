import DataLayer.FileTree
import DataLayer.Proofs.Files.Store

/-!
Disks as values are file stores. Entries are added or replaced one at a time, directories stay
directories and files stay files, so a path that leads to a file keeps its way.
-/

namespace DataLayer.FileTree

/-- The octets of the file at a place. -/
def octetsAt? (t : FileTree) (p : Place) : Option (List UInt8) :=
  match t.lookup? p with
  | some (.file bytes) => some bytes
  | _ => none

/-- The place of the file that a path leads to. -/
def filePlace? (t : FileTree) (path : String) : Option Place :=
  match t.locate path with
  | .found p _ => if (t.octetsAt? p).isSome then some p else none
  | _ => none

theorem filePlace?_eq_some {t : FileTree} {path : String} {p : Place} :
    t.filePlace? path = some p ↔
      (∃ d, t.locate path = .found p d) ∧ ∃ bytes, t.lookup? p = some (.file bytes) := by
  unfold filePlace?
  have hoctets (q : Place) :
      (t.octetsAt? q).isSome ↔ ∃ bytes, t.lookup? q = some (.file bytes) := by
    unfold octetsAt?
    split <;> simp_all
  constructor
  · intro h
    split at h
    · next q d hq =>
      split at h
      · next hsome =>
        obtain rfl := Option.some.inj h
        exact ⟨⟨d, hq⟩, (hoctets q).mp hsome⟩
      · contradiction
    · contradiction
  · rintro ⟨⟨d, hd⟩, hfile⟩
    simp [hd, (hoctets p).mpr hfile]

/-- A step that keeps every directory and every file, though not what is in the files. -/
structure Extends (t t' : FileTree) : Prop where
  workingDirectory : t'.workingDirectory = t.workingDirectory
  directory : ∀ p, t.lookup? p = some .directory → t'.lookup? p = some .directory
  file : ∀ p bytes, t.lookup? p = some (.file bytes) → ∃ bytes', t'.lookup? p = some (.file bytes')

theorem Extends.refl (t : FileTree) : Extends t t :=
  ⟨rfl, fun _ h => h, fun _ bytes h => ⟨bytes, h⟩⟩

theorem Extends.trans {t t' t'' : FileTree} (h : Extends t t') (h' : Extends t' t'') :
    Extends t t'' := by
  refine ⟨h'.workingDirectory.trans h.workingDirectory,
    fun p hp => h'.directory p (h.directory p hp), fun p bytes hp => ?_⟩
  obtain ⟨bytes', hp'⟩ := h.file p bytes hp
  exact h'.file p bytes' hp'

/-- What a path finds, it still finds after entries have been added. -/
theorem Extends.follow {t t' : FileTree} (h : Extends t t') {segments : List (List Char)}
    {here p : Place} {d : Bool} (hfound : t.follow here segments = .found p d) :
    t'.follow here segments = .found p d := by
  fun_induction FileTree.follow t here segments with
  | case1 here => exact hfound
  | case2 here segment rest hskip ih =>
    rw [FileTree.follow, if_pos hskip]
    exact ih hfound
  | case3 here rest hskip ih =>
    rw [FileTree.follow, if_neg hskip, if_pos rfl]
    exact ih hfound
  | case4 => contradiction
  | case5 here segment rest hskip hup hallowed next hnext ih =>
    have hnext' := h.directory (here ++ [String.ofList segment]) hnext
    rw [FileTree.follow, if_neg hskip, if_neg hup, if_neg hallowed]
    simp only [hnext']
    exact ih hfound
  | case6 here segment rest hskip hup hallowed next bytes hnext hrest =>
    obtain ⟨bytes', hnext'⟩ := h.file (here ++ [String.ofList segment]) bytes hnext
    rw [FileTree.follow, if_neg hskip, if_neg hup, if_neg hallowed]
    simp only [hnext', hrest, if_true]
    exact hfound
  | case7 => contradiction
  | case8 => contradiction
  | case9 => contradiction

theorem locate_eq {t : FileTree} {path : String} {target : Target} (hmissing : target ≠ .missing)
    (hrefused : target ≠ .refused) :
    t.locate path = target ↔ ¬path.isEmpty ∧ ¬path.utf8ByteSize ≥ 4096 ∧
      t.follow (if Path.isAbsolute path then [] else t.workingDirectory)
        (Text.splitAt '/' path.toList) = target := by
  unfold locate
  split
  · next hempty => simp [hempty, hmissing.symm]
  · next hempty =>
    split
    · next hlong => simp [hlong, hrefused.symm]
    · next hlong => simp [hempty, hlong]

theorem Extends.locate {t t' : FileTree} (h : Extends t t') {path : String} {p : Place} {d : Bool}
    (hfound : t.locate path = .found p d) : t'.locate path = .found p d := by
  rw [locate_eq (by simp) (by simp)] at hfound ⊢
  rw [h.workingDirectory]
  exact ⟨hfound.1, hfound.2.1, h.follow hfound.2.2⟩

theorem Extends.filePlace? {t t' : FileTree} (h : Extends t t') {path : String} {p : Place}
    (hp : t.filePlace? path = some p) : t'.filePlace? path = some p := by
  rw [filePlace?_eq_some] at hp ⊢
  obtain ⟨⟨d, hd⟩, bytes, hbytes⟩ := hp
  exact ⟨⟨d, h.locate hd⟩, h.file p bytes hbytes⟩

/-- A free name is no entry yet, and a path that does not ask for a directory finds a file. -/
theorem follow_target {t : FileTree} {segments : List (List Char)} {here p : Place} :
    (∀ d, t.follow here segments = .free p d → p ≠ [] ∧ t.lookup? p = none) ∧
      (t.follow here segments = .found p false →
        p ≠ [] ∧ ∃ bytes, t.lookup? p = some (.file bytes)) := by
  fun_induction FileTree.follow t here segments with
  | case1 here => simp
  | case2 here segment rest hskip ih => exact ih
  | case3 here rest hskip ih => exact ih
  | case4 => simp
  | case5 here segment rest hskip hup hallowed next hnext ih => exact ih
  | case6 here segment rest hskip hup hallowed next bytes hnext hrest =>
    refine ⟨by simp, fun hfound => ?_⟩
    obtain ⟨rfl, -⟩ := Target.found.inj hfound
    exact ⟨by simp [next], bytes, hnext⟩
  | case7 => simp
  | case8 here segment rest hskip hup hallowed next hnext hrest =>
    refine ⟨fun d hfree => ?_, by simp⟩
    obtain ⟨rfl, -⟩ := Target.free.inj hfree
    exact ⟨by simp [next], hnext⟩
  | case9 => simp

theorem lookup?_put (t : FileTree) {p : Place} (hp : p ≠ []) (e : FileEntry) (q : Place) :
    (t.put p e).lookup? q = if q = p then some e else t.lookup? q := by
  unfold lookup? put
  by_cases hq : q = []
  · subst hq
    simp [hp.symm]
  · simp [hq, lookup_putEntry]

theorem lookup?_put_self (t : FileTree) {p : Place} (hp : p ≠ []) (e : FileEntry) :
    (t.put p e).lookup? p = some e := by
  rw [lookup?_put t hp, if_pos rfl]

theorem follow_skipped (t : FileTree) {segments : List (List Char)}
    (h : segments.all List.isEmpty = true) (here : Place) :
    t.follow here segments = .found here true := by
  induction segments with
  | nil => rfl
  | cons segment rest ih =>
    rw [List.all_cons, Bool.and_eq_true] at h
    have hskip : Path.isSkipped segment = true := by simp [Path.isSkipped, h.1]
    rw [follow, if_pos hskip]
    exact ih h.2

/-- An entry that takes a free name is found there, a file if no directory is asked for. -/
theorem Extends.follow_free {t t' : FileTree} (h : Extends t t') {segments : List (List Char)}
    {here p : Place} {d : Bool} {e : FileEntry} (hfree : t.follow here segments = .free p d)
    (hp : t'.lookup? p = some e) (he : e = .directory ∨ d = false) :
    t'.follow here segments = .found p (e == .directory) := by
  fun_induction FileTree.follow t here segments with
  | case1 here => contradiction
  | case2 here segment rest hskip ih =>
    rw [FileTree.follow, if_pos hskip]
    exact ih hfree
  | case3 here rest hskip ih =>
    rw [FileTree.follow, if_neg hskip, if_pos rfl]
    exact ih hfree
  | case4 => contradiction
  | case5 here segment rest hskip hup hallowed next hnext ih =>
    have hnext' := h.directory (here ++ [String.ofList segment]) hnext
    rw [FileTree.follow, if_neg hskip, if_neg hup, if_neg hallowed]
    simp only [hnext']
    exact ih hfree
  | case6 => contradiction
  | case7 => contradiction
  | case8 here segment rest hskip hup hallowed next hnext hrest =>
    obtain ⟨rfl, rfl⟩ := Target.free.inj hfree
    rw [FileTree.follow, if_neg hskip, if_neg hup, if_neg hallowed]
    simp only [next] at hp
    cases e with
    | directory =>
      simp only [hp]
      exact t'.follow_skipped hrest _
    | file bytes =>
      have hempty : rest.isEmpty = true := by simpa using he
      simp only [hp, hempty, if_true, next]
      rfl
  | case9 => contradiction

theorem Extends.locate_free {t t' : FileTree} (h : Extends t t') {path : String} {p : Place}
    {d : Bool} {e : FileEntry} (hfree : t.locate path = .free p d) (hp : t'.lookup? p = some e)
    (he : e = .directory ∨ d = false) : t'.locate path = .found p (e == .directory) := by
  rw [locate_eq (by simp) (by simp)] at hfree ⊢
  rw [h.workingDirectory]
  exact ⟨hfree.1, hfree.2.1, h.follow_free hfree.2.2 hp he⟩

theorem locate_free {t : FileTree} {path : String} {p : Place} {d : Bool}
    (h : t.locate path = .free p d) : p ≠ [] ∧ t.lookup? p = none :=
  follow_target.1 d ((locate_eq (by simp) (by simp)).mp h).2.2

theorem locate_found {t : FileTree} {path : String} {p : Place}
    (h : t.locate path = .found p false) : p ≠ [] ∧ ∃ bytes, t.lookup? p = some (.file bytes) :=
  follow_target.2 ((locate_eq (by simp) (by simp)).mp h).2.2

theorem extends_put_free {t : FileTree} {p : Place} (hp : p ≠ []) (hfree : t.lookup? p = none)
    (e : FileEntry) : Extends t (t.put p e) := by
  have hother (q : Place) (hq : t.lookup? q ≠ none) : (t.put p e).lookup? q = t.lookup? q := by
    rw [lookup?_put t hp, if_neg]
    rintro rfl
    exact hq hfree
  refine ⟨rfl, fun q hq => ?_, fun q bytes hq => ⟨bytes, ?_⟩⟩
  · rw [hother q (by simp [hq]), hq]
  · rw [hother q (by simp [hq]), hq]

theorem extends_put_file {t : FileTree} {p : Place} (hp : p ≠ []) {old : List UInt8}
    (hfile : t.lookup? p = some (.file old)) (bytes : List UInt8) :
    Extends t (t.put p (.file bytes)) := by
  refine ⟨rfl, fun q hq => ?_, fun q content hq => ?_⟩
  · rw [lookup?_put t hp, if_neg, hq]
    rintro rfl
    rw [hfile] at hq
    cases hq
  · rw [lookup?_put t hp]
    split
    · exact ⟨bytes, rfl⟩
    · exact ⟨content, hq⟩

theorem octetsAt?_put (t : FileTree) {p q : Place} (hp : p ≠ []) (e : FileEntry) (hq : q ≠ p) :
    (t.put p e).octetsAt? q = t.octetsAt? q := by
  unfold octetsAt?
  rw [lookup?_put t hp, if_neg hq]

/-- A step that changes no file. -/
structure Adds (t t' : FileTree) : Prop extends Extends t t' where
  octets : ∀ p, t'.octetsAt? p = t.octetsAt? p

theorem Adds.refl (t : FileTree) : Adds t t := ⟨Extends.refl t, fun _ => rfl⟩

theorem Adds.trans {t t' t'' : FileTree} (h : Adds t t') (h' : Adds t' t'') : Adds t t'' :=
  ⟨h.toExtends.trans h'.toExtends, fun p => (h'.octets p).trans (h.octets p)⟩

theorem makeDirectory_adds {t t' : FileTree} {path : String} {target : Target}
    (h : t.makeDirectory path = (some t', target)) : Adds t t' := by
  unfold makeDirectory at h
  split at h
  · next p d hfree =>
    obtain ⟨hp, hnone⟩ := FileTree.locate_free hfree
    cases h
    refine ⟨extends_put_free hp hnone .directory, fun q => ?_⟩
    by_cases hq : q = p
    · subst hq
      simp [octetsAt?, lookup?_put t hp, hnone]
    · exact octetsAt?_put t hp .directory hq
  · cases h

theorem makeDirectories_adds (paths : List String) (t : FileTree) :
    Adds t (makeDirectories paths t).2 := by
  fun_induction makeDirectories paths t with
  | case1 t => exact Adds.refl t
  | case2 path above t hempty => exact Adds.refl t
  | case3 path above t hempty made target hmade => exact makeDirectory_adds hmade
  | case4 path above t hempty hmissing t' habove ih => rwa [habove] at ih
  | case5 path above t hempty hmissing t' habove made target hmade ih =>
    rw [habove] at ih
    exact ih.trans (makeDirectory_adds hmade)
  | case6 path above t hempty hmissing t' habove target hfails ih => rwa [habove] at ih
  | case7 path above t hempty target hfails hother => exact Adds.refl t

theorem write_puts {t t' : FileTree} {path : String} {bytes : List UInt8}
    (h : t.write path bytes = (true, t')) :
    ∃ p, t'.filePlace? path = some p ∧ t'.octetsAt? p = some bytes ∧ Extends t t' ∧
      ∀ q, q ≠ p → t'.octetsAt? q = t.octetsAt? q := by
  have hput (p : Place) (hp : p ≠ []) (hextends : Extends t (t.put p (.file bytes)))
      (hfound : (t.put p (.file bytes)).locate path = .found p false) :
      (t.put p (.file bytes)).filePlace? path = some p ∧
        (t.put p (.file bytes)).octetsAt? p = some bytes ∧ Extends t (t.put p (.file bytes)) ∧
          ∀ q, q ≠ p → (t.put p (.file bytes)).octetsAt? q = t.octetsAt? q := by
    have hentry := lookup?_put_self t hp (.file bytes)
    refine ⟨filePlace?_eq_some.mpr ⟨⟨false, hfound⟩, bytes, hentry⟩, ?_, hextends,
      fun q hq => octetsAt?_put t hp _ hq⟩
    simp [octetsAt?, hentry]
  unfold write at h
  split at h
  · next p hfound =>
    obtain ⟨hp, old, hold⟩ := locate_found hfound
    have hextends := extends_put_file hp hold bytes
    cases h
    exact ⟨p, hput p hp hextends (hextends.locate hfound)⟩
  · next p hfree =>
    obtain ⟨hp, hnone⟩ := FileTree.locate_free hfree
    have hextends := extends_put_free hp hnone (.file bytes)
    cases h
    have hfound := hextends.locate_free hfree (lookup?_put_self t hp _) (Or.inr rfl)
    exact ⟨p, hput p hp hextends hfound⟩
  · cases h

instance : FileStore FileTree where
  File := Place
  fileAt? := filePlace?
  octets? := octetsAt?
  isFile_state _ _ := rfl
  readFile_state _ _ := rfl
  createDirectories_octets? path t := (makeDirectories_adds _ t).octets
  createDirectories_fileAt? path _ _ _ h := (makeDirectories_adds _ _).toExtends.filePlace? h
  writeFile_octets? h := by
    obtain ⟨p, hp, hbytes, -, hothers⟩ := write_puts h
    exact ⟨p, hp, hbytes, hothers⟩
  writeFile_fileAt? h hp := by
    obtain ⟨-, -, -, hextends, -⟩ := write_puts h
    exact hextends.filePlace? hp

end DataLayer.FileTree
