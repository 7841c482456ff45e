import DataLayer.Path
import DataLayer.Proofs.Text.Splitting

/-!
Paths as names in directories. A path is told by the segments that count in it; its parent has all
of them but the last, and a relative name adds its own to those of a directory. So a name leads
into the directory that it is joined to unless it is absolute or has more segments than one.
-/

namespace DataLayer.Path

open Text

/-! Names behind directories. -/

theorem endsWith_iff (path : String) :
    path.endsWith "/" = true ↔ path.toList.getLast? = some '/' := by
  have hslash : "/".toList = ['/'] := rfl
  rw [String.endsWith_eq_endsWith_toSlice, String.Slice.endsWith_string_iff, hslash,
    String.copy_toSlice, List.getLast?_eq_some_iff]
  constructor
  · rintro ⟨front, hfront⟩
    exact ⟨front, hfront.symm⟩
  · rintro ⟨front, hfront⟩
    exact ⟨front, hfront.symm⟩

theorem isAbsolute_iff (path : String) : isAbsolute path = true ↔ path.toList.head? = some '/' := by
  have hslash : "/".toList = ['/'] := rfl
  unfold isAbsolute
  rw [String.startsWith_string_iff, hslash]
  cases path.toList with
  | nil => simp
  | cons c cs => simp [eq_comm]

theorem isAbsolute_empty : isAbsolute "" = false := by
  rw [← Bool.not_eq_true, isAbsolute_iff]
  simp

/-- A relative name stands behind what the directory is on its own. -/
theorem join_eq_append {name : String} (h : isAbsolute name = false) (base : String) :
    join base name = join base "" ++ name := by
  unfold join
  rw [h, isAbsolute_empty]
  cases base.isEmpty with
  | true => simp
  | false => cases base.endsWith "/" <;> simp

/-- A directory on its own ends in a slash, unless it is not given. -/
theorem join_empty (base : String) :
    (join base "").toList = [] ∨ (join base "").toList.getLast? = some '/' := by
  unfold join
  rw [isAbsolute_empty]
  cases base.isEmpty with
  | true => exact Or.inl rfl
  | false =>
    refine Or.inr ?_
    cases hslash : base.endsWith "/" with
    | true => simpa using (endsWith_iff base).mp hslash
    | false => simp

/-- A path determines its last name and what stands before it. -/
theorem append_inj_of_slash {p q x y : List Char} (hp : p = [] ∨ p.getLast? = some '/')
    (hq : q = [] ∨ q.getLast? = some '/') (hx : '/' ∉ x) (hy : '/' ∉ y) (h : p ++ x = q ++ y) :
    p = q ∧ x = y := by
  -- Read from its end, a path gives the last name up to the first slash.
  have hlast {p x : List Char} (hp : p = [] ∨ p.getLast? = some '/') (hx : '/' ∉ x) :
      (p ++ x).reverse.takeWhile (· != '/') = x.reverse := by
    have hall : ∀ c ∈ x.reverse, (c != '/') = true := by
      intro c hc
      rw [bne_iff_ne]
      rintro rfl
      exact hx (List.mem_reverse.mp hc)
    rw [List.reverse_append, List.takeWhile_append_of_pos hall]
    rcases hp with rfl | hp
    · simp
    · obtain ⟨front, rfl⟩ := List.getLast?_eq_some_iff.mp hp
      simp
  have hxy : x = y := by
    have hboth := hlast hp hx
    rw [h, hlast hq hy] at hboth
    exact (List.reverse_inj.mp hboth).symm
  subst hxy
  exact ⟨List.append_cancel_right h, rfl⟩

/-! The segments that count. -/

def counted (segments : List (List Char)) : List (List Char) :=
  segments.filter fun segment => !isSkipped segment

theorem counted_append (segments segments' : List (List Char)) :
    counted (segments ++ segments') = counted segments ++ counted segments' :=
  List.filter_append ..

theorem counted_dropSkipped (segments : List (List Char)) :
    counted (dropSkipped segments) = counted segments := by
  have hdrop (l : List (List Char)) : counted (l.dropWhile isSkipped) = counted l := by
    induction l with
    | nil => rfl
    | cons segment rest ih =>
      cases hskip : isSkipped segment with
      | true => rw [List.dropWhile_cons_of_pos hskip, ih, counted, counted,
          List.filter_cons_of_neg (by simp [hskip])]
      | false => rw [List.dropWhile_cons_of_neg (by simp [hskip])]
  have hreverse (l : List (List Char)) : counted l.reverse = (counted l).reverse :=
    List.filter_reverse ..
  rw [dropSkipped, hreverse, hdrop, hreverse, List.reverse_reverse]

/-- A path by how it starts and the segments that count. -/
def outline (path : String) : Parts :=
  { parts path with segments := counted (parts path).segments }

/-- Paths that differ only in segments that are passed over. -/
def Same (path path' : String) : Prop := outline path = outline path'

/-- The directory that is the parent of a path. -/
def InDirectory (path directory : String) : Prop :=
  ∃ parent, parent? path = some parent ∧ Same parent directory

instance (path path' : String) : Decidable (Same path path') :=
  inferInstanceAs (Decidable (_ = _))

instance (path directory : String) : Decidable (InDirectory path directory) :=
  inferInstanceAs (Decidable (∃ parent ∈ parent? path, Same parent directory))

/-- What a list of segments says about the start of a path. -/
def startOf : List (List Char) → Parts
  | [] :: rest => ⟨true, false, rest⟩
  | ['.'] :: rest => ⟨false, true, rest⟩
  | segments => ⟨false, false, segments⟩

/-- Only a path of one empty segment is not told by its first segment. -/
theorem parts_eq {path : String} {segments : List (List Char)}
    (h : splitAt '/' path.toList = segments) (hne : segments ≠ [[]]) :
    parts path =
      { startOf segments with segments := dropSkipped (startOf segments).segments } := by
  unfold parts
  rw [h]
  match segments, hne with
  | [] :: _ :: _, _ => rfl
  | [[]], hne => exact absurd rfl hne
  | ['.'] :: _, _ => rfl
  | [], _ => rfl
  | (_ :: _ :: _) :: _, _ => unfold startOf; split <;> simp_all
  | [_] :: _, _ => unfold startOf; split <;> simp_all

theorem outline_eq {path : String} {segments : List (List Char)}
    (h : splitAt '/' path.toList = segments) (hne : segments ≠ [[]]) :
    outline path = { startOf segments with segments := counted (startOf segments).segments } := by
  rw [outline, parts_eq h hne]
  simp only [counted_dropSkipped]

theorem startOf_append {segments : List (List Char)} (hne : segments ≠ [])
    (more : List (List Char)) :
    startOf (segments ++ more) =
      { startOf segments with segments := (startOf segments).segments ++ more } := by
  obtain ⟨first, rest, rfl⟩ := List.exists_cons_of_ne_nil hne
  rw [List.cons_append]
  unfold startOf
  split <;> split <;> simp_all

/-- A relative name adds its segments to those of a directory. -/
theorem outline_join {directory name : String} (hdirectory : directory ≠ "")
    (hname : isAbsolute name = false) :
    outline (join directory name) =
      { outline directory with
        segments := (outline directory).segments ++ counted (splitAt '/' name.toList) } := by
  have hbehind {path : String} (front : List Char)
      (hpath : path.toList = front ++ '/' :: name.toList) :
      outline path =
        { startOf (splitAt '/' front) with
          segments := counted (startOf (splitAt '/' front)).segments ++
            counted (splitAt '/' name.toList) } := by
    have hsplit : splitAt '/' path.toList = splitAt '/' front ++ splitAt '/' name.toList := by
      rw [hpath, splitAt_append_cons]
    have hlength : splitAt '/' front ++ splitAt '/' name.toList ≠ [[]] := by
      intro heq
      have htwo := congrArg List.length heq
      have hfront := List.length_pos_iff.mpr (splitAt_ne_nil '/' front)
      have hbehind := List.length_pos_iff.mpr (splitAt_ne_nil '/' name.toList)
      simp only [List.length_append, List.length_singleton] at htwo
      omega
    rw [outline_eq hsplit hlength, startOf_append (splitAt_ne_nil '/' front)]
    simp only [counted_append]
  have hgiven : directory.isEmpty = false := by simpa using hdirectory
  unfold join
  rw [hname, hgiven]
  cases hslash : directory.endsWith "/" with
  | true =>
    obtain ⟨front, hfront⟩ := List.getLast?_eq_some_iff.mp ((endsWith_iff directory).mp hslash)
    have hsplit : splitAt '/' directory.toList = splitAt '/' front ++ [[]] := by
      rw [hfront, splitAt_append_cons]
      rfl
    have hlength : splitAt '/' front ++ [[]] ≠ [[]] := by simp [splitAt_ne_nil]
    rw [outline_eq hsplit hlength, startOf_append (splitAt_ne_nil '/' front)]
    simp only [Bool.or_self, Bool.false_eq_true, if_false, if_true]
    rw [hbehind front (by simp [hfront])]
    simp [counted, isSkipped]
  | false =>
    have hsplit : splitAt '/' directory.toList ≠ [[]] := by
      intro hsplit
      have hempty := intercalate_splitAt '/' directory.toList
      rw [hsplit] at hempty
      exact hdirectory (by simpa using hempty.symm)
    rw [outline_eq rfl hsplit]
    simp only [Bool.or_self, Bool.false_eq_true, if_false]
    rw [hbehind directory.toList (by simp)]

/-! Parents. -/

/-- Segments that are not taken for the start of a path. -/
def IsPlain (segments : List (List Char)) : Prop :=
  segments.head? ≠ some [] ∧ segments.head? ≠ some ['.']

theorem startOf_cases (segments : List (List Char)) :
    (∃ rest, segments = [] :: rest ∧ startOf segments = ⟨true, false, rest⟩) ∨
    (∃ rest, segments = ['.'] :: rest ∧ startOf segments = ⟨false, true, rest⟩) ∨
      IsPlain segments ∧ startOf segments = ⟨false, false, segments⟩ := by
  unfold startOf IsPlain
  split
  · next rest => exact Or.inl ⟨rest, rfl, rfl⟩
  · next rest => exact Or.inr (Or.inl ⟨rest, rfl, rfl⟩)
  · next hroot hhere =>
    refine Or.inr (Or.inr ⟨⟨fun hfirst => ?_, fun hfirst => ?_⟩, rfl⟩)
    · obtain ⟨rest, hrest⟩ := List.head?_eq_some_iff.mp hfirst
      exact hroot rest hrest
    · obtain ⟨rest, hrest⟩ := List.head?_eq_some_iff.mp hfirst
      exact hhere rest hrest

theorem IsPlain.of_prefix {segments before : List (List Char)} (h : IsPlain segments)
    (hbefore : before <+: segments) : IsPlain before := by
  obtain ⟨after, rfl⟩ := hbefore
  cases before with
  | nil => simp [IsPlain]
  | cons first rest => exact h

theorem IsPlain.startOf {segments : List (List Char)} (h : IsPlain segments) :
    startOf segments = ⟨false, false, segments⟩ := by
  rcases startOf_cases segments with ⟨rest, rfl, -⟩ | ⟨rest, rfl, -⟩ | ⟨-, heq⟩
  · exact absurd rfl h.1
  · exact absurd rfl h.2
  · exact heq

section OfParts

variable {segments : List (List Char)} (h : ∀ segment ∈ segments, '/' ∉ segment)
include h

/-- Segments that are put together are found again. -/
theorem splitAt_segments (hne : segments ≠ []) :
    splitAt '/' (['/'].intercalate segments) = segments :=
  splitAt_intercalate hne h

theorem outline_ofParts_root :
    outline (ofParts ⟨true, false, segments⟩) = ⟨true, false, counted segments⟩ := by
  have hlist : (ofParts ⟨true, false, segments⟩).toList =
      [] ++ '/' :: ['/'].intercalate segments := by simp [ofParts]
  have hsplit := congrArg (splitAt '/') hlist
  rw [splitAt_append_cons] at hsplit
  by_cases hne : segments = []
  · subst hne
    rw [outline_eq hsplit (by decide)]
    rfl
  · rw [splitAt_segments h hne] at hsplit
    rw [outline_eq hsplit (by simpa [splitAt, splitScan] using hne)]
    rfl

theorem outline_ofParts_here :
    outline (ofParts ⟨false, true, segments⟩) = ⟨false, true, counted segments⟩ := by
  by_cases hne : segments = []
  · subst hne
    rfl
  · have hlist : (ofParts ⟨false, true, segments⟩).toList =
        ['.'] ++ '/' :: ['/'].intercalate segments := by
      simp [ofParts, hne]
    have hsplit := congrArg (splitAt '/') hlist
    rw [splitAt_append_cons, splitAt_segments h hne] at hsplit
    rw [outline_eq hsplit (by simp [splitAt, splitScan, consFirst])]
    rfl

theorem outline_ofParts_plain (hplain : IsPlain segments) :
    outline (ofParts ⟨false, false, segments⟩) = ⟨false, false, counted segments⟩ := by
  have hlist : (ofParts ⟨false, false, segments⟩).toList = ['/'].intercalate segments := by
    simp [ofParts]
  by_cases hne : segments = []
  · subst hne
    rfl
  · have hsplit := congrArg (splitAt '/') hlist
    rw [splitAt_segments h hne] at hsplit
    rw [outline_eq hsplit, hplain.startOf]
    rintro rfl
    exact hplain.1 rfl

end OfParts

theorem prefix_of_dropSkipped (segments : List (List Char)) :
    dropSkipped segments <+: segments := by
  have h := List.reverse_prefix.mpr (List.dropWhile_suffix (l := segments.reverse) isSkipped)
  rwa [List.reverse_reverse] at h

/-- What is left when segments at the end are dropped ends in one that counts. -/
theorem exists_dropSkipped_concat {segments : List (List Char)} (h : counted segments ≠ []) :
    ∃ before last, dropSkipped segments = before ++ [last] ∧ isSkipped last = false := by
  rcases List.eq_nil_or_concat (dropSkipped segments) with hnil | ⟨before, last, hlast⟩
  · rw [← counted_dropSkipped, hnil] at h
    exact absurd rfl h
  · rw [List.concat_eq_append] at hlast
    have hfirst := List.head?_dropWhile_not isSkipped segments.reverse
    rw [← List.getLast?_reverse, ← dropSkipped, hlast, List.getLast?_concat] at hfirst
    exact ⟨before, last, hlast, hfirst⟩

/-- The parent of a path has all of its segments but the last. -/
theorem exists_parent? {path : String} (h : (outline path).segments ≠ []) :
    ∃ parent, parent? path = some parent ∧
      outline parent = { outline path with segments := (outline path).segments.dropLast } := by
  have hne : splitAt '/' path.toList ≠ [[]] := by
    intro hsplit
    apply h
    rw [outline, parts, hsplit]
    rfl
  have hplain : ∀ segment ∈ splitAt '/' path.toList, '/' ∉ segment :=
    fun segment => notMem_of_mem_splitAt
  have hparts := parts_eq rfl hne
  rw [outline_eq rfl hne] at h ⊢
  generalize splitAt '/' path.toList = segments at hparts h hplain ⊢
  obtain ⟨before, last, hlast, hcounts⟩ := exists_dropSkipped_concat h
  have hbefore : dropSkipped before <+: (startOf segments).segments := by
    apply (prefix_of_dropSkipped before).trans
    apply (List.prefix_append before [last]).trans
    rw [← hlast]
    exact prefix_of_dropSkipped _
  have hcounted :
      (counted (startOf segments).segments).dropLast = counted (dropSkipped before) := by
    rw [← counted_dropSkipped, hlast, counted_append, counted_dropSkipped]
    simp [counted, hcounts]
  refine ⟨ofParts { startOf segments with segments := dropSkipped before }, ?_, ?_⟩
  · simp [parent?, hparts, hlast]
  · rw [hcounted]
    rcases startOf_cases segments with ⟨rest, rfl, hstart⟩ | ⟨rest, rfl, hstart⟩ | ⟨hfirst, hstart⟩
    · rw [hstart] at hbefore ⊢
      apply outline_ofParts_root
      exact fun segment hmem => hplain segment (List.mem_cons_of_mem _ (hbefore.subset hmem))
    · rw [hstart] at hbefore ⊢
      apply outline_ofParts_here
      exact fun segment hmem => hplain segment (List.mem_cons_of_mem _ (hbefore.subset hmem))
    · rw [hstart] at hbefore ⊢
      apply outline_ofParts_plain
      · exact fun segment hmem => hplain segment (hbefore.subset hmem)
      · exact hfirst.of_prefix hbefore

/-! Names in a directory. -/

/-- A name that leads into the directory that it is joined to. An absolute name stands for itself;
of others only the last segment may count, and none may be before it if no directory is given. -/
def Stays (directory name : String) : Prop :=
  if isAbsolute name then InDirectory name directory
  else if directory = "" then '/' ∉ name.toList
  else ∀ segment ∈ (splitAt '/' name.toList).dropLast, isSkipped segment = true

theorem counted_eq_nil_iff {segments : List (List Char)} :
    counted segments = [] ↔ ∀ segment ∈ segments, isSkipped segment = true := by
  simp [counted, List.filter_eq_nil_iff]

theorem inDirectory_iff {path directory : String} {front : List (List Char)} {last : List Char}
    (h : (outline path).segments = front ++ [last]) :
    InDirectory path directory ↔ { outline path with segments := front } = outline directory := by
  obtain ⟨parent, hparent, houtline⟩ := exists_parent? (by simp [h] : (outline path).segments ≠ [])
  rw [h, List.dropLast_concat] at houtline
  rw [← houtline]
  constructor
  · rintro ⟨parent', hparent', hsame⟩
    obtain rfl : parent = parent' := Option.some.inj (hparent.symm.trans hparent')
    exact hsame
  · exact fun hsame => ⟨parent, hparent, hsame⟩

/-- A text of one part is its own part. -/
theorem notMem_slash_iff {name : String} {inner : List (List Char)} {last : List Char}
    (hsplit : splitAt '/' name.toList = inner ++ [last]) : '/' ∉ name.toList ↔ inner = [] := by
  rw [← splitAt_eq_singleton_iff, hsplit]
  constructor
  · intro heq
    simpa using congrArg List.length heq
  · rintro rfl
    have hjoined := intercalate_splitAt '/' name.toList
    rw [hsplit] at hjoined
    simpa using hjoined

theorem isAbsolute_of_splitAt {name : String} {second : List Char} {more : List (List Char)}
    (hsplit : splitAt '/' name.toList = [] :: second :: more) : isAbsolute name = true := by
  rw [isAbsolute_iff, ← intercalate_splitAt '/' name.toList, hsplit, List.intercalate_cons_cons]
  rfl

/-- Where no directory is given, the parent is not given exactly if there is but one segment. -/
theorem inDirectory_empty_iff {name : String} (hname : isAbsolute name = false)
    {inner : List (List Char)} {last : List Char} (hlast : isSkipped last = false)
    (hsplit : splitAt '/' name.toList = inner ++ [last]) :
    InDirectory name "" ↔ '/' ∉ name.toList := by
  have hempty : outline "" = ⟨false, false, []⟩ := rfl
  have hcounted : counted (inner ++ [last]) = counted inner ++ [last] := by
    simp [counted, hlast]
  have hne : inner ++ [last] ≠ [[]] := by
    intro heq
    rw [heq] at hcounted
    cases inner <;> simp_all [isSkipped]
  have houtline := outline_eq hsplit hne
  rw [notMem_slash_iff hsplit]
  rcases startOf_cases (inner ++ [last]) with
    ⟨rest, hrest, -⟩ | ⟨rest, hrest, hstart⟩ | ⟨hplain, hstart⟩
  · -- An empty segment in front makes the name absolute.
    exfalso
    cases rest with
    | nil => exact hne hrest
    | cons second more =>
      rw [isAbsolute_of_splitAt (hsplit.trans hrest)] at hname
      contradiction
  · cases inner with
    | nil =>
      obtain ⟨rfl, -⟩ := List.cons.inj hrest
      contradiction
    | cons first more =>
      obtain ⟨rfl, rfl⟩ := List.cons.inj hrest
      have hsegments : (outline name).segments = counted more ++ [last] := by
        rw [houtline, hstart]
        simp [counted, hlast]
      rw [inDirectory_iff hsegments, houtline, hstart, hempty]
      simp
  · have hsegments : (outline name).segments = counted inner ++ [last] := by
      rw [houtline, hstart, ← hcounted]
    rw [inDirectory_iff hsegments, houtline, hstart, hempty]
    constructor
    · intro hsame
      have hnone : counted inner = [] := congrArg Parts.segments hsame
      cases inner with
      | nil => rfl
      | cons first more =>
        have hfirst := counted_eq_nil_iff.mp hnone first (List.mem_cons_self ..)
        rcases Bool.or_eq_true_iff.mp hfirst with hnil | hdot
        · exact absurd (by simpa using hnil) hplain.1
        · exact absurd (by simpa using hdot) hplain.2
    · rintro rfl
      rfl

/-- A name whose last segment counts has the directory as its parent exactly if it stays there. -/
theorem inDirectory_join_iff {directory name : String} {last : List Char}
    (hlast : (splitAt '/' name.toList).getLast? = some last) (hcounts : isSkipped last = false) :
    InDirectory (join directory name) directory ↔ Stays directory name := by
  obtain ⟨inner, hsplit⟩ := List.getLast?_eq_some_iff.mp hlast
  unfold Stays
  cases hname : isAbsolute name with
  | true => simp [join, hname]
  | false =>
    by_cases hdirectory : directory = ""
    · subst hdirectory
      have hjoin : join "" name = name := by simp [join]
      rw [hjoin, inDirectory_empty_iff hname hcounts hsplit]
      simp
    · have hjoin := outline_join hdirectory hname
      have hsegments : (outline (join directory name)).segments =
          ((outline directory).segments ++ counted inner) ++ [last] := by
        rw [hjoin, hsplit]
        simp [counted, hcounts]
      rw [inDirectory_iff hsegments, hjoin, hsplit, List.dropLast_concat, ← counted_eq_nil_iff]
      simp only [Bool.false_eq_true, if_false, hdirectory]
      constructor
      · intro hsame
        simpa using congrArg Parts.segments hsame
      · intro hnone
        simp [hnone]

/-- A name without a slash stays in every directory. -/
theorem stays_of_notMem {name : String} (h : '/' ∉ name.toList) (directory : String) :
    Stays directory name := by
  have hname : isAbsolute name = false := by
    rw [← Bool.not_eq_true, isAbsolute_iff]
    exact fun hfirst => h (List.mem_of_mem_head? hfirst)
  unfold Stays
  rw [hname, splitAt_of_notMem h]
  simp [h]

/-- A name that starts with a character of its own stays only if it has no slash. -/
theorem stays_iff_notMem {name : String} {c : Char} (hfirst : name.toList.head? = some c)
    (hslash : c ≠ '/') (hdot : c ≠ '.') (directory : String) :
    Stays directory name ↔ '/' ∉ name.toList := by
  refine ⟨fun hstays hmem => ?_, fun h => stays_of_notMem h directory⟩
  have hname : isAbsolute name = false := by
    rw [← Bool.not_eq_true, isAbsolute_iff, hfirst]
    simpa using hslash
  unfold Stays at hstays
  rw [hname] at hstays
  simp only [Bool.false_eq_true, if_false] at hstays
  split at hstays
  · exact hstays hmem
  · obtain ⟨segment, more, hsplit⟩ := List.exists_cons_of_ne_nil (splitAt_ne_nil '/' name.toList)
    have hjoined := intercalate_splitAt '/' name.toList
    rw [hsplit] at hstays hjoined
    cases more with
    | nil =>
      rw [List.intercalate_singleton] at hjoined
      rw [hjoined] at hsplit
      exact splitAt_eq_singleton_iff.mp hsplit hmem
    | cons second more =>
      -- The first segment starts with the character and is followed by another one.
      have hskip := hstays segment (by simp)
      rw [← hjoined, List.intercalate_cons_cons] at hfirst
      rcases Bool.or_eq_true_iff.mp hskip with hnil | hdots
      · obtain rfl : segment = [] := by simpa using hnil
        exact hslash (by simpa using hfirst.symm)
      · obtain rfl : segment = ['.'] := by simpa using hdots
        exact hdot (by simpa using hfirst.symm)

end DataLayer.Path
