import DataLayer.Proofs.Config.TextPlaces

/-!
The texts in the fields of a document. Statements are put together by their names alone, so other
texts in the statements are other texts in the fields; and the texts of a setting, or of all entries
of a table, keep the order that they have in the document.
-/

namespace DataLayer.Config

open Value

/-! Other texts in the fields. -/

section Map

variable (f : String → String)

theorem lookup_mapFields (fields : Fields) (name : String) :
    (mapFields f fields).lookup name = (fields.lookup name).map (mapTexts f) := by
  induction fields with
  | nil => rfl
  | cons field rest ih =>
    obtain ⟨name', v⟩ := field
    rw [mapFields, List.lookup_cons, List.lookup_cons]
    split
    · rfl
    · exact ih

theorem Fields.add?_mapFields (fields : Fields) (name : String) (v : Value) :
    Fields.add? (mapFields f fields) name (v.mapTexts f) =
      (Fields.add? fields name v).map (mapFields f) := by
  unfold add?
  rw [lookup_mapFields, Option.isSome_map]
  split
  · rfl
  · simp [mapFields_eq]

namespace Draft

/-- A table with other texts in its entries. -/
def mapEntries (table : String × List Fields) : String × List Fields :=
  (table.1, table.2.map (mapFields f))

def mapTexts (d : Draft) : Draft := ⟨mapFields f d.settings, d.tables.map (mapEntries f)⟩

theorem addEntry_mapEntries (table : String) (tables : List (String × List Fields)) :
    addEntry table (tables.map (mapEntries f)) = (addEntry table tables).map (mapEntries f) := by
  induction tables with
  | nil => rfl
  | cons first rest ih =>
    obtain ⟨name, entries⟩ := first
    simp only [List.map_cons, mapEntries, addEntry]
    split
    · simp [mapEntries, mapFields]
    · rw [List.map_cons, ← ih]
      rfl

theorem extendLast?_mapEntries (table name : String) (v : Value)
    (tables : List (String × List Fields)) :
    extendLast? table name (v.mapTexts f) (tables.map (mapEntries f)) =
      (extendLast? table name v tables).map (List.map (mapEntries f)) := by
  induction tables with
  | nil => rfl
  | cons first rest ih =>
    obtain ⟨name', entries⟩ := first
    simp only [List.map_cons, mapEntries, extendLast?]
    split
    · rw [← List.map_reverse]
      cases entries.reverse with
      | nil => rfl
      | cons last before =>
        simp only [List.map_cons, Fields.add?_mapFields, Option.map_map]
        apply Option.map_congr
        intro fields _
        simp [mapEntries]
    · rw [ih, Option.map_map, Option.map_map]
      rfl

theorem step_mapTexts (d : Draft × Option String) (st : Statement) :
    step (d.1.mapTexts f, d.2) (st.mapTexts f) =
      (step d st).map fun d => (d.1.mapTexts f, d.2) := by
  cases st with
  | entry table =>
    simp only [step, Statement.mapTexts, mapTexts, lookup_mapFields, Option.isSome_map]
    split
    · rfl
    · simp [addEntry_mapEntries]
  | setting name v =>
    obtain ⟨d, current⟩ := d
    cases current with
    | none =>
      simp only [step, Statement.mapTexts, mapTexts, Fields.add?_mapFields, Option.map_map]
      rfl
    | some table =>
      simp only [step, Statement.mapTexts, mapTexts, extendLast?_mapEntries, Option.map_map]
      rfl

theorem fields_mapTexts (d : Draft) : (d.mapTexts f).fields = mapFields f d.fields := by
  simp [fields, mapTexts, mapFields_eq, mapEntries, Value.mapTexts, mapItems_eq,
    Function.comp_def]

end Draft

theorem fieldsOfStatements?_mapTexts (sts : List Statement) :
    fieldsOfStatements? (sts.map (Statement.mapTexts f)) =
      (fieldsOfStatements? sts).map (mapFields f) := by
  have hfold (d : Draft × Option String) :
      (sts.map (Statement.mapTexts f)).foldlM Draft.step (d.1.mapTexts f, d.2) =
        (sts.foldlM Draft.step d).map fun d => (d.1.mapTexts f, d.2) := by
    induction sts generalizing d with
    | nil => rfl
    | cons st rest ih =>
      rw [List.map_cons, List.foldlM_cons, List.foldlM_cons, Draft.step_mapTexts]
      cases Draft.step d st with
      | none => rfl
      | some d' => exact ih d'
  unfold fieldsOfStatements?
  have hempty := hfold (Draft.empty, none)
  rw [show (Draft.empty.mapTexts f) = Draft.empty from rfl] at hempty
  rw [hempty, Option.map_map, Option.map_map]
  apply Option.map_congr
  intro d _
  exact d.1.fields_mapTexts f

end Map

/-- A document read in another way has other texts in its fields. -/
theorem TextView.Gives.fieldsAs? {view view' : TextView} {f : String → String}
    (h : view.Gives f view') (source : String) :
    fieldsAs? view' source = (fieldsAs? view source).map (mapFields f) := by
  unfold Config.fieldsAs?
  dsimp only
  rw [h.readStatements, Option.bind_map, Option.map_bind]
  congr 1
  funext sts
  exact fieldsOfStatements?_mapTexts f sts

/-! The order of the texts in the fields. -/

theorem Fields.eq_of_add? {fields fields' : Fields} {name : String} {v : Value}
    (h : add? fields name v = some fields') : fields' = fields ++ [(name, v)] := by
  unfold add? at h
  split at h
  · cases h
  · exact (Option.some.inj h).symm

namespace Draft

/-- The texts of every setting, and those of the entries of every table, are in order among all. -/
structure Collects (d : Draft) (all : List String) : Prop where
  settings : ∀ field ∈ d.settings, field.2.texts.Sublist all
  tables : ∀ table ∈ d.tables, (table.2.flatMap textsOfFields).Sublist all

theorem Collects.more {d : Draft} {all : List String} (h : d.Collects all)
    (places : List String) : d.Collects (all ++ places) := by
  have hmore : all.Sublist (all ++ places) := List.sublist_append_left ..
  exact ⟨fun field hfield => (h.settings field hfield).trans hmore,
    fun table htable => (h.tables table htable).trans hmore⟩

theorem Collects.addEntry {tables : List (String × List Fields)} {all : List String}
    (h : ∀ table ∈ tables, (table.2.flatMap textsOfFields).Sublist all) (name : String) :
    ∀ table ∈ Draft.addEntry name tables, (table.2.flatMap textsOfFields).Sublist all := by
  induction tables with
  | nil => simp [Draft.addEntry, textsOfFields]
  | cons first rest ih =>
    obtain ⟨hfirst, hrest⟩ := List.forall_mem_cons.mp h
    obtain ⟨name', entries⟩ := first
    unfold Draft.addEntry
    split
    · refine List.forall_mem_cons.mpr ⟨?_, hrest⟩
      simpa [textsOfFields] using hfirst
    · exact List.forall_mem_cons.mpr ⟨hfirst, ih hrest⟩

theorem Collects.extendLast? {tables tables' : List (String × List Fields)} {all : List String}
    (h : ∀ table ∈ tables, (table.2.flatMap textsOfFields).Sublist all) {name field : String}
    {v : Value} (hextend : Draft.extendLast? name field v tables = some tables') :
    ∀ table ∈ tables', (table.2.flatMap textsOfFields).Sublist (all ++ v.texts) := by
  have hmore : all.Sublist (all ++ v.texts) := List.sublist_append_left ..
  induction tables generalizing tables' with
  | nil => cases hextend
  | cons first rest ih =>
    obtain ⟨hfirst, hrest⟩ := List.forall_mem_cons.mp h
    obtain ⟨name', entries⟩ := first
    unfold Draft.extendLast? at hextend
    split at hextend
    · split at hextend
      · cases hextend
      · next last before hlast =>
        obtain ⟨last', hadd, rfl⟩ := Option.map_eq_some_iff.mp hextend
        obtain rfl := Fields.eq_of_add? hadd
        obtain rfl : entries = before.reverse ++ [last] := by
          rw [← List.reverse_reverse entries, hlast, List.reverse_cons]
        refine List.forall_mem_cons.mpr ⟨?_, fun table htable => (hrest table htable).trans hmore⟩
        have hboth := hfirst.append (List.Sublist.refl v.texts)
        simpa [textsOfFields_eq] using hboth
    · obtain ⟨rest', hrest', rfl⟩ := Option.map_eq_some_iff.mp hextend
      exact List.forall_mem_cons.mpr ⟨hfirst.trans hmore, ih hrest hrest'⟩

theorem Collects.step {d d' : Draft × Option String} {all : List String} {st : Statement}
    (h : d.1.Collects all) (hstep : Draft.step d st = some d') :
    d'.1.Collects (all ++ st.texts) := by
  cases st with
  | entry name =>
    unfold Draft.step at hstep
    split at hstep
    · next heq =>
      obtain rfl := Statement.entry.inj heq
      split at hstep
      · cases hstep
      · cases hstep
        rw [Statement.texts, List.append_nil]
        exact ⟨h.settings, Collects.addEntry h.tables name⟩
    · contradiction
  | setting name v =>
    obtain ⟨d, current⟩ := d
    cases current with
    | none =>
      obtain ⟨settings, hadd, rfl⟩ := Option.map_eq_some_iff.mp hstep
      obtain rfl := Fields.eq_of_add? hadd
      refine ⟨fun field hfield => ?_, (h.more v.texts).tables⟩
      rcases List.mem_append.mp hfield with hfield | hfield
      · exact (h.more v.texts).settings field hfield
      · obtain rfl := List.mem_singleton.mp hfield
        exact List.sublist_append_right ..
    | some table =>
      obtain ⟨tables, hextend, rfl⟩ := Option.map_eq_some_iff.mp hstep
      exact ⟨(h.more v.texts).settings, Collects.extendLast? h.tables hextend⟩

theorem Collects.fields {d : Draft} {all : List String} (h : d.Collects all) :
    ∀ field ∈ d.fields, field.2.texts.Sublist all := by
  intro field hfield
  rcases List.mem_append.mp hfield with hfield | hfield
  · exact h.settings field hfield
  · obtain ⟨table, htable, rfl⟩ := List.mem_map.mp hfield
    have hall := h.tables table htable
    simpa [texts, textsOfItems_eq, List.flatMap_map] using hall

end Draft

theorem Draft.Collects.foldlM {sts : List Statement} {d d' : Draft × Option String}
    {all : List String} (h : d.1.Collects all) (hall : sts.foldlM Draft.step d = some d') :
    d'.1.Collects (all ++ sts.flatMap Statement.texts) := by
  induction sts generalizing d all with
  | nil =>
    cases hall
    simpa using h
  | cons st rest ih =>
    rw [List.foldlM_cons] at hall
    obtain ⟨next, hnext, hrest⟩ := Option.bind_eq_some_iff.mp hall
    rw [List.flatMap_cons, ← List.append_assoc]
    exact ih (h.step hnext) hrest

/-- The texts of a field are in order among those of the statements. -/
theorem texts_sublist_of_fieldsOfStatements? {sts : List Statement} {fields : Fields}
    (h : fieldsOfStatements? sts = some fields) :
    ∀ field ∈ fields, field.2.texts.Sublist (sts.flatMap Statement.texts) := by
  obtain ⟨d, hd, rfl⟩ := Option.map_eq_some_iff.mp h
  have hempty : (Draft.empty, (none : Option String)).1.Collects [] :=
    ⟨by simp [Draft.empty], by simp [Draft.empty]⟩
  exact (hempty.foldlM hd).fields

theorem dropByteOrderMark_suffix (cs : List Char) : dropByteOrderMark cs <:+ cs := by
  fun_cases dropByteOrderMark cs
  · apply List.suffix_cons
  · apply List.suffix_refl

/-- The texts of a field stand in the document, one behind the other. -/
theorem fieldsAs?_pairwise {source : String} {fields : Fields}
    (h : fieldsAs? whereItStands source = some fields) :
    ∀ field ∈ fields, field.2.texts.Pairwise EndsBefore ∧
      ∀ place ∈ field.2.texts, place.toList <:+ source.toList ∧
        (readText place.toList).isSome := by
  obtain ⟨sts, hread, hfields⟩ := Option.bind_eq_some_iff.mp h
  have horder := (readStatements_inOrder hread).widen (dropByteOrderMark_suffix source.toList)
  intro field hfield
  have hsublist := texts_sublist_of_fieldsOfStatements? hfields field hfield
  exact ⟨horder.pairwise.1.sublist hsublist,
    fun place hplace => horder.pairwise.2 place (hsublist.subset hplace)⟩

end DataLayer.Config
