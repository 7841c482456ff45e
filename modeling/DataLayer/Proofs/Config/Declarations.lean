import DataLayer.Proofs.Config.Acceptance
import DataLayer.Proofs.Config.FieldTexts
import DataLayer.Proofs.Text.Offsets

/-!
Where the keys of tables are declared. The key of an entry is a text of the document, so it has a
place there; the places of the keys of a table follow each other as its entries do. A key that is
not new has been declared before.
-/

namespace DataLayer.Config

open Text Value

/-- A table whose entries have keys: its name, the key of an entry as it is written, and the key
that entries are compared by. -/
structure KeyedTable where
  name : String
  written? : Value → Option String
  key : String → String

namespace KeyedTable

def columns : KeyedTable :=
  ⟨"column_overrides", fun v => (columnOfValue? v).map (·.name), trim⟩

def entities : KeyedTable :=
  ⟨"entity_overrides", fun v => (entityOfValue? v).map (·.tableName), trim⟩

def plurals : KeyedTable :=
  ⟨"plural_mappings", fun v => (pluralOfValue? v).map (·.entityName), id⟩

def enums : KeyedTable := ⟨"enum_mappings", fun v => (enumOfValue? v).map (·.column), trim⟩

def asyncs : KeyedTable := ⟨"async_mappings", fun v => (asyncOfValue? v).map (·.keyName), id⟩

def all : List KeyedTable := [columns, entities, plurals, enums, asyncs]

/-- What holds of each of the tables. -/
theorem forall_mem_all {p : KeyedTable → Prop} (hcolumns : p columns) (hentities : p entities)
    (hplurals : p plurals) (henums : p enums) (hasyncs : p asyncs) : ∀ t ∈ all, p t := by
  simp only [all, List.forall_mem_cons]
  exact ⟨hcolumns, hentities, hplurals, henums, hasyncs, by simp⟩

/-- The keys of the entries of a table, as they are written. -/
def writtenKeys? (t : KeyedTable) (fields : Fields) : Option (List String) :=
  fields.orElse t.name (entriesOf? t.written?) []

end KeyedTable

/-! Other texts in the entries. -/

section Map

variable (f : String → String)

theorem fields?_mapTexts (names : List String) (v : Value) :
    (v.mapTexts f).fields? names = (v.fields? names).map (mapFields f) := by
  cases v with
  | text s => rfl
  | flag b => rfl
  | list items =>
    have hzip : names.zip (mapItems f items) =
        mapFields f (names.zip items) := by
      rw [mapItems_eq, mapFields_eq, List.zip_map_right]
      rfl
    simp [fields?, mapTexts, hzip]
  | table fields =>
    have hall : (mapFields f fields).all (names.contains ·.1) =
        fields.all (names.contains ·.1) := by
      rw [mapFields_eq, List.all_map]
      rfl
    simp only [fields?, mapTexts, hall]
    split <;> rfl

theorem text?_mapTexts (v : Value) : (v.mapTexts f).text? = v.text?.map f := by
  cases v <;> rfl

theorem flag?_mapTexts (v : Value) : (v.mapTexts f).flag? = v.flag? := by
  cases v <;> rfl

/-- Reading each entry comes to the same before and after a change that the reading follows. -/
theorem mapM_comm_map {α β γ δ : Type} {read : α → Option β} {read' : γ → Option δ} {g : α → γ}
    {g' : β → δ} (h : ∀ a, read' (g a) = (read a).map g') (l : List α) :
    (l.map g).mapM read' = (l.mapM read).map (List.map g') := by
  induction l with
  | nil => rfl
  | cons a rest ih =>
    rw [List.map_cons, List.mapM_cons, List.mapM_cons, h, ih]
    cases read a with
    | none => rfl
    | some b => cases rest.mapM read <;> rfl

theorem texts?_mapTexts (v : Value) : (v.mapTexts f).texts? = v.texts?.map (List.map f) := by
  cases v with
  | list items =>
    have hitems : (mapItems f items).mapM text? = (items.mapM text?).map (List.map f) := by
      rw [mapItems_eq]
      exact mapM_comm_map (text?_mapTexts f) items
    exact hitems
  | text s => rfl
  | flag b => rfl
  | table fields => rfl

theorem require_text?_mapFields (fields : Fields) (name : String) :
    Fields.require (mapFields f fields) name text? = (fields.require name text?).map f := by
  unfold Fields.require
  rw [lookup_mapFields, Option.bind_map, Option.map_bind]
  congr 1
  funext v
  exact text?_mapTexts f v

theorem optional_mapFields {α : Type} {read : Value → Option α} {g : α → α}
    (h : ∀ v : Value, read (v.mapTexts f) = (read v).map g) (fields : Fields) (name : String) :
    Fields.optional (mapFields f fields) name read =
      (fields.optional name read).map (Option.map g) := by
  unfold Fields.optional
  rw [lookup_mapFields]
  cases fields.lookup name with
  | none => rfl
  | some v =>
    simp only [Option.map_some, h, Option.map_map]
    rfl

/-- The key of an entry with other texts is the other text. -/
theorem written?_mapTexts {t : KeyedTable} (ht : t ∈ KeyedTable.all) (v : Value) :
    t.written? (v.mapTexts f) = (t.written? v).map f := by
  have htexts := optional_mapFields f (texts?_mapTexts f)
  have htext := optional_mapFields f (text?_mapTexts f)
  have hflag (fields : Fields) (name : String) :
      Fields.optional (mapFields f fields) name flag? = fields.optional name flag? := by
    have hread (v : Value) : (v.mapTexts f).flag? = v.flag?.map id := by simp [flag?_mapTexts]
    simpa using optional_mapFields f hread fields name
  revert t
  apply KeyedTable.forall_mem_all
  all_goals
    simp only [KeyedTable.columns, KeyedTable.entities, KeyedTable.plurals, KeyedTable.enums,
      KeyedTable.asyncs, columnOfValue?, entityOfValue?, pluralOfValue?, enumOfValue?,
      asyncOfValue?, asyncFlags?, Fields.orElse, fields?_mapTexts, require_text?_mapFields, htext,
      hflag, htexts, Option.bind_eq_bind, Option.bind_map, Option.map_bind, Option.pure_def,
      Option.map_some, Function.comp_def]

theorem writtenKeys?_mapFields {t : KeyedTable} (ht : t ∈ KeyedTable.all) (fields : Fields) :
    t.writtenKeys? (mapFields f fields) = (t.writtenKeys? fields).map (List.map f) := by
  have hentries (v : Value) : entriesOf? t.written? (v.mapTexts f) =
      (entriesOf? t.written? v).map (List.map f) := by
    cases v with
    | list items =>
      have hitems : (mapItems f items).mapM t.written? =
          (items.mapM t.written?).map (List.map f) := by
        rw [mapItems_eq]
        exact mapM_comm_map (written?_mapTexts f ht) items
      exact hitems
    | text s => rfl
    | flag b => rfl
    | table fields => rfl
  unfold KeyedTable.writtenKeys? Fields.orElse
  rw [optional_mapFields f hentries]
  cases fields.optional t.name (entriesOf? t.written?) with
  | none => rfl
  | some keys? => cases keys? <;> rfl

end Map

/-! The keys of a table among the texts of a document. -/

theorem mem_texts_of_require {names : List String} {v : Value} {fields : Fields}
    (hfields : v.fields? names = some fields) {name key : String}
    (hkey : fields.require name text? = some key) : key ∈ v.texts := by
  obtain ⟨w, hlookup, htext⟩ := Option.bind_eq_some_iff.mp hkey
  obtain ⟨before, after, hsplit, -⟩ := List.lookup_eq_some_iff.mp hlookup
  have hmem : (name, w) ∈ fields := by simp [hsplit]
  have hw : w = .text key := by
    cases w with
    | text s => rw [Option.some.inj htext]
    | flag b => cases htext
    | list items => cases htext
    | table fields => cases htext
  subst hw
  cases v with
  | text s => cases hfields
  | flag b => cases hfields
  | list items =>
    obtain rfl := Option.some.inj hfields
    rw [texts, textsOfItems_eq]
    exact List.mem_flatMap.mpr ⟨_, (List.of_mem_zip hmem).2, by simp [texts]⟩
  | table fields' =>
    unfold fields? at hfields
    obtain ⟨-, heq⟩ := Option.ite_none_right_eq_some.mp hfields
    obtain rfl := Option.some.inj heq
    rw [texts, textsOfFields_eq]
    exact List.mem_flatMap.mpr ⟨_, hmem, by simp [texts]⟩

theorem mem_texts_of_written? {t : KeyedTable} (ht : t ∈ KeyedTable.all) {v : Value} {key : String}
    (h : t.written? v = some key) : key ∈ v.texts := by
  revert t
  apply KeyedTable.forall_mem_all
  all_goals
    intro h
    obtain ⟨entry, hentry, rfl⟩ := Option.map_eq_some_iff.mp h
    obtain ⟨fields, hfields, hentry⟩ := Option.bind_eq_some_iff.mp hentry
    obtain ⟨key, hkey, hentry⟩ := Option.bind_eq_some_iff.mp hentry
    have hmem := mem_texts_of_require hfields hkey
    simp only [Option.bind_eq_bind, Option.bind_eq_some_iff, Option.pure_def,
      Option.some.injEq] at hentry
  case hcolumns =>
    obtain ⟨_, -, _, -, _, -, rfl⟩ := hentry
    exact hmem
  case hentities =>
    obtain ⟨_, -, _, -, _, -, _, -, rfl⟩ := hentry
    exact hmem
  all_goals
    obtain ⟨_, -, rfl⟩ := hentry
    exact hmem

theorem sublist_of_mapM_written? {t : KeyedTable} (ht : t ∈ KeyedTable.all) {items : List Value}
    {keys : List String} (h : items.mapM t.written? = some keys) :
    keys.Sublist (items.flatMap texts) := by
  induction items generalizing keys with
  | nil =>
    cases h
    exact List.Sublist.refl _
  | cons v rest ih =>
    rw [List.mapM_cons] at h
    obtain ⟨key, hkey, h⟩ := Option.bind_eq_some_iff.mp h
    obtain ⟨keys', hkeys, h⟩ := Option.bind_eq_some_iff.mp h
    cases h
    have hfirst := List.singleton_sublist.mpr (mem_texts_of_written? ht hkey)
    exact hfirst.append (ih hkeys)

/-- The keys of a table are texts of its field, in order. -/
theorem writtenKeys?_sublist {t : KeyedTable} (ht : t ∈ KeyedTable.all) {fields : Fields}
    {keys : List String} (h : t.writtenKeys? fields = some keys) :
    keys = [] ∨ ∃ field ∈ fields, keys.Sublist field.2.texts := by
  unfold KeyedTable.writtenKeys? Fields.orElse Fields.optional at h
  split at h
  · cases h
    exact Or.inl rfl
  · next v hlookup =>
    obtain ⟨before, after, hsplit, -⟩ := List.lookup_eq_some_iff.mp hlookup
    obtain ⟨keys?, hkeys, rfl⟩ := Option.map_eq_some_iff.mp h
    obtain ⟨keys, hentries, rfl⟩ := Option.map_eq_some_iff.mp hkeys
    obtain ⟨items, hitems, hall⟩ := Option.bind_eq_some_iff.mp hentries
    refine Or.inr ⟨(t.name, v), by simp [hsplit], ?_⟩
    cases v with
    | list items' =>
      obtain rfl := Option.some.inj hitems
      rw [texts, textsOfItems_eq]
      exact sublist_of_mapM_written? ht hall
    | text s => cases hitems
    | flag b => cases hitems
    | table fields => cases hitems

/-! The keys of a table and the settings. -/

/-- The entries of the tables of a document. -/
structure HasEntries (fields : Fields) (s : Settings) : Prop where
  columns : fields.orElse "column_overrides" (entriesOf? columnOfValue?) [] = some s.columns
  entities : fields.orElse "entity_overrides" (entriesOf? entityOfValue?) [] = some s.entities
  plurals : fields.orElse "plural_mappings" (entriesOf? pluralOfValue?) [] = some s.plurals
  enums : fields.orElse "enum_mappings" (entriesOf? enumOfValue?) [] = some s.enums
  asyncs : fields.orElse "async_mappings" (entriesOf? asyncOfValue?) [] = some s.asyncs

theorem hasEntries_of_ofFields? {fields : Fields} {s : Settings}
    (h : Settings.ofFields? fields = some s) : HasEntries fields s := by
  unfold Settings.ofFields? at h
  split at h
  · cases h
  · -- The tables are read behind all other settings.
    iterate 19 obtain ⟨_, -, h⟩ := Option.bind_eq_some_iff.mp h
    obtain ⟨_, hcolumns, h⟩ := Option.bind_eq_some_iff.mp h
    obtain ⟨_, hentities, h⟩ := Option.bind_eq_some_iff.mp h
    obtain ⟨_, hplurals, h⟩ := Option.bind_eq_some_iff.mp h
    obtain ⟨_, henums, h⟩ := Option.bind_eq_some_iff.mp h
    obtain ⟨_, hasyncs, h⟩ := Option.bind_eq_some_iff.mp h
    obtain rfl := Option.some.inj h
    exact ⟨hcolumns, hentities, hplurals, henums, hasyncs⟩

/-- A check of a key comes from an entry, with the keys of the entries before it. -/
theorem exists_of_newKey_mem {α : Type} {table table' key' : String} {own : α → List Check}
    {key : α → String} {earlier' : List String}
    (hown : ∀ entry, .newKey table' earlier' key' ∉ own entry)
    {earlier : List String} {entries : List α}
    (h : .newKey table' earlier' key' ∈ entryChecks table own key earlier entries) :
    table' = table ∧ ∃ rest, earlier ++ entries.map key = earlier' ++ key' :: rest := by
  induction entries generalizing earlier with
  | nil => cases h
  | cons entry rest ih =>
    rw [entryChecks, List.mem_append, List.mem_cons] at h
    rcases h with h | h | h
    · exact absurd h (hown entry)
    · obtain ⟨rfl, rfl, rfl⟩ := Check.newKey.inj h
      exact ⟨rfl, rest.map key, rfl⟩
    · obtain ⟨rfl, rest', hrest⟩ := ih h
      refine ⟨rfl, rest', ?_⟩
      rw [← hrest, List.map_cons, List.append_assoc, List.singleton_append]

theorem writtenKeys?_of_entries {α : Type} {fields : Fields} {name : String}
    {read : Value → Option α} {entries : List α}
    (h : fields.orElse name (entriesOf? read) [] = some entries) (written : α → String)
    (key : String → String) :
    KeyedTable.writtenKeys? ⟨name, fun v => (read v).map written, key⟩ fields =
      some (entries.map written) := by
  have hentries (v : Value) : entriesOf? (fun v => (read v).map written) v =
      (entriesOf? read v).map (List.map written) := by
    unfold entriesOf?
    rw [Option.map_bind]
    congr 1
    funext items
    have hall : (items.map id).mapM (fun v => (read v).map written) =
        (items.mapM read).map (List.map written) := by
      apply mapM_comm_map
      exact fun _ => rfl
    rwa [List.map_id] at hall
  unfold KeyedTable.writtenKeys? Fields.orElse Fields.optional at *
  cases hlookup : fields.lookup name with
  | none =>
    rw [hlookup] at h
    cases h
    rfl
  | some v =>
    rw [hlookup] at h
    simp only [hentries] at h ⊢
    cases hv : entriesOf? read v with
    | none =>
      rw [hv] at h
      cases h
    | some entries' =>
      rw [hv] at h
      cases h
      rfl

/-- The table of a key that is checked, with the keys of its entries up to that one. -/
theorem exists_keyedTable_of_newKey_mem {fields : Fields} {s : Settings}
    (hentries : HasEntries fields s) {table key : String} {earlier : List String}
    (h : .newKey table earlier key ∈ s.checks) :
    ∃ t ∈ KeyedTable.all, t.name = table ∧ ∃ keys, t.writtenKeys? fields = some keys ∧
      ∃ rest, keys.map t.key = earlier ++ key :: rest := by
  have hnone {α : Type} (entry : α) :
      Check.newKey table earlier key ∉ (fun _ => [] : α → List Check) entry := List.not_mem_nil
  have hentity (e : EntityOverride) : Check.newKey table earlier key ∉ entityChecks e := by
    simp [entityChecks]
  unfold Settings.checks at h
  simp only [List.mem_append] at h
  rcases h with hnames | hcolumns | hentities | hplurals | henums | hasyncs
  · simp at hnames
  · obtain ⟨rfl, rest, hrest⟩ := exists_of_newKey_mem hnone hcolumns
    exact ⟨.columns, by simp [KeyedTable.all], rfl, _,
      writtenKeys?_of_entries hentries.columns _ _, rest, List.map_map.trans hrest⟩
  · obtain ⟨rfl, rest, hrest⟩ := exists_of_newKey_mem hentity hentities
    exact ⟨.entities, by simp [KeyedTable.all], rfl, _,
      writtenKeys?_of_entries hentries.entities _ _, rest, List.map_map.trans hrest⟩
  · obtain ⟨rfl, rest, hrest⟩ := exists_of_newKey_mem hnone hplurals
    exact ⟨.plurals, by simp [KeyedTable.all], rfl, _,
      writtenKeys?_of_entries hentries.plurals _ _, rest, List.map_map.trans hrest⟩
  · obtain ⟨rfl, rest, hrest⟩ := exists_of_newKey_mem hnone henums
    exact ⟨.enums, by simp [KeyedTable.all], rfl, _,
      writtenKeys?_of_entries hentries.enums _ _, rest, List.map_map.trans hrest⟩
  · obtain ⟨rfl, rest, hrest⟩ := exists_of_newKey_mem hnone hasyncs
    exact ⟨.asyncs, by simp [KeyedTable.all], rfl, _,
      writtenKeys?_of_entries hentries.asyncs _ _, rest, List.map_map.trans hrest⟩

end DataLayer.Config
