import DataLayer.Proofs.Model.Entities
import DataLayer.Proofs.Model.Resolution

/-!
Every key that a schema declares, and that the configuration does not leave out, becomes one
accessor or leaves one warning about the first column that its entity lacks. Keys are taken here
as the elements that declare them.
-/

namespace DataLayer

namespace Entity

theorem not_mem_identityColumns {e : Entity} {p : Property} (h : p ∈ e.columns) :
    p ∉ e.identityColumns := by
  intro hid
  have hnot := (List.mem_filter.mp h).2
  rw [(List.mem_filter.mp hid).2] at hnot
  cases hnot

theorem columns_append_identityColumns (e : Entity) :
    (e.columns ++ e.identityColumns).Perm e.properties := by
  have hperm := List.filter_append_perm Property.identity e.properties
  exact List.perm_append_comm.trans hperm

end Entity

namespace Schema

/-- An element that declares a key, with the kind of key that the type of the element stands for. -/
structure KeyElement where
  kind : KeyKind
  element : Element

namespace KeyElement

/-- Foreign keys, then primary keys, then indexes, each in the order of declaration. -/
def all (t : Tree) : List KeyElement :=
  (t.objects .foreignKey).map (⟨.foreignKey, ·⟩) ++
    (t.objects .primaryKey).map (⟨.primaryKey, ·⟩) ++ (t.objects .index).map (⟨.index, ·⟩)

def name (d : KeyElement) : String := d.element.objectName?.getD ""

/-- The table over which the key is defined. -/
def table? (d : KeyElement) : Option String :=
  match d.kind with
  | .foreignKey | .primaryKey => d.element.reference? "DefiningTable"
  | .index => d.element.reference? "IndexedObject"

def columns (d : KeyElement) : List String :=
  match d.kind with
  | .foreignKey => d.element.references "Columns"
  | .primaryKey | .index => d.element.keyColumns

/-- The columns that a foreign key refers to; other keys refer to none. -/
def foreignColumns (d : KeyElement) : List String :=
  match d.kind with
  | .foreignKey => d.element.references "ForeignColumns"
  | .primaryKey | .index => []

def foreignTable? (d : KeyElement) : Option String :=
  match d.kind with
  | .foreignKey => d.element.reference? "ForeignTable"
  | .primaryKey | .index => none

def isUnique (d : KeyElement) : Bool :=
  match d.kind with
  | .foreignKey => false
  | .primaryKey => true
  | .index => (d.element.flag? "IsUnique").getD false

/-- Whether keys of this kind are switched on. -/
def isSwitchedOn (f : Features) (d : KeyElement) : Bool :=
  match d.kind with
  | .foreignKey => f.foreignKey
  | .primaryKey => f.primaryKey
  | .index => if d.isUnique then f.uniqueIndex else f.nonUniqueIndex

/-- The first entity of the table over which the key is defined. -/
def owner? (es : List Entity) (d : KeyElement) : Option Entity :=
  d.table?.bind fun table => es.find? (·.table == table)

/-- Whether the key has a name and a table that has an entity, and is not left out. -/
def isKept (c : Config) (es : List Entity) (d : KeyElement) : Bool :=
  d.element.objectName?.isSome && d.isSwitchedOn c.features &&
    d.table?.any (!c.overrides.isIgnored ·) && (d.owner? es).isSome

/-- Whether the entity has all columns of the key. -/
def isComplete (es : List Entity) (d : KeyElement) : Bool :=
  (d.owner? es).any fun e => d.columns.all fun column => (e.property? column).isSome

/-- The elements of the keys that are kept and complete, in order. -/
def emitted (c : Config) (es : List Entity) (t : Tree) : List KeyElement :=
  ((all t).filter (isKept c es)).filter (isComplete es)

/-- A warning about the first missing column, or else about the table that is referred to. -/
def warnings (es : List Entity) (d : KeyElement) : List Warning :=
  match (d.owner? es).bind fun e => d.columns.find? e.lacks with
  | some column => [.missingColumn d.kind d.name column]
  | none =>
    match d.foreignTable? with
    | none => []
    | some table => if es.any (·.table == table) then [] else [.missingForeignTable d.name table]

/-- What the accessor of a key over columns of an entity is. -/
structure IsAccessor (c : Config) (e : Entity) (d : KeyElement) (a : Accessor) : Prop where
  kind : a.kind = d.kind
  key : d.element.objectName? = some a.key
  table : d.table? = some a.table
  entity : a.entity = e.name
  length : a.params.length = d.columns.length
  params : ∀ (i : Nat) column, d.columns[i]? = some column → ∃ p, e.property? column = some p ∧
    a.params[i]? = some { p with foreignName := d.foreignColumns[i]? }
  columns : a.columns = e.properties.filter (!·.identity)
  identityColumns : a.identityColumns = e.properties.filter (·.identity)
  disjoint : ∀ p ∈ a.columns, p ∉ a.identityColumns
  together : (a.columns ++ a.identityColumns).Perm e.properties
  unique : a.unique = d.isUnique
  asyncs : a.asyncs = (c.overrides.async? a.key).getD c.asyncDefaults

/-- The key that an element declares, if it has a name and a table. -/
def key? (d : KeyElement) : Option Key :=
  d.element.objectName?.bind fun name => d.table?.map fun table =>
    ⟨d.kind, name, table, d.columns, d.foreignTable?, d.foreignColumns, d.isUnique⟩

theorem keys_eq (t : Tree) : t.keys = (all t).filterMap key? := by
  unfold Tree.keys all
  rw [List.filterMap_append, List.filterMap_append]
  simp only [List.filterMap_map]
  rfl

variable {c : Config} {es : List Entity} {d : KeyElement} {k : Key} {e : Entity} {a : Accessor}

theorem key?_eq_some (h : d.key? = some k) :
    d.element.objectName? = some k.name ∧ d.table? = some k.table ∧
      k = ⟨d.kind, d.name, k.table, d.columns, d.foreignTable?, d.foreignColumns, d.isUnique⟩ := by
  unfold key? at h
  cases hname : d.element.objectName? with
  | none => simp [hname] at h
  | some name =>
    cases htable : d.table? with
    | none => simp [hname, htable] at h
    | some table =>
      simp only [hname, htable, Option.bind_some, Option.map_some, Option.some.injEq] at h
      subst h
      simp [KeyElement.name, hname]

theorem isKept_of_key? (h : d.key? = some k) :
    d.isKept c es = (c.keeps k && es.any (·.table == k.table)) := by
  obtain ⟨hname, htable, hk⟩ := key?_eq_some h
  have hadmits : c.features.admits k = d.isSwitchedOn c.features := by
    rw [hk]
    rfl
  unfold isKept Config.keeps owner?
  rw [hadmits, hname, htable]
  simp [Bool.and_assoc, List.isSome_find?]

theorem isSome_key?_of_isKept (h : d.isKept c es) : d.key?.isSome := by
  unfold isKept at h
  unfold key?
  cases hname : d.element.objectName? with
  | none => simp [hname] at h
  | some name =>
    cases htable : d.table? with
    | none => simp [htable] at h
    | some table => simp

theorem owner?_of_key? (h : d.key? = some k) : d.owner? es = es.find? (·.table == k.table) := by
  unfold owner?
  rw [(key?_eq_some h).2.1]
  rfl

theorem isComplete_of_key? (h : d.key? = some k) : d.isComplete es = Model.emits es k := by
  obtain ⟨-, -, hk⟩ := key?_eq_some h
  have hcolumns : k.columns = d.columns := by rw [hk]
  unfold isComplete Model.emits
  rw [owner?_of_key? h, hcolumns]
  refine congrFun (congrArg Option.any (funext fun e => ?_)) _
  rw [Bool.eq_iff_iff, List.all_eq_true, Option.isNone_iff_eq_none, List.find?_eq_none]
  simp [Entity.lacks, Option.isSome_iff_ne_none]

theorem warnings_of_key? (h : d.key? = some k) (howner : es.any (·.table == k.table)) :
    Model.warningsOf es k = d.warnings es := by
  obtain ⟨-, -, hk⟩ := key?_eq_some h
  have hcolumns : k.columns = d.columns := by rw [hk]
  have hname : k.name = d.name := by rw [hk]
  have hkind : k.kind = d.kind := by rw [hk]
  have htarget : k.target? = d.foreignTable? := by
    rw [hk]
    unfold Key.target? foreignTable?
    cases d.kind <;> rfl
  unfold Model.warningsOf warnings
  rw [owner?_of_key? h, hcolumns, hname, hkind, htarget]
  cases hfind : es.find? (·.table == k.table) with
  | none =>
    rw [← List.isSome_find?, hfind] at howner
    cases howner
  | some e => rfl

theorem filter_keys (c : Config) (es : List Entity) (t : Tree) :
    (t.keys.filter c.keeps).filter (Model.emits es) = (emitted c es t).filterMap key? := by
  unfold emitted
  rw [keys_eq, List.filter_filterMap, List.filter_filterMap, List.filterMap_filter,
    List.filterMap_filter]
  refine congrFun (congrArg List.filterMap (funext fun d => ?_)) _
  cases hkey : d.key? with
  | none => simp
  | some k =>
    rw [isKept_of_key? hkey, isComplete_of_key? hkey]
    by_cases hemits : Model.emits es k
    · have howner : es.any (·.table == k.table) = true := Model.any_of_emits hemits
      by_cases hkeeps : c.keeps k <;> simp [hkeeps, hemits, howner]
    · simp [hemits]

/-- What relates keys to further values relates the elements that declare them. -/
theorem forall₂_of_filterMap {ds : List KeyElement} {as : List Accessor}
    {R : Key → Accessor → Prop} (hds : ∀ d ∈ ds, d.key?.isSome)
    (h : List.Forall₂ R (ds.filterMap key?) as) :
    List.Forall₂ (fun d a => ∃ k, d.key? = some k ∧ R k a) ds as := by
  have hfilter : ds.filter (fun d => d.key?.isSome) = ds := List.filter_eq_self.mpr hds
  rw [← hfilter]
  exact Model.forall₂_filter_isSome h

theorem flatMap_warnings (c : Config) (es : List Entity) (ds : List KeyElement) :
    ((ds.filterMap key?).filter c.keeps).flatMap (Model.warningsOf es) =
      (ds.filter (isKept c es)).flatMap (warnings es) := by
  induction ds with
  | nil => rfl
  | cons d ds ih =>
    rw [List.filterMap_cons, List.filter_cons]
    cases hkey : d.key? with
    | none =>
      have hkept : isKept c es d = false := by
        rw [← Bool.not_eq_true]
        intro h
        have hsome := isSome_key?_of_isKept h
        rw [hkey] at hsome
        cases hsome
      simpa [hkept] using ih
    | some k =>
      rw [isKept_of_key? hkey]
      by_cases howner : es.any (·.table == k.table)
      · have hw := warnings_of_key? hkey howner
        by_cases hkeeps : c.keeps k <;> simp [hkeeps, howner, hw, ih]
      · have hw : Model.warningsOf es k = [] := Model.warningsOf_eq_nil howner
        by_cases hkeeps : c.keeps k <;> simp [hkeeps, howner, hw, ih]

/-- The accessor that a key gives to an entity is the one that its element stands for. -/
theorem isAccessor_of_ofKey (hkey : d.key? = some k)
    (hfind : es.find? (·.table == k.table) = some e)
    (h : Accessor.ofKey c e k = .ok a.unlinked) : d.IsAccessor c e a := by
  obtain ⟨hname, htable, hk⟩ := key?_eq_some hkey
  obtain ⟨params, hparams, ha⟩ := Accessor.ofKey_eq_ok h
  obtain ⟨-, hlength, hall⟩ := Accessor.paramsOf_eq_ok hparams
  have heq : e.table = k.table := by simpa using List.find?_some hfind
  obtain ⟨kind, key, table, entity, params', columns, identityColumns, unique, asyncs,
    foreigns⟩ := a
  simp only [Accessor.unlinked, Accessor.mk.injEq, and_true] at ha
  obtain ⟨rfl, rfl, rfl, rfl, rfl, rfl, rfl, rfl, rfl⟩ := ha
  have hcolumns : k.columns = d.columns := by rw [hk]
  have hforeign : k.foreignColumns = d.foreignColumns := by rw [hk]
  rw [hcolumns] at hlength hall
  rw [hforeign] at hall
  refine ⟨?_, hname, ?_, rfl, hlength, hall, rfl, rfl, ?_, ?_, ?_, rfl⟩
  · rw [hk]
  · rw [htable, heq]
  · exact fun p => Entity.not_mem_identityColumns
  · exact e.columns_append_identityColumns
  · rw [hk]

theorem warnings_of_incomplete (hkept : d.isKept c es) (hincomplete : d.isComplete es = false) :
    ∃ e before column after, d.owner? es = some e ∧ d.columns = before ++ column :: after ∧
      (∀ x ∈ before, (e.property? x).isSome) ∧ e.property? column = none ∧
      d.warnings es = [.missingColumn d.kind d.name column] := by
  unfold isKept at hkept
  obtain ⟨-, howner⟩ := Bool.and_eq_true_iff.mp hkept
  obtain ⟨e, he⟩ := Option.isSome_iff_exists.mp howner
  cases hfind : d.columns.find? e.lacks with
  | none =>
    have hcomplete : d.isComplete es = true := by
      unfold isComplete
      rw [he, Option.any_some, List.all_eq_true]
      intro x hx
      simpa [Entity.lacks, Option.isSome_iff_ne_none] using List.find?_eq_none.mp hfind x hx
    rw [hcomplete] at hincomplete
    cases hincomplete
  | some column =>
    obtain ⟨hlacks, before, after, hcolumns, hbefore⟩ := List.find?_eq_some_iff_append.mp hfind
    refine ⟨e, before, column, after, he, hcolumns, fun x hx => ?_, ?_, ?_⟩
    · simpa [Entity.lacks] using hbefore x hx
    · simpa [Entity.lacks] using hlacks
    · simp [warnings, he, hfind]

theorem isSome_key?_of_mem_emitted {t : Tree} (h : d ∈ emitted c es t) : d.key?.isSome :=
  isSome_key?_of_isKept (List.mem_filter.mp (List.mem_filter.mp h).1).2

/-- The accessors that are added are those of the keys that are kept and complete. -/
theorem forall₂_accessors (c : Config) (es : List Entity) (t : Tree) :
    List.Forall₂ (fun d a => ∃ e, d.owner? es = some e ∧ d.IsAccessor c e a)
      (emitted c es t) (Model.addKeys c t.keys ⟨es, [], []⟩).1.accessors := by
  have haccessors := (Model.Resolves.addKeys c es t.keys).accessors
  rw [filter_keys] at haccessors
  refine (forall₂_of_filterMap (fun d => isSome_key?_of_mem_emitted) haccessors).imp ?_
  rintro d a ⟨k, hkey, e, hfind, hof⟩
  exact ⟨e, (owner?_of_key? hkey).trans hfind, isAccessor_of_ofKey hkey hfind hof⟩

end KeyElement

end Schema

open Schema (KeyElement)

/-- Every kept key has its accessor if the entity has all its columns, and no other accessor is
there. The warnings are those of the kept keys in order. -/
theorem keys_become_accessors (c : Config) (t : Schema.Tree) (es : List Entity) :
    let kept := (KeyElement.all t).filter (·.isKept c es)
    let r := Model.addKeys c t.keys ⟨es, [], []⟩
    List.Forall₂ (fun d a => ∃ e, d.owner? es = some e ∧ d.IsAccessor c e a)
      (kept.filter (·.isComplete es)) r.1.accessors ∧
    r.2 = kept.flatMap (·.warnings es) ∧
    ∀ d ∈ kept, d.isComplete es = false → ∃ e before column after, d.owner? es = some e ∧
      d.columns = before ++ column :: after ∧ (∀ x ∈ before, (e.property? x).isSome) ∧
      e.property? column = none ∧
      d.warnings es = [.missingColumn d.kind d.name column] := by
  intro kept r
  refine ⟨KeyElement.forall₂_accessors c es t, ?_, fun d hd hincomplete => ?_⟩
  · have hresolves : Model.Resolves c es (t.keys.filter c.keeps) r :=
      Model.Resolves.addKeys c es t.keys
    rw [hresolves.warnings, KeyElement.keys_eq]
    exact KeyElement.flatMap_warnings c es _
  · exact KeyElement.warnings_of_incomplete (List.mem_filter.mp hd).2 hincomplete

end DataLayer
