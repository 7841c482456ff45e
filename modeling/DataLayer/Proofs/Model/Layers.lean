import DataLayer.Proofs.Model.Switches

/-!
The layers of a configuration. Each of them sets a few fields of a resolved model and has no part
in all else: not in which objects there are, not in how keys find their columns and each other, and
not in the warnings. So two configurations that differ in one layer give the same model but for the
fields of that layer.
-/

namespace DataLayer

open Schema (Column Key Table)

/-- What a configuration sets for one purpose. -/
inductive Layer where
  /-- The enumerations of columns. -/
  | types
  /-- The asynchronous verbs of accessors. -/
  | asyncs
  /-- The names, the annotations and the access of entities. -/
  | names
  /-- Whether entities refer to foreign keys. -/
  | links
  /-- The annotations of columns. -/
  | annotations
  /-- Plural forms, namespaces, the class, paths and whatever else only files show. -/
  | output
  deriving DecidableEq, Repr

namespace Layer

variable {α : Type} {l owner : Layer} {blank x y : α}

/-- A value without what a layer sets: the value is blank if the layer is its owner. -/
def mask (l owner : Layer) (blank x : α) : α := if l = owner then blank else x

theorem mask_of_ne (h : l ≠ owner) : l.mask owner blank x = x := if_neg h

theorem mask_congr (h : l ≠ owner → x = y) : l.mask owner blank x = l.mask owner blank y := by
  unfold mask
  split
  · rfl
  · next hne => exact h hne

end Layer

/-! Values that are the same under a map. -/

section Maps

variable {α β ε : Type} {f : α → β}

theorem Option.cases_of_map_eq {x y : Option α} (h : x.map f = y.map f) :
    x = none ∧ y = none ∨ ∃ a b, x = some a ∧ y = some b ∧ f a = f b := by
  cases x with
  | none =>
    cases y with
    | none => exact .inl ⟨rfl, rfl⟩
    | some b => cases h
  | some a =>
    cases y with
    | none => cases h
    | some b => exact .inr ⟨a, b, rfl, rfl, Option.some.inj h⟩

theorem Except.cases_of_map_eq {x y : Except ε α} (h : x.map f = y.map f) :
    (∃ e, x = .error e ∧ y = .error e) ∨ ∃ a b, x = .ok a ∧ y = .ok b ∧ f a = f b := by
  cases x with
  | error e =>
    cases y with
    | error e' => exact .inl ⟨e, rfl, congrArg Except.error (Except.error.inj h).symm⟩
    | ok b => cases h
  | ok a =>
    cases y with
    | error e => cases h
    | ok b => exact .inr ⟨a, b, rfl, rfl, Except.ok.inj h⟩

end Maps

/-! Models without what a layer sets. -/

variable {l : Layer}

def Property.erase (l : Layer) (p : Property) : Property :=
  { p with
    type := l.mask .types .unmapped p.type
    annotations := l.mask .annotations [] p.annotations }

theorem Property.fields_of_erase {p p' : Property} (h : p.erase l = p'.erase l) :
    p.name = p'.name ∧ p.sqlType = p'.sqlType ∧ p.nullable = p'.nullable := by
  simp only [erase, mk.injEq] at h
  exact ⟨h.1, h.2.1, h.2.2.2.1⟩

def Entity.erase (l : Layer) (e : Entity) : Entity :=
  { e with
    name := l.mask .names "" e.name
    properties := e.properties.map (Property.erase l)
    annotations := l.mask .names [] e.annotations
    access := l.mask .names "" e.access
    includeForeignKey := l.mask .links true e.includeForeignKey
    foreigns := l.mask .links [] e.foreigns }

def Accessor.erase (l : Layer) (a : Accessor) : Accessor :=
  { a with
    entity := l.mask .names "" a.entity
    params := a.params.map (Property.erase l)
    columns := a.columns.map (Property.erase l)
    identityColumns := a.identityColumns.map (Property.erase l)
    asyncs := l.mask .asyncs ⟨false, false, false⟩ a.asyncs
    foreigns := l.mask .links [] a.foreigns }

def Model.erase (l : Layer) (m : Model) : Model :=
  { m with
    entities := m.entities.map (Entity.erase l)
    accessors := m.accessors.map (Accessor.erase l) }

/-! Configurations without what a layer sets. -/

def ColumnOverride.erase (l : Layer) (o : ColumnOverride) : ColumnOverride :=
  { o with annotations := l.mask .annotations none o.annotations }

/-- An override keeps its key. -/
def Model.KeyedOverride.erase (l : Layer) (o : Model.KeyedOverride) : Model.KeyedOverride :=
  (o.1, o.2.erase l)

/-- Two configurations differ in one layer at most, as far as models go. -/
structure Config.SameBut (l : Layer) (c c' : Config) : Prop where
  features : c.features = c'.features
  ignored : c.overrides.ignored = c'.overrides.ignored
  columns : c.overrides.columns.map (Model.KeyedOverride.erase l) =
    c'.overrides.columns.map (Model.KeyedOverride.erase l)
  types : l ≠ .types → c.overrides.enums = c'.overrides.enums
  asyncs : l ≠ .asyncs → ∀ key, (c.overrides.async? key).getD c.asyncDefaults =
    (c'.overrides.async? key).getD c'.asyncDefaults
  names : l ≠ .names → ∀ table,
    (c.overrides.entity? table).bind (·.name) = (c'.overrides.entity? table).bind (·.name) ∧
    (c.overrides.entity? table).bind (·.annotations) =
      (c'.overrides.entity? table).bind (·.annotations) ∧
    (c.overrides.entity? table).bind (·.access) = (c'.overrides.entity? table).bind (·.access)
  links : l ≠ .links → ∀ table,
    ((c.overrides.entity? table).bind (·.includeForeignKey)).getD true =
      ((c'.overrides.entity? table).bind (·.includeForeignKey)).getD true

namespace Model

variable {c c' : Config}

/-! Overrides of columns. -/

theorem columnOverride?_map_erase (l : Layer) (os : List KeyedOverride) (column : String) :
    columnOverride? (os.map (KeyedOverride.erase l)) column =
      (columnOverride? os column).map (KeyedOverride.erase l) := by
  have hkey (f : String → Bool) : (os.map (KeyedOverride.erase l)).find? (fun o => f o.1) =
      (os.find? fun o => f o.1).map (KeyedOverride.erase l) := List.find?_map ..
  unfold columnOverride?
  rw [hkey (· == column),
    hkey fun key => (SqlName.parts key).length == 1 && SqlName.short key == SqlName.short column]
  cases os.find? (·.1 == column) <;> rfl

theorem erase_override (l : Layer) (o : ColumnOverride) (p : Property) :
    (override (o.erase l) p).erase l = (override o p).erase l := by
  have hannotations : l.mask .annotations [] ((o.erase l).annotations.getD p.annotations) =
      l.mask .annotations [] (o.annotations.getD p.annotations) := by
    refine Layer.mask_congr fun hne => ?_
    unfold ColumnOverride.erase
    rw [Layer.mask_of_ne hne]
  unfold override Property.erase
  rw [hannotations]
  rfl

theorem erase_typed {p p' : Property}
    (henums : l ≠ .types → c.overrides.enums = c'.overrides.enums)
    (hp : p.erase l = p'.erase l) : (typed c p).erase l = (typed c' p').erase l := by
  have herase (c : Config) (p : Property) : (typed c p).erase l = { p.erase l with
      type := l.mask .types .unmapped
        (SqlType.resolve c.overrides.enums p.sqlType p.nullable (some p.name)) } := rfl
  obtain ⟨hname, hsqlType, hnullable⟩ := Property.fields_of_erase hp
  have htype : l.mask .types .unmapped
        (SqlType.resolve c.overrides.enums p.sqlType p.nullable (some p.name)) =
      l.mask .types .unmapped
        (SqlType.resolve c'.overrides.enums p'.sqlType p'.nullable (some p'.name)) :=
    Layer.mask_congr fun hne => by rw [hname, hsqlType, hnullable, henums hne]
  rw [herase, herase, hp, htype]

end Model

namespace Config.SameBut

open Model

variable {c c' : Config}

theorem refl (l : Layer) (c : Config) : SameBut l c c := by
  constructor <;> simp

theorem isIgnored (h : SameBut l c c') (name : String) :
    c.overrides.isIgnored name = c'.overrides.isIgnored name := by
  unfold Overrides.isIgnored
  rw [h.ignored]

theorem keeps (h : SameBut l c c') : c.keeps = c'.keeps := by
  funext k
  unfold Config.keeps
  rw [h.features, h.isIgnored]

theorem columnOverride? (h : SameBut l c c') (column : String) :
    (columnOverride? c.overrides.columns column).map (KeyedOverride.erase l) =
      (columnOverride? c'.overrides.columns column).map (KeyedOverride.erase l) := by
  rw [← columnOverride?_map_erase, ← columnOverride?_map_erase, h.columns]

theorem overridden (h : SameBut l c c') (column : Column) :
    (overridden c column).erase l = (overridden c' column).erase l := by
  unfold Model.overridden
  rcases Option.cases_of_map_eq (h.columnOverride? column.name) with
    ⟨ho, ho'⟩ | ⟨o, o', ho, ho', hsame⟩
  · rw [ho, ho']
  · have herase : o.2.erase l = o'.2.erase l := congrArg Prod.snd hsame
    rw [ho, ho']
    dsimp only
    rw [← erase_override, herase, erase_override]

theorem columnProperty? (h : SameBut l c c') (column : Column) :
    (columnProperty? c column).map (Property.erase l) =
      (columnProperty? c' column).map (Property.erase l) := by
  have hsame := h.overridden column
  obtain ⟨hname, hsqlType, -⟩ := Property.fields_of_erase hsame
  unfold Model.columnProperty?
  dsimp only
  rw [hname, hsqlType, h.isIgnored]
  split
  · rfl
  · rw [Option.map_some, Option.map_some, erase_typed h.types hsame]

theorem appliedKeys (h : SameBut l c c') (table : Table) :
    appliedKeys c table = appliedKeys c' table := by
  refine List.filterMap_congr fun column _ => ?_
  have hkey := congrArg (Option.map Prod.fst) (h.columnOverride? column.name)
  rwa [Option.map_map, Option.map_map] at hkey

theorem additions (h : SameBut l c c') (table : Table) (used : List String) :
    (additions c table used).map (KeyedOverride.erase l) =
      (additions c' table used).map (KeyedOverride.erase l) := by
  have hfilter (c : Config) : (Model.additions c table used).map (KeyedOverride.erase l) =
      (c.overrides.columns.map (KeyedOverride.erase l)).filter fun o =>
        !used.contains o.1 && o.1.startsWith (table.name ++ ".") := by
    rw [List.filter_map]
    rfl
  rw [hfilter, hfilter, h.columns]

theorem additionProperty? (h : SameBut l c c') (o : KeyedOverride) :
    (additionProperty? c o).map (Property.erase l) =
      (additionProperty? c' (o.erase l)).map (Property.erase l) := by
  have hsame : (override o.2 (undeclared o.1)).erase l =
      (override (o.erase l).2 (undeclared (o.erase l).1)).erase l :=
    (erase_override l o.2 (undeclared o.1)).symm
  unfold Model.additionProperty?
  rw [h.isIgnored]
  show Option.map _ (if c'.overrides.isIgnored o.1 then none else _) =
    Option.map _ (if c'.overrides.isIgnored o.1 then none else _)
  split
  · rfl
  · rw [Option.map_some, Option.map_some, erase_typed h.types hsame]

/-! Entities. -/

/-- Overrides that are the same when erased add the same properties. -/
theorem filterMap_additionProperty? (h : SameBut l c c') {os os' : List KeyedOverride}
    (hos : os.map (KeyedOverride.erase l) = os'.map (KeyedOverride.erase l)) :
    (os.filterMap (Model.additionProperty? c)).map (Property.erase l) =
      (os'.filterMap (Model.additionProperty? c')).map (Property.erase l) := by
  have hlist {c₀ : Config} (h₀ : SameBut l c₀ c') (os : List KeyedOverride) :
      (os.filterMap (Model.additionProperty? c₀)).map (Property.erase l) =
        (os.map (KeyedOverride.erase l)).filterMap fun o =>
          (Model.additionProperty? c' o).map (Property.erase l) := by
    rw [List.map_filterMap, List.filterMap_map]
    exact List.filterMap_congr fun o _ => h₀.additionProperty? o
  rw [hlist h, hlist (refl l c'), hos]

theorem entityOf (h : SameBut l c c') (table : String) {ps ps' : List Property}
    (hps : ps.map (Property.erase l) = ps'.map (Property.erase l)) :
    (entityOf c table ps).erase l = (entityOf c' table ps').erase l := by
  unfold Model.entityOf Entity.erase
  simp only [Entity.mk.injEq, true_and, and_true]
  refine ⟨?_, hps, ?_, ?_, ?_⟩
  · exact Layer.mask_congr fun hne => by rw [(h.names hne table).1]
  · exact Layer.mask_congr fun hne => by rw [(h.names hne table).2.1]
  · exact Layer.mask_congr fun hne => by rw [(h.names hne table).2.2]
  · exact Layer.mask_congr fun hne => h.links hne table

/-- By induction on the tables, with the same overrides in use. -/
theorem entitiesFrom (h : SameBut l c c') (used : List String) (tables : List Table) :
    (entitiesFrom c used tables).1.map (Entity.erase l) =
        (entitiesFrom c' used tables).1.map (Entity.erase l) ∧
      (Model.entitiesFrom c used tables).2 = (Model.entitiesFrom c' used tables).2 := by
  induction tables generalizing used with
  | nil => exact ⟨rfl, rfl⟩
  | cons table rest ih =>
    have hcolumns : (table.columns.filterMap (Model.columnProperty? c)).map (Property.erase l) =
        (table.columns.filterMap (Model.columnProperty? c')).map (Property.erase l) := by
      rw [List.map_filterMap, List.map_filterMap]
      exact List.filterMap_congr fun column _ => h.columnProperty? column
    have hadded := h.additions table (used ++ Model.appliedKeys c table)
    have hkeys : (Model.additions c table (used ++ Model.appliedKeys c table)).map (·.1) =
        (Model.additions c' table (used ++ Model.appliedKeys c table)).map (·.1) := by
      have hfirst := congrArg (List.map Prod.fst) hadded
      rwa [List.map_map, List.map_map] at hfirst
    unfold Model.entitiesFrom
    dsimp only
    rw [hkeys, ← h.appliedKeys]
    obtain ⟨hrest, hused⟩ := ih (used ++ Model.appliedKeys c table ++
      (Model.additions c' table (used ++ Model.appliedKeys c table)).map (·.1))
    refine ⟨?_, hused⟩
    rw [List.map_cons, List.map_cons, hrest, h.entityOf]
    rw [List.map_append, List.map_append, hcolumns, h.filterMap_additionProperty? hadded]

theorem entitiesOf (h : SameBut l c c') (tables : List Table) :
    (entitiesOf c tables).1.map (Entity.erase l) =
        (entitiesOf c' tables).1.map (Entity.erase l) ∧
      (Model.entitiesOf c tables).2 = (Model.entitiesOf c' tables).2 := by
  have hkept : tables.filter (fun t => !c.overrides.isIgnored t.name) =
      tables.filter fun t => !c'.overrides.isIgnored t.name :=
    List.filter_congr fun table _ => by rw [h.isIgnored]
  have hkeys : c.overrides.columns.map (·.1) = c'.overrides.columns.map (·.1) := by
    have hfirst := congrArg (List.map Prod.fst) h.columns
    rwa [List.map_map, List.map_map] at hfirst
  obtain ⟨hentities, hused⟩ := h.entitiesFrom []
    (tables.filter fun t => !c'.overrides.isIgnored t.name)
  unfold Model.entitiesOf
  dsimp only
  rw [hkept, hkeys, hused]
  exact ⟨hentities, rfl⟩

end Config.SameBut

/-! Keys. -/

namespace Entity

theorem property?_erase (l : Layer) (e : Entity) (column : String) :
    (e.erase l).property? column = (e.property? column).map (Property.erase l) :=
  List.find?_map ..

theorem columns_erase (l : Layer) (e : Entity) :
    (e.erase l).columns = e.columns.map (Property.erase l) := List.filter_map ..

theorem identityColumns_erase (l : Layer) (e : Entity) :
    (e.erase l).identityColumns = e.identityColumns.map (Property.erase l) := List.filter_map ..

end Entity

namespace Accessor

theorem paramsOf_erase (l : Layer) (e : Entity) (columns foreignColumns : List String) :
    paramsOf (e.erase l) columns foreignColumns =
      (paramsOf e columns foreignColumns).map (List.map (Property.erase l)) := by
  induction columns generalizing foreignColumns with
  | nil => rfl
  | cons column columns ih =>
    unfold paramsOf
    rw [Entity.property?_erase, ih]
    cases e.property? column with
    | none => rfl
    | some p =>
      dsimp only [Option.map_some]
      cases paramsOf e columns foreignColumns.tail <;> rfl

/-- The accessor of a key shows what its entity shows, and which verbs are asynchronous. -/
theorem map_erase_ofKey (l : Layer) (c : Config) (e : Entity) (k : Key) :
    (ofKey c e k).map (Accessor.erase l) =
      (paramsOf (e.erase l) k.columns k.foreignColumns).map fun params =>
        { kind := k.kind
          key := k.name
          table := (e.erase l).table
          entity := (e.erase l).name
          params := params
          columns := (e.erase l).columns
          identityColumns := (e.erase l).identityColumns
          unique := k.unique
          asyncs := l.mask .asyncs ⟨false, false, false⟩
            ((c.overrides.async? k.name).getD c.asyncDefaults)
          foreigns := l.mask .links [] [] } := by
  rw [paramsOf_erase, Entity.columns_erase, Entity.identityColumns_erase, ofKey]
  cases paramsOf e k.columns k.foreignColumns <;> rfl

theorem references_erase (l : Layer) (a : Accessor) (columns : List String) :
    (a.erase l).references columns = a.references columns := by
  unfold references foreignNames erase
  rw [List.map_map]
  rfl

theorem erase_withForeigns {a a' : Accessor} {numbers numbers' : List Nat}
    (ha : a.erase l = a'.erase l) (hnumbers : l ≠ .links → numbers = numbers') :
    { a with foreigns := numbers }.erase l = { a' with foreigns := numbers' }.erase l := by
  calc { a with foreigns := numbers }.erase l =
        { a.erase l with foreigns := l.mask .links [] numbers } := rfl
    _ = { a'.erase l with foreigns := l.mask .links [] numbers' } := by
        rw [ha, Layer.mask_congr hnumbers]
    _ = { a' with foreigns := numbers' }.erase l := rfl

end Accessor

theorem Config.SameBut.ofKey {c c' : Config} (h : c.SameBut l c') {e e' : Entity}
    (he : e.erase l = e'.erase l) (k : Key) :
    (Accessor.ofKey c e k).map (Accessor.erase l) =
      (Accessor.ofKey c' e' k).map (Accessor.erase l) := by
  have hasyncs : l.mask .asyncs ⟨false, false, false⟩
        ((c.overrides.async? k.name).getD c.asyncDefaults) =
      l.mask .asyncs ⟨false, false, false⟩
        ((c'.overrides.async? k.name).getD c'.asyncDefaults) :=
    Layer.mask_congr fun hne => h.asyncs hne k.name
  rw [Accessor.map_erase_ofKey, Accessor.map_erase_ofKey, he, hasyncs]

namespace Model

theorem entity?_erase (l : Layer) (m : Model) (table : String) :
    (m.erase l).entity? table = (m.entity? table).map (Entity.erase l) := List.find?_map ..

theorem accessor?_erase (l : Layer) (m : Model) (number : Nat) :
    (m.erase l).accessor? number = (m.accessor? number).map (Accessor.erase l) :=
  List.getElem?_map ..

theorem erase_push (l : Layer) (m : Model) (a : Accessor) :
    (m.push a).erase l = (m.erase l).push (a.erase l) := by
  unfold push erase
  rw [List.map_append]
  rfl

/-- Keys find each other by what no layer sets. -/
theorem referring?_erase (hne : l ≠ .links) (m : Model) (e : Entity) (columns : List String) :
    (m.erase l).referring? (e.erase l) columns = m.referring? e columns := by
  have hforeigns : (e.erase l).foreigns = e.foreigns := Layer.mask_of_ne hne
  unfold referring?
  rw [hforeigns]
  refine congrArg (List.find? · e.foreigns) (funext fun number => ?_)
  rw [accessor?_erase, Option.any_map]
  refine congrFun (congrArg Option.any (funext fun a => ?_)) _
  exact a.references_erase l columns

theorem erase_link (hne : l ≠ .links) (m : Model) (table : String) (numbers : List Nat) :
    (m.link table numbers).erase l = (m.erase l).link table numbers := by
  have hentities (es : List Entity) : (linkFirst table numbers es).map (Entity.erase l) =
      linkFirst table numbers (es.map (Entity.erase l)) := by
    induction es with
    | nil => rfl
    | cons e es ih =>
      have htable : (e.erase l).table = e.table := rfl
      rw [List.map_cons]
      unfold linkFirst
      rw [htable]
      split
      · unfold Entity.erase
        simp only [List.map_cons, Layer.mask_of_ne hne]
      · rw [List.map_cons, ih]
  unfold link erase
  rw [hentities]

theorem erase_link_links (m : Model) (table : String) (numbers : List Nat) :
    (m.link table numbers).erase .links = m.erase .links := by
  have hentities (es : List Entity) : (linkFirst table numbers es).map (Entity.erase .links) =
      es.map (Entity.erase .links) := by
    induction es with
    | nil => rfl
    | cons e es ih =>
      unfold linkFirst
      split
      · rfl
      · rw [List.map_cons, ih, List.map_cons]
  unfold link erase
  rw [hentities]

/-- Two resolutions differ in what a layer sets at most. -/
structure AlikeBut (l : Layer) (r r' : Resolution) : Prop where
  model : r.1.erase l = r'.1.erase l
  warnings : r.2 = r'.2

namespace AlikeBut

variable {c c' : Config} {r r' r'' : Resolution}

theorem symm (h : AlikeBut l r r') : AlikeBut l r' r := ⟨h.model.symm, h.warnings.symm⟩

theorem trans (h : AlikeBut l r r') (h' : AlikeBut l r' r'') : AlikeBut l r r'' :=
  ⟨h.model.trans h'.model, h.warnings.trans h'.warnings⟩

theorem entity? (h : AlikeBut l r r') (table : String) :
    (r.1.entity? table).map (Entity.erase l) = (r'.1.entity? table).map (Entity.erase l) := by
  rw [← entity?_erase, ← entity?_erase, h.model]

theorem length (h : AlikeBut l r r') : r.1.accessors.length = r'.1.accessors.length := by
  have hlength := congrArg (fun m => m.accessors.length) h.model
  simpa [Model.erase] using hlength

theorem push (h : AlikeBut l r r') {a a' : Accessor} (ha : a.erase l = a'.erase l) :
    AlikeBut l (r.1.push a, r.2) (r'.1.push a', r'.2) :=
  ⟨by rw [erase_push, erase_push, h.model, ha], h.warnings⟩

theorem linkForeign (h : AlikeBut l r r') (k : Key) (number : Nat) :
    AlikeBut l (linkForeign k number r) (linkForeign k number r') := by
  unfold Model.linkForeign
  cases k.foreignTable with
  | none => exact h
  | some table =>
    dsimp only
    rcases Option.cases_of_map_eq (h.entity? table) with ⟨he, he'⟩ | ⟨e, e', he, he', hsame⟩
    · rw [he, he']
      exact ⟨h.model, by rw [h.warnings]⟩
    · rw [he, he']
      dsimp only
      by_cases hl : l = .links
      · subst hl
        have hkeeps (b : Bool) (r : Resolution) :
            AlikeBut .links (if b then (r.1.link table [number], r.2) else r) r := by
          cases b with
          | false => exact ⟨rfl, rfl⟩
          | true => exact ⟨erase_link_links .., rfl⟩
        exact (hkeeps _ r).trans (h.trans (hkeeps _ r').symm)
      · have hincludes := congrArg Entity.includeForeignKey hsame
        simp only [Entity.erase, Layer.mask_of_ne hl] at hincludes
        rw [hincludes]
        split
        · exact ⟨by rw [erase_link hl, erase_link hl, h.model], h.warnings⟩
        · exact h

theorem addAccessor (h : AlikeBut l r r') (k : Key) {e e' : Entity} {a a' : Accessor}
    (he : e.erase l = e'.erase l) (ha : a.erase l = a'.erase l) :
    AlikeBut l (addAccessor k e a r) (addAccessor k e' a' r') := by
  unfold Model.addAccessor
  cases k.kind with
  | foreignKey =>
    dsimp only
    rw [h.length]
    exact (h.push ha).linkForeign k _
  | primaryKey =>
    refine h.push (Accessor.erase_withForeigns ha fun hne => ?_)
    rw [← referring?_erase hne, ← referring?_erase hne r'.1, h.model, he]
  | index => exact h.push ha

theorem addKey (h : AlikeBut l r r') (hc : c.SameBut l c') (k : Key) :
    AlikeBut l (addKey c r k) (addKey c' r' k) := by
  unfold Model.addKey
  rcases Option.cases_of_map_eq (h.entity? k.table) with ⟨he, he'⟩ | ⟨e, e', he, he', hsame⟩
  · rw [he, he']
    exact h
  · rw [he, he']
    dsimp only
    rcases Except.cases_of_map_eq (hc.ofKey hsame k) with ⟨column, ha, ha'⟩ | ⟨a, a', ha, ha', hkey⟩
    · rw [ha, ha']
      exact ⟨h.model, by rw [h.warnings]⟩
    · rw [ha, ha']
      exact h.addAccessor k hsame hkey

theorem foldl (h : AlikeBut l r r') (hc : c.SameBut l c') (keys : List Key) :
    AlikeBut l (keys.foldl (Model.addKey c) r) (keys.foldl (Model.addKey c') r') := by
  induction keys generalizing r r' with
  | nil => exact h
  | cons k keys ih => exact ih (h.addKey hc k)

theorem addKeys (hc : c.SameBut l c') {es es' : List Entity}
    (hes : es.map (Entity.erase l) = es'.map (Entity.erase l)) (keys : List Key) :
    AlikeBut l (addKeys c keys ⟨es, [], []⟩) (addKeys c' keys ⟨es', [], []⟩) := by
  have hstart : AlikeBut l (⟨es, [], []⟩, []) (⟨es', [], []⟩, []) :=
    ⟨by rw [Model.erase, Model.erase, hes], rfl⟩
  unfold Model.addKeys
  rw [← hc.keeps]
  exact hstart.foldl hc _

end AlikeBut

/-- What only files show is no part of a model. -/
theorem erase_output (m : Model) : m.erase .output = m := by
  have hproperties : Property.erase .output = id := rfl
  have hentities : Entity.erase .output = id := by
    funext e
    unfold Entity.erase
    rw [hproperties, List.map_id]
    rfl
  have haccessors : Accessor.erase .output = id := by
    funext a
    unfold Accessor.erase
    rw [hproperties, List.map_id, List.map_id, List.map_id]
    rfl
  unfold erase
  rw [hentities, haccessors, List.map_id, List.map_id]

/-- Layers do not interfere. Two configurations that differ in one layer give models that differ
in the fields of this layer only, and the same warnings. What only files show makes no difference
at all. -/
theorem layers_do_not_interfere (l : Layer) (c c' : Config) (t : Schema.Tree)
    (h : c.SameBut l c') :
    (ofSchema c t).1.erase l = (ofSchema c' t).1.erase l ∧
      (ofSchema c t).2 = (ofSchema c' t).2 ∧
      (l = .output → ofSchema c t = ofSchema c' t) := by
  obtain ⟨hentities, hentityWarnings⟩ := h.entitiesOf t.tables
  obtain ⟨hkeys, hkeyWarnings⟩ := AlikeBut.addKeys h hentities t.keys
  have herase (c : Config) : (ofSchema c t).1.erase l =
      { (addKeys c t.keys ⟨(entitiesOf c t.tables).1, [], []⟩).1.erase l with
        routines := t.routines } := by
    rw [ofSchema_fst]
    rfl
  have hmodel : (ofSchema c t).1.erase l = (ofSchema c' t).1.erase l := by
    rw [herase, herase, hkeys]
  have hwarnings : (ofSchema c t).2 = (ofSchema c' t).2 := by
    rw [ofSchema_snd, ofSchema_snd, hentityWarnings, hkeyWarnings]
  refine ⟨hmodel, hwarnings, fun hl => ?_⟩
  subst hl
  rw [erase_output, erase_output] at hmodel
  exact Prod.ext hmodel hwarnings

end Model

/-! One entity that is not to refer to foreign keys. -/

/-- A configuration that excludes foreign keys from the entity of one table. -/
def Config.excluding (table : String) : Config :=
  { Config.initial with overrides := { Config.initial.overrides with
      entities := [(table, ⟨table, none, none, none, some false⟩)] } }

theorem Config.sameBut_excluding (table : String) :
    Config.initial.SameBut .links (.excluding table) := by
  have hnone (t : String) : Config.initial.overrides.entity? t = none := rfl
  have hsome (t : String) : (Config.excluding table).overrides.entity? t =
      if t = table then some ⟨table, none, none, none, some false⟩ else none := by
    unfold excluding Overrides.entity?
    rw [List.lookup_cons]
    by_cases ht : t = table
    · simp [ht]
    · simp [ht, beq_false_of_ne ht]
  refine ⟨rfl, rfl, rfl, fun _ => rfl, fun _ _ => rfl, fun _ t => ?_, fun hl => absurd rfl hl⟩
  rw [hnone, hsome]
  split <;> exact ⟨rfl, rfl, rfl⟩

/-- A model without links. -/
def Model.unlinked (m : Model) : Model :=
  { m with
    entities := m.entities.map Entity.unlinked
    accessors := m.accessors.map Accessor.unlinked }

/-- The links of the primary key go with those of its entity, and nothing else does. -/
theorem Model.layers_do_not_interfere_addresses :
    Config.initial.SameBut .links (.excluding "[dbo].[Address]") ∧
    (ofSchema Config.initial .addresses).1.accessors.map (·.foreigns) = [[], [], [1]] ∧
    (ofSchema (.excluding "[dbo].[Address]") .addresses).1.accessors.map (·.foreigns) =
      [[], [], []] ∧
    (ofSchema Config.initial .addresses).1.erase .links =
      (ofSchema (.excluding "[dbo].[Address]") .addresses).1.erase .links := by
  have hsame := Config.sameBut_excluding "[dbo].[Address]"
  refine ⟨hsame, ?_, ?_, (layers_do_not_interfere .links _ _ .addresses hsame).1⟩
  · rw [ofSchema_addresses]
    decide
  · rw [ofSchema_fst, Schema.Tree.tables_addresses, Schema.Tree.keys_addresses,
      Schema.Tree.routines_addresses]
    decide +kernel

/-- An entity tells whether it is to refer to foreign keys, also where there are none. -/
theorem Model.exclusion_shown_by_entity :
    let t := Schema.Tree.ofXml (.schema [.table "[dbo].[T]" []])
    Config.ofText ("[[entity_overrides]]\ntable_name = \"[dbo].[T]\"\n" ++
      "include_foreign_key = false\n") = .ok (.excluding "[dbo].[T]") ∧
    Config.initial.SameBut .links (.excluding "[dbo].[T]") ∧
    (ofSchema Config.initial t).1.unlinked ≠ (ofSchema (.excluding "[dbo].[T]") t).1.unlinked := by
  refine ⟨by decide +kernel, Config.sameBut_excluding _, ?_⟩
  decide +kernel

end DataLayer
