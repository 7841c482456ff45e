import DataLayer.Model.Entities
import DataLayer.Proofs.Schema.Subtrees

/-!
The entities that tables give. What becomes of a column is settled by the column itself and the
configuration, although the tables are gone through one after the other and pass on which overrides
are in use; only the properties that overrides add depend on that.
-/

namespace DataLayer

open Schema (Column Element Table)

namespace Overrides

/-- What overrides say about a column: those of its own name, else the first that are declared for
its last part alone. -/
def column? (o : Overrides) (name : String) : Option ColumnOverride :=
  match o.columns.lookup name with
  | some found => some found
  | none =>
    (o.columns.find? fun entry =>
      (SqlName.parts entry.1).length == 1 && SqlName.short entry.1 == SqlName.short name).map (·.2)

end Overrides

namespace Model

variable {c : Config}

/-- Every table gives an entity with the properties of its columns and, behind them, those that some
overrides add, whatever overrides are in use before. -/
theorem forall₂_entitiesFrom (c : Config) (used : List String) (tables : List Table) :
    List.Forall₂ (fun table e => ∃ added : List KeyedOverride,
        added.Sublist c.overrides.columns ∧
          e = entityOf c table.name (table.columns.filterMap (columnProperty? c) ++
            added.filterMap (additionProperty? c)))
      tables (entitiesFrom c used tables).1 := by
  induction tables generalizing used with
  | nil => exact .nil
  | cons table rest ih =>
    have hadded : (additions c table (used ++ appliedKeys c table)).Sublist c.overrides.columns :=
      List.filter_sublist
    exact .cons ⟨_, hadded, rfl⟩ (ih _)

/-! Properties of columns. -/

theorem columnOverride?_eq (overrides : Overrides) (name : String) :
    (columnOverride? overrides.columns name).map (·.2) = overrides.column? name := by
  have hlookup : overrides.columns.lookup name =
      (overrides.columns.find? (·.1 == name)).map (·.2) := by
    induction overrides.columns with
    | nil => rfl
    | cons entry rest ih =>
      obtain ⟨key, o⟩ := entry
      by_cases h : name = key
      · simp [h]
      · simp [List.lookup_cons, beq_false_of_ne h, Ne.symm h, ih]
  unfold columnOverride? Overrides.column?
  rw [hlookup]
  cases overrides.columns.find? (·.1 == name) <;> rfl

/-- The property that a column element gives. An override replaces what it sets, then versions of
rows and ignored columns drop out, and the type is the enumeration of the column if it has one. -/
def propertyOf? (c : Config) (column : Element) : Option Property :=
  column.objectName?.bind fun name =>
    let o := c.overrides.column? name
    let sqlType := (o.bind (·.sqlType)).getD ((column.typeReference? "TypeSpecifier").getD "")
    let nullable := (o.bind (·.nullable)).getD ((column.flag? "IsNullable").getD true)
    if SqlType.isRowVersion sqlType || c.overrides.isIgnored name then none
    else some {
      name := name
      sqlType := sqlType
      type := match c.overrides.enums.lookup (Text.trim name) with
        | some enumType => ⟨.enumeration, enumType ++ if nullable then "?" else ""⟩
        | none => SqlType.map sqlType nullable
      nullable := nullable
      identity := (column.flag? "IsIdentity").getD false
      foreignName := none
      annotations := (o.bind (·.annotations)).getD [] }

/-- A declared column with what an override says about it. -/
theorem overridden_eq (c : Config) (column : Column) :
    overridden c column =
      let o := c.overrides.column? column.name
      ⟨column.name, (o.bind (·.sqlType)).getD column.sqlType, .unmapped,
        (o.bind (·.nullable)).getD column.nullable, column.identity, none,
        (o.bind (·.annotations)).getD []⟩ := by
  unfold overridden
  rw [← columnOverride?_eq]
  cases columnOverride? c.overrides.columns column.name <;> rfl

theorem overridden_name (c : Config) (column : Column) :
    (overridden c column).name = column.name := by
  rw [overridden_eq]

/-- A column gives a property unless it is a version of rows, as overridden, or ignored. -/
theorem columnProperty?_eq_some {column : Column} {p : Property} :
    columnProperty? c column = some p ↔
      SqlType.isRowVersion (overridden c column).sqlType = false ∧
        c.overrides.isIgnored column.name = false ∧ p = typed c (overridden c column) := by
  unfold columnProperty?
  dsimp only
  rw [overridden_name]
  cases SqlType.isRowVersion (overridden c column).sqlType <;>
    cases c.overrides.isIgnored column.name <;> simp [eq_comm]

/-- The property that an override declares. -/
def addition (c : Config) (o : KeyedOverride) : Property :=
  typed c (override o.2 (undeclared o.1))

@[simp] theorem addition_name (c : Config) (o : KeyedOverride) : (addition c o).name = o.1 := rfl

@[simp] theorem addition_sqlType (c : Config) (o : KeyedOverride) :
    (addition c o).sqlType = o.2.sqlType.getD "" := rfl

/-- An override gives a property unless it is ignored, whatever type it sets. -/
theorem additionProperty?_eq_some {o : KeyedOverride} {p : Property} :
    additionProperty? c o = some p ↔ c.overrides.isIgnored o.1 = false ∧ p = addition c o := by
  unfold additionProperty? addition
  cases c.overrides.isIgnored o.1 <;> simp [eq_comm]

theorem columnProperty?_ofElement? (c : Config) (column : Element) :
    (Column.ofElement? column).bind (columnProperty? c) = propertyOf? c column := by
  unfold Column.ofElement? propertyOf?
  cases column.objectName? with
  | none => rfl
  | some name =>
    rw [Option.map_some, Option.bind_some, Option.bind_some]
    unfold columnProperty?
    rw [overridden_eq]
    rfl

/-- Alike column elements give the same property. -/
theorem propertyOf?_congr {column column' : Element} (h : column.Alike column') :
    propertyOf? c column = propertyOf? c column' := by
  unfold propertyOf?
  rw [h.objectName?, h.typeReference? "TypeSpecifier", h.flag? "IsNullable", h.flag? "IsIdentity"]

/-! Tables as elements. -/

/-- What relates the values of a partial function to others relates the arguments that have one. -/
theorem forall₂_filter_isSome {α β γ : Type} {f : α → Option β} {R : β → γ → Prop} {xs : List α}
    {zs : List γ} (h : List.Forall₂ R (xs.filterMap f) zs) :
    List.Forall₂ (fun x z => ∃ y, f x = some y ∧ R y z) (xs.filter fun x => (f x).isSome) zs := by
  induction xs generalizing zs with
  | nil =>
    cases h
    exact .nil
  | cons x xs ih =>
    rw [List.filterMap_cons] at h
    rw [List.filter_cons]
    cases hx : f x with
    | none =>
      rw [hx] at h
      simpa using ih h
    | some y =>
      rw [hx] at h
      cases h with
      | cons hfirst hrest => exact .cons ⟨y, hx, hfirst⟩ (ih hrest)

/-- The tables that are not ignored. -/
def keptTables (c : Config) (t : Schema.Tree) : List Table :=
  t.tables.filter fun table => !c.overrides.isIgnored table.name

/-- The elements of these tables. -/
def keptElements (c : Config) (t : Schema.Tree) : List Element :=
  (t.objects .table).filter fun x => x.objectName?.any (!c.overrides.isIgnored ·)

theorem forall₂_keptElements {t : Schema.Tree} {R : Table → Entity → Prop} {es : List Entity}
    (h : List.Forall₂ R (keptTables c t) es) :
    List.Forall₂ (fun x e => ∃ name, x.objectName? = some name ∧
        R ⟨name, (x.related "Columns" .simpleColumn).filterMap Column.ofElement?⟩ e)
      (keptElements c t) es := by
  unfold keptTables Schema.Tree.tables at h
  rw [List.filter_filterMap] at h
  have helements := forall₂_filter_isSome h
  have hkept (x : Element) : ((Table.ofElement? x).filter fun table =>
      !c.overrides.isIgnored table.name).isSome =
        x.objectName?.any (!c.overrides.isIgnored ·) := by
    unfold Table.ofElement?
    cases x.objectName? with
    | none => rfl
    | some name => cases hname : c.overrides.isIgnored name <;> simp [hname]
  simp only [hkept] at helements
  refine helements.imp fun x e hx => ?_
  obtain ⟨table, htable, hR⟩ := hx
  obtain ⟨htable, -⟩ := Option.filter_eq_some_iff.mp htable
  obtain ⟨name, hname, rfl⟩ := Option.map_eq_some_iff.mp htable
  exact ⟨name, hname, hR⟩

/-- Every table element that has a name and is not ignored gives an entity. Its properties are
those of its columns in order, each found from the column element and the configuration alone, and
behind them those that overrides add. What stands elsewhere in the document, other tables and other
columns among it, has no part in the property of a column. -/
theorem columns_resolve_alone (c : Config) (t : Schema.Tree) :
    List.Forall₂ (fun x e => x.objectName? = some e.table ∧
        ∃ added : List KeyedOverride, added.Sublist c.overrides.columns ∧
          e.properties = (x.related "Columns" .simpleColumn).filterMap (propertyOf? c) ++
            added.filterMap (additionProperty? c))
      (keptElements c t) (entitiesOf c t.tables).1 ∧
    ∀ column column' : Element, column.Alike column' →
      propertyOf? c column = propertyOf? c column' := by
  refine ⟨?_, fun column column' h => propertyOf?_congr h⟩
  have hentities := forall₂_entitiesFrom c [] (keptTables c t)
  refine (forall₂_keptElements hentities).imp fun x e hx => ?_
  obtain ⟨name, hname, added, hadded, rfl⟩ := hx
  refine ⟨hname, added, hadded, ?_⟩
  rw [entityOf, List.filterMap_filterMap]
  simp only [columnProperty?_ofElement?]

end Model

end DataLayer
