import DataLayer.Proofs.Model.Additions
import DataLayer.Proofs.Text.QualifiedNames
import Mathlib.Algebra.BigOperators.Group.List.Basic
import Mathlib.Data.List.Count
import Mathlib.Data.Option.Basic

/-!
What becomes of the overrides of columns. Where the names of a schema are quoted, and the columns
have the names of their tables in front, every override has one use: it applies to columns, or it
adds a property to one entity, or a warning says that it matches nothing.
-/

namespace DataLayer

/-! Names in brackets. -/

namespace SqlName

/-- Names that are written as parts in brackets, with dots between them. -/
inductive IsQuoted : String → Prop where
  | single (part : String) : IsQuoted ("[" ++ part ++ "]")
  | qualified {name : String} (h : IsQuoted name) (part : String) :
      IsQuoted (name ++ ".[" ++ part ++ "]")

variable {name key : String}

theorem IsQuoted.getLast? (h : IsQuoted name) : name.toList.getLast? = some ']' := by
  have hlast (front : String) : (front ++ "]").toList.getLast? = some ']' := by
    rw [String.toList_append]
    exact List.getLast?_concat
  cases h with
  | single part => exact hlast _
  | qualified h part => exact hlast _

/-- A name that continues a quoted name behind a dot has more than one part. -/
theorem two_le_length_parts (h : IsQuoted name) (hkey : key.startsWith (name ++ ".") = true) :
    2 ≤ (parts key).length := by
  rw [String.startsWith_string_iff, String.toList_append] at hkey
  obtain ⟨rest, hrest⟩ := hkey
  have hsplit : key.toList = name.toList ++ '.' :: rest := by
    rw [← hrest]
    simp
  have hcut : (!name.toList.foldl inBrackets false && '.' == '.') = true := by
    rw [foldl_inBrackets h.getLast?]
    rfl
  have hparts {cs : List Char} {inside : Bool} :=
    List.length_pos_iff.mpr (Text.splitScan_ne_nil (fun inside c => !inside && c == '.')
      inBrackets inside cs)
  rw [parts, List.length_map, rawParts, hsplit, Text.splitScan_append_cons hcut,
    List.length_append]
  exact Nat.add_le_add hparts hparts

end SqlName

namespace Model

open Schema (Column Table)

variable {c : Config} {t : Schema.Tree} {tables : List Table} {s table : Table} {key : String}

/-- The names of tables are different and quoted, and none continues another one behind a dot. The
name of a column is that of its table with one more part. -/
structure WellNamed (tables : List Table) : Prop where
  nodup : (tables.map (·.name)).Nodup
  quoted : ∀ table ∈ tables, SqlName.IsQuoted table.name
  apart : ∀ s ∈ tables, ∀ t ∈ tables, s.name ≠ t.name →
    (t.name ++ ".").startsWith (s.name ++ ".") = false
  columns : ∀ table ∈ tables, ∀ column ∈ table.columns,
    ∃ part, column.name = table.name ++ ".[" ++ part ++ "]"

namespace WellNamed

/-- A key names a column of one table at most. -/
theorem eq_of_startsWith (h : WellNamed tables) (hs : s ∈ tables) (htable : table ∈ tables)
    (hkeys : key.startsWith (s.name ++ ".") = true)
    (hkey : key.startsWith (table.name ++ ".") = true) : s = table := by
  apply List.inj_on_of_nodup_map h.nodup hs htable
  by_contra hne
  have hapart := h.apart s hs table htable hne
  have hapart' := h.apart table htable s hs (Ne.symm hne)
  rw [← Bool.not_eq_true, String.startsWith_string_iff] at hapart hapart'
  rw [String.startsWith_string_iff] at hkeys hkey
  rcases List.prefix_or_prefix_of_prefix hkeys hkey with hstart | hstart
  · exact hapart hstart
  · exact hapart' hstart

theorem startsWith_column (h : WellNamed tables) (htable : table ∈ tables) {column : Column}
    (hcolumn : column ∈ table.columns) : column.name.startsWith (table.name ++ ".") = true := by
  obtain ⟨part, hname⟩ := h.columns table htable column hcolumn
  rw [hname, String.startsWith_string_iff]
  refine ⟨'[' :: part.toList ++ [']'], ?_⟩
  simp

end WellNamed

/-! Overrides that apply to columns. -/

/-- An override applies to a column of its own name, or it has a single part. -/
theorem of_mem_appliedKeys (h : key ∈ appliedKeys c table) :
    (∃ column ∈ table.columns, column.name = key) ∨ (SqlName.parts key).length = 1 := by
  obtain ⟨column, hcolumn, hkey⟩ := List.mem_filterMap.mp h
  obtain ⟨o, ho, rfl⟩ := Option.map_eq_some_iff.mp hkey
  rcases (Option.orElse_eq_some _ _ _).mp ho with hexact | ⟨-, hbare⟩
  · have hname := List.find?_some hexact
    exact Or.inl ⟨column, hcolumn, (by simpa using hname : o.1 = column.name).symm⟩
  · have hparts := List.find?_some hbare
    simp only [Bool.and_eq_true, beq_iff_eq] at hparts
    exact Or.inr hparts.1

/-- A column whose name is declared has the override of that name. -/
theorem mem_appliedKeys {column : Column} (hcolumn : column ∈ table.columns)
    (hdeclared : column.name ∈ c.overrides.columns.map (·.1)) :
    column.name ∈ appliedKeys c table := by
  refine List.mem_filterMap.mpr ⟨column, hcolumn, ?_⟩
  cases hexact : c.overrides.columns.find? (·.1 == column.name) with
  | none =>
    obtain ⟨o, ho, hname⟩ := List.mem_map.mp hdeclared
    have hno := List.find?_eq_none.mp hexact o ho
    simp [hname] at hno
  | some o =>
    have hname := List.find?_some hexact
    rw [columnOverride?, hexact]
    simpa using hname

/-- An override whose key names a column of a table applies to columns of this table only. -/
theorem WellNamed.eq_of_mem_appliedKeys (h : WellNamed tables) (hs : s ∈ tables)
    (htable : table ∈ tables) (hkeys : key.startsWith (s.name ++ ".") = true)
    (hkey : key ∈ appliedKeys c table) : s = table := by
  rcases of_mem_appliedKeys hkey with ⟨column, hcolumn, rfl⟩ | hsingle
  · exact h.eq_of_startsWith hs htable hkeys (h.startsWith_column htable hcolumn)
  · have htwo := SqlName.two_le_length_parts (h.quoted s hs) hkeys
    omega

theorem WellNamed.any_appliedKeys (h : WellNamed tables) (htable : table ∈ tables)
    (hkey : key.startsWith (table.name ++ ".") = true) :
    (tables.any fun s => (appliedKeys c s).contains key) = (appliedKeys c table).contains key := by
  rw [Bool.eq_iff_iff, List.any_eq_true]
  constructor
  · rintro ⟨s, hs, hmem⟩
    obtain rfl := h.eq_of_mem_appliedKeys htable hs hkey (List.contains_iff_mem.mp hmem)
    exact hmem
  · intro hmem
    exact ⟨table, htable, hmem⟩

/-- Other tables leave such an override alone. -/
theorem WellNamed.usesUp_eq_false (h : WellNamed tables) (htable : table ∈ tables)
    (hs : s ∈ tables) (hkey : key.startsWith (table.name ++ ".") = true) (hne : table ≠ s) :
    usesUp c key s = false := by
  rw [← Bool.not_eq_true]
  intro huse
  rcases usesUp_iff.mp huse with happlied | hstart
  · exact hne (h.eq_of_mem_appliedKeys htable hs hkey happlied)
  · exact hne (h.eq_of_startsWith htable hs hkey hstart)

/-! What overrides add. -/

theorem mem_tables_of_mem_keptTables (h : table ∈ keptTables c t) : table ∈ t.tables :=
  List.mem_of_mem_filter h

theorem WellNamed.nodup_keptTables (h : WellNamed t.tables) (c : Config) :
    (keptTables c t).Nodup :=
  (h.nodup.of_map _).filter _

/-- The overrides that name a column of a table and apply to no column of the schema. -/
def ownAdditions (c : Config) (t : Schema.Tree) (table : Table) : List KeyedOverride :=
  c.overrides.columns.filter fun o =>
    o.1.startsWith (table.name ++ ".") && !t.tables.any fun s => (appliedKeys c s).contains o.1

/-- The properties of the entity of a table: those of its columns in order, and behind them those of
these overrides in the order of their declaration. -/
def ownProperties (c : Config) (t : Schema.Tree) (table : Table) : List Property :=
  table.columns.filterMap (columnProperty? c) ++
    (ownAdditions c t table).filterMap (additionProperty? c)

/-- Well-formed names keep the tables from taking overrides from each other. -/
theorem WellNamed.addedTo_eq (h : WellNamed t.tables) {before after : List Table}
    (hsplit : keptTables c t = before ++ table :: after) :
    addedTo c before table = ownAdditions c t table := by
  have hkept : ∀ s ∈ before ++ table :: after, s ∈ t.tables := by
    intro s hs
    rw [← hsplit] at hs
    exact mem_tables_of_mem_keptTables hs
  have htable : table ∈ t.tables := hkept table (by simp)
  have hfirst : table ∉ before := by
    have hnodup := h.nodup_keptTables c
    rw [hsplit] at hnodup
    intro hmem
    exact (List.nodup_append.mp hnodup).2.2 table hmem table (List.mem_cons_self ..) rfl
  refine List.filter_congr fun o _ => ?_
  cases hkey : o.1.startsWith (table.name ++ ".") with
  | false => rfl
  | true =>
    have hbefore : before.any (usesUp c o.1) = false := by
      rw [List.any_eq_false]
      intro s hs
      have hne : table ≠ s := fun hsame => hfirst (hsame ▸ hs)
      rw [h.usesUp_eq_false htable (hkept s (List.mem_append_left _ hs)) hkey hne]
      exact Bool.false_ne_true
    rw [hbefore, h.any_appliedKeys htable hkey]
    simp

/-- The entity of a table does not depend on what stands before the table. -/
theorem WellNamed.entitiesOf_fst (h : WellNamed t.tables) (c : Config) :
    (entitiesOf c t.tables).1 = (keptTables c t).map fun table =>
      entityOf c table.name (ownProperties c t table) := by
  rw [Model.entitiesOf_fst, List.mapIdx_eq_iff]
  intro i
  rw [List.getElem?_map]
  cases hi : (keptTables c t)[i]? with
  | none => rfl
  | some table =>
    obtain ⟨hlt, hget⟩ := List.getElem?_eq_some_iff.mp hi
    have hsplit : keptTables c t =
        (keptTables c t).take i ++ table :: (keptTables c t).drop (i + 1) := by
      rw [← hget]
      simp
    rw [Option.map_some, Option.map_some, propertiesOf, h.addedTo_eq hsplit,
      ownProperties]

theorem map_name_additions (os : List KeyedOverride) :
    (os.filterMap (additionProperty? c)).map (·.name) =
      (os.map (·.1)).filter (!c.overrides.isIgnored ·) := by
  induction os with
  | nil => rfl
  | cons o os ih =>
    rw [List.map_cons, List.filter_cons, List.filterMap_cons, additionProperty?]
    cases c.overrides.isIgnored o.1 with
    | true => simpa using ih
    | false => simpa [typed, override, undeclared] using ih

/-- The name of a property of a column is no key unless the override applies to the column. -/
theorem count_columnProperties (hdeclared : key ∈ c.overrides.columns.map (·.1))
    (hown : key ∉ appliedKeys c table) :
    ((table.columns.filterMap (columnProperty? c)).map (·.name)).count key = 0 := by
  rw [List.count_eq_zero]
  intro hmem
  obtain ⟨p, hp, hname⟩ := List.mem_map.mp hmem
  obtain ⟨column, hcolumn, hproperty⟩ := List.mem_filterMap.mp hp
  obtain ⟨-, -, rfl⟩ := columnProperty?_eq_some.mp hproperty
  have hcolumnName : column.name = key := (overridden_name c column).symm.trans hname
  rw [← hcolumnName] at hdeclared hown
  exact hown (mem_appliedKeys hcolumn hdeclared)

theorem mem_map_ownAdditions (hdeclared : key ∈ c.overrides.columns.map (·.1))
    (hfree : ∀ s ∈ t.tables, key ∉ appliedKeys c s) :
    key ∈ (ownAdditions c t table).map (·.1) ↔ key.startsWith (table.name ++ ".") = true := by
  rw [List.mem_map]
  constructor
  · rintro ⟨o, ho, rfl⟩
    exact (Bool.and_eq_true_iff.mp (List.mem_filter.mp ho).2).1
  · intro hstart
    obtain ⟨o, ho, rfl⟩ := List.mem_map.mp hdeclared
    refine ⟨o, List.mem_filter.mpr ⟨ho, ?_⟩, rfl⟩
    simpa [hstart] using hfree

/-- The key of an override that applies to no column is the name of a property only if the override
adds one. -/
theorem count_ownProperties (hkeys : (c.overrides.columns.map (·.1)).Nodup)
    (hdeclared : key ∈ c.overrides.columns.map (·.1))
    (hfree : ∀ s ∈ t.tables, key ∉ appliedKeys c s) (htable : table ∈ t.tables) :
    ((ownProperties c t table).map (·.name)).count key =
      if key.startsWith (table.name ++ ".") = true ∧ c.overrides.isIgnored key = false then 1
      else 0 := by
  have hadded : ((ownAdditions c t table).map (·.1)).Nodup :=
    hkeys.sublist (List.filter_sublist.map _)
  rw [ownProperties, List.map_append, List.count_append,
    count_columnProperties hdeclared (hfree table htable), map_name_additions,
    (hadded.filter _).count, Nat.zero_add]
  simp only [List.mem_filter, mem_map_ownAdditions hdeclared hfree, Bool.not_eq_true']

/-- An override adds a property to the entity of a table and to no other one, unless its key is
ignored. -/
structure AddsTo (c : Config) (t : Schema.Tree) (key : String) (table : Table) : Prop where
  mem_keptTables : table ∈ keptTables c t
  startsWith : key.startsWith (table.name ++ ".") = true
  only_table : ∀ other ∈ keptTables c t, key.startsWith (other.name ++ ".") = true → other = table
  not_applied : ∀ other ∈ t.tables, key ∉ appliedKeys c other
  count_entity : ∃ e ∈ (entitiesOf c t.tables).1, e.table = table.name ∧
    (e.properties.map (·.name)).count key = if c.overrides.isIgnored key then 0 else 1
  count_entities : (((entitiesOf c t.tables).1.flatMap (·.properties)).map (·.name)).count key =
    if c.overrides.isIgnored key then 0 else 1

theorem WellNamed.addsTo (h : WellNamed t.tables) (hkeys : (c.overrides.columns.map (·.1)).Nodup)
    (hdeclared : key ∈ c.overrides.columns.map (·.1)) (hkept : table ∈ keptTables c t)
    (hstart : key.startsWith (table.name ++ ".") = true) (hown : key ∉ appliedKeys c table) :
    AddsTo c t key table := by
  have htable := mem_tables_of_mem_keptTables hkept
  have honly : ∀ s ∈ keptTables c t, key.startsWith (s.name ++ ".") = true → s = table :=
    fun s hs hsame => h.eq_of_startsWith (mem_tables_of_mem_keptTables hs) htable hsame hstart
  have hfree : ∀ s ∈ t.tables, key ∉ appliedKeys c s := by
    intro s hs happlied
    obtain rfl := h.eq_of_mem_appliedKeys htable hs hstart happlied
    exact hown happlied
  have hcount : ∀ s ∈ keptTables c t, ((ownProperties c t s).map (·.name)).count key =
      if key.startsWith (s.name ++ ".") = true ∧ c.overrides.isIgnored key = false then 1 else 0 :=
    fun s hs => count_ownProperties hkeys hdeclared hfree (mem_tables_of_mem_keptTables hs)
  have honce : ((ownProperties c t table).map (·.name)).count key =
      if c.overrides.isIgnored key then 0 else 1 := by
    rw [hcount table hkept, hstart]
    cases c.overrides.isIgnored key <;> rfl
  have hothers : ∀ s, s ≠ table → s ∈ keptTables c t →
      ((ownProperties c t s).map (·.name)).count key = 0 := by
    intro s hne hs
    rw [hcount s hs, if_neg]
    exact fun hsame => hne (honly s hs hsame.1)
  refine ⟨hkept, hstart, honly, hfree, ?_, ?_⟩
  · rw [h.entitiesOf_fst c]
    exact ⟨_, List.mem_map_of_mem hkept, rfl, honce⟩
  · rw [h.entitiesOf_fst c, List.flatMap_map, List.map_flatMap, List.count_flatMap]
    have hsum := List.sum_map_eq_nsmul_single table
      (fun s => ((ownProperties c t s).map (·.name)).count key) hothers
    rw [List.count_eq_one_of_mem (h.nodup_keptTables c) hkept, one_nsmul, honce] at hsum
    exact hsum

/-! Overrides without use. -/

theorem message_unusedOverride_injective :
    Function.Injective fun key => (Warning.unusedOverride key).message := by
  intro key key' h
  have hmessage : "column override '" ++ key ++ "' matches no column" =
      "column override '" ++ key' ++ "' matches no column" := h
  rw [String.append_left_inj, String.append_right_inj] at hmessage
  exact hmessage

/-- An override is reported once if no table uses it up, and else not at all. -/
theorem count_warnings (hkeys : (c.overrides.columns.map (·.1)).Nodup)
    (hdeclared : key ∈ c.overrides.columns.map (·.1)) :
    ((entitiesOf c t.tables).2.map Warning.message).count (Warning.unusedOverride key).message =
      if (keptTables c t).any (usesUp c key) then 0 else 1 := by
  rw [entitiesOf_snd, List.map_map]
  refine (List.count_map_of_injective _ _ message_unusedOverride_injective key).trans ?_
  rw [(hkeys.filter _).count]
  cases huse : (keptTables c t).any (usesUp c key) <;> simp [hdeclared, huse]

/-- What an override may be used for. -/
inductive Use where
  | column | addition | nothing
  deriving DecidableEq, Repr

/-- An override of this key is used so: for a column of a table that is not ignored, for a property
of one entity, or for nothing, as one warning says. -/
def HasUse (c : Config) (t : Schema.Tree) (key : String) : Use → Prop
  | .column => ∃ table ∈ keptTables c t, key ∈ appliedKeys c table
  | .addition => ∃ table, AddsTo c t key table
  | .nothing => ((entitiesOf c t.tables).2.map Warning.message).count
      ("column override '" ++ key ++ "' matches no column") = 1

/-- A warning is given for what no table uses up. -/
theorem hasUse_nothing_iff (hkeys : (c.overrides.columns.map (·.1)).Nodup)
    (hdeclared : key ∈ c.overrides.columns.map (·.1)) :
    HasUse c t key .nothing ↔ (keptTables c t).any (usesUp c key) = false := by
  have hcount : HasUse c t key .nothing ↔
      (if (keptTables c t).any (usesUp c key) then 0 else 1) = 1 := by
    rw [← count_warnings hkeys hdeclared]
    rfl
  rw [hcount]
  cases (keptTables c t).any (usesUp c key) <;> simp

/-- What is added applies to no column. -/
theorem AddsTo.not_column (h : AddsTo c t key table) : ¬ HasUse c t key .column := by
  rintro ⟨other, hother, happlied⟩
  exact h.not_applied other (mem_tables_of_mem_keptTables hother) happlied

/-- The other uses are uses by a table. -/
theorem HasUse.any_usesUp {use : Use} (h : HasUse c t key use) (huse : use ≠ .nothing) :
    (keptTables c t).any (usesUp c key) = true := by
  cases use with
  | column =>
    obtain ⟨table, htable, happlied⟩ := h
    exact List.any_eq_true.mpr ⟨table, htable, usesUp_iff.mpr (Or.inl happlied)⟩
  | addition =>
    obtain ⟨table, hadds⟩ := h
    exact List.any_eq_true.mpr
      ⟨table, hadds.mem_keptTables, usesUp_iff.mpr (Or.inr hadds.startsWith)⟩
  | nothing => contradiction

/-- Every override has one use; their keys are different, as in all configurations that are read.
Entities have the properties of their columns first, then those that overrides add, and warnings
come in the order of the overrides. -/
theorem overrides_have_one_use (c : Config) (t : Schema.Tree)
    (hkeys : (c.overrides.columns.map (·.1)).Nodup) (hnames : WellNamed t.tables) :
    (∀ key ∈ c.overrides.columns.map (·.1), ∃! use, HasUse c t key use) ∧
    (entitiesOf c t.tables).1 = (keptTables c t).map (fun table =>
      entityOf c table.name (table.columns.filterMap (columnProperty? c) ++
        (ownAdditions c t table).filterMap (additionProperty? c))) ∧
    ∃ keys : List String, keys.Sublist (c.overrides.columns.map (·.1)) ∧
      (entitiesOf c t.tables).2 = keys.map .unusedOverride := by
  refine ⟨fun key hdeclared => ?_, hnames.entitiesOf_fst c, _, List.filter_sublist,
    entitiesOf_snd c t⟩
  have hnothing := hasUse_nothing_iff (t := t) hkeys hdeclared
  cases hany : (keptTables c t).any (usesUp c key) with
  | false =>
    refine ⟨.nothing, hnothing.mpr hany, fun use huse => ?_⟩
    by_contra hother
    rw [huse.any_usesUp hother] at hany
    contradiction
  | true =>
    have hused : ¬ HasUse c t key .nothing := by
      rw [hnothing, hany]
      simp
    by_cases happlied : HasUse c t key .column
    · refine ⟨.column, happlied, fun use huse => ?_⟩
      cases use with
      | column => rfl
      | addition =>
        obtain ⟨other, hadds⟩ := huse
        exact absurd happlied hadds.not_column
      | nothing => exact absurd huse hused
    · obtain ⟨table, htable, huse⟩ := List.any_eq_true.mp hany
      have hown : key ∉ appliedKeys c table := fun hmem => happlied ⟨table, htable, hmem⟩
      have hstart : key.startsWith (table.name ++ ".") = true :=
        (usesUp_iff.mp huse).resolve_left hown
      have hadds := hnames.addsTo hkeys hdeclared htable hstart hown
      refine ⟨.addition, ⟨table, hadds⟩, fun use huse => ?_⟩
      cases use with
      | column => exact absurd huse happlied
      | addition => rfl
      | nothing => exact absurd huse hused

end Model

/-- A configuration with an override of each use. -/
def Config.withUses : Config :=
  { Config.initial with overrides := { Config.initial.overrides with
      columns := [
        ("Name", ⟨"Name", none, some false, none⟩),
        ("[dbo].[A].[Extra]", ⟨"[dbo].[A].[Extra]", some "int", none, none⟩),
        ("[dbo].[C].[Id]", ⟨"[dbo].[C].[Id]", some "int", none, none⟩)] } }

theorem Config.ofText_withUses : ofText
    "[[column_overrides]]\nname = \"Name\"\nnullable = false
[[column_overrides]]\nname = \"[dbo].[A].[Extra]\"\ntype = \"int\"
[[column_overrides]]\nname = \"[dbo].[C].[Id]\"\ntype = \"int\"\n" = .ok withUses := by
  decide +kernel

/-- Two tables that have a column of the same name. -/
def Schema.Tree.withNames : Schema.Tree := .ofXml (.schema [
  .table "[dbo].[A]" [.column "[dbo].[A].[Id]" "[int]", .column "[dbo].[A].[Name]" "[nvarchar]"],
  .table "[dbo].[B]" [.column "[dbo].[B].[Name]" "[nvarchar]"]])

theorem Schema.Tree.tables_withNames : withNames.tables = [
    ⟨"[dbo].[A]", [⟨"[dbo].[A].[Id]", "[int]", false, false⟩,
      ⟨"[dbo].[A].[Name]", "[nvarchar]", false, false⟩]⟩,
    ⟨"[dbo].[B]", [⟨"[dbo].[B].[Name]", "[nvarchar]", false, false⟩]⟩] := by
  decide +kernel

namespace Model

theorem wellNamed_withNames : WellNamed Schema.Tree.withNames.tables where
  nodup := by
    rw [Schema.Tree.tables_withNames]
    decide
  quoted := by
    rw [Schema.Tree.tables_withNames]
    simp only [List.forall_mem_cons, List.not_mem_nil, false_imp_iff, implies_true, and_true]
    exact ⟨.qualified (.single "dbo") "A", .qualified (.single "dbo") "B"⟩
  apart := by
    rw [Schema.Tree.tables_withNames]
    decide +kernel
  columns := by
    rw [Schema.Tree.tables_withNames]
    simp only [List.forall_mem_cons, List.not_mem_nil, false_imp_iff, implies_true, and_true]
    exact ⟨⟨⟨"Id", by decide⟩, "Name", by decide⟩, "Name", by decide⟩

/-- One override is for two columns, one for a property of its own, and one for nothing. -/
theorem overrides_have_one_use_each :
    (Config.withUses.overrides.columns.map (·.1)).Nodup ∧
    WellNamed Schema.Tree.withNames.tables ∧
    (∃! use, HasUse Config.withUses .withNames "Name" use) ∧
    (∃! use, HasUse Config.withUses .withNames "[dbo].[A].[Extra]" use) ∧
    (∃! use, HasUse Config.withUses .withNames "[dbo].[C].[Id]" use) ∧
    (entitiesOf Config.withUses Schema.Tree.withNames.tables).2 =
      [.unusedOverride "[dbo].[C].[Id]"] := by
  have hkeys := Config.nodup_columns_of_ofText Config.ofText_withUses
  have huses := (overrides_have_one_use Config.withUses .withNames hkeys wellNamed_withNames).1
  refine ⟨hkeys, wellNamed_withNames, huses _ ?_, huses _ ?_, huses _ ?_, ?_⟩
  · decide
  · decide
  · decide
  · rw [Schema.Tree.tables_withNames]
    decide +kernel

end Model

end DataLayer
