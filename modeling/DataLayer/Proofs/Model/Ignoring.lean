import DataLayer.Proofs.Model.Additions
import DataLayer.Proofs.Model.Switches

/-!
Ignoring one more table. If its overrides are of no use to other tables, its entities and their
accessors drop out and the rest stays as it is, but for links.
-/

namespace DataLayer

open Schema (Key Table)

/-- The configuration with one more ignored object. -/
def Config.ignoring (c : Config) (name : String) : Config :=
  { c with overrides := { c.overrides with ignored := c.overrides.ignored ++ [name] } }

theorem Config.isIgnored_ignoring (c : Config) {name : String} (h : name ≠ "") (x : String) :
    (c.ignoring name).overrides.isIgnored x = (c.overrides.isIgnored x || x == name) := by
  unfold Overrides.isIgnored ignoring
  by_cases hx : x = name
  · subst hx
    simp [h]
  · simp [hx]

theorem Config.keeps_ignoring (c : Config) {name : String} (h : name ≠ "") (k : Key) :
    (c.ignoring name).keeps k = (c.keeps k && k.table != name) := by
  unfold keeps
  rw [c.isIgnored_ignoring h, Bool.not_or, ← Bool.and_assoc]
  rfl

namespace Model

/-- A name that no column and no override has. Overrides that a table of this name uses up name no
column of another table. -/
structure StandsApart (c : Config) (t : Schema.Tree) (name : String) : Prop where
  nonempty : name ≠ ""
  columns : ∀ table ∈ keptTables c t, ∀ column ∈ table.columns, column.name ≠ name
  keys : ∀ o ∈ c.overrides.columns, o.1 ≠ name
  overrides : ∀ own ∈ keptTables c t, own.name = name → ∀ o ∈ c.overrides.columns,
    usesUp c o.1 own = true → ∀ other ∈ keptTables c t, other.name ≠ name →
      o.1.startsWith (other.name ++ ".") = false

variable {c : Config} {t : Schema.Tree} {name : String} {before tables : List Table}
  {table : Table} {es : List Entity}

/-! Entities. -/

theorem entityOf_ignoring (c : Config) (name table : String) (ps : List Property) :
    entityOf (c.ignoring name) table ps = entityOf c table ps := rfl

theorem addedTo_ignoring (c : Config) (name : String) (before : List Table) (table : Table) :
    addedTo (c.ignoring name) before table = addedTo c before table := rfl

theorem keptTables_ignoring (c : Config) (t : Schema.Tree) (h : name ≠ "") :
    keptTables (c.ignoring name) t = (keptTables c t).filter (·.name != name) := by
  unfold keptTables
  rw [List.filter_filter]
  refine List.filter_congr fun table _ => ?_
  rw [c.isIgnored_ignoring h, Bool.not_or, Bool.and_comm]
  rfl

theorem columnProperty?_ignoring (c : Config) (h : name ≠ "") {column : Schema.Column}
    (hcolumn : column.name ≠ name) :
    columnProperty? (c.ignoring name) column = columnProperty? c column := by
  have hsame : overridden (c.ignoring name) column = overridden c column := rfl
  unfold columnProperty?
  dsimp only
  rw [hsame, c.isIgnored_ignoring h, overridden_name, beq_false_of_ne hcolumn, Bool.or_false]
  rfl

theorem additionProperty?_ignoring (c : Config) (h : name ≠ "") {o : KeyedOverride}
    (ho : o.1 ≠ name) : additionProperty? (c.ignoring name) o = additionProperty? c o := by
  unfold additionProperty?
  rw [c.isIgnored_ignoring h, beq_false_of_ne ho, Bool.or_false]
  rfl

namespace StandsApart

/-- What other tables get does not depend on the tables of the name that stand before them. -/
theorem addedTo_filter (h : StandsApart c t name) (hbefore : ∀ s ∈ before, s ∈ keptTables c t)
    (htable : table ∈ keptTables c t) (hne : table.name ≠ name) :
    addedTo c (before.filter (·.name != name)) table = addedTo c before table := by
  unfold addedTo
  refine List.filter_congr fun o ho => ?_
  cases hstart : o.1.startsWith (table.name ++ ".") with
  | false => rfl
  | true =>
    have hany : (before.filter (·.name != name)).any (usesUp c o.1) =
        before.any (usesUp c o.1) := by
      rw [List.any_filter, Bool.eq_iff_iff, List.any_eq_true, List.any_eq_true]
      constructor
      · rintro ⟨s, hs, huse⟩
        exact ⟨s, hs, (Bool.and_eq_true_iff.mp huse).2⟩
      · rintro ⟨s, hs, huse⟩
        have hother : s.name ≠ name := by
          intro hown
          have hfree := h.overrides s (hbefore s hs) hown o ho huse table htable hne
          rw [hstart] at hfree
          cases hfree
        exact ⟨s, hs, by simp [hother, huse]⟩
    rw [hany]

theorem propertiesOf_ignoring (h : StandsApart c t name)
    (hbefore : ∀ s ∈ before, s ∈ keptTables c t) (htable : table ∈ keptTables c t)
    (hne : table.name ≠ name) :
    propertiesOf (c.ignoring name) (before.filter (·.name != name)) table =
      propertiesOf c before table := by
  have hcolumns : table.columns.filterMap (columnProperty? (c.ignoring name)) =
      table.columns.filterMap (columnProperty? c) :=
    List.filterMap_congr fun column hcolumn =>
      columnProperty?_ignoring c h.nonempty (h.columns table htable column hcolumn)
  have hadded : (addedTo c before table).filterMap (additionProperty? (c.ignoring name)) =
      (addedTo c before table).filterMap (additionProperty? c) :=
    List.filterMap_congr fun o ho =>
      additionProperty?_ignoring c h.nonempty (h.keys o (List.mem_of_mem_filter ho))
  rw [propertiesOf, addedTo_ignoring, h.addedTo_filter hbefore htable hne, hcolumns, hadded,
    propertiesOf]

/-- By induction on the tables, with those that have been gone through before them. -/
theorem entitiesFrom_ignoring (h : StandsApart c t name) {used used' : List String}
    (hbefore : ∀ s ∈ before, s ∈ keptTables c t) (htables : ∀ s ∈ tables, s ∈ keptTables c t)
    (hused : Accounts c before used)
    (hused' : Accounts (c.ignoring name) (before.filter (·.name != name)) used') :
    (entitiesFrom (c.ignoring name) used' (tables.filter (·.name != name))).1 =
      (entitiesFrom c used tables).1.filter (·.table != name) := by
  induction tables generalizing before used used' with
  | nil => rfl
  | cons table rest ih =>
    have htable : table ∈ keptTables c t := htables table (by simp)
    have hrest : ∀ s ∈ rest, s ∈ keptTables c t := fun s hs => htables s (by simp [hs])
    have hbefore' : ∀ s ∈ before ++ [table], s ∈ keptTables c t := by
      intro s hs
      rcases List.mem_append.mp hs with hs | hs
      · exact hbefore s hs
      · exact List.mem_singleton.mp hs ▸ htable
    have hstep := hused.step table
    rw [hused.entitiesFrom_cons, List.filter_cons, List.filter_cons]
    by_cases hname : table.name = name
    · have hdrops : (before ++ [table]).filter (·.name != name) =
          before.filter (·.name != name) := by
        simp [List.filter_append, hname]
      rw [← hdrops] at hused'
      simpa [hname, entityOf] using ih hbefore' hrest hstep hused'
    · have hstep' := hused'.step table
      have hkeeps : (before ++ [table]).filter (·.name != name) =
          before.filter (·.name != name) ++ [table] := by
        simp [List.filter_append, hname]
      rw [← hkeeps] at hstep'
      have htail := ih hbefore' hrest hstep hstep'
      rw [if_pos (by simpa using hname), hused'.entitiesFrom_cons,
        h.propertiesOf_ignoring hbefore htable hname]
      dsimp only
      rw [htail, entityOf_ignoring, if_pos (by simpa [entityOf] using hname)]

theorem entitiesOf_ignoring (h : StandsApart c t name) :
    (entitiesOf (c.ignoring name) t.tables).1 =
      (entitiesOf c t.tables).1.filter (·.table != name) := by
  have hnone : ∀ s ∈ ([] : List Table), s ∈ keptTables c t := by simp
  have hfrom := h.entitiesFrom_ignoring hnone (fun s hs => hs) (accounts_nil c) (accounts_nil _)
  rw [entitiesOf_tables, entitiesOf_tables, keptTables_ignoring c t h.nonempty]
  exact hfrom

end StandsApart

/-! Accessors. -/

/-- The accessor that a key gives besides its links. -/
def keyAccessor? (c : Config) (es : List Entity) (k : Key) : Option Accessor :=
  (es.find? (·.table == k.table)).bind fun e => (Accessor.ofKey c e k).toOption

theorem keyAccessor?_table {k : Key} {a : Accessor} (h : keyAccessor? c es k = some a) :
    a.table = k.table := by
  obtain ⟨e, he, ha⟩ := Option.bind_eq_some_iff.mp h
  cases hkey : Accessor.ofKey c e k with
  | error column =>
    rw [hkey] at ha
    cases ha
  | ok b =>
    rw [hkey] at ha
    obtain rfl : b = a := Option.some.inj ha
    obtain ⟨params, -, rfl⟩ := Accessor.ofKey_eq_ok hkey
    simpa using List.find?_some he

theorem emits_of_keyAccessor? {k : Key} {a : Accessor} (h : keyAccessor? c es k = some a) :
    emits es k = true := by
  obtain ⟨e, he, ha⟩ := Option.bind_eq_some_iff.mp h
  cases hkey : Accessor.ofKey c e k with
  | error column =>
    rw [hkey] at ha
    cases ha
  | ok b =>
    obtain ⟨params, hparams, -⟩ := Accessor.ofKey_eq_ok hkey
    rw [emits, he, Option.any_some, (Accessor.paramsOf_eq_ok hparams).1]
    rfl

theorem map_eq_filterMap_of_forall₂ {α β γ : Type} {f : α → Option γ} {g : β → γ} {xs : List α}
    {ys : List β} (h : List.Forall₂ (fun x y => f x = some (g y)) xs ys) :
    ys.map g = xs.filterMap f := by
  induction h with
  | nil => rfl
  | cons hfirst _ ih => rw [List.map_cons, List.filterMap_cons, hfirst, ih]

/-- Besides links, accessors are those that the keys give one by one. -/
theorem Resolves.map_unlinked {keys : List Key} {r : Resolution} (h : Resolves c es keys r) :
    r.1.accessors.map Accessor.unlinked = keys.filterMap (keyAccessor? c es) := by
  have hemitting : keys.filterMap (keyAccessor? c es) =
      (keys.filter (emits es)).filterMap (keyAccessor? c es) := by
    rw [List.filterMap_filter]
    refine List.filterMap_congr fun k _ => ?_
    split
    · rfl
    · next hemits =>
      rw [Option.eq_none_iff_forall_not_mem]
      exact fun a ha => hemits (emits_of_keyAccessor? ha)
  rw [hemitting]
  refine map_eq_filterMap_of_forall₂ (h.accessors.imp fun k a hkey => ?_)
  obtain ⟨e, he, ha⟩ := hkey
  rw [keyAccessor?, he, Option.bind_some, ha]
  rfl

/-- Entities of other tables do not matter for a key, nor does what else is ignored. -/
theorem keyAccessor?_ignoring (c : Config) {k : Key} (hk : k.table ≠ name) (es : List Entity) :
    keyAccessor? (c.ignoring name) (es.filter (·.table != name)) k = keyAccessor? c es k := by
  have hfind : (es.filter (·.table != name)).find? (·.table == k.table) =
      es.find? (·.table == k.table) := by
    induction es with
    | nil => rfl
    | cons e es ih =>
      rw [List.filter_cons]
      by_cases he : e.table = name
      · have hother : e.table ≠ k.table := fun h => hk (h.symm.trans he)
        simpa [he, List.find?_cons, beq_false_of_ne (he ▸ hother)] using ih
      · rw [if_pos (by simpa using he), List.find?_cons, List.find?_cons, ih]
  unfold keyAccessor?
  rw [hfind]
  rfl

theorem map_unlinked_addKeys_ignoring (c : Config) (h : name ≠ "") (es : List Entity)
    (keys : List Key) :
    (addKeys (c.ignoring name) keys ⟨es.filter (·.table != name), [], []⟩).1.accessors.map
        Accessor.unlinked =
      ((addKeys c keys ⟨es, [], []⟩).1.accessors.filter (·.table != name)).map
        Accessor.unlinked := by
  have hkeeps : keys.filter (c.ignoring name).keeps =
      (keys.filter c.keeps).filter (·.table != name) := by
    rw [List.filter_filter]
    refine List.filter_congr fun k _ => ?_
    rw [c.keeps_ignoring h, Bool.and_comm]
  have htables : ((addKeys c keys ⟨es, [], []⟩).1.accessors.filter (·.table != name)).map
      Accessor.unlinked =
        ((addKeys c keys ⟨es, [], []⟩).1.accessors.map Accessor.unlinked).filter
          (·.table != name) := by
    rw [List.filter_map]
    rfl
  rw [htables, (Resolves.addKeys c es keys).map_unlinked,
    (Resolves.addKeys (c.ignoring name) _ keys).map_unlinked, hkeeps, List.filterMap_filter,
    List.filter_filterMap]
  refine List.filterMap_congr fun k _ => ?_
  by_cases hk : k.table = name
  · have hdrops : (keyAccessor? c es k).filter (·.table != name) = none := by
      rw [Option.filter_eq_none_iff]
      intro a ha
      simp [keyAccessor?_table ha, hk]
    rw [if_neg (by simpa using hk), hdrops]
  · have hstays : (keyAccessor? c es k).filter (·.table != name) = keyAccessor? c es k := by
      cases ha : keyAccessor? c es k with
      | none => rfl
      | some a => simp [keyAccessor?_table ha, hk]
    rw [if_pos (by simpa using hk), keyAccessor?_ignoring c hk, hstays]

/-- Besides links, keys leave entities as they are. -/
theorem map_unlinked_ofSchema (c : Config) (t : Schema.Tree) :
    (ofSchema c t).1.entities.map Entity.unlinked = (entitiesOf c t.tables).1 := by
  have hes : ∀ e ∈ (entitiesOf c t.tables).1, e.foreigns = [] := foreigns_entitiesFrom c [] _
  rw [ofSchema_fst, addKeys, map_unlinked_foldl]
  exact map_unlinked_eq_self hes

/-- Ignoring one more table takes away the entities and the accessors of this table. Those that are
left stand in the same order, and differ in their links alone. -/
theorem ignoring_is_local (c : Config) (t : Schema.Tree) (name : String)
    (h : StandsApart c t name) :
    let m := (ofSchema c t).1
    let m' := (ofSchema (c.ignoring name) t).1
    m'.entities.map Entity.unlinked =
      (m.entities.filter (·.table != name)).map Entity.unlinked ∧
    m'.accessors.map Accessor.unlinked =
      (m.accessors.filter (·.table != name)).map Accessor.unlinked ∧
    m'.routines = m.routines := by
  intro m m'
  refine ⟨?_, ?_, rfl⟩
  · have hfilter : (m.entities.filter (·.table != name)).map Entity.unlinked =
        (m.entities.map Entity.unlinked).filter (·.table != name) := by
      rw [List.filter_map]
      rfl
    have hm : m.entities.map Entity.unlinked = (entitiesOf c t.tables).1 :=
      map_unlinked_ofSchema c t
    have hm' : m'.entities.map Entity.unlinked = (entitiesOf (c.ignoring name) t.tables).1 :=
      map_unlinked_ofSchema (c.ignoring name) t
    rw [hfilter, hm, hm']
    exact h.entitiesOf_ignoring
  · have hm : m = { (addKeys c t.keys ⟨(entitiesOf c t.tables).1, [], []⟩).1 with
        routines := t.routines } := ofSchema_fst c t
    have hm' : m' = { (addKeys (c.ignoring name) t.keys
        ⟨(entitiesOf c t.tables).1.filter (·.table != name), [], []⟩).1 with
          routines := t.routines } := by
      rw [← h.entitiesOf_ignoring]
      exact ofSchema_fst (c.ignoring name) t
    rw [hm, hm']
    exact map_unlinked_addKeys_ignoring c h.nonempty _ t.keys

end Model

/-- A configuration that declares one more column for addresses. -/
def Config.withZip : Config :=
  { Config.initial with overrides := { Config.initial.overrides with
      columns := [("[dbo].[Address].[Zip]", ⟨"[dbo].[Address].[Zip]", some "int", none, none⟩)] } }

/-- Without addresses, orders and the foreign keys that lead to addresses stay. -/
theorem Model.ignoring_is_local_addresses :
    StandsApart Config.withZip .addresses "[dbo].[Address]" ∧
    (ofSchema (Config.withZip.ignoring "[dbo].[Address]") .addresses).1.entities.map (·.table) =
      ["[dbo].[Order]"] ∧
    ((ofSchema (Config.withZip.ignoring "[dbo].[Address]") .addresses).1.accessors.map
        fun a => (a.table, a.key)) =
      [("[dbo].[Order]", "[dbo].[FK_Bill]"), ("[dbo].[Order]", "[dbo].[FK_Ship]")] := by
  have happart : StandsApart Config.withZip .addresses "[dbo].[Address]" := by
    refine ⟨by decide, ?_, by decide, ?_⟩
    · rw [keptTables, Schema.Tree.tables_addresses]
      decide +kernel
    · rw [keptTables, Schema.Tree.tables_addresses]
      decide +kernel
  have hmodel : ((ofSchema Config.withZip .addresses).1.entities.map (·.table),
        (ofSchema Config.withZip .addresses).1.accessors.map fun a => (a.table, a.key)) =
      (["[dbo].[Address]", "[dbo].[Order]"],
        [("[dbo].[Order]", "[dbo].[FK_Bill]"), ("[dbo].[Order]", "[dbo].[FK_Ship]"),
          ("[dbo].[Address]", "[dbo].[PK_Address]")]) := by
    rw [ofSchema_fst, Schema.Tree.tables_addresses, Schema.Tree.keys_addresses,
      Schema.Tree.routines_addresses]
    decide +kernel
  obtain ⟨htables, hkeys⟩ := Prod.mk.inj hmodel
  obtain ⟨hentities, haccessors, -⟩ := ignoring_is_local Config.withZip .addresses
    "[dbo].[Address]" happart
  have htables' := congrArg (List.map (·.table)) hentities
  have hkeys' := congrArg (List.map fun a => (a.table, a.key)) haccessors
  rw [List.map_map, List.map_map] at htables' hkeys'
  refine ⟨happart, ?_, ?_⟩
  · calc _ = ((ofSchema Config.withZip .addresses).1.entities.map (·.table)).filter
          (· != "[dbo].[Address]") := htables'.trans (by rw [List.filter_map]; rfl)
      _ = ["[dbo].[Order]"] := by rw [htables]; decide
  · calc _ = ((ofSchema Config.withZip .addresses).1.accessors.map
          fun a => (a.table, a.key)).filter (·.1 != "[dbo].[Address]") :=
            hkeys'.trans (by rw [List.filter_map]; rfl)
      _ = _ := by rw [hkeys]; decide

end DataLayer
