import DataLayer.Model.Accessors
import Mathlib.Data.List.Forall2

/-!
What one key adds to a model, and from it what a list of keys adds. Entities change in nothing but
the accessors that they refer to, so an accessor depends on its key and on the entities alone.
-/

namespace DataLayer

open Schema (Key)

namespace Model

/-! Links. -/

theorem find?_linkFirst (table : String) (numbers : List Nat) (es : List Entity) (t : String) :
    (linkFirst table numbers es).find? (·.table == t) =
      (es.find? (·.table == t)).map fun e =>
        if t = table then { e with foreigns := e.foreigns ++ numbers } else e := by
  induction es with
  | nil => rfl
  | cons e es ih =>
    unfold linkFirst
    by_cases he : e.table = table
    · by_cases ht : e.table = t
      · simp [he, ht.symm.trans he]
      · have hne : t ≠ table := fun h => ht (he.trans h.symm)
        simp [he, hne, Ne.symm hne]
    · by_cases ht : e.table = t
      · have hne : t ≠ table := fun h => he (ht.trans h)
        simp [ht, hne]
      · simp [he, ht, ih]

theorem mem_linkFirst {table : String} {numbers : List Nat} {es : List Entity} {e : Entity}
    (h : e ∈ linkFirst table numbers es) :
    e ∈ es ∨ ∃ old ∈ es, e = { old with foreigns := old.foreigns ++ numbers } := by
  induction es with
  | nil => cases h
  | cons first es ih =>
    unfold linkFirst at h
    split at h
    · rcases List.mem_cons.mp h with rfl | h
      · exact Or.inr ⟨first, by simp, rfl⟩
      · exact Or.inl (by simp [h])
    · rcases List.mem_cons.mp h with rfl | h
      · exact Or.inl (by simp)
      · rcases ih h with h | ⟨old, hold, rfl⟩
        · exact Or.inl (by simp [h])
        · exact Or.inr ⟨old, by simp [hold], rfl⟩

end Model

/-! Accessors of keys. -/

/-- Whether an entity has no property for a column. -/
def Entity.lacks (e : Entity) (column : String) : Bool := (e.property? column).isNone

namespace Accessor

/-- An accessor without the accessors that it refers to. -/
def unlinked (a : Accessor) : Accessor := { a with foreigns := [] }

variable {c : Config} {e : Entity} {k : Key} {a : Accessor}

/-- The parameters stand for the columns in order, unless one of the columns is missing. -/
theorem paramsOf_eq_ok {columns foreignColumns : List String} {params : List Property}
    (h : paramsOf e columns foreignColumns = .ok params) :
    columns.find? e.lacks = none ∧ params.length = columns.length ∧
      ∀ (i : Nat) column, columns[i]? = some column → ∃ p, e.property? column = some p ∧
        params[i]? = some { p with foreignName := foreignColumns[i]? } := by
  induction columns generalizing foreignColumns params with
  | nil =>
    cases h
    simp
  | cons column columns ih =>
    unfold paramsOf at h
    cases hproperty : e.property? column with
    | none =>
      rw [hproperty] at h
      cases h
    | some p =>
      simp only [hproperty] at h
      cases hrest : paramsOf e columns foreignColumns.tail with
      | error missing =>
        rw [hrest] at h
        cases h
      | ok rest =>
        rw [hrest] at h
        cases h
        obtain ⟨hmissing, hlength, hparams⟩ := ih hrest
        refine ⟨?_, by simp [hlength], fun i name hi => ?_⟩
        · rw [List.find?_cons, hmissing]
          simp [Entity.lacks, hproperty]
        · cases i with
          | zero =>
            obtain rfl : column = name := by simpa using hi
            refine ⟨p, hproperty, ?_⟩
            simp [List.head?_eq_getElem?]
          | succ i =>
            obtain ⟨q, hq, hparam⟩ := hparams i name (by simpa using hi)
            refine ⟨q, hq, ?_⟩
            simpa using hparam

theorem paramsOf_eq_error {columns foreignColumns : List String} {column : String}
    (h : paramsOf e columns foreignColumns = .error column) :
    columns.find? e.lacks = some column := by
  induction columns generalizing foreignColumns with
  | nil => cases h
  | cons first columns ih =>
    unfold paramsOf at h
    rw [List.find?_cons]
    cases hproperty : e.property? first with
    | none =>
      rw [hproperty] at h
      cases h
      simp [Entity.lacks, hproperty]
    | some p =>
      simp only [hproperty] at h
      cases hrest : paramsOf e columns foreignColumns.tail with
      | error missing =>
        rw [hrest] at h
        cases h
        simpa [Entity.lacks, hproperty] using ih hrest
      | ok rest =>
        rw [hrest] at h
        cases h

theorem paramsOf_foreigns (e : Entity) (numbers : List Nat) (columns foreignColumns : List String) :
    paramsOf { e with foreigns := numbers } columns foreignColumns =
      paramsOf e columns foreignColumns := by
  induction columns generalizing foreignColumns with
  | nil => rfl
  | cons column columns ih =>
    unfold paramsOf
    rw [ih]
    rfl

/-- What an entity refers to does not matter for the accessors of its keys. -/
theorem ofKey_foreigns (c : Config) (e : Entity) (numbers : List Nat) (k : Key) :
    ofKey c { e with foreigns := numbers } k = ofKey c e k := by
  unfold ofKey
  rw [paramsOf_foreigns]
  rfl

theorem ofKey_eq_ok (h : ofKey c e k = .ok a) :
    ∃ params, paramsOf e k.columns k.foreignColumns = .ok params ∧
      a = ⟨k.kind, k.name, e.table, e.name, params, e.columns, e.identityColumns, k.unique,
        (c.overrides.async? k.name).getD c.asyncDefaults, []⟩ := by
  unfold ofKey at h
  cases hparams : paramsOf e k.columns k.foreignColumns with
  | error column =>
    rw [hparams] at h
    cases h
  | ok params =>
    rw [hparams] at h
    cases h
    exact ⟨params, rfl, rfl⟩

theorem ofKey_eq_error {column : String} (h : ofKey c e k = .error column) :
    k.columns.find? e.lacks = some column := by
  unfold ofKey at h
  cases hparams : paramsOf e k.columns k.foreignColumns with
  | error missing =>
    rw [hparams] at h
    cases h
    exact paramsOf_eq_error hparams
  | ok params =>
    rw [hparams] at h
    cases h

end Accessor

/-- The table that a foreign key refers to. -/
def Schema.Key.target? (k : Key) : Option String :=
  if k.kind = .foreignKey then k.foreignTable else none

namespace Model

/-! One key. -/

theorem entity?_link (m : Model) (table : String) (numbers : List Nat) (t : String) :
    (m.link table numbers).entity? t = (m.entity? t).map fun e =>
      if t = table then { e with foreigns := e.foreigns ++ numbers } else e :=
  find?_linkFirst table numbers m.entities t

theorem linkForeign_accessors (k : Key) (number : Nat) (r : Resolution) :
    (linkForeign k number r).1.accessors = r.1.accessors := by
  unfold linkForeign
  split
  · rfl
  · split
    · rfl
    · split <;> rfl

/-- The entity that a foreign key refers to gets the number of its accessor, if it wants it. -/
theorem linkForeign_entity? (k : Key) (number : Nat) (r : Resolution) (table : String) :
    (linkForeign k number r).1.entity? table = (r.1.entity? table).map fun e =>
      if e.includeForeignKey ∧ k.foreignTable = some table then
        { e with foreigns := e.foreigns ++ [number] }
      else e := by
  have hsame (f : Entity → Entity) (hf : ∀ e, r.1.entity? table = some e → f e = e) :
      r.1.entity? table = (r.1.entity? table).map f := by
    cases h : r.1.entity? table with
    | none => rfl
    | some e => simp [hf e h]
  unfold linkForeign
  split
  · next hnone => exact hsame _ (by simp [hnone])
  · next target htarget =>
    split
    · next hmissing =>
      refine hsame _ fun e he => if_neg ?_
      rintro ⟨-, htable⟩
      obtain rfl : target = table := Option.some.inj (htarget.symm.trans htable)
      rw [hmissing] at he
      cases he
    · next found hfound =>
      by_cases htable : table = target
      · subst htable
        rw [hfound]
        by_cases hinclude : found.includeForeignKey
        · simp [hinclude, entity?_link, hfound, htarget]
        · simp [hinclude, hfound]
      · have hne : ¬k.foreignTable = some table := by
          rw [htarget]
          exact fun h => htable (Option.some.inj h).symm
        by_cases hinclude : found.includeForeignKey
        · simp [hinclude, entity?_link, htable, hne]
        · simp [hinclude, hne]

theorem mem_entities_of_linkForeign {k : Key} {number : Nat} {r : Resolution} {e : Entity}
    (h : e ∈ (linkForeign k number r).1.entities) :
    e ∈ r.1.entities ∨
      ∃ old ∈ r.1.entities, e = { old with foreigns := old.foreigns ++ [number] } := by
  unfold linkForeign at h
  split at h
  · exact Or.inl h
  · split at h
    · exact Or.inl h
    · split at h
      · exact mem_linkFirst h
      · exact Or.inl h

theorem linkForeign_warnings (k : Key) (number : Nat) (r : Resolution) :
    (linkForeign k number r).2 = r.2 ++ match k.foreignTable with
      | none => []
      | some table =>
        if (r.1.entity? table).isSome then [] else [.missingForeignTable k.name table] := by
  unfold linkForeign
  cases k.foreignTable with
  | none => simp
  | some table =>
    dsimp only
    cases hentity : r.1.entity? table with
    | none => simp
    | some e =>
      dsimp only
      split <;> simp

theorem addAccessor_accessors (k : Key) (e : Entity) (a : Accessor) (r : Resolution) :
    (addAccessor k e a r).1.accessors = r.1.accessors ++ [{ a with
      foreigns := if k.kind = .primaryKey then (r.1.referring? e k.columns).toList
        else a.foreigns }] := by
  unfold addAccessor
  cases k.kind with
  | primaryKey | index => rfl
  | foreignKey => exact linkForeign_accessors k _ (r.1.push a, r.2)

theorem addAccessor_entity? (k : Key) (e : Entity) (a : Accessor) (r : Resolution)
    (table : String) :
    (addAccessor k e a r).1.entity? table = (r.1.entity? table).map fun old =>
      if old.includeForeignKey ∧ k.target? = some table then
        { old with foreigns := old.foreigns ++ [r.1.accessors.length] }
      else old := by
  unfold addAccessor Schema.Key.target?
  cases k.kind with
  | primaryKey | index =>
    simp only [reduceCtorEq, if_false, and_false, Option.map_id']
    rfl
  | foreignKey => exact linkForeign_entity? k _ (r.1.push a, r.2) table

theorem mem_entities_of_addAccessor {k : Key} {e : Entity} {a : Accessor} {r : Resolution}
    {e' : Entity} (h : e' ∈ (addAccessor k e a r).1.entities) :
    e' ∈ r.1.entities ∨ k.kind = .foreignKey ∧ ∃ old ∈ r.1.entities,
      e' = { old with foreigns := old.foreigns ++ [r.1.accessors.length] } := by
  unfold addAccessor at h
  cases hkind : k.kind with
  | primaryKey | index =>
    rw [hkind] at h
    exact Or.inl h
  | foreignKey =>
    rw [hkind] at h
    rcases mem_entities_of_linkForeign h with h | h
    · exact Or.inl h
    · exact Or.inr ⟨rfl, h⟩

theorem addAccessor_warnings (k : Key) (e : Entity) (a : Accessor) (r : Resolution) :
    (addAccessor k e a r).2 = r.2 ++ match k.target? with
      | none => []
      | some table =>
        if (r.1.entity? table).isSome then [] else [.missingForeignTable k.name table] := by
  unfold addAccessor Schema.Key.target?
  cases k.kind with
  | primaryKey | index => simp
  | foreignKey => exact linkForeign_warnings k _ (r.1.push a, r.2)

/-! Lists of keys. -/

/-- Whether a key becomes an accessor: its table has an entity, which lacks none of its columns. -/
def emits (es : List Entity) (k : Key) : Bool :=
  (es.find? (·.table == k.table)).any fun e => (k.columns.find? e.lacks).isNone

/-- The warnings that a key leads to. -/
def warningsOf (es : List Entity) (k : Key) : List Warning :=
  match es.find? (·.table == k.table) with
  | none => []
  | some e =>
    match k.columns.find? e.lacks with
    | some column => [.missingColumn k.kind k.name column]
    | none =>
      match k.target? with
      | none => []
      | some table =>
        if es.any (·.table == table) then [] else [.missingForeignTable k.name table]

theorem any_of_emits {es : List Entity} {k : Key} (h : emits es k) :
    es.any (·.table == k.table) := by
  unfold emits at h
  rw [← List.isSome_find?]
  cases hfind : es.find? (·.table == k.table) with
  | none => simp [hfind] at h
  | some e => rfl

theorem warningsOf_eq_nil {es : List Entity} {k : Key} (h : ¬es.any (·.table == k.table)) :
    warningsOf es k = [] := by
  rw [← List.isSome_find?, Option.not_isSome_iff_eq_none] at h
  unfold warningsOf
  rw [h]

/-- The numbers of the foreign keys in a list that refer to a table. -/
def referrers (table : String) (keys : List Key) : List Nat :=
  (List.range keys.length).filter fun i => keys[i]?.any (·.target? == some table)

/-- What keys have made of entities so far. -/
structure Resolves (c : Config) (es : List Entity) (keys : List Key) (r : Resolution) : Prop where
  accessors : List.Forall₂
    (fun k a => ∃ e, es.find? (·.table == k.table) = some e ∧
      Accessor.ofKey c e k = .ok a.unlinked)
    (keys.filter (emits es)) r.1.accessors
  entity : ∀ table, r.1.entity? table = (es.find? (·.table == table)).map fun e =>
    { e with foreigns := e.foreigns ++
        if e.includeForeignKey then referrers table (keys.filter (emits es)) else [] }
  warnings : r.2 = keys.flatMap (warningsOf es)

theorem exists_of_forall₂_mem {α β : Type} {R : α → β → Prop} {xs : List α} {ys : List β}
    (h : List.Forall₂ R xs ys) {y : β} (hy : y ∈ ys) : ∃ x ∈ xs, R x y := by
  induction h with
  | nil => cases hy
  | cons hfirst _ ih =>
    rcases List.mem_cons.mp hy with rfl | hy
    · exact ⟨_, by simp, hfirst⟩
    · obtain ⟨x, hx, hxy⟩ := ih hy
      exact ⟨x, by simp [hx], hxy⟩

theorem referrers_append (table : String) (keys : List Key) (k : Key) :
    referrers table (keys ++ [k]) =
      referrers table keys ++ if k.target? = some table then [keys.length] else [] := by
  unfold referrers
  rw [List.length_append, List.length_singleton, List.range_succ, List.filter_append]
  congr 1
  · refine List.filter_congr fun i hi => ?_
    rw [List.getElem?_append_left (List.mem_range.mp hi)]
  · simp [List.filter_cons]

namespace Resolves

variable {c : Config} {es : List Entity} {keys : List Key} {r : Resolution} {k : Key}

theorem length (h : Resolves c es keys r) :
    r.1.accessors.length = (keys.filter (emits es)).length := h.accessors.length_eq.symm

theorem start (c : Config) (es : List Entity) (routines : List Schema.Routine) :
    Resolves c es [] (⟨es, [], routines⟩, []) := by
  refine ⟨.nil, fun table => ?_, rfl⟩
  show es.find? (·.table == table) = _
  simp [referrers]

theorem isSome_entity? (h : Resolves c es keys r) (table : String) :
    (r.1.entity? table).isSome = es.any (·.table == table) := by
  rw [h.entity table, Option.isSome_map, List.isSome_find?]

/-- Every accessor is of the kind of some key. -/
theorem exists_key (h : Resolves c es keys r) {a : Accessor} (ha : a ∈ r.1.accessors) :
    ∃ k ∈ keys, a.kind = k.kind := by
  obtain ⟨k, hk, e, -, hkey⟩ := exists_of_forall₂_mem h.accessors ha
  obtain ⟨params, -, hunlinked⟩ := Accessor.ofKey_eq_ok hkey
  have hkind : a.unlinked.kind = k.kind := by rw [hunlinked]
  exact ⟨k, (List.mem_filter.mp hk).1, hkind⟩

/-- A key without an accessor leaves a warning or nothing. -/
theorem skip (h : Resolves c es keys r) (hemits : emits es k = false) :
    Resolves c es (keys ++ [k]) (r.1, r.2 ++ warningsOf es k) := by
  have hfilter : (keys ++ [k]).filter (emits es) = keys.filter (emits es) := by
    simp [List.filter_append, hemits]
  refine ⟨?_, fun table => ?_, ?_⟩
  · rw [hfilter]
    exact h.accessors
  · rw [hfilter]
    exact h.entity table
  · rw [List.flatMap_append, h.warnings]
    simp

theorem addKey (h : Resolves c es keys r) (k : Key) :
    Resolves c es (keys ++ [k]) (addKey c r k) := by
  have howner := h.entity k.table
  unfold Model.addKey
  cases hfind : es.find? (·.table == k.table) with
  | none =>
    rw [hfind] at howner
    have hskip := h.skip (k := k) (by simp [emits, hfind])
    rw [howner]
    simpa [warningsOf, hfind] using hskip
  | some e =>
    rw [hfind, Option.map_some] at howner
    rw [howner]
    dsimp only
    rw [Accessor.ofKey_foreigns]
    cases hkey : Accessor.ofKey c e k with
    | error column =>
      have hmissing := Accessor.ofKey_eq_error hkey
      have hskip := h.skip (k := k) (by simp [emits, hfind, hmissing])
      simpa [warningsOf, hfind, hmissing] using hskip
    | ok a =>
      obtain ⟨params, hparams, ha⟩ := Accessor.ofKey_eq_ok hkey
      have hcomplete := (Accessor.paramsOf_eq_ok hparams).1
      have hemits : emits es k = true := by simp [emits, hfind, hcomplete]
      have hfilter : (keys ++ [k]).filter (emits es) = keys.filter (emits es) ++ [k] := by
        simp [List.filter_append, hemits]
      refine ⟨?_, fun table => ?_, ?_⟩
      · rw [hfilter, addAccessor_accessors]
        refine List.rel_append h.accessors (.cons ⟨e, hfind, ?_⟩ .nil)
        rw [hkey, ha]
        rfl
      · rw [hfilter, addAccessor_entity?, h.entity table, h.length, Option.map_map]
        refine congrFun (congrArg Option.map (funext fun old => ?_)) _
        rw [referrers_append]
        by_cases hinclude : old.includeForeignKey <;> by_cases htarget : k.target? = some table
        · simp [hinclude, htarget]
        · simp [hinclude, htarget]
        · simp [hinclude]
        · simp [hinclude]
      · rw [addAccessor_warnings, List.flatMap_append, h.warnings]
        simp only [h.isSome_entity?]
        simp [warningsOf, hfind, hcomplete]

theorem foldl (h : Resolves c es keys r) (more : List Key) :
    Resolves c es (keys ++ more) (more.foldl (Model.addKey c) r) := by
  induction more generalizing keys r with
  | nil => simpa using h
  | cons k more ih =>
    have hrest := ih (h.addKey k)
    rwa [List.append_assoc] at hrest

theorem addKeys (c : Config) (es : List Entity) (keys : List Key) :
    Resolves c es (keys.filter c.keeps) (Model.addKeys c keys ⟨es, [], []⟩) :=
  (start c es []).foldl _

end Resolves

end Model

end DataLayer
