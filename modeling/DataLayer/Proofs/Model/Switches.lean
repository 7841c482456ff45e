import DataLayer.Proofs.Model.Owners

/-!
The switches for kinds of keys. Entities do not depend on them, and a key that is not a foreign key
gives the same accessor whatever other keys there are besides foreign keys; so a switch takes away
the accessors and warnings of its own keys, and the switch for foreign keys all links as well.
-/

namespace DataLayer

open Schema (Key KeyElement)

/-- The configuration with all kinds of keys switched on. -/
def Config.withAllKeys (c : Config) : Config := { c with features := ⟨true, true, true, true⟩ }

/-- Whether accessors of this kind are switched on. -/
def Accessor.isSwitchedOn (f : Features) (a : Accessor) : Bool :=
  match a.kind with
  | .foreignKey => f.foreignKey
  | .primaryKey => f.primaryKey
  | .index => if a.unique then f.uniqueIndex else f.nonUniqueIndex

/-- An entity without the accessors that it refers to. -/
def Entity.unlinked (e : Entity) : Entity := { e with foreigns := [] }

/-! What does not depend on the switches. -/

theorem Config.keeps_eq (c : Config) (k : Key) :
    c.keeps k = (c.withAllKeys.keeps k && c.features.admits k) := by
  have hadmits : c.withAllKeys.features.admits k = true := by
    unfold Features.admits Config.withAllKeys
    cases k.kind <;> simp
  unfold keeps
  rw [hadmits, Bool.true_and, Bool.and_comm]
  rfl

namespace Model

theorem entitiesFrom_withAllKeys (c : Config) (used : List String) (tables : List Schema.Table) :
    entitiesFrom c.withAllKeys used tables = entitiesFrom c used tables := by
  induction tables generalizing used with
  | nil => rfl
  | cons table rest ih =>
    unfold entitiesFrom
    dsimp only
    rw [ih]
    rfl

theorem entitiesOf_withAllKeys (c : Config) (tables : List Schema.Table) :
    entitiesOf c.withAllKeys tables = entitiesOf c tables := by
  unfold entitiesOf
  dsimp only
  rw [entitiesFrom_withAllKeys]
  rfl

/-! Entities without their links. -/

theorem map_unlinked_linkFirst (table : String) (numbers : List Nat) (es : List Entity) :
    (linkFirst table numbers es).map Entity.unlinked = es.map Entity.unlinked := by
  induction es with
  | nil => rfl
  | cons e es ih =>
    unfold linkFirst
    split
    · rfl
    · rw [List.map_cons, List.map_cons, ih]

theorem map_unlinked_addKey (c : Config) (r : Resolution) (k : Key) :
    (addKey c r k).1.entities.map Entity.unlinked = r.1.entities.map Entity.unlinked := by
  have hlink (number : Nat) (r : Resolution) :
      (linkForeign k number r).1.entities.map Entity.unlinked =
        r.1.entities.map Entity.unlinked := by
    unfold linkForeign
    split
    · rfl
    · split
      · rfl
      · split
        · exact map_unlinked_linkFirst _ _ _
        · rfl
  unfold addKey
  split
  · rfl
  · split
    · rfl
    · unfold addAccessor
      split
      · exact hlink _ _
      · rfl
      · rfl

theorem map_unlinked_foldl (c : Config) (r : Resolution) (keys : List Key) :
    (keys.foldl (addKey c) r).1.entities.map Entity.unlinked =
      r.1.entities.map Entity.unlinked := by
  induction keys generalizing r with
  | nil => rfl
  | cons k keys ih => exact (ih (addKey c r k)).trans (map_unlinked_addKey c r k)

theorem map_unlinked_eq_self {es : List Entity} (hes : ∀ e ∈ es, e.foreigns = []) :
    es.map Entity.unlinked = es := by
  have hid : ∀ e ∈ es, e.unlinked = id e := by
    intro e he
    unfold Entity.unlinked
    rw [← hes e he]
    rfl
  rw [List.map_congr_left hid, List.map_id]

/-! Keys besides foreign keys. -/

/-- The accessor that a key gives, linked as a primary key is. -/
def accessorOf? (c : Config) (m : Model) (k : Key) : Option Accessor :=
  (m.entity? k.table).bind fun e =>
    match Accessor.ofKey c e k with
    | .error _ => none
    | .ok a => some { a with
        foreigns := if k.kind = .primaryKey then (m.referring? e k.columns).toList else [] }

variable {c : Config} {m m' : Model} {k : Key} {a : Accessor}

theorem isSwitchedOn_of_accessorOf? (f : Features) (h : accessorOf? c m k = some a) :
    a.isSwitchedOn f = f.admits k := by
  obtain ⟨e, -, ha⟩ := Option.bind_eq_some_iff.mp h
  cases hkey : Accessor.ofKey c e k with
  | error column =>
    rw [hkey] at ha
    cases ha
  | ok b =>
    obtain ⟨params, -, rfl⟩ := Accessor.ofKey_eq_ok hkey
    rw [hkey] at ha
    cases ha
    rfl

/-- The accessors of the keys that are switched on. -/
theorem filterMap_accessorOf?_filter (c : Config) (m : Model) (f : Features) (keys : List Key) :
    (keys.filter f.admits).filterMap (accessorOf? c m) =
      (keys.filterMap (accessorOf? c m)).filter (·.isSwitchedOn f) := by
  rw [List.filterMap_filter, List.filter_filterMap]
  refine congrFun (congrArg List.filterMap (funext fun k => ?_)) keys
  cases ha : accessorOf? c m k with
  | none => simp
  | some a =>
    rw [Option.filter_some, isSwitchedOn_of_accessorOf? f ha]

theorem addKey_fst (r : Resolution) (hkind : k.kind ≠ .foreignKey) :
    (addKey c r k).1 =
      { r.1 with accessors := r.1.accessors ++ (accessorOf? c r.1 k).toList } := by
  unfold addKey accessorOf?
  cases r.1.entity? k.table with
  | none => simp
  | some e =>
    dsimp only [Option.bind_some]
    cases hkey : Accessor.ofKey c e k with
    | error column => simp
    | ok a =>
      obtain ⟨params, -, rfl⟩ := Accessor.ofKey_eq_ok hkey
      unfold addAccessor
      cases hk : k.kind with
      | foreignKey => exact absurd hk hkind
      | primaryKey => rfl
      | index => rfl

/-- Further accessors do not matter for the accessor of a key. -/
theorem accessorOf?_of_append (hlinks : ∀ e ∈ m.entities, ∀ id ∈ e.foreigns, m.NamesForeign id)
    (hentities : m'.entities = m.entities) {more : List Accessor}
    (haccessors : m'.accessors = m.accessors ++ more) (k : Key) :
    accessorOf? c m' k = accessorOf? c m k := by
  have hentity : m'.entity? k.table = m.entity? k.table := by
    unfold entity?
    rw [hentities]
  unfold accessorOf?
  rw [hentity]
  cases he : m.entity? k.table with
  | none => rfl
  | some e =>
    dsimp only [Option.bind_some]
    rw [referring?_of_append haccessors (hlinks e (List.mem_of_find?_eq_some he))]

/-- Each of several keys gives its accessor as if it were alone. -/
theorem foldl_addKey_fst {r : Resolution}
    (hlinks : ∀ e ∈ r.1.entities, ∀ id ∈ e.foreigns, r.1.NamesForeign id) {keys : List Key}
    (hkinds : ∀ k ∈ keys, k.kind ≠ .foreignKey) :
    (keys.foldl (addKey c) r).1 =
      { r.1 with accessors := r.1.accessors ++ keys.filterMap (accessorOf? c r.1) } := by
  induction keys generalizing r with
  | nil => simp
  | cons k keys ih =>
    have hfirst := addKey_fst (c := c) r (hkinds k (by simp))
    have hnew : (addKey c r k).1.accessors =
        r.1.accessors ++ (accessorOf? c r.1 k).toList := by rw [hfirst]
    have hsame : (addKey c r k).1.entities = r.1.entities := by rw [hfirst]
    have hrest : keys.filterMap (accessorOf? c (addKey c r k).1) =
        keys.filterMap (accessorOf? c r.1) := by
      refine List.filterMap_congr fun k' _ => ?_
      exact accessorOf?_of_append hlinks hsame hnew k'
    rw [List.foldl_cons, ih ?_ fun k' hk' => hkinds k' (by simp [hk'])]
    · rw [hrest, hfirst, List.append_assoc, List.filterMap_cons]
      cases accessorOf? c r.1 k <;> rfl
    · rw [hsame]
      exact fun e he id hid => (hlinks e he id hid).of_append hnew

/-- Without links of entities there are none of accessors. -/
theorem map_unlinked_accessorOf? (hentities : m.entities.map Entity.unlinked = m'.entities)
    (k : Key) : (accessorOf? c m k).map Accessor.unlinked = accessorOf? c m' k := by
  have hentity : (m.entity? k.table).map Entity.unlinked = m'.entity? k.table := by
    unfold entity?
    rw [← hentities, List.find?_map]
    rfl
  unfold accessorOf?
  cases he : m.entity? k.table with
  | none =>
    rw [he] at hentity
    rw [← hentity]
    rfl
  | some e =>
    rw [he, Option.map_some] at hentity
    have hnone : m'.referring? e.unlinked k.columns = none := rfl
    have hkey : Accessor.ofKey c e.unlinked k = Accessor.ofKey c e k :=
      Accessor.ofKey_foreigns c e [] k
    rw [← hentity]
    dsimp only [Option.bind_some]
    rw [hnone, hkey]
    cases Accessor.ofKey c e k with
    | error column => rfl
    | ok a => simp [Accessor.unlinked]

/-! Foreign keys, and then the other keys. -/

variable {es : List Entity} {foreign others : List Key}

theorem links_foreign (c : Config) (hes : ∀ e ∈ es, e.foreigns = [])
    (hforeign : ∀ k ∈ foreign, k.kind = .foreignKey) :
    (addKeys c foreign ⟨es, [], []⟩).1.Links := by
  refine Links.foldl (Resolves.start c es []) (Links.start hes) ?_
  refine List.Pairwise.sublist List.filter_sublist ?_
  exact List.pairwise_iff_forall_sublist.mpr fun {k k'} hsub _ => hforeign k (hsub.subset (by simp))

theorem addKeys_append (c : Config) (hes : ∀ e ∈ es, e.foreigns = [])
    (hforeign : ∀ k ∈ foreign, k.kind = .foreignKey)
    (hothers : ∀ k ∈ others, k.kind ≠ .foreignKey) :
    (addKeys c (foreign ++ others) ⟨es, [], []⟩).1 =
      let m := (addKeys c foreign ⟨es, [], []⟩).1
      { m with accessors := m.accessors ++
          (others.filter c.keeps).filterMap (accessorOf? c m) } := by
  have hlinks := (links_foreign c hes hforeign).entity
  unfold addKeys at hlinks ⊢
  rw [List.filter_append, List.foldl_append, foldl_addKey_fst hlinks]
  exact fun k hk => hothers k (List.mem_filter.mp hk).1

theorem filter_keeps (c : Config) (keys : List Key) :
    keys.filter c.keeps = (keys.filter c.withAllKeys.keeps).filter c.features.admits := by
  rw [List.filter_filter]
  refine List.filter_congr fun k _ => ?_
  rw [c.keeps_eq, Bool.and_comm]

theorem addKeys_foreign (c : Config) (m : Model) (hforeign : ∀ k ∈ foreign, k.kind = .foreignKey) :
    addKeys c foreign m =
      if c.features.foreignKey then addKeys c.withAllKeys foreign m else (m, []) := by
  have hadmits : ∀ k ∈ foreign.filter c.withAllKeys.keeps,
      c.features.admits k = c.features.foreignKey := by
    intro k hk
    unfold Features.admits
    rw [hforeign k (List.mem_filter.mp hk).1]
  unfold addKeys
  rw [filter_keeps, List.filter_congr hadmits]
  cases c.features.foreignKey with
  | true =>
    rw [List.filter_true]
    rfl
  | false =>
    rw [List.filter_false]
    rfl

theorem kind_of_mem_addKeys (hforeign : ∀ k ∈ foreign, k.kind = .foreignKey)
    (ha : a ∈ (addKeys c foreign ⟨es, [], []⟩).1.accessors) : a.kind = .foreignKey := by
  obtain ⟨k, hk, hkind⟩ := (Resolves.addKeys c es foreign).exists_key ha
  rw [hkind, hforeign k (List.mem_filter.mp hk).1]

end Model

theorem Schema.Tree.exists_keys_eq (t : Schema.Tree) : ∃ foreign others,
    t.keys = foreign ++ others ∧ (∀ k ∈ foreign, k.kind = .foreignKey) ∧
      ∀ k ∈ others, k.kind ≠ .foreignKey := by
  have hkind {kind : Schema.KeyKind} {es : List Schema.Element} {k : Key}
      (hk : k ∈ (es.map (KeyElement.mk kind)).filterMap KeyElement.key?) : k.kind = kind := by
    obtain ⟨d, hd, hkey⟩ := List.mem_filterMap.mp hk
    obtain ⟨e, -, rfl⟩ := List.mem_map.mp hd
    rw [(KeyElement.key?_eq_some hkey).2.2]
  rw [KeyElement.keys_eq, KeyElement.all, List.append_assoc, List.filterMap_append]
  refine ⟨_, _, rfl, fun k hk => hkind hk, fun k hk => ?_⟩
  rw [List.filterMap_append, List.mem_append] at hk
  rcases hk with hk | hk
  · rw [hkind hk]
    decide
  · rw [hkind hk]
    decide

namespace Model

/-- What a switch takes away from the entities and accessors that all keys give. -/
theorem addKeys_switched (c : Config) (t : Schema.Tree) {es : List Entity}
    (hes : ∀ e ∈ es, e.foreigns = []) :
    let full := (addKeys c.withAllKeys t.keys ⟨es, [], []⟩).1
    let m := (addKeys c t.keys ⟨es, [], []⟩).1
    m.entities = (if c.features.foreignKey then full.entities
      else full.entities.map Entity.unlinked) ∧
    m.accessors = (full.accessors.filter (·.isSwitchedOn c.features)).map
      (if c.features.foreignKey then id else Accessor.unlinked) := by
  obtain ⟨foreign, others, hkeys, hforeign, hothers⟩ := t.exists_keys_eq
  have hkinds : ∀ a ∈ (addKeys c.withAllKeys foreign ⟨es, [], []⟩).1.accessors,
      a.isSwitchedOn c.features = c.features.foreignKey := by
    intro a ha
    unfold Accessor.isSwitchedOn
    rw [kind_of_mem_addKeys hforeign ha]
  have hunlinked : (addKeys c.withAllKeys foreign ⟨es, [], []⟩).1.entities.map Entity.unlinked =
      es :=
    (map_unlinked_foldl _ _ _).trans (map_unlinked_eq_self hes)
  have hsame (m : Model) : accessorOf? c.withAllKeys m = accessorOf? c m := rfl
  dsimp only
  rw [hkeys, addKeys_append c hes hforeign hothers,
    addKeys_append c.withAllKeys hes hforeign hothers, addKeys_foreign c _ hforeign,
    filter_keeps c]
  -- Both models go on from the one that the foreign keys give, or from one without links.
  generalize (addKeys c.withAllKeys foreign ⟨es, [], []⟩) = r at hkinds hunlinked ⊢
  dsimp only
  rw [filterMap_accessorOf?_filter, hsame, List.filter_append, List.filter_congr hkinds]
  cases c.features.foreignKey with
  | true => simp
  | false =>
    have hempty (keys : List Key) : (keys.filterMap (accessorOf? c r.1)).map Accessor.unlinked =
        keys.filterMap (accessorOf? c ⟨es, [], []⟩) := by
      rw [List.map_filterMap]
      exact List.filterMap_congr fun k _ => map_unlinked_accessorOf? hunlinked k
    have hfilter (as : List Accessor) : (as.map Accessor.unlinked).filter
        (·.isSwitchedOn c.features) =
          (as.filter (·.isSwitchedOn c.features)).map Accessor.unlinked := by
      rw [List.filter_map]
      rfl
    refine ⟨hunlinked.symm, ?_⟩
    simp only [Bool.false_eq_true, if_false, List.filter_false, List.nil_append, ← hfilter, hempty]

theorem isSwitchedOn_withAllKeys (c : Config) (d : KeyElement) :
    d.isSwitchedOn c.withAllKeys.features = true := by
  unfold KeyElement.isSwitchedOn Config.withAllKeys
  cases d.kind <;> simp

theorem isKept_eq (c : Config) (es : List Entity) (d : KeyElement) :
    d.isKept c es = (d.isSwitchedOn c.features && d.isKept c.withAllKeys es) := by
  have hoverrides : c.withAllKeys.overrides = c.overrides := rfl
  unfold KeyElement.isKept
  rw [isSwitchedOn_withAllKeys, hoverrides, Bool.and_true]
  cases d.isSwitchedOn c.features <;> simp

/-- The warnings of a key are there if its switch is on. -/
theorem addKeys_warnings (c : Config) (t : Schema.Tree) (es : List Entity) :
    (addKeys c t.keys ⟨es, [], []⟩).2 =
      (((KeyElement.all t).filter (·.isKept c.withAllKeys es)).filter
        (·.isSwitchedOn c.features)).flatMap (·.warnings es) := by
  rw [(Resolves.addKeys c es t.keys).warnings, KeyElement.keys_eq, KeyElement.flatMap_warnings,
    List.filter_filter]
  exact congrArg (List.flatMap _) (List.filter_congr fun d _ => isKept_eq c es d)

theorem ofSchema_snd (c : Config) (t : Schema.Tree) :
    (ofSchema c t).2 = (entitiesOf c t.tables).2 ++
      (addKeys c t.keys ⟨(entitiesOf c t.tables).1, [], []⟩).2 := rfl

end Model

/-- Every switch takes away the accessors and the warnings of its own keys and nothing else, but
the switch for foreign keys also takes away all links. -/
theorem switches_are_filters (c : Config) (t : Schema.Tree) :
    let full := Model.ofSchema c.withAllKeys t
    let r := Model.ofSchema c t
    let es := (Model.entitiesOf c t.tables).1
    let entityWarnings := (Model.entitiesOf c t.tables).2
    let kept := (KeyElement.all t).filter (·.isKept c.withAllKeys es)
    r.1.entities = (if c.features.foreignKey then full.1.entities
      else full.1.entities.map Entity.unlinked) ∧
    r.1.accessors = (full.1.accessors.filter (·.isSwitchedOn c.features)).map
      (if c.features.foreignKey then id else Accessor.unlinked) ∧
    r.1.routines = full.1.routines ∧
    full.2 = entityWarnings ++ kept.flatMap (·.warnings es) ∧
    r.2 = entityWarnings ++ (kept.filter (·.isSwitchedOn c.features)).flatMap (·.warnings es) := by
  intro full r es entityWarnings kept
  have hr : r.1 = { (Model.addKeys c t.keys ⟨es, [], []⟩).1 with routines := t.routines } :=
    Model.ofSchema_fst c t
  have hfull : full.1 = { (Model.addKeys c.withAllKeys t.keys ⟨es, [], []⟩).1 with
      routines := t.routines } := by
    rw [Model.ofSchema_fst, Model.entitiesOf_withAllKeys]
  obtain ⟨hentities, haccessors⟩ := Model.addKeys_switched c t (Model.foreigns_entitiesFrom c [] _)
  refine ⟨?_, ?_, rfl, ?_, ?_⟩
  · rw [hr, hfull]
    exact hentities
  · rw [hr, hfull]
    exact haccessors
  · have hkept : kept.filter (·.isSwitchedOn c.withAllKeys.features) = kept :=
      List.filter_eq_self.mpr fun d _ => Model.isSwitchedOn_withAllKeys c d
    rw [Model.ofSchema_snd, Model.entitiesOf_withAllKeys, Model.addKeys_warnings]
    exact congrArg (fun ds => entityWarnings ++ ds.flatMap (·.warnings es)) hkept
  · rw [Model.ofSchema_snd, Model.addKeys_warnings]

end DataLayer
