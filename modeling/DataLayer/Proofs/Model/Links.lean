import DataLayer.Model.Entities
import DataLayer.Proofs.Model.Keys
import Mathlib.Data.List.Find

/-!
The accessors that entities and primary keys refer to. Foreign keys are resolved first, so when a
primary key looks for a foreign key, all that refer to its entity are known.
-/

namespace DataLayer

open Schema (Key KeyElement)

namespace Accessor

/-- The parameters of `f` refer to those of `a`, position by position. -/
def RefersTo (f a : Accessor) : Prop :=
  f.params.length = a.params.length ∧ ∀ (i : Nat) p q, f.params[i]? = some p →
    a.params[i]? = some q → p.foreignName = some q.name

theorem references_iff (f a : Accessor) :
    f.references (a.params.map (·.name)) = true ↔ f.RefersTo a := by
  unfold references foreignNames RefersTo
  rw [beq_iff_eq, List.map_map]
  generalize f.params = ps
  generalize a.params = qs
  induction ps generalizing qs with
  | nil => cases qs <;> simp
  | cons p ps ih =>
    cases qs with
    | nil => simp
    | cons q qs =>
      rw [List.map_cons, List.map_cons, List.cons.injEq, ih qs]
      constructor
      · rintro ⟨hpq, hlength, hrest⟩
        refine ⟨by simp [hlength], fun i p' q' hp hq => ?_⟩
        cases i with
        | zero =>
          obtain rfl : p = p' := by simpa using hp
          obtain rfl : q = q' := by simpa using hq
          exact hpq
        | succ i => exact hrest i p' q' (by simpa using hp) (by simpa using hq)
      · rintro ⟨hlength, hall⟩
        refine ⟨hall 0 p q rfl rfl, by simpa using hlength, fun i p' q' hp hq => ?_⟩
        exact hall (i + 1) p' q' (by simpa using hp) (by simpa using hq)

theorem map_name_params {c : Config} {e : Entity} {k : Key} {a : Accessor}
    (h : ofKey c e k = .ok a) : a.params.map (·.name) = k.columns := by
  obtain ⟨params, hparams, rfl⟩ := ofKey_eq_ok h
  obtain ⟨-, hlength, hall⟩ := paramsOf_eq_ok hparams
  refine List.ext_getElem? fun i => ?_
  rw [List.getElem?_map]
  cases hi : k.columns[i]? with
  | none =>
    have hnone : params[i]? = none := by
      rw [List.getElem?_eq_none_iff] at hi ⊢
      omega
    simp [hnone]
  | some column =>
    obtain ⟨p, hp, hparam⟩ := hall i column hi
    have hname : p.name = column := by simpa using List.find?_some hp
    simp [hparam, hname]

end Accessor

namespace Model

/-- A number is that of the accessor of a foreign key. -/
def NamesForeign (m : Model) (number : Nat) : Prop :=
  ∃ f, m.accessor? number = some f ∧ f.kind = .foreignKey

/-- The foreign key that the accessor of a primary key is linked to. -/
def partner? (m : Model) (a : Accessor) : Option Nat :=
  (m.entity? a.table).bind fun e => m.referring? e (a.params.map (·.name))

/-- All references between entities and accessors are those that there should be. -/
structure Links (m : Model) : Prop where
  entity : ∀ e ∈ m.entities, ∀ number ∈ e.foreigns, m.NamesForeign number
  accessor : ∀ a ∈ m.accessors,
    a.foreigns = if a.kind = .primaryKey then (m.partner? a).toList else []

theorem NamesForeign.lt {m : Model} {number : Nat} (h : m.NamesForeign number) :
    number < m.accessors.length := by
  obtain ⟨f, hf, -⟩ := h
  exact (List.getElem?_eq_some_iff.mp hf).1

variable {m m' : Model} {more : List Accessor}

theorem accessor?_of_append (h : m'.accessors = m.accessors ++ more) {number : Nat}
    (hlt : number < m.accessors.length) : m'.accessor? number = m.accessor? number := by
  unfold accessor?
  rw [h, List.getElem?_append_left hlt]

theorem NamesForeign.of_append (h : m'.accessors = m.accessors ++ more) {number : Nat}
    (hnames : m.NamesForeign number) : m'.NamesForeign number := by
  have hlt := hnames.lt
  obtain ⟨f, hf, hkind⟩ := hnames
  exact ⟨f, (accessor?_of_append h hlt).trans hf, hkind⟩

theorem referring?_of_append (h : m'.accessors = m.accessors ++ more) {e : Entity}
    (hnames : ∀ number ∈ e.foreigns, m.NamesForeign number) (columns : List String) :
    m'.referring? e columns = m.referring? e columns := by
  unfold referring?
  refine List.find?_congr fun number hnumber => ?_
  rw [accessor?_of_append h (hnames number hnumber).lt]

/-- What an accessor is linked to stays the same when accessors are added and its entity stays. -/
theorem partner?_of_append (hlinks : Links m) (h : m'.accessors = m.accessors ++ more)
    (hentity : ∀ table, m'.entity? table = m.entity? table) (a : Accessor) :
    m'.partner? a = m.partner? a := by
  unfold partner?
  rw [hentity]
  cases he : m.entity? a.table with
  | none => rfl
  | some e =>
    have hmem : e ∈ m.entities := List.mem_of_find?_eq_some he
    exact referring?_of_append h (hlinks.entity e hmem) _

namespace Links

variable {c : Config} {r : Resolution} {k : Key}

theorem start {es : List Entity} (hes : ∀ e ∈ es, e.foreigns = []) :
    Links ⟨es, [], []⟩ := by
  refine ⟨fun e he number hnumber => ?_, by simp⟩
  rw [hes e he] at hnumber
  cases hnumber

/-- What is to be known about the accessor that is added. -/
theorem exists_addAccessor {e : Entity} {a : Accessor} (r : Resolution)
    (hkey : Accessor.ofKey c e k = .ok a) :
    ∃ b, (Model.addAccessor k e a r).1.accessors = r.1.accessors ++ [b] ∧ b.kind = k.kind ∧
      b.table = e.table ∧ b.params.map (·.name) = k.columns ∧
      b.foreigns = if k.kind = .primaryKey then (r.1.referring? e k.columns).toList else [] := by
  have hnames := Accessor.map_name_params hkey
  obtain ⟨params, -, rfl⟩ := Accessor.ofKey_eq_ok hkey
  exact ⟨_, addAccessor_accessors k e _ r, rfl, rfl, hnames, rfl⟩

theorem namesForeign_addAccessor (h : Links r.1) {e : Entity} {a : Accessor}
    (hkey : Accessor.ofKey c e k = .ok a) {e' : Entity}
    (he' : e' ∈ (Model.addAccessor k e a r).1.entities) {number : Nat}
    (hnumber : number ∈ e'.foreigns) :
    (Model.addAccessor k e a r).1.NamesForeign number := by
  obtain ⟨b, hnew, hkind, -⟩ := exists_addAccessor r hkey
  rcases mem_entities_of_addAccessor he' with hold | ⟨hforeign, old, hold, rfl⟩
  · exact (h.entity e' hold number hnumber).of_append hnew
  · rcases List.mem_append.mp hnumber with hnumber | hnumber
    · exact (h.entity old hold number hnumber).of_append hnew
    · obtain rfl : number = r.1.accessors.length := by simpa using hnumber
      refine ⟨b, ?_, hkind.trans hforeign⟩
      unfold accessor?
      rw [hnew, List.getElem?_concat_length]

/-- A foreign key may only come when there are no accessors but those of foreign keys. -/
theorem addAccessor (h : Links r.1) {e : Entity} {a : Accessor}
    (hfirst : k.kind = .foreignKey → ∀ x ∈ r.1.accessors, x.kind = .foreignKey)
    (howner : r.1.entity? k.table = some e) (hkey : Accessor.ofKey c e k = .ok a) :
    Links (Model.addAccessor k e a r).1 := by
  refine ⟨fun e' he' number hnumber => h.namesForeign_addAccessor hkey he' hnumber, ?_⟩
  obtain ⟨b, hnew, hkind, htable, hcolumns, hforeigns⟩ := exists_addAccessor r hkey
  intro x hx
  rw [hnew, List.mem_append, List.mem_singleton] at hx
  by_cases hforeign : k.kind = .foreignKey
  · rcases hx with hx | rfl
    · have hx' := h.accessor x hx
      rw [hfirst hforeign x hx, if_neg (by decide)] at hx'
      rw [hfirst hforeign x hx, if_neg (by decide), hx']
    · rw [hkind, hforeigns, hforeign, if_neg (by decide), if_neg (by decide)]
  -- The entities stay, so all that is linked stays linked in the same way.
  · have hentity (table : String) :
        (Model.addAccessor k e a r).1.entity? table = r.1.entity? table := by
      rw [addAccessor_entity?]
      simp [Schema.Key.target?, hforeign]
    rw [partner?_of_append h hnew hentity x]
    rcases hx with hx | rfl
    · exact h.accessor x hx
    · have hname : e.table = k.table := by simpa using List.find?_some howner
      have hpartner : r.1.partner? x = r.1.referring? e k.columns := by
        rw [partner?, htable, hname, howner, hcolumns, Option.bind_some]
      rw [hkind, hforeigns, hpartner]

theorem addKey (h : Links r.1)
    (hfirst : k.kind = .foreignKey → ∀ x ∈ r.1.accessors, x.kind = .foreignKey) :
    Links (addKey c r k).1 := by
  unfold Model.addKey
  cases howner : r.1.entity? k.table with
  | none => exact h
  | some e =>
    dsimp only
    cases hkey : Accessor.ofKey c e k with
    | error column => exact h
    | ok a => exact h.addAccessor hfirst howner hkey

/-- Keys can be resolved one after the other if no foreign key comes after another key. -/
theorem foldl {es : List Entity} {keys : List Key} (hresolves : Resolves c es keys r)
    (h : Links r.1) {more : List Key}
    (hsorted : (keys ++ more).Pairwise fun k k' => k'.kind = .foreignKey → k.kind = .foreignKey) :
    Links (more.foldl (Model.addKey c) r).1 := by
  induction more generalizing keys r with
  | nil => exact h
  | cons k more ih =>
    refine ih (hresolves.addKey k) (h.addKey fun hforeign x hx => ?_) ?_
    · obtain ⟨k', hk', hkind⟩ := hresolves.exists_key hx
      rw [hkind]
      exact (List.pairwise_append.mp hsorted).2.2 k' hk' k (by simp) hforeign
    · rwa [List.append_assoc]

end Links

end Model

namespace Schema

/-- Foreign keys are declared first. -/
theorem Tree.keys_pairwise (t : Tree) :
    t.keys.Pairwise fun k k' => k'.kind = .foreignKey → k.kind = .foreignKey := by
  have hall : (KeyElement.all t).Pairwise fun d d' =>
      d'.kind = .foreignKey → d.kind = .foreignKey := by
    unfold KeyElement.all
    simp [List.pairwise_append, List.pairwise_map, List.pairwise_of_forall]
  rw [KeyElement.keys_eq, List.pairwise_filterMap]
  refine hall.imp fun {d d'} hkinds k hk k' hk' => ?_
  rw [(KeyElement.key?_eq_some hk).2.2, (KeyElement.key?_eq_some hk').2.2]
  exact hkinds

theorem KeyElement.getElem?_filterMap {ds : List KeyElement} (hds : ∀ d ∈ ds, d.key?.isSome)
    (i : Nat) : (ds.filterMap key?)[i]? = ds[i]?.bind key? := by
  induction ds generalizing i with
  | nil => simp
  | cons d ds ih =>
    obtain ⟨k, hk⟩ := Option.isSome_iff_exists.mp (hds d (by simp))
    rw [List.filterMap_cons, hk]
    cases i with
    | zero => simp [hk]
    | succ i => simpa using ih (fun d hd => hds d (by simp [hd])) i

end Schema

namespace Model

theorem foreigns_entitiesFrom (c : Config) (used : List String) (tables : List Schema.Table) :
    ∀ e ∈ (entitiesFrom c used tables).1, e.foreigns = [] := by
  intro e he
  obtain ⟨table, -, added, -, rfl⟩ :=
    exists_of_forall₂_mem (forall₂_entitiesFrom c used tables) he
  rfl

theorem mem_referrers {table : String} {keys : List Key} {id : Nat} :
    id ∈ referrers table keys ↔ ∃ k, keys[id]? = some k ∧ k.target? = some table := by
  unfold referrers
  rw [List.mem_filter, List.mem_range, Option.any_eq_true]
  constructor
  · rintro ⟨-, k, hk, htarget⟩
    exact ⟨k, hk, by simpa using htarget⟩
  · rintro ⟨k, hk, htarget⟩
    exact ⟨(List.getElem?_eq_some_iff.mp hk).1, k, hk, by simpa using htarget⟩

theorem mem_referrers_filterMap {table : String} {ds : List KeyElement} {id : Nat}
    (hds : ∀ d ∈ ds, d.key?.isSome) :
    id ∈ referrers table (ds.filterMap KeyElement.key?) ↔ ∃ d, ds[id]? = some d ∧
      d.kind = .foreignKey ∧ d.element.reference? "ForeignTable" = some table := by
  have htarget {d : KeyElement} {k : Key} (h : d.key? = some k) : k.target? = some table ↔
      d.kind = .foreignKey ∧ d.element.reference? "ForeignTable" = some table := by
    rw [(KeyElement.key?_eq_some h).2.2]
    unfold Key.target? KeyElement.foreignTable?
    cases d.kind <;> simp
  rw [mem_referrers, KeyElement.getElem?_filterMap hds]
  constructor
  · rintro ⟨k, hk, htable⟩
    obtain ⟨d, hd, hkey⟩ := Option.bind_eq_some_iff.mp hk
    exact ⟨d, hd, (htarget hkey).mp htable⟩
  · rintro ⟨d, hd, htable⟩
    obtain ⟨k, hkey⟩ := Option.isSome_iff_exists.mp (hds d (List.mem_of_getElem? hd))
    exact ⟨k, by rw [hd, Option.bind_some, hkey], (htarget hkey).mpr htable⟩

/-- Looking for a foreign key finds the first that refers to the parameters of an accessor. -/
theorem referring?_spec (m : Model) (e : Entity) (a : Accessor) :
    match m.referring? e (a.params.map (·.name)) with
    | none => ∀ id ∈ e.foreigns, ∀ f, m.accessors[id]? = some f → ¬f.RefersTo a
    | some id => ∃ before after f, e.foreigns = before ++ id :: after ∧
        m.accessors[id]? = some f ∧ f.RefersTo a ∧
        ∀ x ∈ before, ∀ g, m.accessors[x]? = some g → ¬g.RefersTo a := by
  have hany (id : Nat) : (m.accessor? id).any (·.references (a.params.map (·.name))) = true ↔
      ∃ f, m.accessors[id]? = some f ∧ f.RefersTo a := by
    rw [Option.any_eq_true]
    simp only [Accessor.references_iff]
    rfl
  have hnot {id : Nat} (h : ¬(m.accessor? id).any (·.references (a.params.map (·.name))) = true)
      (f : Accessor) (hf : m.accessors[id]? = some f) : ¬f.RefersTo a :=
    fun hrefers => h ((hany id).mpr ⟨f, hf, hrefers⟩)
  split
  · next hnone => exact fun id hid => hnot (List.find?_eq_none.mp hnone id hid)
  · next id hsome =>
    obtain ⟨hid, before, after, hforeigns, hbefore⟩ := List.find?_eq_some_iff_append.mp hsome
    obtain ⟨f, hf, hrefers⟩ := (hany id).mp hid
    refine ⟨before, after, f, hforeigns, hf, hrefers, fun x hx => hnot ?_⟩
    simpa using hbefore x hx

namespace Links

theorem namesForeign {m : Model} (h : m.Links) {a : Accessor} (ha : a ∈ m.accessors) {id : Nat}
    (hid : id ∈ a.foreigns) : m.NamesForeign id := by
  rw [h.accessor a ha] at hid
  split at hid
  · have hpartner : m.partner? a = some id := by simpa using hid
    obtain ⟨e, he, hfind⟩ := Option.bind_eq_some_iff.mp hpartner
    exact h.entity e (List.mem_of_find?_eq_some he) id (List.mem_of_find?_eq_some hfind)
  · cases hid

theorem primary {m : Model} (h : m.Links) {a : Accessor} (ha : a ∈ m.accessors)
    (hkind : a.kind = .primaryKey) {e : Entity} (he : m.entity? a.table = some e) :
    (a.foreigns = [] ∧ ∀ id ∈ e.foreigns, ∀ f, m.accessors[id]? = some f → ¬f.RefersTo a) ∨
    ∃ before id after f, e.foreigns = before ++ id :: after ∧ m.accessors[id]? = some f ∧
      f.RefersTo a ∧ a.foreigns = [id] ∧
      ∀ x ∈ before, ∀ g, m.accessors[x]? = some g → ¬g.RefersTo a := by
  have hforeigns := h.accessor a ha
  rw [if_pos hkind, partner?, he, Option.bind_some] at hforeigns
  have hspec := m.referring?_spec e a
  cases hfind : m.referring? e (a.params.map (·.name)) with
  | none =>
    rw [hfind] at hforeigns hspec
    exact Or.inl ⟨hforeigns, hspec⟩
  | some id =>
    rw [hfind] at hforeigns hspec
    obtain ⟨before, after, f, happend, hf, hrefers, hbefore⟩ := hspec
    exact Or.inr ⟨before, id, after, f, happend, hf, hrefers, hforeigns, hbefore⟩

end Links

/-! The keys of a schema, from entities that refer to no accessors. -/

variable {es : List Entity}

theorem links_addKeys (c : Config) (t : Schema.Tree) (hes : ∀ e ∈ es, e.foreigns = []) :
    (addKeys c t.keys ⟨es, [], []⟩).1.Links :=
  Links.foldl (Resolves.start c es []) (Links.start hes)
    (t.keys_pairwise.sublist List.filter_sublist)

theorem foreigns_addKeys (c : Config) (t : Schema.Tree) (hes : ∀ e ∈ es, e.foreigns = [])
    {table : String} {e : Entity} (h : (addKeys c t.keys ⟨es, [], []⟩).1.entity? table = some e) :
    e.foreigns = if e.includeForeignKey
      then referrers table ((KeyElement.emitted c es t).filterMap KeyElement.key?) else [] := by
  rw [(Resolves.addKeys c es t.keys).entity, KeyElement.filter_keys] at h
  obtain ⟨old, hold, rfl⟩ := Option.map_eq_some_iff.mp h
  rw [hes old (List.mem_of_find?_eq_some hold)]
  rfl

/-- The entity of an accessor is still there. -/
theorem exists_entity?_of_mem_accessors (c : Config) (t : Schema.Tree) {a : Accessor}
    (ha : a ∈ (addKeys c t.keys ⟨es, [], []⟩).1.accessors) :
    ∃ e, (addKeys c t.keys ⟨es, [], []⟩).1.entity? a.table = some e := by
  obtain ⟨d, -, e, he, hda⟩ := exists_of_forall₂_mem (KeyElement.forall₂_accessors c es t) ha
  have hfind : es.find? (·.table == a.table) = some e := by
    unfold KeyElement.owner? at he
    rwa [hda.table] at he
  have hentity := (Resolves.addKeys c es t.keys).entity a.table
  rw [hfind, Option.map_some] at hentity
  exact ⟨_, hentity⟩

end Model

/-- Entities refer to the foreign keys that refer to them, and a primary key to the first of these
that refers to its columns, position by position. -/
theorem foreign_keys_linked (c : Config) (t : Schema.Tree) :
    let es := (Model.entitiesOf c t.tables).1
    let m := (Model.addKeys c t.keys { Model.empty with entities := es }).1
    let emitted := KeyElement.emitted c es t
    List.Forall₂ (fun d a => a.kind = d.kind ∧ d.element.objectName? = some a.key ∧
      d.table? = some a.table) emitted m.accessors ∧
    (∀ e ∈ m.entities, ∀ id ∈ e.foreigns, m.NamesForeign id) ∧
    (∀ a ∈ m.accessors, ∀ id ∈ a.foreigns, m.NamesForeign id) ∧
    (∀ e ∈ m.entities, m.entity? e.table = some e →
      e.foreigns.Pairwise (· < ·) ∧
      ∀ id, id ∈ e.foreigns ↔ e.includeForeignKey = true ∧ ∃ d, emitted[id]? = some d ∧
        d.kind = .foreignKey ∧ d.element.reference? "ForeignTable" = some e.table) ∧
    ∀ a ∈ m.accessors,
      match a.kind with
      | .foreignKey | .index => a.foreigns = []
      | .primaryKey => ∃ e, m.entity? a.table = some e ∧
        ((a.foreigns = [] ∧
          ∀ id ∈ e.foreigns, ∀ f, m.accessors[id]? = some f → ¬f.RefersTo a) ∨
        ∃ before id after f, e.foreigns = before ++ id :: after ∧
          m.accessors[id]? = some f ∧ f.RefersTo a ∧ a.foreigns = [id] ∧
          ∀ x ∈ before, ∀ g, m.accessors[x]? = some g → ¬g.RefersTo a) := by
  intro es m emitted
  have hes : ∀ e ∈ es, e.foreigns = [] := Model.foreigns_entitiesFrom c [] _
  have hlinks : m.Links := Model.links_addKeys c t hes
  refine ⟨?_, hlinks.entity, ?_, ?_, ?_⟩
  · refine (KeyElement.forall₂_accessors c es t).imp fun d a hda => ?_
    obtain ⟨e, -, hda⟩ := hda
    exact ⟨hda.kind, hda.key, hda.table⟩
  · exact fun a ha id hid => hlinks.namesForeign ha hid
  · intro e he hfirst
    rw [Model.foreigns_addKeys c t hes hfirst]
    cases e.includeForeignKey with
    | false => simp
    | true =>
      refine ⟨List.pairwise_lt_range.filter _, fun id => ?_⟩
      simp only [if_true, true_and]
      exact Model.mem_referrers_filterMap fun d => KeyElement.isSome_key?_of_mem_emitted
  · intro a ha
    have hforeigns := hlinks.accessor a ha
    cases hkind : a.kind with
    | foreignKey | index => rwa [hkind, if_neg (by decide)] at hforeigns
    | primaryKey =>
      obtain ⟨e, he⟩ := Model.exists_entity?_of_mem_accessors c t ha
      exact ⟨e, he, hlinks.primary ha hkind he⟩

end DataLayer
