import DataLayer.Proofs.Code.AccessClass
import DataLayer.Proofs.Model.Owners
import DataLayer.Proofs.Text.Separators

/-!
The methods of the data access interface that read rows, and what tells them apart: their names and
the types of their parameters. Both come from the table of a key, its columns, its uniqueness, the
links of its accessor and whether it is read asynchronously, and not from the kind or the name of
the key. So two keys that agree in all of that have their reads declared twice. Where names can be
decoded there is no other way to declare a read twice.
-/

namespace DataLayer

open Code Schema

/-! Reads. -/

/-- The method that reads the rows of an accessor. -/
def Accessor.read (a : Accessor) : Declaration := ⟨a, if a.unique then .getOne else .getMany⟩

namespace Model

/-- The methods that read rows. -/
def reads (m : Model) : List Declaration := m.declarations.filter (·.verb == "Get")

/-- The methods that save or delete rows. -/
def writes (m : Model) : List Declaration := m.declarations.filter (·.verb != "Get")

theorem reads_eq (m : Model) : m.reads =
    m.uniqueAccessors.map (⟨·, .getOne⟩) ++ m.multipleAccessors.map (⟨·, .getMany⟩) := by
  simp [reads, declarations, Action.all, accessorsOf, List.filter_map, Function.comp_def,
    Declaration.verb]

theorem declarations_eq_append (m : Model) : m.declarations = m.reads ++ m.writes := by
  rw [reads_eq]
  simp [writes, declarations, Action.all, accessorsOf, List.filter_map, Function.comp_def,
    Declaration.verb]

/-- The reads stand in front of the other methods of the interface. -/
theorem interfaceCode_eq_append (c : Config) (m : Model) :
    m.interfaceCode c = c.interfaceHead ++
      [indent 8 "void BeginTransaction();", indent 8 "void EndTransaction(bool commit = true);"] ++
      m.reads.map (fun d => indent 8 (d.signature c m ++ ";")) ++
      (m.writes.map (fun d => indent 8 (d.signature c m ++ ";")) ++
        [indent 4 closing, closing]) := by
  rw [interfaceCode, declarations_eq_append, List.map_append]
  simp only [List.append_assoc]

/-- Every accessor has one read. -/
theorem reads_perm (m : Model) : m.reads.Perm (m.accessors.map Accessor.read) := by
  have hone : m.uniqueAccessors.map (⟨·, .getOne⟩) = m.uniqueAccessors.map Accessor.read := by
    refine List.map_congr_left fun a ha => ?_
    rw [Accessor.read, if_pos (List.mem_filter.mp ha).2]
  have hmany : m.multipleAccessors.map (⟨·, .getMany⟩) = m.multipleAccessors.map Accessor.read := by
    refine List.map_congr_left fun a ha => ?_
    have hunique : a.unique = false := by simpa using (List.mem_filter.mp ha).2
    rw [Accessor.read, hunique, if_neg Bool.false_ne_true]
  rw [reads_eq, hone, hmany, ← List.map_append]
  exact (List.filter_append_perm (·.unique) m.accessors).map _

end Model

/-! Overloads. -/

namespace Accessor

/-- The types of the parameters for the columns of the key, with their names. -/
def typedParams (c : Config) (a : Accessor) : List (String × String) :=
  a.params.map fun p => ((c.typeOf p).name, Text.firstLower p.shortName)

/-- The table of the rows in the number that a read finds. -/
def subject (c : Config) (a : Accessor) : String := if a.unique then a.entity else c.plural a.entity

end Accessor

namespace Declaration

variable {c : Config} {m : Model}

/-- The parameters of a method, each as its type and its name. -/
def parameterList (c : Config) (m : Model) (d : Declaration) : List (String × String) :=
  match d.action with
  | .getOne => d.accessor.typedParams c ++ (m.accessorsAt d.accessor.foreigns).map fun f =>
      ("bool", "include" ++ c.plural f.entity ++ " = false")
  | .save | .saveIdentity => [(d.accessor.entity, Text.firstLower d.accessor.entity)]
  | .getMany | .deleteOne | .deleteMany => d.accessor.typedParams c

/-- What tells the methods of a type apart: the name and the types of the parameters. -/
def overload (c : Config) (m : Model) (d : Declaration) : String × List String :=
  (d.name c, (d.parameterList c m).map (·.1))

theorem intercalate_cons_append (sep s : String) (first more : List String) :
    sep.intercalate (s :: first ++ more) =
      sep.intercalate (s :: first) ++ String.join (more.map (sep ++ ·)) := by
  rw [List.cons_append, Template.intercalate_cons, Template.intercalate_cons, List.map_append,
    String.join_append, String.append_assoc]

/-- The parameters are written in this order. -/
theorem parameters_eq_intercalate {d : Declaration} (hparams : d.accessor.params ≠ []) :
    d.parameters c m = ", ".intercalate ((d.parameterList c m).map fun p => p.1 ++ " " ++ p.2) := by
  obtain ⟨a, action⟩ := d
  have hcode : a.paramCode c =
      ", ".intercalate ((a.typedParams c).map fun p => p.1 ++ " " ++ p.2) := by
    rw [Accessor.typedParams, List.map_map]
    rfl
  cases action with
  | getOne =>
    obtain ⟨first, rest, hfirst⟩ : ∃ first rest, a.typedParams c = first :: rest :=
      List.exists_cons_of_ne_nil (by simpa [Accessor.typedParams] using hparams)
    have hincludes : a.includeCode c m = String.join ((((m.accessorsAt a.foreigns).map fun f =>
        ("bool", "include" ++ c.plural f.entity ++ " = false")).map fun p =>
          p.1 ++ " " ++ p.2).map (", " ++ ·)) := by
      rw [Accessor.includeCode, List.map_map, List.map_map]
      refine congrArg String.join (List.map_congr_left fun f _ => ?_)
      simp [← String.append_assoc]
    show a.paramCode c ++ a.includeCode c m = _
    rw [hcode, hincludes, parameterList, hfirst, List.map_append, List.map_cons,
      intercalate_cons_append]
  | save | saveIdentity => simp [parameters, parameterList]
  | getMany | deleteOne | deleteMany => exact hcode

theorem overload_read (c : Config) (m : Model) (a : Accessor) :
    a.read.overload c m =
      ("Get" ++ a.subject c ++ a.byCode ++ Accessor.asyncSuffix a.asyncs.get,
        (a.typedParams c).map (·.1) ++
          if a.unique then (m.accessorsAt a.foreigns).map fun _ => "bool" else []) := by
  unfold overload Accessor.read Accessor.subject
  cases a.unique with
  | false => simp [name, verb, Declaration.subject, isAsync, parameterList]
  | true =>
    simp only [name, verb, Declaration.subject, isAsync, parameterList, if_true, List.map_append,
      List.map_map]
    rfl

end Declaration

/-! What the read of a key depends on. -/

/-- What a key is, for the read of its accessor. -/
structure KeyShape where
  table : String
  unique : Bool
  columns : List String
  async : Bool
  /-- How many kinds of child rows are read together with a row. -/
  links : Nat
  deriving DecidableEq, Repr

def Accessor.shape (a : Accessor) : KeyShape :=
  ⟨a.table, a.unique, a.params.map (·.name), a.asyncs.get, a.foreigns.length⟩

/-- A property without the column that it refers to. -/
def Property.plain (p : Property) : Property := { p with foreignName := none }

namespace Model

variable {c : Config} {t : Schema.Tree} {a b : Accessor}

/-- The parameters of an accessor are the properties that its entity has under their names. -/
theorem exists_owner_params (ha : a ∈ (ofSchema c t).1.accessors) :
    ∃ e, (entitiesOf c t.tables).1.find? (·.table == a.table) = some e ∧ a.entity = e.name ∧
      ∀ q ∈ a.params, (e.property? q.name).map Property.plain = some q.plain := by
  rw [ofSchema_fst] at ha
  obtain ⟨d, -, e, howner, hd⟩ :=
    exists_of_forall₂_mem (KeyElement.forall₂_accessors c (entitiesOf c t.tables).1 t) ha
  refine ⟨e, ?_, hd.entity, fun q hq => ?_⟩
  · unfold KeyElement.owner? at howner
    rwa [hd.table] at howner
  · obtain ⟨i, hi, rfl⟩ := List.getElem_of_mem hq
    have hlength : i < d.columns.length := hd.length ▸ hi
    obtain ⟨p, hp, hparam⟩ := hd.params i _ (List.getElem?_eq_getElem hlength)
    rw [List.getElem?_eq_getElem hi] at hparam
    have hname : p.name = d.columns[i] := by simpa using List.find?_some hp
    rw [Option.some.inj hparam]
    show (e.property? p.name).map Property.plain = some p.plain
    rw [hname, hp, Option.map_some]

/-- Accessors over the same columns of a table have the same entity and the same parameters, but for
the columns that these refer to. -/
theorem map_params_eq (ha : a ∈ (ofSchema c t).1.accessors) (hb : b ∈ (ofSchema c t).1.accessors)
    (htable : a.table = b.table) (hcolumns : a.params.map (·.name) = b.params.map (·.name)) :
    a.entity = b.entity ∧ ∀ {β : Type} (f : Property → β), (∀ p, f p.plain = f p) →
      a.params.map f = b.params.map f := by
  obtain ⟨e, he, hname, hparams⟩ := exists_owner_params ha
  obtain ⟨e', he', hname', hparams'⟩ := exists_owner_params hb
  rw [← htable, he] at he'
  obtain rfl := Option.some.inj he'
  refine ⟨hname.trans hname'.symm, fun f hf => ?_⟩
  have hfound (ps : List Property)
      (hps : ∀ q ∈ ps, (e.property? q.name).map Property.plain = some q.plain) :
      (ps.map f).map some = (ps.map (·.name)).map fun name => (e.property? name).map f := by
    rw [List.map_map, List.map_map]
    refine List.map_congr_left fun q hq => ?_
    obtain ⟨p, hp, hplain⟩ := Option.map_eq_some_iff.mp (hps q hq)
    simp only [Function.comp_apply, hp, Option.map_some]
    rw [← hf p, hplain, hf q]
  have hsame := hfound _ hparams
  rw [hcolumns, ← hfound _ hparams'] at hsame
  exact (List.map_inj_right fun _ _ => Option.some.inj).mp hsame

/-- Every number that an accessor refers to is that of an accessor, and only unique ones refer to
any. -/
theorem length_accessorsAt (ha : a ∈ (ofSchema c t).1.accessors) :
    ((ofSchema c t).1.accessorsAt a.foreigns).length = a.foreigns.length ∧
      (a.unique = false → a.foreigns = []) := by
  obtain ⟨e, -, howned⟩ := exists_ownedBy c t ha
  constructor
  · rw [accessorsAt, List.length_filterMap_eq_countP, List.countP_eq_length]
    intro id hid
    obtain ⟨-, -, f, hf, -⟩ := howned.foreigns id hid
    simp [accessor?, hf]
  · intro hunique
    refine List.eq_nil_iff_forall_not_mem.mpr fun id hid => ?_
    rw [(howned.foreigns id hid).1] at hunique
    contradiction

/-- Keys that agree in what the reads depend on have the same read. -/
theorem overload_eq_of_shape_eq (ha : a ∈ (ofSchema c t).1.accessors)
    (hb : b ∈ (ofSchema c t).1.accessors) (h : a.shape = b.shape) :
    a.read.overload c (ofSchema c t).1 = b.read.overload c (ofSchema c t).1 := by
  obtain ⟨htable, hunique, hcolumns, hasync, hlinks⟩ := KeyShape.mk.inj h
  obtain ⟨hentity, hparams⟩ := map_params_eq ha hb htable hcolumns
  have hby : a.byCode = b.byCode := by
    rw [Accessor.byCode, Accessor.byCode, hparams Property.shortName fun _ => rfl]
  have htyped : a.typedParams c = b.typedParams c := hparams _ fun _ => rfl
  rw [Declaration.overload_read, Declaration.overload_read, Accessor.subject, Accessor.subject,
    hby, htyped, hunique, hentity, hasync]
  simp only [List.map_const', (length_accessorsAt ha).1, (length_accessorsAt hb).1, hlinks]

end Model

/-! Names that can be decoded. -/

/-- Names of columns that can be told from a name that they are joined to. -/
def LegibleColumn (name : String) : Prop :=
  name ≠ "" ∧ ¬['A', 'n', 'd'] <:+: name.toList ∧ ¬['A', 's', 'y', 'n', 'c'] <:+ name.toList

instance (name : String) : Decidable (LegibleColumn name) :=
  inferInstanceAs (Decidable (_ ∧ _ ∧ _))

theorem eq_of_append_asyncSuffix {x y : List Char} {async async' : Bool}
    (hx : ¬['A', 's', 'y', 'n', 'c'] <:+ x) (hy : ¬['A', 's', 'y', 'n', 'c'] <:+ y)
    (h : x ++ (Accessor.asyncSuffix async).toList = y ++ (Accessor.asyncSuffix async').toList) :
    x = y ∧ async = async' := by
  cases async <;> cases async' <;> simp only [Accessor.asyncSuffix] at h
  · exact ⟨by simpa using h, rfl⟩
  · exact absurd ⟨y, by simpa using h.symm⟩ hx
  · exact absurd ⟨x, by simpa using h⟩ hy
  · exact ⟨List.append_cancel_right h, rfl⟩

/-- The name of a read says what it is made of. -/
theorem decode_readName {subject subject' : String} {names names' : List String}
    {async async' : Bool} (hsubject : ¬['B', 'y'] <:+: subject.toList)
    (hsubject' : ¬['B', 'y'] <:+: subject'.toList) (hnames : ∀ name ∈ names, LegibleColumn name)
    (hnames' : ∀ name ∈ names', LegibleColumn name)
    (h : "Get" ++ subject ++ ("By" ++ "And".intercalate names) ++ Accessor.asyncSuffix async =
      "Get" ++ subject' ++ ("By" ++ "And".intercalate names') ++ Accessor.asyncSuffix async') :
    subject = subject' ∧ names = names' ∧ async = async' := by
  have hend (names : List String) (hnames : ∀ name ∈ names, LegibleColumn name) :
      ¬['A', 's', 'y', 'n', 'c'] <:+ ['A', 'n', 'd'].intercalate (names.map String.toList) := by
    apply Text.not_suffix_intercalate ['A', 'n'] 'd' (by simp) (by decide)
    intro part hpart
    obtain ⟨name, hname, rfl⟩ := List.mem_map.mp hpart
    exact (hnames name hname).2.2
  have hparts (names : List String) (hnames : ∀ name ∈ names, LegibleColumn name) :
      ∀ part ∈ names.map String.toList, part ≠ [] ∧ ¬['A', 'n', 'd'] <:+: part := by
    intro part hpart
    obtain ⟨name, hname, rfl⟩ := List.mem_map.mp hpart
    exact ⟨by simpa using (hnames name hname).1, (hnames name hname).2.1⟩
  -- The subject ends at the first `By`; behind it, the async suffix is cut off before the columns.
  have hchars := congrArg String.toList h
  simp only [String.toList_append, String.toList_intercalate, List.append_assoc] at hchars
  obtain ⟨hsame, hrest⟩ := Text.eq_of_append_separator (by decide) hsubject hsubject'
    (List.append_cancel_left hchars)
  obtain ⟨hjoined, hasync⟩ :=
    eq_of_append_asyncSuffix (hend names hnames) (hend names' hnames') hrest
  have hlists :=
    Text.intercalate_inj (by decide) (hparts names hnames) (hparts names' hnames') hjoined
  exact ⟨String.toList_inj.mp hsame,
    (List.map_inj_right fun _ _ => String.toList_inj.mp).mp hlists, hasync⟩

/-- The names in a model can be told from the names of the reads. -/
structure Model.Legible (c : Config) (m : Model) : Prop where
  subject : ∀ a ∈ m.accessors, ∀ b ∈ m.accessors, a.subject c = b.subject c →
    a.table = b.table ∧ a.unique = b.unique
  no_by : ∀ a ∈ m.accessors, ¬['B', 'y'] <:+: (a.subject c).toList
  column : ∀ a ∈ m.accessors, ∀ p ∈ a.params, LegibleColumn p.shortName
  short : ∀ a ∈ m.accessors, ∀ b ∈ m.accessors, a.table = b.table →
    ∀ p ∈ a.params, ∀ q ∈ b.params, p.shortName = q.shortName → p.name = q.name

/-- Equal images under one function have equal images under another one that it tells. -/
theorem map_eq_of_map_eq {α β γ : Type} {f : α → β} {g : α → γ} {xs ys : List α}
    (h : ∀ x ∈ xs, ∀ y ∈ ys, f x = f y → g x = g y) (hmap : xs.map f = ys.map f) :
    xs.map g = ys.map g := by
  induction xs generalizing ys with
  | nil =>
    obtain rfl : ys = [] := by simpa using hmap.symm
    rfl
  | cons x xs ih =>
    cases ys with
    | nil => contradiction
    | cons y ys =>
      obtain ⟨hfirst, hrest⟩ := List.cons.inj hmap
      rw [List.map_cons, List.map_cons, h x (by simp) y (by simp) hfirst,
        ih (fun x hx y hy => h x (by simp [hx]) y (by simp [hy])) hrest]

/-- Keys with the same read agree in what the reads depend on. -/
theorem Model.Legible.shape_eq {c : Config} {t : Schema.Tree} {a b : Accessor}
    (h : (ofSchema c t).1.Legible c) (ha : a ∈ (ofSchema c t).1.accessors)
    (hb : b ∈ (ofSchema c t).1.accessors)
    (hsame : a.read.overload c (ofSchema c t).1 = b.read.overload c (ofSchema c t).1) :
    a.shape = b.shape := by
  rw [Declaration.overload_read, Declaration.overload_read] at hsame
  obtain ⟨hname, htypes⟩ := Prod.mk.inj hsame
  have hlegible {a : Accessor} (ha : a ∈ (ofSchema c t).1.accessors) :
      ∀ name ∈ a.params.map Property.shortName, LegibleColumn name := by
    intro name hname
    obtain ⟨p, hp, rfl⟩ := List.mem_map.mp hname
    exact h.column a ha p hp
  obtain ⟨hsubject, hshort, hasync⟩ := decode_readName (h.no_by a ha) (h.no_by b hb)
    (hlegible ha) (hlegible hb) hname
  obtain ⟨htable, hunique⟩ := h.subject a ha b hb hsubject
  have hcolumns : a.params.map (·.name) = b.params.map (·.name) :=
    map_eq_of_map_eq (h.short a ha b hb htable) hshort
  have hlinks : a.foreigns.length = b.foreigns.length := by
    obtain ⟨hlength, hnone⟩ := length_accessorsAt ha
    obtain ⟨hlength', hnone'⟩ := length_accessorsAt hb
    -- Every link of a unique key has a parameter, so the types count the links.
    cases hb' : b.unique with
    | false => rw [hnone (hunique.trans hb'), hnone' hb']
    | true =>
      have hcount := congrArg List.length htypes
      have hparams := congrArg List.length hcolumns
      simp only [hunique, hb', if_true, List.length_append, List.length_map, Accessor.typedParams]
        at hcount hparams
      omega
  rw [Accessor.shape, Accessor.shape, htable, hunique, hcolumns, hasync, hlinks]

/-! The reads of a model. -/

namespace Schema.KeyElement

/-- What the read of a key depends on, by the element that declares the key. -/
def shape (c : Config) (links : Nat) (d : KeyElement) : KeyShape :=
  ⟨d.table?.getD "", d.isUnique, d.columns, ((c.overrides.async? d.name).getD c.asyncDefaults).get,
    links⟩

theorem IsAccessor.shape_eq {c : Config} {e : Entity} {d : KeyElement} {a : Accessor}
    (h : d.IsAccessor c e a) : a.shape = d.shape c a.foreigns.length := by
  have hcolumns : a.params.map (·.name) = d.columns := by
    refine List.ext_getElem (by simpa using h.length) fun i hi hi' => ?_
    obtain ⟨p, hp, hparam⟩ := h.params i _ (List.getElem?_eq_getElem hi')
    have hname : p.name = d.columns[i] := by simpa using List.find?_some hp
    rw [List.length_map] at hi
    rw [List.getElem?_eq_getElem hi] at hparam
    rw [List.getElem_map, Option.some.inj hparam, ← hname]
  have hkey : d.name = a.key := by rw [name, h.key, Option.getD_some]
  rw [Accessor.shape, shape, hcolumns, h.unique, h.table, h.asyncs, hkey, Option.getD_some]

end Schema.KeyElement

theorem nodup_map_of_nodup_map {α β γ : Type} {f : α → β} {g : α → γ} {l : List α}
    (h : ∀ a ∈ l, ∀ b ∈ l, g a = g b → f a = f b) (hf : (l.map f).Nodup) : (l.map g).Nodup :=
  List.pairwise_map.mpr ((List.pairwise_map.mp hf).imp_of_mem fun ha hb hne hsame =>
    hne (h _ ha _ hb hsame))

theorem Model.nodup_map_reads_iff (m : Model) {β : Type} (f : Declaration → β) :
    (m.reads.map f).Nodup ↔ (m.accessors.map fun a => f a.read).Nodup := by
  rw [(m.reads_perm.map f).nodup_iff, List.map_map]
  rfl

/-- The interface declares the reads first, each under its name with its parameters. If no two of
them have the same name and the same types of parameters, then no two keys agree in their tables,
their columns, their uniqueness, the number of their links and whether they are read asynchronously.
Where names can be decoded the converse holds as well. The kinds and the names of keys have no part
in it, but for the settings that a name is given. -/
theorem reads_distinct_iff (c : Config) (t : Schema.Tree) :
    let m := (Model.ofSchema c t).1
    (∀ classText interfaceText, c.renderer.aggregateTexts c m = .ok (classText, interfaceText) →
      interfaceText = ofLines (c.interfaceHead ++
        [indent 8 "void BeginTransaction();",
          indent 8 "void EndTransaction(bool commit = true);"] ++
        m.reads.map (fun d => indent 8 (d.returnCode c ++ " " ++ (d.overload c m).1 ++
          "(" ++ d.parameters c m ++ ");")) ++
        (m.writes.map (fun d => indent 8 (d.signature c m ++ ";")) ++
          [indent 4 closing, closing]))) ∧
    (∀ d ∈ m.reads, d.accessor.params ≠ [] → d.parameters c m =
      ", ".intercalate ((d.parameterList c m).map fun p => p.1 ++ " " ++ p.2)) ∧
    List.Forall₂ (fun d a => a.shape = KeyElement.shape c a.foreigns.length d)
      (KeyElement.emitted c (Model.entitiesOf c t.tables).1 t) m.accessors ∧
    ((m.reads.map (·.overload c m)).Nodup → (m.accessors.map (·.shape)).Nodup) ∧
    (m.Legible c → (m.accessors.map (·.shape)).Nodup → (m.reads.map (·.overload c m)).Nodup) := by
  intro m
  refine ⟨fun classText interfaceText htexts => ?_,
    fun d _ hparams => d.parameters_eq_intercalate hparams, ?_, fun hreads => ?_,
    fun hlegible hshapes => ?_⟩
  · have hline (d : Declaration) : d.returnCode c ++ " " ++ (d.overload c m).1 ++ "(" ++
        d.parameters c m ++ ");" = d.signature c m ++ ";" := by
      simp only [Declaration.signature, Declaration.overload, String.append_assoc]
      rfl
    rw [(Prod.mk.inj (eq_of_aggregateTexts htexts)).2, m.interfaceCode_eq_append]
    simp only [hline]
  · refine (KeyElement.forall₂_accessors c (Model.entitiesOf c t.tables).1 t).imp ?_
    rintro d a ⟨e, -, hd⟩
    exact hd.shape_eq
  · rw [m.nodup_map_reads_iff] at hreads
    exact nodup_map_of_nodup_map (fun a ha b hb => Model.overload_eq_of_shape_eq ha hb) hreads
  · rw [m.nodup_map_reads_iff]
    exact nodup_map_of_nodup_map (fun a ha b hb => hlegible.shape_eq ha hb) hshapes

/-- Two foreign keys of orders over different columns, and a primary key of addresses. -/
theorem reads_distinct_addresses :
    (Model.ofSchema Config.initial .addresses).1.Legible Config.initial ∧
    (Model.addresses.reads.map (·.overload Config.initial .addresses)).Nodup ∧
    Model.addresses.reads.map (·.overload Config.initial .addresses) =
      [("GetAddressById", ["int", "bool"]), ("GetOrdersByBill", ["int"]),
        ("GetOrdersByShip", ["int"])] := by
  have hlegible : (Model.ofSchema Config.initial .addresses).1.Legible Config.initial := by
    rw [Model.ofSchema_addresses]
    exact ⟨by decide +kernel, by decide +kernel, by decide +kernel, by decide +kernel⟩
  obtain ⟨-, -, -, -, hreads⟩ := reads_distinct_iff Config.initial .addresses
  have hdistinct := hreads hlegible
  rw [Model.ofSchema_addresses] at hdistinct
  exact ⟨hlegible, hdistinct (by decide +kernel), by decide +kernel⟩

/-- An index over one column, which may have the same value in many rows. -/
def Xml.Tree.index (name table column : String) : Xml.Tree :=
  .element "Element" [⟨"Type", "SqlIndex"⟩, ⟨"Name", name⟩] [
    reference "IndexedObject" table,
    .element "Relationship" [⟨"Name", "ColumnSpecifications"⟩] [.element "Entry" []
      [.element "Element" [⟨"Type", "SqlIndexedColumnSpecification"⟩] [reference "Column" column]]]]

/-- Orders that refer to customers, with an index over the column that does. -/
def Schema.Tree.indexed : Schema.Tree := .ofXml (.schema [
  .table "[dbo].[Customer]" [.column "[dbo].[Customer].[Id]" "[int]"],
  .table "[dbo].[Order]" [.column "[dbo].[Order].[Customer]" "[int]"],
  .foreignKey "[dbo].[FK_Customer]" "[dbo].[Order]" "[dbo].[Order].[Customer]" "[dbo].[Customer]"
    "[dbo].[Customer].[Id]",
  .index "[dbo].[Order].[IX_Customer]" "[dbo].[Order]" "[dbo].[Order].[Customer]"])

namespace Schema.Tree

theorem tables_indexed : indexed.tables = [
    ⟨"[dbo].[Customer]", [⟨"[dbo].[Customer].[Id]", "[int]", false, false⟩]⟩,
    ⟨"[dbo].[Order]", [⟨"[dbo].[Order].[Customer]", "[int]", false, false⟩]⟩] := by
  decide +kernel

theorem keys_indexed : indexed.keys = [
    ⟨.foreignKey, "[dbo].[FK_Customer]", "[dbo].[Order]", ["[dbo].[Order].[Customer]"],
      some "[dbo].[Customer]", ["[dbo].[Customer].[Id]"], false⟩,
    ⟨.index, "[dbo].[Order].[IX_Customer]", "[dbo].[Order]", ["[dbo].[Order].[Customer]"], none, [],
      false⟩] := by
  decide +kernel

end Schema.Tree

/-- The keys have different names, and the interface declares the same read for both of them. -/
theorem read_declared_twice_indexed :
    Config.ofText "" = .ok Config.initial ∧
    (Schema.Tree.indexed.keys.map (·.name)).Nodup ∧
    ∃ classText interfaceText before after,
      Config.initial.renderer.aggregateTexts Config.initial
        (Model.ofSchema Config.initial .indexed).1 = .ok (classText, interfaceText) ∧
      interfaceText = ofLines (before ++ [
        "        IList<Order> GetOrdersByCustomer(int customer);",
        "        IList<Order> GetOrdersByCustomer(int customer);"] ++ after) := by
  have hnames : (Schema.Tree.indexed.keys.map (·.name)).Nodup := by
    rw [Schema.Tree.keys_indexed]
    decide
  have hfault : (Model.ofSchema Config.initial .indexed).1.declarations.findSome?
      (·.methodFault Config.initial) = none := by
    rw [Model.ofSchema_fst, Schema.Tree.tables_indexed, Schema.Tree.keys_indexed]
    decide +kernel
  have hreads : (Model.ofSchema Config.initial .indexed).1.reads.map (fun d =>
      indent 8 (d.signature Config.initial (Model.ofSchema Config.initial .indexed).1 ++ ";")) = [
        "        IList<Order> GetOrdersByCustomer(int customer);",
        "        IList<Order> GetOrdersByCustomer(int customer);"] := by
    rw [Model.ofSchema_fst, Schema.Tree.tables_indexed, Schema.Tree.keys_indexed]
    decide +kernel
  have htexts := aggregateTexts_eq Config.initial (Model.ofSchema Config.initial .indexed).1
  rw [hfault] at htexts
  have hcode := Model.interfaceCode_eq_append Config.initial
    (Model.ofSchema Config.initial .indexed).1
  rw [hreads] at hcode
  exact ⟨Config.ofText_empty, hnames, _, _, _, _, htexts, congrArg ofLines hcode⟩

end DataLayer
