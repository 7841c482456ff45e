import DataLayer.Proofs.Code.AccessClass
import DataLayer.Proofs.Model.Owners

/-!
Parameters of generated queries. A method writes its query and the lines that bind parameters from
different lists: the columns of the key, the columns that are saved, and the columns that a linked
foreign key refers to. Queries are taken here in pieces, so that their parameters can be named, and
every parameter of a query is bound by a line of the same method.
-/

namespace DataLayer

open Code

/-- A piece of a query: text, or a parameter by its name. -/
inductive QueryPiece where
  | text (s : String)
  | param (name : String)
  deriving DecidableEq, Repr

namespace QueryPiece

/-- An at sign marks a parameter. -/
def code : QueryPiece → String
  | text s => s
  | param name => "@" ++ name

def param? : QueryPiece → Option String
  | text _ => none
  | param name => some name

end QueryPiece

abbrev Query := List QueryPiece

namespace Query

def code (q : Query) : String := String.join (q.map QueryPiece.code)

def params (q : Query) : List String := q.filterMap QueryPiece.param?

/-- Queries with a text between each two of them. -/
def separated (sep : String) (qs : List Query) : Query := [.text sep].intercalate qs

@[simp] theorem code_nil : code [] = "" := rfl

@[simp] theorem code_text (s : String) (q : Query) : code (.text s :: q) = s ++ q.code :=
  String.join_cons

@[simp] theorem code_param (name : String) (q : Query) :
    code (.param name :: q) = "@" ++ name ++ q.code :=
  String.join_cons

@[simp] theorem code_append (q r : Query) : code (q ++ r) = q.code ++ r.code := by
  unfold code
  rw [List.map_append, String.join_append]

@[simp] theorem params_nil : params [] = [] := rfl

@[simp] theorem params_text (s : String) (q : Query) : params (.text s :: q) = q.params := rfl

@[simp] theorem params_param (name : String) (q : Query) :
    params (.param name :: q) = name :: q.params := rfl

@[simp] theorem params_append (q r : Query) : params (q ++ r) = q.params ++ r.params :=
  List.filterMap_append

theorem code_separated (sep : String) (qs : List Query) :
    (separated sep qs).code = sep.intercalate (qs.map code) := by
  unfold separated
  induction qs with
  | nil => rfl
  | cons q rest ih =>
    cases rest with
    | nil => simp
    | cons r rest =>
      rw [List.map_cons] at ih
      rw [List.intercalate_cons_cons, List.map_cons, List.map_cons, String.intercalate_cons_cons,
        code_append, code_append, ih]
      simp

theorem mem_params_separated {sep name : String} {qs : List Query} :
    name ∈ (separated sep qs).params ↔ ∃ q ∈ qs, name ∈ q.params := by
  unfold separated
  induction qs with
  | nil => simp
  | cons q rest ih =>
    cases rest with
    | nil => simp
    | cons r rest =>
      rw [List.intercalate_cons_cons, params_append, params_append, List.mem_append,
        List.mem_append, ih]
      simp

theorem mem_params_flatMap {α : Type} {name : String} {xs : List α} {f : α → Query} :
    name ∈ params (xs.flatMap f) ↔ ∃ x ∈ xs, name ∈ (f x).params := by
  induction xs with
  | nil => simp
  | cons x rest ih => rw [List.flatMap_cons, params_append, List.mem_append, ih]; simp

end Query

/-! The queries of methods. -/

namespace Accessor

/-- The condition that a column has the value of a parameter, or the order to give it this value. -/
def equal (column param : String) : Query := [.text ("[" ++ column ++ "] = "), .param param]

def keyQuery (a : Accessor) : Query :=
  Query.separated " AND " (a.params.map fun p => equal p.shortName p.shortName)

/-- The columns of child rows, and the columns that they refer to as parameters. -/
def foreignQuery (a : Accessor) : Query :=
  Query.separated " AND " (a.params.map fun p => equal p.shortName p.foreignShortName)

def selectQuery (a : Accessor) (condition : Query) : Query :=
  .text ("SELECT * FROM " ++ a.table ++ " WHERE ") :: condition

def selectForeignQuery (c : Config) (m : Model) (a : Accessor) : Query :=
  (m.accessorsAt a.foreigns).flatMap fun f =>
    .text " IF(" :: .param ("include" ++ c.plural f.entity) :: .text " = 1) " ::
      f.selectQuery f.foreignQuery

def deleteQuery (a : Accessor) : Query :=
  .text ("DELETE FROM " ++ a.table ++ " WHERE ") :: a.keyQuery

def updateQuery (a : Accessor) : Query :=
  .text ("IF EXISTS(SELECT 1 FROM " ++ a.table ++ " WHERE ") :: a.keyQuery ++
    .text (") UPDATE " ++ a.table ++ " SET ") ::
    Query.separated ", " (a.columns.map fun p => equal p.shortName p.shortName) ++
    .text " WHERE " :: a.keyQuery

def insertQuery (a : Accessor) : Query :=
  .text ("INSERT INTO " ++ a.table ++ " (" ++
      ", ".intercalate (a.columns.map fun p => "[" ++ p.shortName ++ "]") ++ ") VALUES(") ::
    Query.separated ", " (a.columns.map fun p => [.param p.shortName]) ++ [.text ")"]

variable (a : Accessor)

theorem code_equal (column param : String) :
    (equal column param).code = "[" ++ column ++ "] = @" ++ param := by
  have hmark (s : String) : "] = " ++ ("@" ++ s) = "] = @" ++ s := by
    rw [← String.append_assoc]
    rfl
  simp [equal, hmark, String.append_assoc]

theorem code_keyQuery : a.keyQuery.code = a.keyCode := by
  rw [keyQuery, Query.code_separated, List.map_map, keyCode]
  simp only [Function.comp_def, code_equal]

theorem code_foreignQuery : a.foreignQuery.code = a.foreignCode := by
  rw [foreignQuery, Query.code_separated, List.map_map, foreignCode]
  simp only [Function.comp_def, code_equal]

theorem code_selectQuery (condition : Query) :
    (a.selectQuery condition).code = a.selectCode condition.code :=
  Query.code_text _ condition

theorem code_selectForeignQuery (c : Config) (m : Model) :
    (a.selectForeignQuery c m).code = a.selectForeignCode c m := by
  have hmark (s : String) : " IF(" ++ ("@" ++ ("include" ++ s)) = " IF(@include" ++ s := by
    rw [← String.append_assoc, ← String.append_assoc]
    rfl
  unfold selectForeignQuery selectForeignCode
  induction m.accessorsAt a.foreigns with
  | nil => rfl
  | cons f rest ih =>
    rw [List.flatMap_cons, Query.code_append, ih, List.map_cons, String.join_cons]
    simp [code_selectQuery, code_foreignQuery, hmark, String.append_assoc]

theorem code_deleteQuery : a.deleteQuery.code = a.deleteCode := by
  unfold deleteCode
  rw [← code_keyQuery]
  exact Query.code_text _ a.keyQuery

theorem code_updateQuery : a.updateQuery.code = a.updateCode := by
  unfold updateQuery updateCode
  simp only [Query.code_append, Query.code_text, code_keyQuery, Query.code_separated,
    List.map_map, Function.comp_def, code_equal]
  simp only [String.append_assoc]

theorem code_insertQuery : a.insertQuery.code = a.insertCode := by
  unfold insertQuery insertCode
  simp only [Query.code_append, Query.code_text, Query.code_param, Query.code_nil,
    Query.code_separated, List.map_map, Function.comp_def, String.append_empty,
    String.append_assoc]

end Accessor

namespace Declaration

/-- The query that a method sends. -/
def query (c : Config) (m : Model) (d : Declaration) : Query :=
  match d.action with
  | .getOne => d.accessor.selectQuery d.accessor.keyQuery ++ d.accessor.selectForeignQuery c m
  | .getMany => d.accessor.selectQuery d.accessor.keyQuery
  | .save => d.accessor.updateQuery ++ .text " ELSE " :: d.accessor.insertQuery
  | .saveIdentity =>
    d.accessor.updateQuery ++ .text " ELSE BEGIN " :: d.accessor.insertQuery ++
      [.text " SELECT SCOPE_IDENTITY() END"]
  | .deleteOne | .deleteMany => d.accessor.deleteQuery

theorem body_head? (c : Config) (m : Model) (d : Declaration) :
    (d.body c m).head? = some (queryLine (d.query c m).code) := by
  obtain ⟨a, action⟩ := d
  cases action with
  | getOne =>
    simp [body, query, Accessor.getOneBody, Accessor.code_selectQuery, Accessor.code_keyQuery,
      Accessor.code_selectForeignQuery]
  | getMany =>
    simp [body, query, Accessor.getManyBody, Accessor.code_selectQuery, Accessor.code_keyQuery]
  | save =>
    simp [body, query, Accessor.saveBody, Accessor.code_updateQuery, Accessor.code_insertQuery,
      String.append_assoc]
  | saveIdentity =>
    simp [body, query, Accessor.saveIdentityBody, Accessor.code_updateQuery,
      Accessor.code_insertQuery, String.append_assoc]
  | deleteOne | deleteMany =>
    simp [body, query, Accessor.deleteBody, Accessor.code_deleteQuery]

end Declaration

/-! Lines that bind parameters. -/

/-- One of these lines binds a parameter of this name to some value. -/
def Binds (body : List String) (name : String) : Prop :=
  ∃ kind value, call ("Add" ++ kind ++ "InParam(\"" ++ name ++ "\", " ++ value ++ ")") ∈ body

theorem binds_of_bindCode {body : List String} {p : Property} {value : String}
    (h : p.bindCode value ∈ body) : Binds body p.shortName := by
  have hend (s : String) : s ++ ", true" ++ ")" = s ++ ", true)" := String.append_assoc
  refine ⟨Text.firstUpper (SqlType.storage p.sqlType), value ++ ", true", ?_⟩
  rwa [← String.append_assoc, hend]

namespace Accessor

variable {c : Config} {m : Model} {a : Accessor} {name : String} {body : List String}

theorem binds_of_params (hbody : a.bindParamCode c ⊆ body) {p : Property} (hp : p ∈ a.params) :
    Binds body p.shortName :=
  binds_of_bindCode (hbody (List.mem_map_of_mem hp))

theorem binds_of_columns (c : Config) (hbody : a.bindColumnCode c ⊆ body) {p : Property}
    (hp : p ∈ a.columns) : Binds body p.shortName :=
  binds_of_bindCode (hbody (List.mem_map_of_mem hp))

theorem binds_of_identityColumns (hbody : a.bindIdentityCode ⊆ body) {p : Property}
    (hp : p ∈ a.identityColumns) : Binds body p.shortName :=
  binds_of_bindCode (hbody (List.mem_map_of_mem hp))

@[simp] theorem params_equal (column param : String) : (equal column param).params = [param] := rfl

theorem mem_params_keyQuery : name ∈ a.keyQuery.params ↔ ∃ p ∈ a.params, p.shortName = name := by
  simp [keyQuery, Query.mem_params_separated, eq_comm]

theorem mem_params_foreignQuery :
    name ∈ a.foreignQuery.params ↔ ∃ p ∈ a.params, p.foreignShortName = name := by
  simp [foreignQuery, Query.mem_params_separated, eq_comm]

theorem mem_params_selectForeignQuery :
    name ∈ (a.selectForeignQuery c m).params ↔ ∃ f ∈ m.accessorsAt a.foreigns,
      name = "include" ++ c.plural f.entity ∨ name ∈ f.foreignQuery.params := by
  simp [selectForeignQuery, selectQuery, Query.mem_params_flatMap]

theorem mem_params_updateQuery : name ∈ a.updateQuery.params ↔
    (∃ p ∈ a.params, p.shortName = name) ∨ ∃ p ∈ a.columns, p.shortName = name := by
  have hcolumns : name ∈ (Query.separated ", "
      (a.columns.map fun p => equal p.shortName p.shortName)).params ↔
        ∃ p ∈ a.columns, p.shortName = name := by
    simp [Query.mem_params_separated, eq_comm]
  -- The condition on the key stands before and behind the assignments.
  rw [updateQuery, Query.params_append, Query.params_append, Query.params_text, Query.params_text,
    Query.params_text, List.mem_append, List.mem_append, mem_params_keyQuery, hcolumns,
    or_right_comm, or_self]

theorem mem_params_insertQuery :
    name ∈ a.insertQuery.params ↔ ∃ p ∈ a.columns, p.shortName = name := by
  simp [insertQuery, Query.mem_params_separated, eq_comm]

/-- The parameter that asks for child rows is bound to the parameter of the method. -/
theorem binds_of_foreigns {f : Accessor} (hbody : call ("AddBitInParam(\"include" ++
      c.plural f.entity ++ "\", include" ++ c.plural f.entity ++ ")") ∈ body) :
    Binds body ("include" ++ c.plural f.entity) := by
  have hfirst (s : String) : "AddBitInParam(\"include" ++ s =
      "Add" ++ "Bit" ++ "InParam(\"" ++ ("include" ++ s) := by
    rw [← String.append_assoc]
    rfl
  have hlast (s t : String) : s ++ "\", include" ++ t = s ++ "\", " ++ ("include" ++ t) := by
    simp [← String.toList_inj]
  rw [hfirst, hlast] at hbody
  exact ⟨"Bit", _, hbody⟩

/-- Child rows are read by the columns that they refer to, which are the columns of the key. -/
theorem RefersTo.foreignNames_eq {f a : Accessor} (h : f.RefersTo a) :
    f.params.map (·.foreignName) = a.params.map fun q => some q.name := by
  have hreferences := (references_iff f a).mpr h
  rw [references, beq_iff_eq, List.map_map] at hreferences
  exact hreferences

namespace OwnedBy

variable {e : Entity}

/-- A parameter has the name of a column or of an identity. -/
theorem exists_column (h : a.OwnedBy m e) {q : Property} (hq : q ∈ a.params) :
    ∃ p ∈ a.columns ++ a.identityColumns, p.name = q.name := by
  obtain ⟨p, hp, hname⟩ := h.params q hq
  rw [h.columns, h.identityColumns]
  exact ⟨p, e.columns_append_identityColumns.mem_iff.mpr hp, hname⟩

theorem binds_foreignQuery (h : a.OwnedBy m e) {f : Accessor} (hf : f ∈ m.accessorsAt a.foreigns)
    (hbody : a.bindParamCode c ⊆ body) (hname : name ∈ f.foreignQuery.params) :
    Binds body name := by
  obtain ⟨id, hid, hf⟩ := List.mem_filterMap.mp hf
  obtain ⟨-, -, f', hf', hrefers⟩ := h.foreigns id hid
  obtain rfl : f = f' := Option.some.inj (hf.symm.trans hf')
  obtain ⟨p, hp, rfl⟩ := mem_params_foreignQuery.mp hname
  have hforeign : p.foreignName ∈ a.params.map fun q => some q.name := by
    rw [← hrefers.foreignNames_eq]
    exact List.mem_map_of_mem hp
  obtain ⟨q, hq, hpq⟩ := List.mem_map.mp hforeign
  have hshort : p.foreignShortName = q.shortName := by
    unfold Property.foreignShortName Property.shortName
    rw [← hpq, Option.getD_some]
  rw [hshort]
  exact binds_of_params hbody hq

/-- All that a save needs is bound where all columns and identities are. -/
theorem binds_save (h : a.OwnedBy m e)
    (hbody : ∀ p ∈ a.columns ++ a.identityColumns, Binds body p.shortName)
    (hname : name ∈ a.updateQuery.params ∨ name ∈ a.insertQuery.params) : Binds body name := by
  have hcolumn (p : Property) (hp : p ∈ a.columns) : Binds body p.shortName :=
    hbody p (List.mem_append_left _ hp)
  rw [mem_params_updateQuery, mem_params_insertQuery] at hname
  rcases hname with (⟨q, hq, rfl⟩ | ⟨p, hp, rfl⟩) | ⟨p, hp, rfl⟩
  · obtain ⟨p, hp, heq⟩ := h.exists_column hq
    unfold Property.shortName
    rw [← heq]
    exact hbody p hp
  · exact hcolumn p hp
  · exact hcolumn p hp

end OwnedBy

end Accessor

/-- Every parameter of the query of a method is bound by a line of its body. Only accessors without
identity columns may have the save that binds columns alone. -/
theorem Declaration.binds_query {c : Config} {m : Model} {e : Entity} {a : Accessor}
    {action : Action} (h : a.OwnedBy m e) (hsave : action = .save → a.identityColumns = [])
    {name : String} (hname : name ∈ (Declaration.query c m ⟨a, action⟩).params) :
    Binds (Declaration.body c m ⟨a, action⟩) name := by
  have hkey {body : List String} (hbody : a.bindParamCode c ⊆ body)
      (hname : name ∈ a.keyQuery.params) : Binds body name := by
    obtain ⟨p, hp, rfl⟩ := Accessor.mem_params_keyQuery.mp hname
    exact Accessor.binds_of_params hbody hp
  cases action with
  | getOne =>
    have hbody : a.bindParamCode c ⊆ a.getOneBody c m := fun line hline => by
      simp [Accessor.getOneBody, hline]
    have hparts : name ∈ a.keyQuery.params ∨ name ∈ (a.selectForeignQuery c m).params := by
      simpa [query, Accessor.selectQuery] using hname
    rcases hparts with hname | hname
    · exact hkey hbody hname
    · obtain ⟨f, hf, hname⟩ := Accessor.mem_params_selectForeignQuery.mp hname
      rcases hname with rfl | hname
      · refine Accessor.binds_of_foreigns ?_
        simp only [body, Accessor.getOneBody, List.mem_append, List.mem_map]
        exact Or.inl (Or.inl (Or.inl (Or.inl (Or.inl (Or.inr ⟨f, hf, rfl⟩)))))
      · exact h.binds_foreignQuery hf hbody hname
  | getMany =>
    exact hkey (fun line hline => by simp [body, Accessor.getManyBody, hline]) hname
  | save =>
    refine h.binds_save (fun p hp => ?_) (by simpa [query] using hname)
    rw [hsave rfl, List.append_nil] at hp
    exact Accessor.binds_of_columns c
      (fun line hline => by simp [body, Accessor.saveBody, hline]) hp
  | saveIdentity =>
    refine h.binds_save (fun p hp => ?_) (by simpa [query] using hname)
    rcases List.mem_append.mp hp with hp | hp
    · exact Accessor.binds_of_columns c
        (fun line hline => by simp [body, Accessor.saveIdentityBody, hline]) hp
    · exact Accessor.binds_of_identityColumns
        (fun line hline => by simp [body, Accessor.saveIdentityBody, hline]) hp
  | deleteOne | deleteMany =>
    exact hkey (fun line hline => by simp [body, Accessor.deleteBody, hline]) hname

/-- The lines between the braces of a method stand in the class. -/
theorem Declaration.body_infix (c : Config) {m : Model} {d : Declaration}
    (hd : d ∈ m.declarations) : d.body c m <:+: m.classCode c := by
  have hbody : d.body c m <:+: d.methodCode c m := ⟨_, _, rfl⟩
  have hmethod : d.methodCode c m <:+: m.declarations.flatMap (·.methodCode c m) := by
    obtain ⟨before, after, hsplit⟩ := List.append_of_mem hd
    rw [hsplit, List.flatMap_append, List.flatMap_cons, ← List.append_assoc]
    exact ⟨_, _, rfl⟩
  have hmethods : m.declarations.flatMap (·.methodCode c m) <:+: m.classCode c :=
    ⟨c.classHead ++ c.connectionCode, m.routineCode ++ [indent 4 closing, closing], by
      simp [Model.classCode, List.append_assoc]⟩
  exact (hbody.trans hmethod).trans hmethods

/-- Every parameter of a generated query is bound. A key has columns of its entity for parameters,
which are saved unless they are identities, and child rows are read by columns of the key. Hence
the lines of a method bind each parameter that its query names. -/
theorem query_parameters_bound (c : Config) (t : Schema.Tree) :
    let m := (Model.ofSchema c t).1
    (∀ a ∈ m.accessors,
      (∀ p ∈ a.params, p.name ∈ (a.columns ++ a.identityColumns).map (·.name)) ∧
      (a.unique = true → a.identityColumns = [] →
        ∀ p ∈ a.params, p.name ∈ a.columns.map (·.name)) ∧
      ∀ id ∈ a.foreigns, ∃ f, m.accessors[id]? = some f ∧
        f.params.map (·.foreignName) = a.params.map fun p => some p.name) ∧
    (∀ classText interfaceText, c.renderer.aggregateTexts c m = .ok (classText, interfaceText) →
      classText = ofLines (m.classCode c)) ∧
    ∀ d ∈ m.declarations, d.body c m <:+: m.classCode c ∧
      (d.body c m).head? = some (queryLine (d.query c m).code) ∧
      ∀ name ∈ (d.query c m).params, Binds (d.body c m) name := by
  intro m
  refine ⟨fun a ha => ?_, fun _ _ htexts => (Prod.mk.inj (eq_of_aggregateTexts htexts)).1,
    fun d hd => ⟨d.body_infix c hd, d.body_head? c m, fun name hname => ?_⟩⟩
  · obtain ⟨e, -, howned⟩ := Model.exists_ownedBy c t ha
    have hparams (q : Property) (hq : q ∈ a.params) :
        q.name ∈ (a.columns ++ a.identityColumns).map (·.name) := by
      obtain ⟨p, hp, hname⟩ := howned.exists_column hq
      exact List.mem_map.mpr ⟨p, hp, hname⟩
    refine ⟨hparams, fun _ hidentity q hq => ?_, fun id hid => ?_⟩
    · have hmem := hparams q hq
      rwa [hidentity, List.append_nil] at hmem
    · obtain ⟨-, -, f, hf, hrefers⟩ := howned.foreigns id hid
      exact ⟨f, hf, hrefers.foreignNames_eq⟩
  · obtain ⟨e, -, howned⟩ :=
      Model.exists_ownedBy c t (Model.mem_accessors_of_mem_declarations hd)
    refine Declaration.binds_query howned (fun hsave => ?_) hname
    have haction := Model.mem_declarations.mp hd
    rw [hsave] at haction
    have hidentity : d.accessor.unique = true ∧ d.accessor.identityColumns = [] := by
      simpa using (List.mem_filter.mp haction).2
    exact hidentity.2

/-- The query for an address reads the orders that are shipped to it on demand, with the parameter
of the key. -/
theorem query_parameters_bound_addresses :
    let d : Declaration := ⟨.address, .getOne⟩
    d ∈ (Model.ofSchema Config.initial .addresses).1.declarations ∧
    (d.query Config.initial .addresses).code =
      "SELECT * FROM [dbo].[Address] WHERE [Id] = @Id IF(@includeOrders = 1) " ++
        "SELECT * FROM [dbo].[Order] WHERE [Ship] = @Id" ∧
    (d.query Config.initial .addresses).params = ["Id", "includeOrders", "Id"] ∧
    Binds (d.body Config.initial .addresses) "Id" ∧
    Binds (d.body Config.initial .addresses) "includeOrders" ∧
    (∃ f, Model.addresses.accessors[1]? = some f ∧
      f.params.map (·.foreignName) = [some "[dbo].[Address].[Id]"]) ∧
    ∀ p ∈ Accessor.address.params, p.name ∈ Accessor.address.columns.map (·.name) := by
  intro d
  have hparams : (d.query Config.initial .addresses).params = ["Id", "includeOrders", "Id"] := by
    decide +kernel
  have hd : d ∈ (Model.ofSchema Config.initial .addresses).1.declarations := by
    rw [Model.ofSchema_addresses]
    decide +kernel
  obtain ⟨haccessors, -, hbound⟩ := query_parameters_bound Config.initial .addresses
  obtain ⟨-, -, hbinds⟩ := hbound d hd
  obtain ⟨-, hcolumns, hlinks⟩ := haccessors .address (by
    rw [Model.ofSchema_addresses]
    decide +kernel)
  obtain ⟨f, hf, hforeign⟩ := hlinks 1 (by decide)
  rw [Model.ofSchema_addresses] at hbinds hf
  exact ⟨hd, by decide +kernel, hparams, hbinds "Id" (by rw [hparams]; decide),
    hbinds "includeOrders" (by rw [hparams]; decide), ⟨f, hf, hforeign⟩, hcolumns rfl rfl⟩

end DataLayer
