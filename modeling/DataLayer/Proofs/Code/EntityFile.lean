import DataLayer.Model.Resolve
import DataLayer.Proofs.Code.AccessClass
import DataLayer.Proofs.Model.Entities
import DataLayer.Proofs.Model.Resolution
import DataLayer.Proofs.Run.Generation

/-!
The file of an entity. Its template finds the types of the properties once more, from their column
types; they are the types that the properties have since the entity was made from its table, and a
property without one is all that can keep the file from being rendered.
-/

namespace DataLayer

open Template Code

/-! The types of properties in a model. -/

/-- The properties have the types that a configuration gives them. -/
def Entity.Typed (c : Config) (e : Entity) : Prop := ∀ p ∈ e.properties, p.type = c.typeOf p

namespace Model

variable {c : Config}

theorem typed_type (c : Config) (p : Property) : (typed c p).type = c.typeOf (typed c p) := rfl

theorem typed_entitiesFrom (used : List String) (tables : List Schema.Table) :
    ∀ e ∈ (entitiesFrom c used tables).1, e.Typed c := by
  intro e he p hp
  obtain ⟨table, -, added, -, rfl⟩ :=
    exists_of_forall₂_mem (forall₂_entitiesFrom c used tables) he
  rcases List.mem_append.mp hp with hp | hp
  · obtain ⟨column, -, hcolumn⟩ := List.mem_filterMap.mp hp
    obtain ⟨-, -, rfl⟩ := columnProperty?_eq_some.mp hcolumn
    exact typed_type c _
  · obtain ⟨o, -, ho⟩ := List.mem_filterMap.mp hp
    obtain ⟨-, rfl⟩ := additionProperty?_eq_some.mp ho
    exact typed_type c _

/-- A key changes nothing in an entity but the accessors that it refers to. -/
theorem exists_of_mem_addKey {r : Resolution} {k : Schema.Key} {e : Entity}
    (h : e ∈ (addKey c r k).1.entities) :
    ∃ old ∈ r.1.entities, ∃ numbers, e = { old with foreigns := numbers } := by
  unfold addKey at h
  split at h
  · exact ⟨e, h, e.foreigns, rfl⟩
  · split at h
    · exact ⟨e, h, e.foreigns, rfl⟩
    · rcases mem_entities_of_addAccessor h with h | ⟨-, old, hold, rfl⟩
      · exact ⟨e, h, e.foreigns, rfl⟩
      · exact ⟨old, hold, _, rfl⟩

/-- Entities keep their types while keys are resolved. -/
theorem typed_foldl {r : Resolution} (h : ∀ e ∈ r.1.entities, e.Typed c)
    (keys : List Schema.Key) : ∀ e ∈ (keys.foldl (addKey c) r).1.entities, e.Typed c := by
  induction keys generalizing r with
  | nil => exact h
  | cons k keys ih =>
    refine ih fun e he => ?_
    obtain ⟨old, hold, numbers, rfl⟩ := exists_of_mem_addKey he
    exact h old hold

theorem typed_addKeys {m : Model} (h : ∀ e ∈ m.entities, e.Typed c) (keys : List Schema.Key) :
    ∀ e ∈ (addKeys c keys m).1.entities, e.Typed c :=
  typed_foldl (r := (m, [])) h _

theorem typed_entitiesOf (tables : List Schema.Table) :
    ∀ e ∈ (entitiesOf c tables).1, e.Typed c := typed_entitiesFrom [] _

theorem typed_ofSchema (t : Schema.Tree) : ∀ e ∈ (ofSchema c t).1.entities, e.Typed c := by
  -- The tables are kept closed: unfolded, they would be read from the document.
  have hentities := typed_entitiesOf (c := c) t.tables
  unfold ofSchema
  generalize entitiesOf c t.tables = resolved at hentities ⊢
  obtain ⟨entities, warnings⟩ := resolved
  exact typed_addKeys (m := { empty with entities := entities }) hentities t.keys

end Model

/-! The file line by line. -/

/-- The attributes of a type or of a member. -/
def annotationCode (n : Nat) (annotations : List String) : List String :=
  annotations.map fun a => indent n ("[" ++ a ++ "]")

/-- The lines of a property under a type. -/
def Property.code (type : PropertyType) (p : Property) : List String :=
  annotationCode 8 p.annotations ++
    [indent 8 ("public " ++ type.name ++ " " ++ p.shortName ++ " \x7b get; set; \x7d")]

namespace Entity

/-- What stands before the members of an entity. -/
def headCode (c : Config) (e : Entity) : List String :=
  ["// <auto-generated>",
    "// Generated by dacgen from " ++ e.table ++ ". Changes to this file are overwritten.",
    "// </auto-generated>",
    "using System;",
    "using System.Collections.Generic;"] ++
  c.usings.map (fun u => "using " ++ u ++ ";") ++
  ["", "namespace " ++ c.modelNamespace, opening] ++
  annotationCode 4 e.annotations ++
  [indent 4 (e.access ++ " partial class " ++ e.name), indent 4 opening]

/-- The collections of child rows, and the end of the file. -/
def tailCode (c : Config) (m : Model) (e : Entity) : List String :=
  (e.collections m).flatMap (fun a => ["",
    indent 8 ("public " ++ listType a.entity ++ " " ++ c.plural a.entity ++
      " \x7b get; set; \x7d")]) ++
  [indent 4 closing, closing]

end Entity

namespace Template

section EntityFile

variable {c : Config} {m : Model} {e : Entity} {i : Nat} {scope : Scope}

theorem shows_annotationLines {annotations : List String} (n : Nat)
    (h : scope.lookup "Annotations" = some (.texts annotations)) :
    ShowsLines c.keywords i scope (annotationLines n) none (annotationCode n annotations) :=
  .plain <| .eachLine (.ofList rfl) h
    (fun _ a => ((shows_dot a).before (.ofList rfl)).after (.ofList rfl) |>.indent n)
    (isPlain_indent n (isPlain_of_head (c := '[') (by simp) (by decide)))

theorem autoProperty_eq (type name : String) :
    autoProperty type name = "public " ++ type ++ " " ++ name ++ " \x7b get; set; \x7d" := by
  simp [autoProperty, opening, closing, String.append_assoc]

/-- A property that shows its type and its name. -/
theorem shows_autoProperty {type name t u : String} {f : Option TemplateError} (n : Nat)
    (htype : Shows c.keywords i scope type f t) (hname : Shows c.keywords i scope name none u) :
    ShowsLines c.keywords i scope [indent n (autoProperty type name)] f
      [indent n ("public " ++ t ++ " " ++ u ++ " \x7b get; set; \x7d")] := by
  rw [autoProperty_eq]
  have hend : Shows c.keywords i scope " \x7b get; set; \x7d" none " \x7b get; set; \x7d" :=
    .of_unpaired (by decide) (by simp)
  exact .code ((htype.before (.ofList rfl)).after (.ofList rfl) |>.appendPlain hname
    |>.appendPlain hend) (e := 'p') (by simp) (by decide)

theorem shows_propertyLines (p : Property) :
    ShowsLines c.keywords i (p.data :: scope)
      (annotationLines 8 ++ [indent 8 (autoProperty typeName shortName)]) (c.typeFault p)
      (p.code (c.typeOf p)) := by
  have h := (shows_annotationLines (c := c) (i := i) 8
      (Scope.lookup_record (by simp) rfl scope)).append
    (shows_autoProperty 8 (shows_typeName p) (shows_shortName p))
  rwa [Option.none_or] at h

theorem shows_collectionLines :
    ShowsLines c.keywords 0 [e.data c m]
      (blockLines "Foreigns" ["", indent 8 (autoProperty (listType entityName) pluralName)]) none
      ((e.collections m).flatMap fun a => ["",
        indent 8 ("public " ++ listType a.entity ++ " " ++ c.plural a.entity ++
          " \x7b get; set; \x7d")]) :=
  .plain <| .each (.ofList rfl) (Scope.lookup_record (by simp) rfl []) fun _ a =>
    ShowsLines.blank.append (shows_autoProperty 8 (shows_entityName a _).listType
      (shows_pluralName a _))

theorem shows_headLines :
    ShowsLines c.keywords 0 [e.data c m]
      (["// <auto-generated>",
        "// Generated by dacgen from " ++ tag "TableName" ++
          ". Changes to this file are overwritten.",
        "// </auto-generated>",
        "using System;",
        "using System.Collections.Generic;"] ++
      usingLines ++
      ["", "namespace " ++ tag "Namespace", opening] ++
      annotationLines 4 ++
      [indent 4 (tag "Access" ++ " partial class " ++ tag "Name"), indent 4 opening])
      none (e.headCode c) := by
  have htable : Shows c.keywords 0 [e.data c m] (tag "TableName") none e.table :=
    .name (.ofList rfl) (Scope.lookup_record (by simp) rfl [])
  have hnamespace : Shows c.keywords 0 [e.data c m] (tag "Namespace") none c.modelNamespace :=
    .name (.ofList rfl) (Scope.lookup_record (by simp) rfl [])
  have haccess : Shows c.keywords 0 [e.data c m] (tag "Access") none e.access :=
    .name (.ofList rfl) (Scope.lookup_record (by simp) rfl [])
  have hname : Shows c.keywords 0 [e.data c m] (tag "Name") none e.name :=
    .name (.ofList rfl) (Scope.lookup_record (by simp) rfl [])
  have hfirst : ShowsLines c.keywords 0 [e.data c m] ["// <auto-generated>"] none
      ["// <auto-generated>"] := .cons (.ofList rfl) .nil
  have hsource : ShowsLines c.keywords 0 [e.data c m]
      ["// Generated by dacgen from " ++ tag "TableName" ++
        ". Changes to this file are overwritten."] none
      ["// Generated by dacgen from " ++ e.table ++ ". Changes to this file are overwritten."] :=
    .line ((htable.before (.ofList rfl)).after (.ofList rfl))
      (isPlain_of_head (c := '/') (by simp) (by decide))
  have himports : ShowsLines c.keywords 0 [e.data c m]
      ["// </auto-generated>", "using System;", "using System.Collections.Generic;"] none _ :=
    .cons (.ofList rfl) <| .cons (.ofList rfl) <| .cons (.ofList rfl) .nil
  have htype : ShowsLines c.keywords 0 [e.data c m]
      [indent 4 (tag "Access" ++ " partial class " ++ tag "Name")] none
      [indent 4 (e.access ++ " partial class " ++ e.name)] :=
    .line ((haccess.after (.ofList rfl)).append hname |>.indent 4) (isPlain_indent 4
      (isPlain_of_tag (c := 'A') (by simp [tag]; rfl) (by decide) (by decide)))
  exact (hfirst.append hsource |>.append himports)
    |>.append (shows_usingLines (Scope.lookup_record (by simp) rfl []))
    |>.append (shows_namespaceHead hnamespace)
    |>.append (shows_annotationLines 4 (Scope.lookup_record (by simp) rfl []))
    |>.append (htype.append (.opening 4))

theorem shows_entityLines :
    ShowsLines c.keywords 0 [e.data c m] entityLines (e.properties.findSome? c.typeFault)
      (e.headCode c ++ e.properties.flatMap (fun p => p.code (c.typeOf p)) ++
        e.tailCode c m) := by
  have hproperties : ShowsLines c.keywords 0 [e.data c m]
      (blockLines "Properties" (annotationLines 8 ++ [indent 8 (autoProperty typeName shortName)]))
      (e.properties.findSome? c.typeFault)
      (e.properties.flatMap fun p => p.code (c.typeOf p)) :=
    .each (.ofList rfl) (Scope.lookup_record (by simp) rfl []) fun _ p => shows_propertyLines p
  have h := shows_headLines.append hproperties |>.appendPlain
    (shows_collectionLines.append shows_end)
  rwa [Option.none_or, ← List.append_assoc] at h

end EntityFile

end Template

/-- The file of any entity, whether or not its properties have the types of the configuration. -/
theorem entityText_eq (c : Config) (m : Model) (e : Entity) :
    c.renderer.entityText c m e =
      fileText e.name (e.properties.findSome? c.typeFault)
        (e.headCode c ++ e.properties.flatMap (fun p => p.code (c.typeOf p)) ++
          e.tailCode c m) :=
  text_eq_fileText shows_entityLines e.name

namespace Entity.Typed

variable {c : Config} {e : Entity}

theorem findSome?_typeFault (h : e.Typed c) :
    e.properties.findSome? c.typeFault =
      (e.properties.find? (·.type.kind == .unknown)).map fun p =>
        .unmappedType p.name p.sqlType := by
  unfold Entity.Typed at h
  generalize e.properties = ps at h
  induction ps with
  | nil => rfl
  | cons p ps ih =>
    have hp := h p (List.mem_cons_self ..)
    have hrest := ih fun q hq => h q (List.mem_cons_of_mem p hq)
    rw [List.findSome?_cons, List.find?_cons, Config.typeFault, ← hp, PropertyType.isUnknown]
    cases p.type.kind == .unknown with
    | true => rfl
    | false => exact hrest

/-- The file shows every property under the type that it has. -/
theorem entityText_eq (h : e.Typed c) (m : Model) :
    c.renderer.entityText c m e =
      match e.properties.find? (·.type.kind == .unknown) with
      | some p => .error ⟨e.name, .unmappedType p.name p.sqlType⟩
      | none => .ok (ofLines (e.headCode c ++ e.properties.flatMap (fun p => p.code p.type) ++
          e.tailCode c m)) := by
  have hcode : (e.properties.flatMap fun p => p.code (c.typeOf p)) =
      e.properties.flatMap fun p => p.code p.type :=
    List.flatMap_congr fun p hp => by rw [h p hp]
  rw [DataLayer.entityText_eq, h.findSome?_typeFault, hcode]
  cases e.properties.find? (·.type.kind == .unknown) <;> rfl

end Entity.Typed

/-- The type that a property has is the type that is rendered. The file of an entity is rendered
unless the type of one of its properties is unknown; the error is then that of a missing type and
speaks of the first such property. -/
theorem entity_shows_types (c : Config) (t : Schema.Tree) (m : Model) {e : Entity}
    (h : e ∈ (Model.entitiesOf c t.tables).1 ∨ e ∈ (Model.ofSchema c t).1.entities) :
    ((∃ text, c.renderer.entityText c m e = .ok text) ↔
      ∀ p ∈ e.properties, p.type.kind ≠ .unknown) ∧
    (∀ text, c.renderer.entityText c m e = .ok text →
      text = ofLines (e.headCode c ++
        e.properties.flatMap (fun p =>
          annotationCode 8 p.annotations ++
            [indent 8 ("public " ++ p.type.name ++ " " ++ SqlName.short p.name ++
              " \x7b get; set; \x7d")]) ++
        e.tailCode c m)) ∧
    ∀ failure, c.renderer.entityText c m e = .error failure →
      ∃ p, e.properties.find? (·.type.kind == .unknown) = some p ∧
        failure = ⟨e.name, .unmappedType p.name p.sqlType⟩ := by
  have htyped : e.Typed c := by
    rcases h with h | h
    · exact Model.typed_entitiesOf t.tables e h
    · exact Model.typed_ofSchema t e h
  rw [htyped.entityText_eq m]
  cases hfind : e.properties.find? (·.type.kind == .unknown) with
  | none =>
    have hall : ∀ p ∈ e.properties, p.type.kind ≠ .unknown := by simpa using hfind
    refine ⟨⟨fun _ => hall, fun _ => ⟨_, rfl⟩⟩, fun text htext => ?_, fun _ hfailure => ?_⟩
    · exact (Except.ok.inj htext).symm
    · contradiction
  | some p =>
    have hp : p.type.kind = .unknown := by simpa using List.find?_some hfind
    refine ⟨⟨fun ⟨_, htext⟩ => ?_, fun hall => ?_⟩, fun _ htext => ?_, fun failure hfailure => ?_⟩
    · contradiction
    · exact absurd hp (hall p (List.mem_of_find?_eq_some hfind))
    · contradiction
    · exact ⟨p, rfl, (Except.error.inj hfailure).symm⟩

/-- A schema with a table whose columns have types without a row in the type table. -/
def Schema.Tree.places : Schema.Tree := .ofXml (.schema [.table "[dbo].[Place]" [
  .column "[dbo].[Place].[Area]" "[geo]",
  .column "[dbo].[Place].[Border]" "[geo]"]])

/-- The table of this schema. -/
def Schema.Table.place : Schema.Table where
  name := "[dbo].[Place]"
  columns := [
    ⟨"[dbo].[Place].[Area]", "[geo]", false, false⟩,
    ⟨"[dbo].[Place].[Border]", "[geo]", false, false⟩]

/-- The entity of this table. -/
def Entity.place : Entity where
  table := "[dbo].[Place]"
  name := "Place"
  properties := [
    ⟨"[dbo].[Place].[Area]", "[geo]", .unmapped, false, false, none, []⟩,
    ⟨"[dbo].[Place].[Border]", "[geo]", .unmapped, false, false, none, []⟩]
  annotations := []
  access := "public"
  includeForeignKey := true
  foreigns := []

/-- The first of two columns without a type is reported. -/
theorem entity_shows_types_place :
    (Model.entitiesOf Config.bare Schema.Tree.places.tables).1 = [Entity.place] ∧
    Config.bare.renderer.entityText Config.bare Model.empty Entity.place =
      .error ⟨"Place", .unmappedType "[dbo].[Place].[Area]" "[geo]"⟩ := by
  have htables : Schema.Tree.places.tables = [Schema.Table.place] := by decide +kernel
  have hentities : (Model.entitiesOf Config.bare Schema.Tree.places.tables).1 = [Entity.place] := by
    rw [htables]
    decide +kernel
  obtain ⟨hok, -, herror⟩ := entity_shows_types Config.bare Schema.Tree.places Model.empty
    (Or.inl (hentities ▸ List.mem_singleton_self Entity.place))
  refine ⟨hentities, ?_⟩
  cases htext : Config.bare.renderer.entityText Config.bare Model.empty Entity.place with
  | ok text =>
    have hall := hok.mp ⟨text, htext⟩
    simp [Entity.place, PropertyType.unmapped] at hall
  | error failure =>
    obtain ⟨p, hfind, rfl⟩ := herror failure htext
    obtain rfl := Option.some.inj hfind
    rfl

end DataLayer
