import DataLayer.Proofs.Code.AccessClass

/-!
When the data access class cannot be rendered: a key has a column without a type, or a method that
saves rows has one. Nothing else can go wrong.
-/

namespace DataLayer

open Template Code

/-- The type table has no row for a column type. -/
def SqlType.IsUnmapped (sqlType : String) : Prop := SqlType.row? (SqlType.normalize sqlType) = none

theorem SqlType.isUnknown_map (sqlType : String) (nullable : Bool) :
    (SqlType.map sqlType nullable).isUnknown = true ↔ SqlType.IsUnmapped sqlType := by
  have hrows : ∀ r ∈ SqlType.rows, (r.kind == .unknown) = false := by decide
  unfold SqlType.IsUnmapped SqlType.map
  cases h : SqlType.row? (SqlType.normalize sqlType) with
  | none => simp [PropertyType.unmapped, PropertyType.isUnknown]
  | some r =>
    have hkind := hrows r (List.mem_of_find?_eq_some h)
    simp [TypeRow.propertyType, PropertyType.isUnknown, hkind]

namespace Config

variable {c : Config} {p : Property} {e : TemplateError}

theorem isUnknown_typeOf :
    (c.typeOf p).isUnknown = true ↔ c.isEnum p = false ∧ SqlType.IsUnmapped p.sqlType := by
  rw [← SqlType.isUnknown_map p.sqlType p.nullable]
  rcases Option.eq_none_or_eq_some (SqlType.enumType? c.overrides.enums p.name) with
    henum | ⟨enum, henum⟩
  · simp [typeOf, isEnum, SqlType.resolve, henum]
  · simp [typeOf, isEnum, SqlType.resolve, henum, PropertyType.isUnknown]

theorem typeFault_eq_some : c.typeFault p = some e ↔
    (c.isEnum p = false ∧ SqlType.IsUnmapped p.sqlType) ∧ .unmappedType p.name p.sqlType = e := by
  rw [← isUnknown_typeOf]
  unfold typeFault
  split
  · next h => simp [h]
  · next h => simp [h]

theorem castFault_eq_some : c.castFault p = some e ↔
    (c.isEnum p = true ∧ SqlType.IsUnmapped p.sqlType) ∧ .unmappedType p.name p.sqlType = e := by
  rw [← SqlType.isUnknown_map p.sqlType p.nullable, ← Bool.and_eq_true]
  unfold castFault
  split
  · next h => simp [h]
  · next h => simp [h]

/-- A property has a fault of one kind or the other if the table does not have its type. -/
theorem exists_fault_iff :
    (∃ e, c.typeFault p = some e) ∨ (∃ e, c.castFault p = some e) ↔
      SqlType.IsUnmapped p.sqlType := by
  simp only [typeFault_eq_some, castFault_eq_some, exists_and_left, exists_eq', and_true]
  cases c.isEnum p <;> simp

end Config

theorem exists_findSome?_eq_some {α β : Type} {f : α → Option β} {xs : List α} :
    (∃ b, xs.findSome? f = some b) ↔ ∃ x ∈ xs, ∃ b, f x = some b := by
  simp only [← Option.isSome_iff_exists, List.findSome?_isSome_iff]

namespace Declaration

variable {c : Config} {d : Declaration}

/-- A property of a method that keeps it from being rendered. -/
def HasFault (c : Config) (d : Declaration) : Prop :=
  match d.action with
  | .save => ∃ p ∈ d.accessor.columns, c.isEnum p = true ∧ SqlType.IsUnmapped p.sqlType
  | .saveIdentity =>
    (∃ p ∈ d.accessor.identityColumns, c.isEnum p = false ∧ SqlType.IsUnmapped p.sqlType) ∨
    ∃ p ∈ d.accessor.columns, c.isEnum p = true ∧ SqlType.IsUnmapped p.sqlType
  | .getOne | .getMany | .deleteOne | .deleteMany =>
    ∃ p ∈ d.accessor.params, SqlType.IsUnmapped p.sqlType

theorem exists_or_eq_some {α : Type} {o o' : Option α} :
    (∃ a, o.or o' = some a) ↔ (∃ a, o = some a) ∨ ∃ a, o' = some a := by
  cases o <;> simp

theorem exists_methodFault_iff : (∃ e, d.methodFault c = some e) ↔ d.HasFault c := by
  obtain ⟨a, action⟩ := d
  have hkey : (∃ p ∈ a.params, ∃ e, c.typeFault p = some e) ∨
      (∃ p ∈ a.params, ∃ e, c.castFault p = some e) ↔
        ∃ p ∈ a.params, SqlType.IsUnmapped p.sqlType := by
    simp only [← Config.exists_fault_iff (c := c), and_or_left, exists_or]
  unfold methodFault HasFault signatureFault
  rw [exists_or_eq_some]
  cases action with
  | save => simp [exists_findSome?_eq_some, Config.castFault_eq_some]
  | saveIdentity =>
    simp [exists_findSome?_eq_some, Config.castFault_eq_some, Config.typeFault_eq_some]
  | _ => simpa only [exists_findSome?_eq_some] using hkey

/-- The error of a method names one of its properties, whose type the table does not have. -/
theorem eq_unmappedType_of_methodFault {e : TemplateError} (h : d.methodFault c = some e) :
    ∃ p ∈ d.accessor.params ++ d.accessor.columns ++ d.accessor.identityColumns,
      SqlType.IsUnmapped p.sqlType ∧ e = .unmappedType p.name p.sqlType := by
  obtain ⟨a, action⟩ := d
  have htype {ps : List Property} (hps : ps.findSome? c.typeFault = some e) :
      ∃ p ∈ ps, SqlType.IsUnmapped p.sqlType ∧ e = .unmappedType p.name p.sqlType := by
    obtain ⟨p, hp, hfault⟩ := List.exists_of_findSome?_eq_some hps
    obtain ⟨⟨-, hunmapped⟩, rfl⟩ := Config.typeFault_eq_some.mp hfault
    exact ⟨p, hp, hunmapped, rfl⟩
  have hcast {ps : List Property} (hps : ps.findSome? c.castFault = some e) :
      ∃ p ∈ ps, SqlType.IsUnmapped p.sqlType ∧ e = .unmappedType p.name p.sqlType := by
    obtain ⟨p, hp, hfault⟩ := List.exists_of_findSome?_eq_some hps
    obtain ⟨⟨-, hunmapped⟩, rfl⟩ := Config.castFault_eq_some.mp hfault
    exact ⟨p, hp, hunmapped, rfl⟩
  simp only [List.mem_append]
  rcases Option.or_eq_some_iff.mp h with h | ⟨-, h⟩
  · cases action with
    | save => contradiction
    | saveIdentity =>
      obtain ⟨p, hp, hfault⟩ := htype h
      exact ⟨p, Or.inr hp, hfault⟩
    | _ =>
      obtain ⟨p, hp, hfault⟩ := htype h
      exact ⟨p, Or.inl (Or.inl hp), hfault⟩
  · cases action with
    | save | saveIdentity =>
      obtain ⟨p, hp, hfault⟩ := hcast h
      exact ⟨p, Or.inl (Or.inr hp), hfault⟩
    | _ =>
      obtain ⟨p, hp, hfault⟩ := hcast h
      exact ⟨p, Or.inl (Or.inl hp), hfault⟩

end Declaration

namespace Model

variable {c : Config} {m : Model}

/-- The properties of an accessor that matter for the methods of the accessor. -/
theorem exists_declaration_hasFault_iff :
    (∃ d ∈ m.declarations, d.HasFault c) ↔ ∃ a ∈ m.accessors,
      (∃ p ∈ a.params, SqlType.IsUnmapped p.sqlType) ∨
      ((a.unique = true ∨ a.identityColumns ≠ []) ∧
        ∃ p ∈ a.columns, c.isEnum p = true ∧ SqlType.IsUnmapped p.sqlType) ∨
      ∃ p ∈ a.identityColumns, c.isEnum p = false ∧ SqlType.IsUnmapped p.sqlType := by
  constructor
  · rintro ⟨⟨a, k⟩, hd, hfault⟩
    refine ⟨a, mem_accessors_of_mem_declarations hd, ?_⟩
    rw [mem_declarations] at hd
    cases k with
    | save =>
      have ha : a.unique = true ∧ a.identityColumns = [] := by
        simpa [accessorsOf, nonQueryAccessors] using (List.mem_filter.mp hd).2
      exact Or.inr (Or.inl ⟨Or.inl ha.1, hfault⟩)
    | saveIdentity =>
      have ha : a.identityColumns ≠ [] := by
        simpa [accessorsOf, scalarAccessors] using (List.mem_filter.mp hd).2
      rcases hfault with hfault | hfault
      · exact Or.inr (Or.inr hfault)
      · exact Or.inr (Or.inl ⟨Or.inr ha, hfault⟩)
    | _ => exact Or.inl hfault
  · rintro ⟨a, ha, hfault⟩
    -- Every accessor has a get, so a fault of its key is one of a method in any case.
    have hget : ⟨a, if a.unique then .getOne else .getMany⟩ ∈ m.declarations := by
      rw [mem_declarations]
      cases hunique : a.unique <;>
        simp [accessorsOf, uniqueAccessors, multipleAccessors, ha, hunique]
    have hsave (h : a.identityColumns = []) (hunique : a.unique = true) :
        ⟨a, .save⟩ ∈ m.declarations := by
      simp [mem_declarations, accessorsOf, nonQueryAccessors, ha, h, hunique]
    have hidentity (h : a.identityColumns ≠ []) : ⟨a, .saveIdentity⟩ ∈ m.declarations := by
      simp [mem_declarations, accessorsOf, scalarAccessors, ha, h]
    rcases hfault with hfault | ⟨hsaved, hfault⟩ | hfault
    · refine ⟨_, hget, ?_⟩
      cases a.unique <;> exact hfault
    · by_cases h : a.identityColumns = []
      · exact ⟨_, hsave h (hsaved.resolve_right (not_not_intro h)), hfault⟩
      · exact ⟨_, hidentity h, Or.inr hfault⟩
    · obtain ⟨p, hp, hunmapped⟩ := hfault
      exact ⟨_, hidentity (List.ne_nil_of_mem hp), Or.inl ⟨p, hp, hunmapped⟩⟩

end Model

/-- The files for data access cannot be rendered if a column of a key has no type in the table, or
if a method that saves rows has a column of an enumeration or an identity without one. The error is
then that of a missing type, and the class is the file that it is reported for. -/
theorem aggregate_fails_iff (c : Config) (m : Model) :
    ((∃ failure, c.renderer.aggregateTexts c m = .error failure) ↔ ∃ a ∈ m.accessors,
      (∃ p ∈ a.params, SqlType.IsUnmapped p.sqlType) ∨
      ((a.unique = true ∨ a.identityColumns ≠ []) ∧
        ∃ p ∈ a.columns, c.isEnum p = true ∧ SqlType.IsUnmapped p.sqlType) ∨
      ∃ p ∈ a.identityColumns, c.isEnum p = false ∧ SqlType.IsUnmapped p.sqlType) ∧
    (∀ failure, c.renderer.aggregateTexts c m = .error failure →
      failure.typeName = c.className ∧ ∃ a ∈ m.accessors,
        ∃ p ∈ a.params ++ a.columns ++ a.identityColumns,
          SqlType.IsUnmapped p.sqlType ∧ failure.error = .unmappedType p.name p.sqlType) ∧
    ∀ text, c.renderer.classText c m = .ok text →
      ∃ text', c.renderer.interfaceText c m = .ok text' := by
  have herror (failure : RenderFailure) : c.renderer.aggregateTexts c m = .error failure ↔
      ∃ e, m.declarations.findSome? (·.methodFault c) = some e ∧ failure = ⟨c.className, e⟩ := by
    rw [aggregateTexts_eq]
    cases m.declarations.findSome? (·.methodFault c) <;> simp [eq_comm]
  refine ⟨?_, ?_, ?_⟩
  · rw [← Model.exists_declaration_hasFault_iff]
    simp only [herror, ← Declaration.exists_methodFault_iff, ← exists_findSome?_eq_some]
    exact ⟨fun ⟨_, e, he, _⟩ => ⟨e, he⟩, fun ⟨e, he⟩ => ⟨_, e, he, rfl⟩⟩
  · intro failure h
    obtain ⟨e, he, rfl⟩ := (herror failure).mp h
    obtain ⟨d, hd, hfault⟩ := List.exists_of_findSome?_eq_some he
    exact ⟨rfl, d.accessor, Model.mem_accessors_of_mem_declarations hd,
      d.eq_unmappedType_of_methodFault hfault⟩
  · intro text h
    rw [classText_eq, fileText_eq_ok] at h
    rw [interfaceText_eq, findSome?_signatureFault h.1]
    exact ⟨_, rfl⟩

end DataLayer
