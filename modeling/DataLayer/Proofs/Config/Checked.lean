import DataLayer.Proofs.Config.Acceptance

/-!
What holds of a configuration that is read from a document. The names of the class and of entities
are identifiers, and no two overrides of columns have the same key.
-/

namespace DataLayer

theorem Except.bind_eq_ok {ε α β : Type} {x : Except ε α} {f : α → Except ε β} {b : β} :
    (x >>= f) = .ok b ↔ ∃ a, x = .ok a ∧ f a = .ok b := by
  cases x <;> simp [bind, Except.bind]

namespace Config

variable {source : String} {c : Config}

/-- The settings that a configuration comes from. -/
theorem exists_settings_of_ofText (h : ofText source = .ok c) :
    ∃ s : Settings, s.Valid ∧ c = s.config := by
  unfold ofText at h
  split at h
  · contradiction
  · next settings _ => exact ⟨settings, ofSettings_eq_ok_iff.mp h⟩

theorem isValid_className (h : ofText source = .ok c) : Identifier.IsValid c.className := by
  obtain ⟨settings, hvalid, rfl⟩ := exists_settings_of_ofText h
  exact Identifier.isValid_iff.mpr hvalid.className

theorem nodup_columns_of_ofText (h : ofText source = .ok c) :
    (c.overrides.columns.map (·.1)).Nodup := by
  obtain ⟨settings, hvalid, rfl⟩ := exists_settings_of_ofText h
  simpa [Settings.config, Function.comp_def] using hvalid.columns

/-- A name that is given to an entity is an identifier. -/
theorem isValid_entityName (h : ofText source = .ok c) {table name : String}
    (hname : (c.overrides.entity? table).bind (·.name) = some name) :
    Identifier.IsValid name := by
  obtain ⟨settings, hvalid, rfl⟩ := exists_settings_of_ofText h
  obtain ⟨o, ho, hname⟩ := Option.bind_eq_some_iff.mp hname
  obtain ⟨before, after, hentry, -⟩ := List.lookup_eq_some_iff.mp ho
  have hmem : (table, o) ∈ settings.config.overrides.entities := by simp [hentry]
  obtain ⟨e, he, heq⟩ := List.mem_map.mp hmem
  obtain ⟨-, rfl⟩ := Prod.mk.inj heq
  exact Identifier.isValid_iff.mpr (hvalid.entityNames e he name hname)

/-- The configuration of an empty document. -/
def initial : Config where
  enabled := true
  features := ⟨true, true, true, true⟩
  asyncDefaults := ⟨false, false, false⟩
  requirePackage := true
  classAccess := "public"
  sourceProject := none
  package := none
  modelNamespace := ""
  accessNamespace := ""
  modelDirectory := "Models"
  accessDirectory := "Data"
  className := "DataAccess"
  fileNameInfix := none
  usings := []
  enabledConfigurations := []
  overrides := ⟨[], [], [], [], [], []⟩

theorem ofText_empty : ofText "" = .ok initial := by decide +kernel

end Config

end DataLayer
