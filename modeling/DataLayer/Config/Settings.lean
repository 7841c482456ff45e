import DataLayer.Config.Basic
import DataLayer.Config.Reader

/-!
The settings that a configuration document may make, with the values they have when it is silent.
Unknown names, values of another kind and entries without their name are refused.
-/

namespace DataLayer.Config

/-- An entry that declares the plural form of an entity name. -/
structure PluralEntry where
  entityName : String
  pluralForm : String
  deriving DecidableEq, Repr

/-- An entry that declares the enumeration of a column. -/
structure EnumEntry where
  column : String
  typeName : String
  deriving DecidableEq, Repr

/-- An entry that declares which verbs of a key's accessor are asynchronous. -/
structure AsyncEntry where
  keyName : String
  policy : AsyncPolicy
  deriving DecidableEq, Repr

/-- A document as written, before any check of its names. -/
structure Settings where
  enabled : Bool
  features : Features
  asyncDefaults : AsyncPolicy
  requirePackage : Bool
  classAccess : String
  sourceProject : Option String
  package : Option String
  modelNamespace : String
  accessNamespace : String
  modelDirectory : String
  accessDirectory : String
  className : String
  fileNameInfix : Option String
  usings : List String
  enabledConfigurations : List String
  ignored : List String
  columns : List ColumnOverride
  entities : List EntityOverride
  plurals : List PluralEntry
  enums : List EnumEntry
  asyncs : List AsyncEntry
  deriving DecidableEq, Repr

namespace Value

def text? : Value → Option String
  | text s => some s
  | _ => none

def flag? : Value → Option Bool
  | flag b => some b
  | _ => none

def list? : Value → Option (List Value)
  | list items => some items
  | _ => none

def texts? (v : Value) : Option (List String) := v.list?.bind (·.mapM text?)

/-- The fields of an entry. An entry may also list its values in the order of the names. -/
def fields? (names : List String) : Value → Option Fields
  | table fields => if fields.all (names.contains ·.1) then some fields else none
  | list items => some (names.zip items)
  | _ => none

end Value

namespace Fields

/-- The value of a setting that must be made. -/
def require {α : Type} (fields : Fields) (name : String) (read : Value → Option α) : Option α :=
  (fields.lookup name).bind read

/-- The value of a setting that may be left out. -/
def optional {α : Type} (fields : Fields) (name : String) (read : Value → Option α) :
    Option (Option α) :=
  match fields.lookup name with
  | none => some none
  | some v => (read v).map some

/-- The value of a setting, or another one if it is left out. -/
def orElse {α : Type} (fields : Fields) (name : String) (read : Value → Option α) (default : α) :
    Option α :=
  (fields.optional name read).map (·.getD default)

end Fields

def columnNames : List String := ["name", "type", "nullable", "annotations"]

def columnOfValue? (v : Value) : Option ColumnOverride := do
  let f ← v.fields? columnNames
  return {
    name := ← f.require "name" Value.text?
    sqlType := ← f.optional "type" Value.text?
    nullable := ← f.optional "nullable" Value.flag?
    annotations := ← f.optional "annotations" Value.texts? }

def entityNames : List String :=
  ["table_name", "name", "annotations", "access", "include_foreign_key"]

def entityOfValue? (v : Value) : Option EntityOverride := do
  let f ← v.fields? entityNames
  return {
    tableName := ← f.require "table_name" Value.text?
    name := ← f.optional "name" Value.text?
    annotations := ← f.optional "annotations" Value.texts?
    access := ← f.optional "access" Value.text?
    includeForeignKey := ← f.optional "include_foreign_key" Value.flag? }

def pluralOfValue? (v : Value) : Option PluralEntry := do
  let f ← v.fields? ["entity_name", "plural_form"]
  return ⟨← f.require "entity_name" Value.text?, ← f.require "plural_form" Value.text?⟩

def enumOfValue? (v : Value) : Option EnumEntry := do
  let f ← v.fields? ["column_full_name", "enum_type_name"]
  return ⟨← f.require "column_full_name" Value.text?, ← f.require "enum_type_name" Value.text?⟩

def asyncFlags? (f : Fields) : Option AsyncPolicy := do
  return ⟨← f.orElse "get_async" Value.flag? false, ← f.orElse "save_async" Value.flag? false,
    ← f.orElse "delete_async" Value.flag? false⟩

def asyncOfValue? (v : Value) : Option AsyncEntry := do
  let f ← v.fields? ["index_name", "get_async", "save_async", "delete_async"]
  return ⟨← f.require "index_name" Value.text?, ← asyncFlags? f⟩

def entriesOf? {α : Type} (read : Value → Option α) (v : Value) : Option (List α) :=
  v.list?.bind (·.mapM read)

def settingNames : List String := [
  "enabled", "include_primary_key", "include_unique_index", "include_non_unique_index",
  "include_foreign_key", "get_async", "save_async", "delete_async", "error_if_dacpac_not_found",
  "class_access", "source_project", "dacpac", "model_namespace", "dal_namespace",
  "model_out_path", "dal_out_path", "data_access_class_name", "file_name_extension_prefix",
  "usings", "enabled_in_configurations", "objects_to_ignore", "column_overrides",
  "entity_overrides", "plural_mappings", "enum_mappings", "async_mappings"]

def Settings.ofFields? (f : Fields) : Option Settings := do
  if !f.all (settingNames.contains ·.1) then none
  let flag := fun name => f.orElse name Value.flag? true
  return {
    enabled := ← flag "enabled"
    features := {
      primaryKey := ← flag "include_primary_key"
      uniqueIndex := ← flag "include_unique_index"
      nonUniqueIndex := ← flag "include_non_unique_index"
      foreignKey := ← flag "include_foreign_key" }
    asyncDefaults := ← asyncFlags? f
    requirePackage := ← flag "error_if_dacpac_not_found"
    classAccess := ← f.orElse "class_access" Value.text? "public"
    sourceProject := ← f.optional "source_project" Value.text?
    package := ← f.optional "dacpac" Value.text?
    modelNamespace := ← f.orElse "model_namespace" Value.text? ""
    accessNamespace := ← f.orElse "dal_namespace" Value.text? ""
    modelDirectory := ← f.orElse "model_out_path" Value.text? "Models"
    accessDirectory := ← f.orElse "dal_out_path" Value.text? "Data"
    className := ← f.orElse "data_access_class_name" Value.text? "DataAccess"
    fileNameInfix := ← f.optional "file_name_extension_prefix" Value.text?
    usings := ← f.orElse "usings" Value.texts? []
    enabledConfigurations := ← f.orElse "enabled_in_configurations" Value.texts? []
    ignored := ← f.orElse "objects_to_ignore" Value.texts? []
    columns := ← f.orElse "column_overrides" (entriesOf? columnOfValue?) []
    entities := ← f.orElse "entity_overrides" (entriesOf? entityOfValue?) []
    plurals := ← f.orElse "plural_mappings" (entriesOf? pluralOfValue?) []
    enums := ← f.orElse "enum_mappings" (entriesOf? enumOfValue?) []
    asyncs := ← f.orElse "async_mappings" (entriesOf? asyncOfValue?) [] }

def Settings.ofText? (source : String) : Option Settings :=
  (fieldsOfText? source).bind Settings.ofFields?

end DataLayer.Config
