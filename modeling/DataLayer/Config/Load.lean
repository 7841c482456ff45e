import DataLayer.Config.Check
import DataLayer.FileSystem

/-! Loading configurations from files, and the document that a new project starts with. -/

namespace DataLayer.Config

/-- Loads a configuration file. Relative paths in it start at its directory. -/
def load {m : Type → Type} [Monad m] [FileSystem m] (path : String) :
    m (Except ConfigError Config) := do
  match (← readFile path).bind Text.ofOctets? with
  | none => return .error (.unreadable path)
  | some source =>
    match ofText source with
    | .error e => return .error e
    | .ok c =>
      match Path.parent? path with
      | none => return .ok c
      | some base => return .ok (c.resolvePaths base)

def defaultLines : List String := [
  "# dacgen configuration",
  "",
  "enabled = true",
  "# error_if_dacpac_not_found = true",
  "# enabled_in_configurations = [\"Debug\"]",
  "",
  "# Either point at the database project (the package is looked up in",
  "# bin/<configuration>/) or at the package itself.",
  "source_project = \"../Database/Database.sqlproj\"",
  "# dacpac = \"../Database/bin/Debug/Database.dacpac\"",
  "",
  "model_namespace = \"MyApp.Models\"",
  "dal_namespace = \"MyApp.Data\"",
  "model_out_path = \"Models\"",
  "dal_out_path = \"Data\"",
  "data_access_class_name = \"DataAccess\"",
  "file_name_extension_prefix = \"Generated\"",
  "class_access = \"public\"",
  "",
  "include_primary_key = true",
  "include_unique_index = true",
  "include_non_unique_index = true",
  "include_foreign_key = true",
  "",
  "get_async = false",
  "save_async = false",
  "delete_async = false",
  "",
  "usings = []",
  "objects_to_ignore = []",
  "",
  "# [[column_overrides]]",
  "# name = \"[dbo].[Table1].[Name]\"",
  "# type = \"nvarchar\"",
  "# nullable = false",
  "# annotations = [\"DataMember\"]",
  "",
  "# [[entity_overrides]]",
  "# table_name = \"[dbo].[Table1]\"",
  "# name = \"Customer\"",
  "# annotations = [\"DataContract\"]",
  "# access = \"internal\"",
  "# include_foreign_key = true",
  "",
  "# [[plural_mappings]]",
  "# entity_name = \"Category\"",
  "# plural_form = \"Categories\"",
  "",
  "# [[enum_mappings]]",
  "# column_full_name = \"[dbo].[Order].[Status]\"",
  "# enum_type_name = \"OrderStatus\"",
  "",
  "# [[async_mappings]]",
  "# index_name = \"[dbo].[PK_Order]\"",
  "# get_async = true",
  "# save_async = true",
  "# delete_async = false"]

/-- The document of a new project. -/
def defaultText : String := String.join (defaultLines.map (· ++ "\n"))

end DataLayer.Config
