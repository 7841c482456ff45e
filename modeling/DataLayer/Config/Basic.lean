import DataLayer.Path
import DataLayer.SqlType
import DataLayer.Template.Keyword

/-! The configuration of a run, and the questions that a run asks it. -/

namespace DataLayer

open Text

/-- For each verb of an accessor, whether it is asynchronous. -/
structure AsyncPolicy where
  get : Bool
  save : Bool
  delete : Bool
  deriving DecidableEq, Repr

/-- What a configuration says about one column; what it leaves open stays as the schema has it. -/
structure ColumnOverride where
  name : String
  sqlType : Option String
  nullable : Option Bool
  annotations : Option (List String)
  deriving DecidableEq, Repr

/-- What a configuration says about the entity of one table. -/
structure EntityOverride where
  tableName : String
  name : Option String
  annotations : Option (List String)
  access : Option String
  includeForeignKey : Option Bool
  deriving DecidableEq, Repr

/-- Which kinds of keys give accessors. -/
structure Features where
  primaryKey : Bool
  uniqueIndex : Bool
  nonUniqueIndex : Bool
  foreignKey : Bool
  deriving DecidableEq, Repr

/-- Deviations for single objects, by name and in the order of the document. -/
structure Overrides where
  ignored : List String
  columns : List (String × ColumnOverride)
  entities : List (String × EntityOverride)
  plurals : Template.Plurals
  enums : EnumTypes
  asyncs : List (String × AsyncPolicy)
  deriving DecidableEq, Repr

structure Config where
  enabled : Bool
  features : Features
  asyncDefaults : AsyncPolicy
  /-- Whether a missing schema package is an error; otherwise nothing is generated. -/
  requirePackage : Bool
  classAccess : String
  sourceProject : Option String
  package : Option String
  modelNamespace : String
  accessNamespace : String
  modelDirectory : String
  accessDirectory : String
  className : String
  fileNameInfix : Option String
  usings : List String
  enabledConfigurations : List String
  overrides : Overrides
  deriving DecidableEq, Repr

namespace Overrides

def isIgnored (o : Overrides) (name : String) : Bool := !name.isEmpty && o.ignored.contains name

def entity? (o : Overrides) (table : String) : Option EntityOverride := o.entities.lookup table

def plural? (o : Overrides) (entity : String) : Option String := o.plurals.lookup entity

def async? (o : Overrides) (key : String) : Option AsyncPolicy := o.asyncs.lookup key

end Overrides

namespace Config

/-- The name of a configuration file where none is given. -/
def fileName : String := "dacgen.toml"

/-- Makes relative paths start at a directory. -/
def resolvePaths (c : Config) (base : String) : Config :=
  { c with
    modelDirectory := Path.join base c.modelDirectory
    accessDirectory := Path.join base c.accessDirectory
    sourceProject := c.sourceProject.map (Path.join base)
    package := c.package.map (Path.join base) }

/-- An empty list of build configurations admits all of them. -/
def isEnabledFor (c : Config) (configuration : String) : Bool :=
  c.enabled && (c.enabledConfigurations.isEmpty ||
    c.enabledConfigurations.any (eqIgnoreAsciiCase · configuration))

/-- The schema package: the one given, else the one that the project builds. -/
def packagePath? (c : Config) (configuration : String) : Option String :=
  match c.package with
  | some path => some path
  | none =>
    c.sourceProject.bind fun project =>
    (Path.fileStem? project).map fun stem =>
      Path.join (Path.join (Path.join ((Path.parent? project).getD "") "bin") configuration)
        (stem ++ ".dacpac")

/-- The name of the file that holds a generated type. -/
def typeFileName (c : Config) (typeName : String) : String :=
  match (c.fileNameInfix.map trim).filter (!·.isEmpty) with
  | some infixPart => typeName ++ "." ++ infixPart ++ ".cs"
  | none => typeName ++ ".cs"

/-- The keywords of templates under this configuration. -/
def keywords (c : Config) : Template.Keywords := .all c.overrides.plurals c.overrides.enums

end Config

end DataLayer
