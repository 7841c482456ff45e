import DataLayer.Config.Error
import DataLayer.Config.Settings
import DataLayer.Text.Utf8

/-!
From the settings of a document to a configuration: names must be identifiers, access modifiers
must be known, and the entries of a table must have different keys. The first violation in the
order of the checks is the error; its place is looked up in the text of the document.
-/

namespace DataLayer.Config

open Text

/-- The offsets at which `needle` occurs, without overlaps, when the text starts at `offset`. -/
def occurrences (needle : List Char) (offset : Nat) (skip : Nat) : List Char → List Nat
  | [] => if skip = 0 && needle.isEmpty then [offset] else []
  | c :: cs =>
    match skip with
    | skip + 1 => occurrences needle (offset + c.utf8Size) skip cs
    | 0 =>
      if needle.isPrefixOf (c :: cs) then
        offset :: occurrences needle (offset + c.utf8Size) (needle.length - 1) cs
      else occurrences needle (offset + c.utf8Size) 0 cs

/-- Occurrence number `nth` of a text in one of the two quotes, double quotes first. -/
def quotedSpan? (source value : String) (nth : Nat) : Option Span :=
  ['"', '\''].findSome? fun quote =>
    (occurrences (quote :: (value.toList ++ [quote])) 0 0 source.toList)[nth]?.map fun offset =>
      ⟨offset + 1, value.utf8ByteSize⟩

def checkIdentifier (source role name : String) : Except ConfigError Unit :=
  match Identifier.fault? name with
  | none => .ok ()
  | some fault => .error (.invalidIdentifier name role fault (quotedSpan? source name 0))

/-- An empty namespace is allowed. -/
def checkNamespace (source name : String) : Except ConfigError Unit :=
  if name.isEmpty then .ok ()
  else match Identifier.dottedFault? name with
    | none => .ok ()
    | some fault => .error (.invalidIdentifier name "namespace" fault (quotedSpan? source name 0))

def checkAccess (source access : String) : Except ConfigError Unit :=
  if accessModifiers.contains access then .ok ()
  else .error (.invalidAccess access (quotedSpan? source access 0))

/-- The name and the access modifier of an entity, as far as they are given. -/
def checkEntity (source : String) (e : EntityOverride) : Except ConfigError Unit := do
  match e.name with
  | some name => checkIdentifier source "entity name" name
  | none => .ok ()
  match e.access with
  | some access => checkAccess source access
  | none => .ok ()

/-- Keys the entries of a table behind those in `done`. Each entry is checked, and its key must be
new; a key that is not is looked for at its second place in quotes. -/
def keyed {α β : Type} (source table : String) (check : α → Except ConfigError Unit)
    (key : α → String) (value : α → β) (done : List (String × β)) :
    List α → Except ConfigError (List (String × β))
  | [] => .ok done
  | a :: rest => do
    check a
    if (done.lookup (key a)).isSome then
      .error (.duplicateKey table (key a) (quotedSpan? source (key a) 1))
    else keyed source table check key value (done ++ [(key a, value a)]) rest

/-- The names in order of their first occurrence. -/
def withoutRepeats (names : List String) : List String :=
  names.foldl (fun acc n => if acc.contains n then acc else acc ++ [n]) []

def ofSettings (source : String) (s : Settings) : Except ConfigError Config := do
  checkIdentifier source "data access class name" s.className
  checkNamespace source s.modelNamespace
  checkNamespace source s.accessNamespace
  checkAccess source s.classAccess
  let always {α : Type} : α → Except ConfigError Unit := fun _ => .ok ()
  let columns ← keyed source "column_overrides" always (trim ·.name) id [] s.columns
  let entities ← keyed source "entity_overrides" (checkEntity source) (trim ·.tableName) id []
    s.entities
  let plurals ← keyed source "plural_mappings" always (·.entityName) (·.pluralForm) [] s.plurals
  let enums ← keyed source "enum_mappings" always (trim ·.column) (·.typeName) [] s.enums
  let asyncs ← keyed source "async_mappings" always (·.keyName) (·.policy) [] s.asyncs
  return {
    enabled := s.enabled
    features := s.features
    asyncDefaults := s.asyncDefaults
    requirePackage := s.requirePackage
    classAccess := s.classAccess
    sourceProject := s.sourceProject
    package := s.package
    modelNamespace := s.modelNamespace
    accessNamespace := s.accessNamespace
    modelDirectory := s.modelDirectory
    accessDirectory := s.accessDirectory
    className := s.className
    fileNameInfix := s.fileNameInfix
    usings := s.usings
    enabledConfigurations := s.enabledConfigurations
    overrides := {
      ignored := withoutRepeats s.ignored
      columns := columns
      entities := entities
      plurals := plurals
      enums := enums
      asyncs := asyncs } }

/-- Reads and checks a document. -/
def ofText (source : String) : Except ConfigError Config :=
  match Settings.ofText? source with
  | none => .error .malformed
  | some s => ofSettings source s

end DataLayer.Config
