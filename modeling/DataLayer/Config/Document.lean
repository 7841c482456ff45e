/-!
Configuration documents: named settings, then the entries of tables, each with settings of its own.

A document is given as its statements in order. Putting them together fails when a name is set
twice, or when a setting and the entries of a table share a name.
-/

namespace DataLayer.Config

/-- The value of a setting. -/
inductive Value where
  | text (s : String)
  | flag (b : Bool)
  | list (items : List Value)
  | table (fields : List (String × Value))
  deriving Repr, Inhabited

abbrev Fields := List (String × Value)

theorem isSome_lookup_iff {α : Type} {entries : List (String × α)} {name : String} :
    (entries.lookup name).isSome = true ↔ name ∈ entries.map (·.1) := by
  simp only [List.lookup_isSome_iff, beq_iff_eq, List.mem_map]
  exact exists_congr fun _ => and_congr_right fun _ => eq_comm

/-- A line of a document that says something. -/
inductive Statement where
  | setting (name : String) (value : Value)
  /-- The settings that follow belong to a new entry of a table. -/
  | entry (table : String)
  deriving Repr

namespace Fields

/-- Adds a setting whose name is new. -/
def add? (fields : Fields) (name : String) (value : Value) : Option Fields :=
  if (fields.lookup name).isSome then none else some (fields ++ [(name, value)])

/-- Fields in order, if their names differ. -/
def ofList? (fields : List (String × Value)) : Option Fields :=
  fields.foldlM (fun acc f => Fields.add? acc f.1 f.2) []

end Fields

/-- The settings of the document, and the entries of each table in order. -/
structure Draft where
  settings : Fields
  tables : List (String × List Fields)

namespace Draft

def empty : Draft := ⟨[], []⟩

/-- Adds an empty entry to a table, which may be new. -/
def addEntry (table : String) : List (String × List Fields) → List (String × List Fields)
  | [] => [(table, [[]])]
  | (t, entries) :: rest =>
    if t = table then (t, entries ++ [[]]) :: rest else (t, entries) :: addEntry table rest

/-- Adds a setting to the last entry of a table. -/
def extendLast? (table name : String) (value : Value) :
    List (String × List Fields) → Option (List (String × List Fields))
  | [] => none
  | (t, entries) :: rest =>
    if t = table then
      match entries.reverse with
      | [] => none
      | last :: before => (last.add? name value).map fun l => (t, (l :: before).reverse) :: rest
    else (extendLast? table name value rest).map ((t, entries) :: ·)

/-- Takes in a statement; the table named is the one whose last entry settings go to. -/
def step (d : Draft × Option String) : Statement → Option (Draft × Option String)
  | .entry table =>
    if (d.1.settings.lookup table).isSome then none
    else some ({ d.1 with tables := addEntry table d.1.tables }, some table)
  | .setting name value =>
    match d.2 with
    | none => (d.1.settings.add? name value).map fun s => ({ d.1 with settings := s }, none)
    | some table => (extendLast? table name value d.1.tables).map fun ts =>
        ({ d.1 with tables := ts }, some table)

/-- All names with their values; a table is the list of its entries. -/
def fields (d : Draft) : Fields :=
  d.settings ++ d.tables.map fun t => (t.1, Value.list (t.2.map Value.table))

end Draft

def fieldsOfStatements? (statements : List Statement) : Option Fields :=
  (statements.foldlM Draft.step (Draft.empty, none)).map fun d => d.1.fields

end DataLayer.Config
