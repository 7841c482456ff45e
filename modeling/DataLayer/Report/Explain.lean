import DataLayer.Report.Line
import DataLayer.Run.Generation

/-! An explanation of a run: its phases, and the model that it resolves. -/

namespace DataLayer.Explanation

/-- What the type of a column without a type is shown as. -/
def unmappedName : String := "<unmapped>"

def columnText (p : Property) : String :=
  p.shortName ++ ": " ++ (if p.type.isUnknown then unmappedName else p.type.name) ++ " (" ++
    p.sqlType ++ (if p.identity then " identity" else "") ++ ")"

def entityLines (m : Model) (e : Entity) : List Line :=
  .listItem (e.access ++ " " ++ e.name ++ " <- " ++ e.table) ::
    (e.properties.map (fun p => .nestedItem (columnText p)) ++
      (m.accessorsAt e.foreigns).map fun a => .nestedItem ("child rows via " ++ a.key))

/-- The asynchronous verbs of an accessor. -/
def asyncVerbs (p : AsyncPolicy) : List String :=
  (if p.get then ["get"] else []) ++ (if p.save then ["save"] else []) ++
    (if p.delete then ["delete"] else [])

def asyncText (p : AsyncPolicy) : String :=
  if (asyncVerbs p).isEmpty then "" else " async: " ++ ", ".intercalate (asyncVerbs p)

def accessorText (a : Accessor) : String :=
  (if a.unique then "unique " else "multiple ") ++ a.kind.label ++ " on " ++ a.entity ++ " by (" ++
    ", ".intercalate (a.params.map Property.shortName) ++ ")" ++ asyncText a.asyncs

def accessorLines (m : Model) (a : Accessor) : List Line :=
  .listItem (accessorText a) :: .nestedItem a.key ::
    (m.accessorsAt a.foreigns).map fun f => .nestedItem ("includes " ++ f.key)

def routineText (r : Schema.Routine) : String :=
  r.kind.label ++ " " ++ r.name ++ "(" ++
    ", ".intercalate (r.params.map fun p =>
      SqlName.short p.name ++ " " ++ SqlName.short p.sqlType) ++ ")"

/-- A heading with the number of items below it. -/
def countHeading (name : String) (n : Nat) : Line := .heading (name ++ " (" ++ toString n ++ ")")

def modelLines (m : Model) : List Line :=
  countHeading "Entities" m.entities.length :: m.entities.flatMap (entityLines m) ++
    [.newline, countHeading "Accessors" m.accessors.length] ++
    m.accessors.flatMap (accessorLines m) ++
    (if m.routines.isEmpty then []
      else [.newline, countHeading "Routines" m.routines.length] ++
        m.routines.map fun r => .listItem (routineText r))

def outcomeLines : Outcome → List Line
  | .skipped reason => [.keyValue "Skipped" reason.message]
  | .generated g => .keyValue "Schema" g.package :: .newline :: modelLines g.model

/-- A numbered list of phases by name and description. -/
def phaseLines (phases : List (String × String)) : List Line :=
  (phases.zipIdx 1).map fun ((name, description), number) =>
    .numberedItem number (name ++ " - " ++ description)

def lines (configPath : String) (phases : List (String × String)) (o : Outcome) : List Line :=
  [.title "dacgen Pipeline Explanation", .newline, .keyValue "Input" configPath, .newline,
    .heading "Pipeline Phases"] ++ phaseLines phases ++ [.newline] ++ outcomeLines o

end DataLayer.Explanation
