import DataLayer.Model.Accessors
import DataLayer.Model.Entities

/-! The model of a whole schema. -/

namespace DataLayer.Model

/-- The model of a schema, with the warnings about entities before those about accessors. -/
def ofSchema (c : Config) (t : Schema.Tree) : Resolution :=
  let (entities, entityWarnings) := entitiesOf c t.tables
  let (m, keyWarnings) := addKeys c t.keys { empty with entities := entities }
  ({ m with routines := t.routines }, entityWarnings ++ keyWarnings)

end DataLayer.Model
