import DataLayer.Report.Line
import DataLayer.Run.Generation

/-! What a generation has written, or would write. -/

namespace DataLayer.GenerationReport

/-- A number of things, named in the singular or the plural. -/
def counted (n : Nat) (one many : String) : String :=
  toString n ++ " " ++ if n = 1 then one else many

def writtenLines (g : Generation) : List Line :=
  [.keyValue "Schema" g.package,
    .keyValue "Resolved" (counted g.model.entities.length "entity" "entities" ++ ", " ++
      counted g.model.accessors.length "accessor" "accessors"),
    .newline,
    .heading ("Generated (" ++ toString g.written.length ++ ")")] ++
  g.written.map .addedItem

def previewLines (g : Generation) : List Line :=
  g.files.flatMap (fun f => [.divider f.path, .preformatted f.content]) ++
    [.divider "Summary",
      .preformatted (toString g.files.length ++ " files would be generated")]

/-- The report of a run that only rendered its files, or of one that wrote them. -/
def lines (dryRun : Bool) : Outcome → List Line
  | .skipped reason => [.keyValue "Skipped" reason.message]
  | .generated g =>
    g.warnings.map (fun d => .warning d.detail) ++
      if dryRun then previewLines g else writtenLines g

end DataLayer.GenerationReport
