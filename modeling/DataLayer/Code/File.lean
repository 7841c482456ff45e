import DataLayer.Code.AccessClass
import DataLayer.Code.AccessInterface
import DataLayer.Code.EntityFile
import DataLayer.Model.Dictionary
import DataLayer.OutputFiles
import DataLayer.Template.Render

/-!
The files of a model: one for every entity, one for the data access class and one for its
interface. Every file is rendered on its own, from fresh positions.
-/

namespace DataLayer

/-- What fills templates from data. -/
abbrev Renderer := String → Data → Template.RenderM String

/-- The renderer with the keywords of a configuration. -/
def Config.renderer (c : Config) : Renderer := Template.render c.keywords

/-- Why a file could not be rendered; the name is that of the type in it. -/
structure RenderFailure where
  typeName : String
  error : TemplateError
  deriving DecidableEq, Repr

namespace Renderer

/-- Fills a template from fresh positions. -/
def text (r : Renderer) (typeName template : String) (data : Data) : Except RenderFailure String :=
  match ((r template data).run.run .empty).1 with
  | .ok text => .ok text
  | .error e => .error ⟨typeName, e⟩

def entityText (r : Renderer) (c : Config) (m : Model) (e : Entity) : Except RenderFailure String :=
  r.text e.name Code.entityTemplate (e.data c m)

def classText (r : Renderer) (c : Config) (m : Model) : Except RenderFailure String :=
  r.text c.className Code.classTemplate (m.data c)

def interfaceText (r : Renderer) (c : Config) (m : Model) : Except RenderFailure String :=
  r.text ("I" ++ c.className) Code.interfaceTemplate (m.data c)

/-- The data access class and its interface. -/
def aggregateTexts (r : Renderer) (c : Config) (m : Model) :
    Except RenderFailure (String × String) := do
  return (← r.classText c m, ← r.interfaceText c m)

/-- The files of entities in order. -/
def entityFiles (r : Renderer) (c : Config) (m : Model) :
    List Entity → Except RenderFailure (List OutputFile)
  | [] => .ok []
  | e :: rest => do
    let text ← r.entityText c m e
    return ⟨Path.join c.modelDirectory (c.typeFileName e.name), text⟩ :: (← entityFiles r c m rest)

/-- The files of the data access class and of its interface. -/
def aggregateFiles (r : Renderer) (c : Config) (m : Model) :
    Except RenderFailure (List OutputFile) := do
  let (classText, interfaceText) ← r.aggregateTexts c m
  return [
    ⟨Path.join c.accessDirectory (c.typeFileName c.className), classText⟩,
    ⟨Path.join c.accessDirectory (c.typeFileName ("I" ++ c.className)), interfaceText⟩]

end Renderer

end DataLayer
