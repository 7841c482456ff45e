import DataLayer.Template.Keyword
import DataLayer.Template.Parser

/-!
Rendering. A list section shows its content once for every item, which becomes the innermost value
in scope; a record section shows it once with the record in scope; any other section just shows or
hides it.
-/

namespace DataLayer.Template

/-- Sends a value through keywords. -/
def runPipes (keywords : Keywords) (level tag : Nat) (scope : Scope) :
    List Pipe → Data → RenderM Data
  | [], value => pure value
  | p :: rest, value => do
    match keywords.get? p.keyword with
    | none => throw (.unknownKeyword p.keyword)
    | some k =>
      runPipes keywords level tag scope rest (← k.apply ⟨p.argument, level, tag, scope⟩ value)

/-- The value that a tag starts from: a path that leads nowhere gives nothing, and no path gives
the empty text. -/
def Tag.start (t : Tag) (scope : Scope) : Data :=
  match t.path with
  | some path => (scope.lookup path).getD .null
  | none => .text ""

def Tag.render (keywords : Keywords) (level : Nat) (scope : Scope) (t : Tag) : RenderM String := do
  let value ← runPipes keywords level t.id scope t.pipes (t.start scope)
  match value.scalarText? with
  | some text => pure text
  | none => throw (.notScalar (t.path.getD ""))

/-- Joins what `f` makes of each item in turn. -/
def renderEach (f : Data → RenderM String) : List Data → RenderM String
  | [] => pure ""
  | item :: rest => do
    let text ← f item
    return text ++ (← renderEach f rest)

mutual

def Node.render (keywords : Keywords) (level : Nat) (scope : Scope) : Node → RenderM String
  | .text s => pure s
  | .tag t => t.render keywords level scope
  | .block path inverted children =>
    let value := scope.lookup path
    if (value.map Data.isTruthy).getD false == inverted then pure ""
    else do
      modify (·.enterBlock (level + 1))
      match value, inverted with
      | some (.list items), false =>
        renderEach (fun item => renderNodes keywords (level + 1) (item :: scope) children) items
      | some (.record fields), _ =>
        renderNodes keywords (level + 1) (.record fields :: scope) children
      | _, _ => renderNodes keywords (level + 1) scope children

def renderNodes (keywords : Keywords) (level : Nat) (scope : Scope) : List Node → RenderM String
  | [] => pure ""
  | node :: rest => do
    let text ← node.render keywords level scope
    return text ++ (← renderNodes keywords level scope rest)

end

/-- Fills a template from data, from the positions that earlier renderings have left. -/
def render (keywords : Keywords) (source : String) (data : Data) : RenderM String := do
  match parse source with
  | .error e => throw e
  | .ok nodes => renderNodes keywords 0 [data] nodes

/-- A rendering of its own. -/
def renderFresh (keywords : Keywords) (source : String) (data : Data) :
    Except TemplateError String :=
  ((render keywords source data).run.run .empty).1

end DataLayer.Template
