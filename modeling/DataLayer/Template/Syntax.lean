/-!
Templates as trees. A tag prints the value of a path after sending it through a chain of keywords;
a section shows its content depending on the value of a path.
-/

namespace DataLayer.Template

/-- A keyword call such as `Join(", ")`. -/
structure Pipe where
  keyword : String
  argument : Option String
  deriving DecidableEq, Repr

/-- A tag. Its `id` is the octet at which it starts, so it is unique within a template. -/
structure Tag where
  id : Nat
  path : Option String
  pipes : List Pipe
  deriving DecidableEq, Repr

inductive Node where
  | text (s : String)
  | tag (t : Tag)
  | block (path : String) (inverted : Bool) (children : List Node)
  deriving Repr

end DataLayer.Template
