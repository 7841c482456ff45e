/-!
Documents as trees of elements with attributes; text and markup that is no element is left out.
-/

namespace DataLayer.Xml

structure Attribute where
  name : String
  value : String
  deriving DecidableEq, Repr

inductive Tree where
  | element (name : String) (attributes : List Attribute) (children : List Tree)
  deriving Repr

namespace Tree

def name : Tree → String
  | element n _ _ => n

def attributes : Tree → List Attribute
  | element _ as _ => as

def children : Tree → List Tree
  | element _ _ ts => ts

mutual

/-- The number of elements of a tree. -/
def size : Tree → Nat
  | element _ _ ts => sizes ts + 1

def sizes : List Tree → Nat
  | [] => 0
  | t :: ts => t.size + sizes ts

end

end Tree

/-- Why octets are no document. -/
inductive Error where
  /-- A construct that starts at this octet never ends, or is none that is known. -/
  | badMarkup (position : Nat)
  | badAttributes
  | manyRoots
  | unclosed (name : String)
  | noRoot
  deriving DecidableEq, Repr

end DataLayer.Xml
