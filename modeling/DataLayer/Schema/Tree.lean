import DataLayer.Schema.Error
import DataLayer.Xml.Document

/-!
Schema documents as numbered elements. Elements have the numbers of the document order, so an
element and all that it holds make up an interval of numbers that starts with its own.
-/

namespace DataLayer.Schema

/-- An element with the numbers of its children. -/
structure Node where
  name : String
  attributes : List Xml.Attribute
  children : List Nat
  deriving DecidableEq, Repr

/-- The elements of a document by number; number 0 is the root. -/
structure Tree where
  nodes : Array Node

/-- The numbers of trees that stand side by side, the first of them given. -/
def numbers (first : Nat) : List Xml.Tree → List Nat
  | [] => []
  | t :: ts => first :: numbers (first + t.size) ts

mutual

/-- The nodes of a tree whose root has the number `index`. -/
def nodesOf (index : Nat) : Xml.Tree → List Node
  | .element name attributes children =>
    ⟨name, attributes, numbers (index + 1) children⟩ :: nodesOfAll (index + 1) children

def nodesOfAll (first : Nat) : List Xml.Tree → List Node
  | [] => []
  | t :: ts => nodesOf first t ++ nodesOfAll (first + t.size) ts

end

def Tree.ofXml (t : Xml.Tree) : Tree := ⟨(nodesOf 0 t).toArray⟩

def Tree.parse (bytes : List UInt8) : Except SchemaError Tree :=
  match Xml.parse bytes with
  | .error e => .error (.document e)
  | .ok t => .ok (.ofXml t)

/-- An element of a document, by number. -/
structure Element where
  tree : Tree
  index : Nat

namespace Element

def node (e : Element) : Node := e.tree.nodes.getD e.index ⟨"", [], []⟩

def name (e : Element) : String := e.node.name

def attributes (e : Element) : List Xml.Attribute := e.node.attributes

/-- The value of the first attribute of a name. -/
def attribute? (e : Element) (name : String) : Option String :=
  (e.attributes.find? (·.name == name)).map (·.value)

def children (e : Element) : List Element := e.node.children.map fun i => ⟨e.tree, i⟩

end Element

def Tree.root (t : Tree) : Element := ⟨t, 0⟩

end DataLayer.Schema
