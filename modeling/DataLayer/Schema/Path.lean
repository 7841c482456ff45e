import DataLayer.Schema.Tree
import DataLayer.Text.Blank
import DataLayer.Text.Split

/-!
Paths that select elements, such as `Relationship[@Name='Columns']/Entry/*`. Each step goes to
those children that have its name, and that pass its test of an attribute or of their position
among the children of that name.
-/

namespace DataLayer.Schema

open Text

/-- The test in brackets behind the name of a step. -/
inductive Test where
  | attribute (name value : String)
  | position (n : Nat)
  /-- A test that cannot be read; nothing passes it. -/
  | unreadable
  deriving DecidableEq, Repr

/-- A step; the name `*` stands for all names. -/
structure Step where
  name : String
  test : Option Test
  deriving DecidableEq, Repr

/-- The number that decimal digits spell, after an optional `+`. -/
def position? (cs : List Char) : Option Nat :=
  let digits := match cs with
    | '+' :: rest => rest
    | cs => cs
  if digits.isEmpty || !digits.all Char.isDigit then none
  else some (digits.foldl (fun n c => 10 * n + (c.toNat - '0'.toNat)) 0)

def Test.ofChars : List Char → Test
  | '@' :: rest =>
    match cutAtFirst '=' rest with
    | none => .unreadable
    | some (name, value) =>
      let value := trimChars value
      match between? '\'' value <|> between? '"' value with
      | some value => .attribute (String.ofList (trimChars name)) (String.ofList value)
      | none => .unreadable
  | cs =>
    match position? (trimChars cs) with
    | some n => .position n
    | none => .unreadable

/-- Drops one closing bracket at the end. -/
def dropClosing (cs : List Char) : List Char :=
  if cs.getLast? == some ']' then cs.dropLast else cs

def Step.ofChars (cs : List Char) : Step :=
  match cutAtFirst '[' cs with
  | none => ⟨String.ofList cs, none⟩
  | some (name, rest) => ⟨String.ofList name, some (.ofChars (dropClosing rest))⟩

/-- The steps of a path: its non-empty parts between slashes outside quotes. -/
def stepsOf (path : List Char) : List Step :=
  ((splitOutsideQuotes '/' path).filter (!·.isEmpty)).map Step.ofChars

namespace Step

/-- Whether an element has the name of the step. -/
def names (s : Step) (e : Element) : Bool := s.name == "*" || e.name == s.name

/-- Whether the element that is number `position` of its name passes the test. -/
def passes (s : Step) (e : Element) (position : Nat) : Bool :=
  match s.test with
  | none => true
  | some (.attribute name value) => e.attribute? name == some value
  | some (.position n) => position == n
  | some .unreadable => false

/-- The children that a step selects. Positions count from one. -/
def select (s : Step) (e : Element) : List Element :=
  ((e.children.filter s.names).zipIdx 1).filterMap fun (child, position) =>
    if s.passes child position then some child else none

end Step

/-- What the steps select from elements. -/
def follow (steps : List Step) (from_ : List Element) : List Element :=
  steps.foldl (fun current s => current.flatMap s.select) from_

/-- What a path selects from an element. -/
def Element.select (e : Element) (path : String) : List Element :=
  follow (stepsOf path.toList) [e]

def Element.first? (e : Element) (path : String) : Option Element := (e.select path).head?

/-- What a path selects from a document. An absolute path names the root in its first step. -/
def Tree.select (t : Tree) (path : String) : List Element :=
  match path.toList with
  | '/' :: rest =>
    match stepsOf rest with
    | [] => []
    | s :: steps => if s.names t.root && s.passes t.root 1 then follow steps [t.root] else []
  | _ => t.root.select path

end DataLayer.Schema
