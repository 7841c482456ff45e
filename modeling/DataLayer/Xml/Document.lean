import DataLayer.Xml.Attribute

/-! Reading documents: tags are matched with a stack of open elements, and one root remains. -/

namespace DataLayer.Xml

open Text

/-- An element that is open, with its children so far in reverse order. -/
structure OpenElement where
  /-- The name as its end tag must have it. -/
  fullName : Octets
  name : String
  attributes : List Attribute
  before : List Tree

/-- The name of a tag and what follows it. -/
def splitName (content : Octets) : Octets × Octets :=
  (content.takeWhile (!isSpace ·), content.dropWhile (!isSpace ·))

/-- The name that an end tag gives: white space behind it is dropped, unless there is nothing
else. -/
def closingName (content : Octets) : Octets :=
  match content.reverse.dropWhile isSpace with
  | [] => content
  | kept => kept.reverse

/-- A start tag without the mark of an empty element, and whether it had one. -/
def splitEmptyMark (content : Octets) : Octets × Bool :=
  if content.getLast? == some (octet '/') then (content.dropLast, true) else (content, false)

/-- Open elements, the innermost first, and the root once it is complete. -/
structure Builder where
  opened : List OpenElement
  root : Option Tree

namespace Builder

/-- Adds a complete element to the innermost open one; without one it is the root. -/
def complete (t : Tree) (b : Builder) : Builder :=
  match b.opened with
  | [] => { b with root := some t }
  | e :: outer => { b with opened := { e with before := t :: e.before } :: outer }

def step (b : Builder) : Markup → Except Error Builder
  | .fault position => .error (.badMarkup position)
  | .opening content =>
    if b.opened.isEmpty && b.root.isSome then .error .manyRoots
    else
      let (content, isEmpty) := splitEmptyMark content
      let (fullName, rest) := splitName content
      match attributes? rest with
      | none => .error .badAttributes
      | some as =>
        let name := lossy (localPart fullName)
        if isEmpty then .ok (b.complete (.element name as []))
        else .ok { b with opened := ⟨fullName, name, as, []⟩ :: b.opened }
  | .closing content position =>
    match b.opened with
    | [] => .error (.badMarkup position)
    | e :: outer =>
      if closingName content = e.fullName then
        .ok (complete (.element e.name e.attributes e.before.reverse) { b with opened := outer })
      else .error (.badMarkup position)

def finish (b : Builder) : Except Error Tree :=
  match b.opened, b.root with
  | e :: _, _ => .error (.unclosed e.name)
  | [], none => .error .noRoot
  | [], some t => .ok t

end Builder

def parse (bytes : Octets) : Except Error Tree := do
  let b ← (markups bytes).foldlM Builder.step ⟨[], none⟩
  b.finish

end DataLayer.Xml
