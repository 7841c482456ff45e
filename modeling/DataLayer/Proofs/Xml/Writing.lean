import DataLayer.Text.Alphabetic
import DataLayer.Xml.Document
import Mathlib.Data.List.Infix

/-!
Trees written as documents. To what a tree says a writing adds prefixes of names and declarations
of namespaces, texts and comments between the tags, and the form of elements without content. None
of this is part of the tree.
-/

namespace DataLayer.Xml

open Text

/-! Names. -/

def isWordChar (c : Char) : Bool := isAlphanumeric c || c == '_'

/-- A word of letters, digits and `_`. -/
structure IsWord (s : String) : Prop where
  nonempty : s ≠ ""
  chars : ∀ c ∈ s.toList, isWordChar c = true

instance (s : String) : Decidable (IsWord s) :=
  decidable_of_iff (s ≠ "" ∧ s.toList.all isWordChar = true)
    ⟨fun h => ⟨h.1, List.all_eq_true.mp h.2⟩, fun h => ⟨h.nonempty, List.all_eq_true.mpr h.chars⟩⟩

/-- Attributes of one element, none of which could be taken for a namespace declaration. -/
structure AreNamed (as : List Attribute) : Prop where
  words : ∀ a ∈ as, IsWord a.name
  undeclared : ∀ a ∈ as, a.name ≠ "xmlns"
  nodup : (as.map (·.name)).Nodup

instance (as : List Attribute) : Decidable (AreNamed as) :=
  decidable_of_iff ((∀ a ∈ as, IsWord a.name) ∧ (∀ a ∈ as, a.name ≠ "xmlns") ∧
      (as.map (·.name)).Nodup)
    ⟨fun h => ⟨h.1, h.2.1, h.2.2⟩, fun h => ⟨h.words, h.undeclared, h.nodup⟩⟩

/-- A tree whose elements and attributes have words for names. -/
inductive Tree.WellNamed : Tree → Prop where
  | element {name : String} {attributes : List Attribute} {children : List Tree}
      (word : IsWord name) (named : AreNamed attributes) (inner : ∀ t ∈ children, t.WellNamed) :
      WellNamed (.element name attributes children)

mutual

instance Tree.decidableWellNamed : (t : Tree) → Decidable t.WellNamed
  | .element name attributes children =>
    have := Tree.decidableAllWellNamed children
    decidable_of_iff (IsWord name ∧ AreNamed attributes ∧ ∀ t ∈ children, t.WellNamed)
      ⟨fun h => .element h.1 h.2.1 h.2.2, fun | .element word named inner => ⟨word, named, inner⟩⟩

instance Tree.decidableAllWellNamed : (ts : List Tree) → Decidable (∀ t ∈ ts, t.WellNamed)
  | [] => isTrue nofun
  | t :: ts =>
    have := t.decidableWellNamed
    have := Tree.decidableAllWellNamed ts
    decidable_of_iff (t.WellNamed ∧ ∀ t' ∈ ts, t'.WellNamed) List.forall_mem_cons.symm

end

/-- The word before the colon of a name. -/
structure IsPrefixWord (q : String) : Prop where
  word : IsWord q
  undeclared : q ≠ "xmlns"

instance (q : String) : Decidable (IsPrefixWord q) :=
  decidable_of_iff (IsWord q ∧ q ≠ "xmlns")
    ⟨fun h => ⟨h.1, h.2⟩, fun h => ⟨h.word, h.undeclared⟩⟩

/-- A name as it is written, behind a word and a colon or without them. -/
def qualified : Option String → String → List Char
  | none, name => name.toList
  | some q, name => q.toList ++ ':' :: name.toList

/-! Tags. -/

def escapeChar : Char → List Char
  | '&' => "&amp;".toList
  | '<' => "&lt;".toList
  | '>' => "&gt;".toList
  | '"' => "&quot;".toList
  | c => [c]

def escape (s : String) : List Char := s.toList.flatMap escapeChar

/-- What a start tag holds after its name. -/
inductive Item where
  | given (qualifier : Option String) (a : Attribute)
  /-- The declaration of a namespace for a word, or for names without one. -/
  | declared (word : Option String) (uri : String)

namespace Item

def key : Item → List Char
  | given qualifier a => qualified qualifier a.name
  | declared none _ => "xmlns".toList
  | declared (some w) _ => qualified (some "xmlns") w

/-- What stands between the double quotes. -/
def value : Item → List Char
  | given _ a => escape a.value
  | declared _ uri => uri.toList

def chars (i : Item) : List Char := ' ' :: (i.key ++ '=' :: '"' :: (i.value ++ ['"']))

def given? : Item → Option Attribute
  | given _ a => some a
  | declared _ _ => none

def declared? : Item → Option (Option String)
  | given _ _ => none
  | declared w _ => some w

def WellChosen : Item → Prop
  | given qualifier _ => ∀ q ∈ qualifier, IsPrefixWord q
  | declared word uri => (∀ w ∈ word, IsWord w) ∧ '"' ∉ uri.toList

instance : (i : Item) → Decidable i.WellChosen
  | given qualifier _ => inferInstanceAs (Decidable (∀ q ∈ qualifier, IsPrefixWord q))
  | declared word uri => inferInstanceAs (Decidable ((∀ w ∈ word, IsWord w) ∧ '"' ∉ uri.toList))

end Item

/-- A start tag or an empty element. -/
structure Tag where
  qualifier : Option String
  name : String
  items : List Item

namespace Tag

def fullName (tag : Tag) : List Char := qualified tag.qualifier tag.name

def chars (tag : Tag) : List Char := tag.fullName ++ tag.items.flatMap Item.chars

/-- Written as in `<a>`. -/
def startChars (tag : Tag) : List Char := '<' :: (tag.chars ++ ['>'])

/-- Written as in `</a>`. -/
def endChars (tag : Tag) : List Char := '<' :: '/' :: (tag.fullName ++ ['>'])

/-- Written as in `<a/>`. -/
def emptyChars (tag : Tag) : List Char := '<' :: (tag.chars ++ ['/', '>'])

def attributes (tag : Tag) : List Attribute := tag.items.filterMap Item.given?

/-- The element that starts with a tag. -/
def element (tag : Tag) (children : List Tree) : Tree :=
  .element tag.name tag.attributes children

structure WellChosen (tag : Tag) : Prop where
  qualifier : ∀ q ∈ tag.qualifier, IsPrefixWord q
  items : ∀ i ∈ tag.items, i.WellChosen
  nodup : (tag.items.filterMap Item.declared?).Nodup

instance (tag : Tag) : Decidable tag.WellChosen :=
  decidable_of_iff ((∀ q ∈ tag.qualifier, IsPrefixWord q) ∧ (∀ i ∈ tag.items, i.WellChosen) ∧
      (tag.items.filterMap Item.declared?).Nodup)
    ⟨fun h => ⟨h.1, h.2.1, h.2.2⟩, fun h => ⟨h.qualifier, h.items, h.nodup⟩⟩

end Tag

/-! Documents. -/

/-- What stands between two tags, or in a whole document. -/
inductive Content where
  | nothing
  | text (s : String) (rest : Content)
  | comment (s : String) (rest : Content)
  /-- An empty element. -/
  | empty (tag : Tag) (rest : Content)
  /-- A start tag, what it encloses, and its end tag. -/
  | element (tag : Tag) (inner rest : Content)

def commentChars (s : String) : List Char := "<!--".toList ++ (s.toList ++ "-->".toList)

namespace Content

def chars : Content → List Char
  | nothing => []
  | text s rest => s.toList ++ rest.chars
  | comment s rest => commentChars s ++ rest.chars
  | empty tag rest => tag.emptyChars ++ rest.chars
  | element tag inner rest => tag.startChars ++ (inner.chars ++ (tag.endChars ++ rest.chars))

/-- The octets of what is written. -/
def octets (c : Content) : Octets := Text.octets (String.ofList c.chars)

/-- The trees that are written. -/
def trees : Content → List Tree
  | nothing => []
  | text _ rest => rest.trees
  | comment _ rest => rest.trees
  | empty tag rest => tag.element [] :: rest.trees
  | element tag inner rest => tag.element inner.trees :: rest.trees

/-- What is added to the trees cannot be taken for something else. -/
def WellChosen : Content → Prop
  | nothing => True
  | text s rest => '<' ∉ s.toList ∧ '&' ∉ s.toList ∧ rest.WellChosen
  | comment s rest => ¬['-', '-'] <:+: s.toList ∧ rest.WellChosen
  | empty tag rest => tag.WellChosen ∧ rest.WellChosen
  | element tag inner rest => tag.WellChosen ∧ inner.WellChosen ∧ rest.WellChosen

instance decidableWellChosen : (c : Content) → Decidable c.WellChosen
  | nothing => inferInstanceAs (Decidable True)
  | text s rest =>
    have := rest.decidableWellChosen
    inferInstanceAs (Decidable ('<' ∉ s.toList ∧ '&' ∉ s.toList ∧ rest.WellChosen))
  | comment s rest =>
    have := rest.decidableWellChosen
    inferInstanceAs (Decidable (¬['-', '-'] <:+: s.toList ∧ rest.WellChosen))
  | empty tag rest =>
    have := rest.decidableWellChosen
    inferInstanceAs (Decidable (tag.WellChosen ∧ rest.WellChosen))
  | element tag inner rest =>
    have := inner.decidableWellChosen
    have := rest.decidableWellChosen
    inferInstanceAs (Decidable (tag.WellChosen ∧ inner.WellChosen ∧ rest.WellChosen))

end Content

/-! Each tree can be written, if only with nothing added. -/

mutual

def Tree.plainly (rest : Content) : Tree → Content
  | .element name attributes children =>
    .element ⟨none, name, attributes.map (.given none)⟩ (Content.plainly children) rest

def Content.plainly : List Tree → Content
  | [] => .nothing
  | t :: ts => t.plainly (Content.plainly ts)

end

theorem given?_plainly (as : List Attribute) :
    (as.map (.given none)).filterMap Item.given? = as := by
  induction as with
  | nil => rfl
  | cons a as ih => exact congrArg (a :: ·) ih

theorem wellChosen_plainly (name : String) (as : List Attribute) :
    Tag.WellChosen ⟨none, name, as.map (.given none)⟩ where
  qualifier := by simp
  items := by simp [Item.WellChosen]
  nodup := by
    have hnone : (as.map (Item.given none)).filterMap Item.declared? = [] := by
      simp [Item.declared?]
    rw [hnone]
    exact .nil

mutual

theorem Tree.trees_plainly (rest : Content) : (t : Tree) →
    (t.plainly rest).trees = t :: rest.trees ∧ (rest.WellChosen → (t.plainly rest).WellChosen)
  | .element name attributes children => by
    have hinner := Content.trees_plainly children
    rw [Tree.plainly, Content.trees, hinner.1, Tag.element, Tag.attributes, given?_plainly]
    exact ⟨rfl, fun hrest => ⟨wellChosen_plainly name attributes, hinner.2, hrest⟩⟩

theorem Content.trees_plainly : (ts : List Tree) →
    (Content.plainly ts).trees = ts ∧ (Content.plainly ts).WellChosen
  | [] => ⟨rfl, trivial⟩
  | t :: ts => by
    have hrest := Content.trees_plainly ts
    have hfirst := t.trees_plainly (Content.plainly ts)
    rw [Content.plainly, hfirst.1, hrest.1]
    exact ⟨rfl, hfirst.2 hrest.2⟩

end

end DataLayer.Xml
