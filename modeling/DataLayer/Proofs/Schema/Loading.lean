import DataLayer.Proofs.Schema.Subtrees
import DataLayer.Proofs.Xml.Reading

/-!
Loading a schema undoes its serialization. What is loaded has the local names, the values and the
order of a tree, and nothing of the prefixes, the namespaces, the texts and the comments that its
document holds besides.
-/

namespace DataLayer.Schema

/-- An element has the name, the attributes and the children that a tree says, in this order. -/
inductive Element.Shows : Element → Xml.Tree → Prop where
  | intro {e : Element} {t : Xml.Tree} (name : e.name = t.name)
      (attributes : e.attributes = t.attributes)
      (children : List.Forall₂ Shows e.children t.children) : Shows e t

theorem Element.StandsFor.attributes {e : Element} {part : Xml.Tree} (h : e.StandsFor part) :
    e.attributes = part.attributes := by
  unfold Element.attributes
  rw [Tree.Holds.node_eq h]

mutual

theorem Element.StandsFor.shows {e : Element} :
    {part : Xml.Tree} → e.StandsFor part → e.Shows part
  | .element _ _ _, h => ⟨h.name, h.attributes, showsAll h.children⟩

theorem Element.StandsFor.showsAll {es : List Element} :
    {parts : List Xml.Tree} → List.Forall₂ StandsFor es parts → List.Forall₂ Shows es parts
  | [], .nil => .nil
  | _ :: _, .cons hfirst hrest => .cons (shows hfirst) (showsAll hrest)

end

/-- The text of a document is loaded as the tree that it was written from. -/
theorem Tree.parse_text {t : Xml.Tree} {c : Xml.Content} {text : String} (hnamed : t.WellNamed)
    (hchosen : c.WellChosen) (htrees : c.trees = [t]) (htext : String.ofList c.chars = text) :
    Tree.parse (Text.octets text) = .ok (.ofXml t) := by
  have hparse : Xml.parse (Text.octets text) = .ok t := by
    rw [← htext]
    exact Xml.Content.parse_octets hchosen hnamed htrees
  rw [Tree.parse, hparse]

/-- A tree of words can be written, and however it is written, it is what is loaded: names lose
their prefixes and values their escapes, and what the writing adds is left out. -/
theorem loading_undoes_writing {t : Xml.Tree} (h : t.WellNamed) :
    (∃ c : Xml.Content, c.WellChosen ∧ c.trees = [t]) ∧
    ∀ c : Xml.Content, c.WellChosen → c.trees = [t] →
      Tree.parse c.octets = .ok (.ofXml t) ∧ (Tree.ofXml t).root.Shows t := by
  obtain ⟨hplain, hchosen⟩ := Xml.Content.trees_plainly [t]
  refine ⟨⟨_, hchosen, hplain⟩, fun c hc htrees => ⟨?_, ?_⟩⟩
  · exact Tree.parse_text h hc htrees rfl
  · have hstands : (Tree.ofXml t).root.StandsFor t := Tree.holds_ofXml t
    exact hstands.shows

/-- A table whose name holds every character that is escaped. -/
def escapedTable : Xml.Tree :=
  .element "Model" [] [.element "Element" [⟨"Type", "SqlTable"⟩, ⟨"Name", "[a&b].[<\"t\">]"⟩] [],
    .element "Element" [] []]

/-- The table in a document with prefixes, a comment that ends in a dash, and the declaration of a
namespace whose name would end a tag outside of quotes. -/
def prefixedContent : Xml.Content :=
  .comment "-" <| .element ⟨some "d", "Model", [.declared none "urn:a", .declared (some "d") "/>"]⟩
    (.text "x > y" <|
      .empty ⟨none, "Element", [.given none ⟨"Type", "SqlTable"⟩, .declared (some "e") "<&",
        .given (some "e") ⟨"Name", "[a&b].[<\"t\">]"⟩]⟩ <|
      .element ⟨some "d", "Element", []⟩ (.comment "" .nothing) .nothing) .nothing

def prefixedText : String :=
  "<!-----><d:Model xmlns=\"urn:a\" xmlns:d=\"/>\">x > y<Element Type=\"SqlTable\" " ++
    "xmlns:e=\"<&\" e:Name=\"[a&amp;b].[&lt;&quot;t&quot;&gt;]\"/>" ++
    "<d:Element><!----></d:Element></d:Model>"

theorem loading_undoes_writing_prefixed :
    escapedTable.WellNamed ∧ prefixedContent.WellChosen ∧ prefixedContent.trees = [escapedTable] ∧
      Tree.parse (Text.octets prefixedText) = .ok (.ofXml escapedTable) := by
  have hnamed : escapedTable.WellNamed := by decide +kernel
  have hchosen : prefixedContent.WellChosen := by decide +kernel
  have htext : String.ofList prefixedContent.chars = prefixedText := by decide +kernel
  refine ⟨hnamed, hchosen, rfl, ?_⟩
  rw [← htext]
  exact ((loading_undoes_writing hnamed).2 prefixedContent hchosen rfl).1

end DataLayer.Schema
