import DataLayer.Proofs.Schema.Objects
import DataLayer.Proofs.Text.Splitting
import DataLayer.Proofs.Text.Trimming

/-!
Paths that are put together. A path behind another one selects from what the first one selects, as
long as no quote reaches over the seam; and a value in quotes is taken as it is, so the questions to
an object are scans of its children, whatever the names in them hold.
-/

namespace DataLayer.Schema

open Text

/-! Paths one behind the other. -/

/-- At the end of a path no quote is open. -/
def QuotesClosed (path : List Char) : Prop := path.foldl openQuote none = none

instance (path : List Char) : Decidable (QuotesClosed path) := inferInstanceAs (Decidable (_ = _))

/-- A slash outside of quotes ends a step. -/
theorem QuotesClosed.stepsOf_append {p : List Char} (h : QuotesClosed p) (q : List Char) :
    stepsOf (p ++ '/' :: q) = stepsOf p ++ stepsOf q := by
  have hcut : ((p.foldl openQuote none).isNone && '/' == '/') = true := by rw [h]; rfl
  have hopen : openQuote (p.foldl openQuote none) '/' = none := by rw [h]; rfl
  have hsplit : splitOutsideQuotes '/' (p ++ '/' :: q) =
      splitOutsideQuotes '/' p ++ splitOutsideQuotes '/' q := by
    rw [splitOutsideQuotes, splitScan_append_cons hcut, hopen]
    rfl
  rw [stepsOf, hsplit, List.filter_append, List.map_append]
  rfl

theorem follow_append (steps steps' : List Step) (es : List Element) :
    follow (steps ++ steps') es = follow steps' (follow steps es) :=
  List.foldl_append

/-- What steps lead to from several elements is what they lead to from each of them in turn. -/
theorem follow_eq_flatMap (steps : List Step) (es : List Element) :
    follow steps es = es.flatMap fun e => follow steps [e] := by
  induction steps generalizing es with
  | nil => exact List.flatMap_singleton' es |>.symm
  | cons s steps ih =>
    calc follow (s :: steps) es
      _ = follow steps (es.flatMap s.select) := rfl
      _ = es.flatMap fun e => (s.select e).flatMap fun x => follow steps [x] := by
        rw [ih, List.flatMap_assoc]
      _ = es.flatMap fun e => follow (s :: steps) [e] := by
        refine List.flatMap_congr fun e _ => ?_
        rw [← ih]
        exact congrArg (follow steps) (List.flatMap_singleton ..).symm

theorem Element.select_append {p : String} (h : QuotesClosed p.toList) (e : Element) (q : String) :
    e.select (p ++ "/" ++ q) = (e.select p).flatMap (·.select q) := by
  have hpath : (p ++ "/" ++ q).toList = p.toList ++ '/' :: q.toList := by simp
  unfold Element.select
  rw [hpath, h.stepsOf_append, follow_append, follow_eq_flatMap]

/-! Steps as they are written. -/

/-- A name that means itself in a path, in brackets too. -/
def PlainName (name : List Char) : Prop :=
  ∀ c ∈ name, c ∉ ['/', '[', '=', '"', '\''] ∧ isBlank c = false

instance (name : List Char) : Decidable (PlainName name) :=
  decidable_of_iff
    (name.all (fun c => !"/[=\"'".toList.contains c && !isBlank c) = true)
    (by simp [PlainName])

/-- Outside of quotes nothing but a slash ends a step and nothing but a quote opens one. -/
theorem PlainName.keeps {name : List Char} (h : PlainName name) {c : Char} (hc : c ∈ name) :
    ((none : Option Char).isNone && c == '/') = false ∧ openQuote none c = none := by
  have hplain := (h c hc).1
  simp only [List.mem_cons, List.not_mem_nil, or_false, not_or] at hplain
  simp [openQuote, hplain]

theorem PlainName.quotesClosed {name : List Char} (h : PlainName name) : QuotesClosed name :=
  foldl_of_keeps fun _ hc => (h.keeps hc).2

theorem PlainName.stepsOf {name : List Char} (h : PlainName name) (hne : name ≠ []) :
    stepsOf name = [⟨String.ofList name, none⟩] := by
  have hsplit : splitOutsideQuotes '/' (name ++ []) = name.foldr consFirst [[]] :=
    splitScan_append_of_keeps (fun _ hc => h.keeps hc) []
  rw [List.append_nil, foldr_consFirst, List.append_nil] at hsplit
  have hstep : Step.ofChars name = ⟨String.ofList name, none⟩ := by
    rw [Step.ofChars, cutAtFirst_eq_none fun hmem => (h _ hmem).1 (by simp)]
  rw [Schema.stepsOf, hsplit, List.filter_cons_of_pos (by simpa using hne)]
  exact congrArg (fun s => [s]) hstep

/-- A step that tests an attribute, with the value between single quotes. -/
def attributeStep (name key value : List Char) : List Char :=
  name ++ '[' :: '@' :: (key ++ '=' :: '\'' :: (value ++ ['\'', ']']))

section AttributeStep

variable {name key value : List Char}

/-- What stands in front of the value. -/
def attributeFront (name key : List Char) : List Char := name ++ '[' :: '@' :: (key ++ ['='])

theorem attributeStep_eq :
    attributeStep name key value =
      attributeFront name key ++ '\'' :: (value ++ ['\'', ']']) := by
  simp [attributeStep, attributeFront]

theorem keeps_attributeFront (hname : PlainName name) (hkey : PlainName key) {c : Char}
    (hc : c ∈ attributeFront name key) :
    ((none : Option Char).isNone && c == '/') = false ∧ openQuote none c = none := by
  rcases List.mem_append.mp hc with hc | hc
  · exact hname.keeps hc
  · simp only [List.mem_cons, List.mem_append, List.not_mem_nil, or_false] at hc
    rcases hc with rfl | rfl | hc | rfl
    · decide
    · decide
    · exact hkey.keeps hc
    · decide

/-- Between single quotes nothing but such a quote ends the value. -/
theorem keeps_value (hvalue : '\'' ∉ value) {c : Char} (hc : c ∈ value) :
    ((some '\'').isNone && c == '/') = false ∧ openQuote (some '\'') c = some '\'' := by
  have hne : '\'' ≠ c := fun heq => hvalue (heq ▸ hc)
  exact ⟨rfl, by simp [openQuote, hne]⟩

variable (hname : PlainName name) (hkey : PlainName key)

include hname hkey

theorem ofChars_attributeStep : Step.ofChars (attributeStep name key value) =
    ⟨String.ofList name, some (.attribute (String.ofList key) (String.ofList value))⟩ := by
  have hbracket : '[' ∉ name := fun hmem => (hname _ hmem).1 (by simp)
  have hequals : '=' ∉ key := fun hmem => (hkey _ hmem).1 (by simp)
  have hquote : trimChars ['\''] = ['\''] := trimChars_eq_self (by simp [isBlank_eq_false])
  have hquoted : trimChars ('\'' :: (value ++ ['\''])) = '\'' :: (value ++ ['\'']) :=
    trimChars_append (List.cons_ne_nil _ _) (List.cons_ne_nil _ _) hquote hquote value
  have hclosing : dropClosing ('@' :: (key ++ '=' :: '\'' :: (value ++ ['\'', ']']))) =
      '@' :: (key ++ '=' :: '\'' :: (value ++ ['\''])) := by
    have hend : '@' :: (key ++ '=' :: '\'' :: (value ++ ['\'', ']'])) =
        '@' :: (key ++ '=' :: '\'' :: (value ++ ['\''])) ++ [']'] := by simp
    rw [hend, dropClosing, List.getLast?_concat, beq_self_eq_true, if_pos rfl,
      List.dropLast_concat]
  have hbetween : between? '\'' ('\'' :: (value ++ ['\''])) = some value :=
    between?_eq_some.mpr rfl
  rw [Step.ofChars, attributeStep, cutAtFirst_append hbracket]
  simp only [hclosing, Test.ofChars, cutAtFirst_append hequals, hquoted, hbetween,
    trimChars_eq_self fun c hc => (hkey c hc).2]
  rfl

variable (hvalue : '\'' ∉ value)

include hvalue

theorem quotesClosed_attributeStep : QuotesClosed (attributeStep name key value) := by
  have hfront : (attributeFront name key).foldl openQuote none = none :=
    foldl_of_keeps fun _ hc => (keeps_attributeFront hname hkey hc).2
  have hinner : value.foldl openQuote (some '\'') = some '\'' :=
    foldl_of_keeps fun _ hc => (keeps_value hvalue hc).2
  have hopen : openQuote none '\'' = some '\'' := rfl
  rw [QuotesClosed, attributeStep_eq, List.foldl_append, hfront, List.foldl_cons, hopen,
    List.foldl_append, hinner]
  rfl

theorem splitOutsideQuotes_attributeStep :
    splitOutsideQuotes '/' (attributeStep name key value) = [attributeStep name key value] := by
  let cut (q : Option Char) (c : Char) : Bool := q.isNone && c == '/'
  have hinner : splitScan cut openQuote (some '\'') (value ++ ['\'', ']']) =
      [value ++ ['\'', ']']] := by
    rw [splitScan_append_of_keeps fun _ hc => keeps_value hvalue hc]
    exact foldr_consFirst value ['\'', ']'] []
  have hopen : splitScan cut openQuote none ('\'' :: (value ++ ['\'', ']'])) =
      consFirst '\'' (splitScan cut openQuote (some '\'') (value ++ ['\'', ']'])) := rfl
  rw [splitOutsideQuotes, attributeStep_eq,
    splitScan_append_of_keeps fun _ hc => keeps_attributeFront hname hkey hc, hopen, hinner,
    consFirst, foldr_consFirst]

theorem stepsOf_attributeStep : stepsOf (attributeStep name key value) =
    [⟨String.ofList name, some (.attribute (String.ofList key) (String.ofList value))⟩] := by
  have hne : attributeStep name key value ≠ [] := by simp [attributeStep]
  rw [stepsOf, splitOutsideQuotes_attributeStep hname hkey hvalue,
    List.filter_cons_of_pos (by simpa using hne)]
  exact congrArg (fun s => [s]) (ofChars_attributeStep hname hkey)

end AttributeStep

/-! Queries as scans of children. -/

namespace Element

/-- The children of a name. -/
def childrenNamed (e : Element) (name : String) : List Element :=
  e.children.filter (·.name == name)

/-- The entries of the relationships of a name. -/
def entries (e : Element) (relationship : String) : List Element :=
  ((e.childrenNamed "Relationship").filter (·.attribute? "Name" == some relationship)).flatMap
    (·.childrenNamed "Entry")

/-- The value of the first child that is a property of a name. -/
def scanProperty? (e : Element) (name : String) : Option String :=
  ((e.childrenNamed "Property").find? (·.attribute? "Name" == some name)).bind
    (·.attribute? "Value")

/-- The names of the references in the entries of a relationship. -/
def scanReferences (e : Element) (relationship : String) : List String :=
  ((e.entries relationship).flatMap (·.childrenNamed "References")).filterMap (·.attribute? "Name")

/-- The elements of a type in the entries of a relationship. -/
def scanRelated (e : Element) (relationship type : String) : List Element :=
  ((e.entries relationship).flatMap (·.childrenNamed "Element")).filter
    (·.attribute? "Type" == some type)

variable (e : Element)

theorem select_eq_follow {path : String} {steps : List Step} (h : stepsOf path.toList = steps) :
    e.select path = follow steps [e] := by
  rw [select, h]

theorem follow_singleton (s : Step) : follow [s] [e] = s.select e := List.flatMap_singleton ..

theorem select_step_name {name : String} (hstar : name ≠ "*") :
    (⟨name, none⟩ : Step).select e = e.childrenNamed name := by
  rw [Step.select_plain]
  refine List.filter_congr fun x _ => ?_
  rw [Step.names, beq_false_of_ne hstar, Bool.false_or]

theorem select_name {name : String} (hplain : PlainName name.toList) (hne : name.toList ≠ [])
    (hstar : name ≠ "*") : e.select name = e.childrenNamed name := by
  have hsteps : stepsOf name.toList = [⟨name, none⟩] := by
    rw [hplain.stepsOf hne, String.ofList_toList]
  rw [select_eq_follow e hsteps, follow_singleton, e.select_step_name hstar]

theorem select_attribute {name key value : String} (hname : PlainName name.toList)
    (hkey : PlainName key.toList) (hvalue : '\'' ∉ value.toList) (hstar : name ≠ "*") :
    e.select (name ++ "[@" ++ key ++ "='" ++ value ++ "']") =
      (e.childrenNamed name).filter (·.attribute? key == some value) := by
  have hpath : (name ++ "[@" ++ key ++ "='" ++ value ++ "']").toList =
      attributeStep name.toList key.toList value.toList := by
    simp [attributeStep]
  have hsteps : stepsOf (name ++ "[@" ++ key ++ "='" ++ value ++ "']").toList =
      [⟨name, some (.attribute key value)⟩] := by
    rw [hpath, stepsOf_attributeStep hname hkey hvalue]
    simp only [String.ofList_toList]
  rw [select_eq_follow e hsteps, follow_singleton, Step.select_attribute,
    e.select_step_name hstar]

/-- The elements that a path selects from the entries of a relationship, whatever its name holds. -/
theorem select_entries {relationship : String} (h : '\'' ∉ relationship.toList) (path : String) :
    e.select ("Relationship[@Name='" ++ relationship ++ "']/Entry/" ++ path) =
      (e.entries relationship).flatMap (·.select path) := by
  let relationships := "Relationship" ++ "[@" ++ "Name" ++ "='" ++ relationship ++ "']"
  have hpath : "Relationship[@Name='" ++ relationship ++ "']/Entry/" ++ path =
      relationships ++ "/" ++ ("Entry" ++ "/" ++ path) := by
    apply String.toList_inj.mp
    simp [relationships]
  have hname : PlainName "Relationship".toList := by decide +kernel
  have hkey : PlainName "Name".toList := by decide +kernel
  have hentry : PlainName "Entry".toList := by decide +kernel
  have hclosed : QuotesClosed relationships.toList := by
    have hstep := quotesClosed_attributeStep hname hkey h
    simpa [relationships, attributeStep] using hstep
  have hbehind (x : Element) :
      x.select ("Entry" ++ "/" ++ path) = (x.childrenNamed "Entry").flatMap (·.select path) := by
    rw [select_append hentry.quotesClosed, select_name x hentry (by decide +kernel) (by decide)]
  calc e.select ("Relationship[@Name='" ++ relationship ++ "']/Entry/" ++ path)
    _ = (e.select relationships).flatMap (·.select ("Entry" ++ "/" ++ path)) := by
      rw [hpath, select_append hclosed]
    _ = ((e.childrenNamed "Relationship").filter
          (·.attribute? "Name" == some relationship)).flatMap
          fun x => (x.childrenNamed "Entry").flatMap (·.select path) := by
      rw [select_attribute e hname hkey h (by decide)]
      exact List.flatMap_congr fun x _ => hbehind x
    _ = (e.entries relationship).flatMap (·.select path) := by rw [entries, List.flatMap_assoc]

theorem property?_eq {name : String} (h : '\'' ∉ name.toList) :
    e.property? name = e.scanProperty? name := by
  have hpath : "Property[@Name='" ++ name ++ "']" =
      "Property" ++ "[@" ++ "Name" ++ "='" ++ name ++ "']" := by
    apply String.toList_inj.mp
    simp
  rw [property?, scanProperty?, first?, hpath,
    select_attribute e (by decide +kernel) (by decide +kernel) h (by decide), List.head?_filter]

theorem references_eq {relationship : String} (h : '\'' ∉ relationship.toList) :
    e.references relationship = e.scanReferences relationship := by
  have hpath : "Relationship[@Name='" ++ relationship ++ "']/Entry/References" =
      "Relationship[@Name='" ++ relationship ++ "']/Entry/" ++ "References" := by
    apply String.toList_inj.mp
    simp
  have hnamed (x : Element) : x.select "References" = x.childrenNamed "References" :=
    select_name x (by decide +kernel) (by decide +kernel) (by decide)
  rw [references, scanReferences, hpath, select_entries e h]
  simp only [hnamed]

theorem related_eq {relationship : String} (h : '\'' ∉ relationship.toList) (kind : Kind) :
    e.related relationship kind = e.scanRelated relationship kind.typeName := by
  have hpath : "Relationship[@Name='" ++ relationship ++ "']/Entry/Element[@Type='" ++
      kind.typeName ++ "']" = "Relationship[@Name='" ++ relationship ++ "']/Entry/" ++
        ("Element" ++ "[@" ++ "Type" ++ "='" ++ kind.typeName ++ "']") := by
    apply String.toList_inj.mp
    simp
  have htype : '\'' ∉ kind.typeName.toList := by cases kind <;> decide +kernel
  have htyped (x : Element) :
      x.select ("Element" ++ "[@" ++ "Type" ++ "='" ++ kind.typeName ++ "']") =
        (x.childrenNamed "Element").filter (·.attribute? "Type" == some kind.typeName) :=
    select_attribute x (by decide +kernel) (by decide +kernel) htype (by decide)
  rw [related, scanRelated, hpath, select_entries e h, List.filter_flatMap]
  simp only [htyped]

theorem typeReference?_eq {relationship : String} (h : '\'' ∉ relationship.toList) :
    e.typeReference? relationship =
      (e.scanRelated relationship "SqlTypeSpecifier").findSome? fun specifier =>
        (specifier.scanReferences "Type").head? := by
  have htype (x : Element) : x.reference? "Type" = (x.scanReferences "Type").head? := by
    rw [reference?, references_eq x (by decide +kernel)]
  rw [typeReference?, related_eq e h]
  simp only [htype]
  rfl

theorem keyColumns_eq : e.keyColumns =
    (e.scanRelated "ColumnSpecifications" "SqlIndexedColumnSpecification").filterMap
      fun specification => (specification.scanReferences "Column").head? := by
  have hcolumn (x : Element) : x.reference? "Column" = (x.scanReferences "Column").head? := by
    rw [reference?, references_eq x (by decide +kernel)]
  rw [keyColumns, related_eq e (by decide +kernel)]
  simp only [hcolumn]
  rfl

end Element

/-- A path behind another one starts anew from each element that the first one selects, and what an
object is asked for by name is found among its children, whatever this name holds. -/
theorem queries_are_scans (e : Element) :
    (∀ p q : String, QuotesClosed p.toList →
      e.select (p ++ "/" ++ q) = (e.select p).flatMap (·.select q)) ∧
    (∀ name : String, '\'' ∉ name.toList →
      e.property? name = e.scanProperty? name ∧
      e.references name = e.scanReferences name ∧
      (∀ kind : Kind, e.related name kind = e.scanRelated name kind.typeName) ∧
      e.typeReference? name = (e.scanRelated name "SqlTypeSpecifier").findSome? fun specifier =>
        (specifier.scanReferences "Type").head?) ∧
    e.keyColumns =
      (e.scanRelated "ColumnSpecifications" "SqlIndexedColumnSpecification").filterMap
        fun specification => (specification.scanReferences "Column").head? :=
  ⟨fun _ q hp => Element.select_append hp e q,
    fun _ hname => ⟨e.property?_eq hname, e.references_eq hname, e.related_eq hname,
      e.typeReference?_eq hname⟩,
    e.keyColumns_eq⟩

/-- An object whose property and relationships have the name `a/b [1]="c d"`. -/
def oddlyNamed : Element :=
  (Tree.ofXml (.element "Element" [] [
    .element "Property" [⟨"Name", "a"⟩, ⟨"Value", "1"⟩] [],
    .element "Property" [⟨"Name", "a/b [1]=\"c d\""⟩, ⟨"Value", "2"⟩] [],
    .element "Relationship" [⟨"Name", "a/b [1]=\"c d\""⟩] [
      .element "Entry" [] [.element "References" [⟨"Name", "x"⟩] []],
      .element "Entry" [] [.element "References" [⟨"Name", "y"⟩] []]],
    .element "Relationship" [⟨"Name", "a/b [1]=\"c d\""⟩] [
      .element "Entry" [] [],
      .element "Entry" [] [.element "References" [⟨"Name", "z"⟩] []]]])).root

/-- Positions count from one in each of the two relationships. -/
theorem queries_are_scans_oddly_named :
    QuotesClosed "Relationship[@Name='a/b [1]=\"c d\"']".toList ∧
    '\'' ∉ "a/b [1]=\"c d\"".toList ∧
    (oddlyNamed.select ("Relationship[@Name='a/b [1]=\"c d\"']" ++ "/" ++ "Entry[2]")).map
      (·.index) = [6, 10] ∧
    oddlyNamed.property? "a/b [1]=\"c d\"" = some "2" ∧
    oddlyNamed.references "a/b [1]=\"c d\"" = ["x", "y", "z"] := by
  have hclosed : QuotesClosed "Relationship[@Name='a/b [1]=\"c d\"']".toList := by decide +kernel
  have hname : '\'' ∉ "a/b [1]=\"c d\"".toList := by decide +kernel
  obtain ⟨happend, hscans, -⟩ := queries_are_scans oddlyNamed
  obtain ⟨hproperty, hreferences, -⟩ := hscans _ hname
  refine ⟨hclosed, hname, ?_, ?_, ?_⟩
  · rw [happend _ _ hclosed]
    decide +kernel
  · rw [hproperty]
    decide +kernel
  · rw [hreferences]
    decide +kernel

end DataLayer.Schema
