import DataLayer.Proofs.Schema.Subtrees

/-!
Numbers that are given out while a document is read. Each start tag pushes a node, which becomes a
child of the innermost open element, and a stack holds the numbers of the open elements. The nodes
that are pushed are the nodes of the tree in document order.
-/

namespace DataLayer.Schema

open Xml (Octets OpenElement Builder Markup)

/-! The reader that pushes. -/

def Node.addChild (n : Node) (i : Nat) : Node := { n with children := n.children ++ [i] }

/-- The nodes so far, and the open elements, the innermost first, by their numbers and the names
that their end tags must have. -/
structure Arena where
  nodes : Array Node
  opened : List (Nat × Octets)

namespace Arena

/-- Adds a node without children of its own to the children of the innermost open element. -/
def push (a : Arena) (name : String) (attributes : List Xml.Attribute) : Arena :=
  let nodes := a.nodes.push ⟨name, attributes, []⟩
  match a.opened with
  | [] => { a with nodes }
  | (parent, _) :: _ => { a with nodes := nodes.modify parent (·.addChild a.nodes.size) }

def step (a : Arena) : Markup → Except Xml.Error Arena
  | .fault position => .error (.badMarkup position)
  | .opening content =>
    if a.opened.isEmpty && !a.nodes.isEmpty then .error .manyRoots
    else
      let (content, isEmpty) := Xml.splitEmptyMark content
      let (fullName, rest) := Xml.splitName content
      match Xml.attributes? rest with
      | none => .error .badAttributes
      | some as =>
        let pushed := a.push (Text.lossy (Xml.localPart fullName)) as
        if isEmpty then .ok pushed
        else .ok { pushed with opened := (a.nodes.size, fullName) :: a.opened }
  | .closing content position =>
    match a.opened with
    | [] => .error (.badMarkup position)
    | (_, fullName) :: outer =>
      if Xml.closingName content = fullName then .ok { a with opened := outer }
      else .error (.badMarkup position)

def finish (a : Arena) : Except Xml.Error Tree :=
  match a.opened with
  | (i, _) :: _ => .error (.unclosed (⟨⟨a.nodes⟩, i⟩ : Element).name)
  | [] => if a.nodes.isEmpty then .error .noRoot else .ok ⟨a.nodes⟩

/-- Reads a document without building its tree. -/
def parse (bytes : List UInt8) : Except SchemaError Tree :=
  match (Xml.markups bytes).foldlM step ⟨#[], []⟩ >>= finish with
  | .error e => .error (.document e)
  | .ok t => .ok t

end Arena

/-! Numbers of trees side by side. -/

theorem numbers_append (first : Nat) (ts ts' : List Xml.Tree) :
    numbers first (ts ++ ts') = numbers first ts ++ numbers (first + Xml.Tree.sizes ts) ts' := by
  induction ts generalizing first with
  | nil => rfl
  | cons t ts ih =>
    rw [List.cons_append, numbers, numbers, ih, Xml.Tree.sizes, Nat.add_assoc, List.cons_append]

theorem nodesOfAll_append (first : Nat) (ts ts' : List Xml.Tree) :
    nodesOfAll first (ts ++ ts') =
      nodesOfAll first ts ++ nodesOfAll (first + Xml.Tree.sizes ts) ts' := by
  induction ts generalizing first with
  | nil => rfl
  | cons t ts ih =>
    rw [List.cons_append, nodesOfAll, nodesOfAll, ih, Xml.Tree.sizes, Nat.add_assoc,
      List.append_assoc]

/-! Open elements. -/

/-- The number of elements that open ones hold together, themselves included. -/
def held : List OpenElement → Nat
  | [] => 0
  | e :: outer => held outer + 1 + Xml.Tree.sizes e.before.reverse

/-- The open elements by number. Behind all that the outer ones hold comes the next one. -/
def openNumbers : List OpenElement → List (Nat × Octets)
  | [] => []
  | e :: outer => (held outer, e.fullName) :: openNumbers outer

/-- The nodes of open elements, of which the innermost has some more children than it holds. -/
def layout (more : List Nat) : List OpenElement → List Node
  | [] => []
  | e :: outer =>
    layout [held outer] outer ++
      ⟨e.name, e.attributes, numbers (held outer + 1) e.before.reverse ++ more⟩ ::
        nodesOfAll (held outer + 1) e.before.reverse

theorem length_layout (more : List Nat) (opened : List OpenElement) :
    (layout more opened).length = held opened := by
  induction opened generalizing more with
  | nil => rfl
  | cons e outer ih =>
    rw [layout, List.length_append, List.length_cons, ih, length_nodesOfAll, held]
    omega

theorem modify_append_cons {α : Type} (f : α → α) {front : List α} {i : Nat}
    (h : front.length = i) (x : α) (back : List α) :
    (front ++ x :: back).modify i f = front ++ f x :: back := by
  subst h
  induction front with
  | nil => rfl
  | cons y front ih => rw [List.cons_append, List.length_cons, List.modify_succ_cons, ih]; rfl

/-- A child that is added to the innermost element comes behind the others. -/
theorem modify_layout (more : List Nat) (e : OpenElement) (outer : List OpenElement)
    (back : List Node) (n : Nat) :
    (layout more (e :: outer) ++ back).modify (held outer) (·.addChild n) =
      layout (more ++ [n]) (e :: outer) ++ back := by
  simp only [layout, List.append_assoc, List.cons_append]
  rw [modify_append_cons _ (length_layout [held outer] outer), Node.addChild, List.append_assoc]

/-- When it is closed, the innermost element already has the nodes of its tree. -/
theorem layout_closed (e : OpenElement) (outer : List OpenElement) :
    layout [] (e :: outer) =
      layout [held outer] outer ++
        nodesOf (held outer) (.element e.name e.attributes e.before.reverse) := by
  rw [layout, List.append_nil, nodesOf]

/-- An element that is complete is one more that the innermost open one holds. -/
theorem layout_complete (t : Xml.Tree) (e : OpenElement) (outer : List OpenElement) :
    layout [held (e :: outer)] (e :: outer) ++ nodesOf (held (e :: outer)) t =
      layout [] ({ e with before := t :: e.before } :: outer) := by
  simp only [layout, held, List.reverse_cons, numbers_append, nodesOfAll_append, numbers,
    nodesOfAll, List.append_nil, List.append_assoc, List.cons_append]

/-! The two readers. -/

namespace Arena

/-- What has been pushed when a tree has been built so far. -/
def ofBuilder (b : Builder) : Arena :=
  ⟨(match b.opened, b.root with
    | [], some t => nodesOf 0 t
    | opened, _ => layout [] opened).toArray, openNumbers b.opened⟩

theorem ofBuilder_complete (t : Xml.Tree) (b : Builder) :
    ofBuilder (b.complete t) =
      ⟨(layout [held b.opened] b.opened ++ nodesOf (held b.opened) t).toArray,
        openNumbers b.opened⟩ := by
  obtain ⟨opened, root⟩ := b
  cases opened with
  | nil => rfl
  | cons e outer =>
    rw [layout_complete]
    rfl

theorem ofBuilder_of_root {b : Builder} (h : b.opened = [] → b.root = none) :
    ofBuilder b = ⟨(layout [] b.opened).toArray, openNumbers b.opened⟩ := by
  obtain ⟨opened, root⟩ := b
  cases opened with
  | nil =>
    obtain rfl : root = none := h rfl
    rfl
  | cons e outer => rfl

theorem push_ofBuilder {b : Builder} (h : b.opened = [] → b.root = none) (name : String)
    (attributes : List Xml.Attribute) :
    (ofBuilder b).push name attributes =
      ⟨(layout [held b.opened] b.opened ++ [(⟨name, attributes, []⟩ : Node)]).toArray,
        openNumbers b.opened⟩ := by
  rw [ofBuilder_of_root h, push]
  cases b.opened with
  | nil => rfl
  | cons e outer =>
    have hmodify := modify_layout [] e outer [(⟨name, attributes, []⟩ : Node)] (held (e :: outer))
    simp only [openNumbers, List.push_toArray, List.modify_toArray, List.size_toArray,
      length_layout, hmodify, List.nil_append]

/-- A second root is one that would be pushed where no element is open. -/
theorem isEmpty_nodes_ofBuilder (b : Builder) :
    ((ofBuilder b).opened.isEmpty && !(ofBuilder b).nodes.isEmpty) =
      (b.opened.isEmpty && b.root.isSome) := by
  obtain ⟨opened, root⟩ := b
  cases opened with
  | nil =>
    cases root with
    | none => rfl
    | some t => simp [ofBuilder, openNumbers, nodesOf_eq]
  | cons e outer => rfl

/-- Every tag has the same effect on the nodes as on the tree. -/
theorem step_ofBuilder (b : Builder) (m : Markup) :
    (ofBuilder b).step m = (b.step m).map ofBuilder := by
  cases m with
  | fault position => rfl
  | opening content =>
    rw [step, Builder.step, isEmpty_nodes_ofBuilder]
    cases hroots : b.opened.isEmpty && b.root.isSome with
    | true => rfl
    | false =>
      have h : b.opened = [] → b.root = none := by
        intro hopened
        simpa [hopened] using hroots
      rw [if_neg Bool.false_ne_true, if_neg Bool.false_ne_true]
      generalize Xml.splitEmptyMark content = marked
      obtain ⟨content, isEmpty⟩ := marked
      dsimp only
      generalize Xml.splitName content = named
      obtain ⟨fullName, rest⟩ := named
      dsimp only
      cases Xml.attributes? rest with
      | none => rfl
      | some as =>
        dsimp only
        rw [push_ofBuilder h]
        cases isEmpty with
        | true =>
          rw [if_pos rfl, if_pos rfl, Except.map, ofBuilder_complete]
          rfl
        | false =>
          have hsize : (ofBuilder b).nodes.size = held b.opened := by
            rw [ofBuilder_of_root h, List.size_toArray, length_layout]
          rw [if_neg Bool.false_ne_true, if_neg Bool.false_ne_true, hsize]
          rfl
  | closing content position =>
    obtain ⟨opened, root⟩ := b
    cases opened with
    | nil => rfl
    | cons e outer =>
      have hopened : (ofBuilder ⟨e :: outer, root⟩).opened =
          (held outer, e.fullName) :: openNumbers outer := rfl
      rw [Builder.step, step, hopened]
      dsimp only
      split
      · have hnodes : (ofBuilder ⟨e :: outer, root⟩).nodes = (layout [] (e :: outer)).toArray := rfl
        rw [Except.map, ofBuilder_complete, hnodes, layout_closed]
      · rfl

theorem foldlM_ofBuilder (ms : List Markup) (b : Builder) :
    ms.foldlM step (ofBuilder b) = (ms.foldlM Builder.step b).map ofBuilder := by
  induction ms generalizing b with
  | nil => rfl
  | cons m ms ih =>
    rw [List.foldlM_cons, List.foldlM_cons, step_ofBuilder]
    cases b.step m with
    | error e => rfl
    | ok b' => exact ih b'

theorem finish_ofBuilder (b : Builder) : (ofBuilder b).finish = b.finish.map Tree.ofXml := by
  obtain ⟨opened, root⟩ := b
  cases opened with
  | nil =>
    cases root with
    | none => rfl
    | some t =>
      have hfinish : (ofBuilder ⟨[], some t⟩).finish =
          if (nodesOf 0 t).toArray.isEmpty then .error .noRoot
          else .ok ⟨(nodesOf 0 t).toArray⟩ := rfl
      have hnodes : (nodesOf 0 t).toArray.isEmpty = false := by simp [nodesOf_eq]
      rw [hfinish, hnodes]
      rfl
  | cons e outer =>
    have hname : (⟨⟨(layout [] (e :: outer)).toArray⟩, held outer⟩ : Element).name = e.name := by
      simp [Element.name, Element.node, layout, length_layout]
    have hfinish : (ofBuilder ⟨e :: outer, root⟩).finish = .error (.unclosed
        (⟨⟨(layout [] (e :: outer)).toArray⟩, held outer⟩ : Element).name) := rfl
    rw [hfinish, hname]
    rfl

/-- Both readers accept the same documents, with the same numbers for their elements, and refuse the
others for the same reason. -/
theorem parse_eq (bytes : List UInt8) : parse bytes = Tree.parse bytes := by
  have hrun := foldlM_ofBuilder (Xml.markups bytes) ⟨[], none⟩
  have hstart : ofBuilder ⟨[], none⟩ = ⟨#[], []⟩ := rfl
  rw [hstart] at hrun
  rw [parse, hrun, Tree.parse, Xml.parse]
  cases (Xml.markups bytes).foldlM Builder.step ⟨[], none⟩ with
  | error e => rfl
  | ok b =>
    have hbind : ((Except.ok b : Except Xml.Error Builder).map ofBuilder >>= finish) =
        b.finish.map Tree.ofXml := finish_ofBuilder b
    have hbuild : (do let b ← (Except.ok b : Except Xml.Error Builder); b.finish) = b.finish := rfl
    rw [hbind, hbuild]
    cases b.finish <;> rfl

end Arena

end DataLayer.Schema
