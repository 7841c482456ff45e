import DataLayer.Proofs.Template.ItemIndex
import DataLayer.Proofs.Template.Tokens

/-!
Parts of template sources. A part opens and closes its own sections and leaves no brace behind at
its end, so it is read in the same way wherever it stands, and a source that is put together from
parts renders as its parts do.
-/

namespace DataLayer.Template

open Text

/-! What comes of a rendering. -/

/-- A text, or the error that stands in for it. -/
abbrev Rendering := Except TemplateError String

namespace Rendering

/-- One text behind another. The first error counts. -/
def append (r s : Rendering) : Rendering := do
  let text ← r
  return text ++ (← s)

instance : Append Rendering := ⟨append⟩

theorem ok_append_ok (s t : String) : (.ok s : Rendering) ++ (.ok t : Rendering) = .ok (s ++ t) :=
  rfl

theorem empty_append (r : Rendering) : (.ok "" : Rendering) ++ r = r := by
  cases r with
  | error e => rfl
  | ok s => rw [ok_append_ok, String.empty_append]

theorem append_empty (r : Rendering) : r ++ (.ok "" : Rendering) = r := by
  cases r with
  | error e => rfl
  | ok s => rw [ok_append_ok, String.append_empty]

theorem append_assoc (r s t : Rendering) : r ++ s ++ t = r ++ (s ++ t) := by
  cases r with
  | error e => rfl
  | ok a =>
    cases s with
    | error e => rfl
    | ok b =>
      cases t with
      | error e => rfl
      | ok c => simp only [ok_append_ok, String.append_assoc]

end Rendering

theorem eq_ok_of_toOption {r : Rendering} {s : String} (h : r.toOption = some s) : r = .ok s := by
  cases r with
  | error e => contradiction
  | ok t => exact congrArg Except.ok (Option.some.inj h)

theorem renderNodesAt_nil (keywords : Keywords) (i : Nat) (scope : Scope) :
    renderNodesAt keywords i scope [] = .ok "" := rfl

theorem renderNodesAt_cons (keywords : Keywords) (i : Nat) (scope : Scope) (node : Node)
    (rest : List Node) :
    renderNodesAt keywords i scope (node :: rest) =
      node.renderAt keywords i scope ++ renderNodesAt keywords i scope rest := rfl

theorem renderEachAt_cons (f : Nat → Data → Rendering) (i : Nat) (item : Data)
    (rest : List Data) :
    renderEachAt f i (item :: rest) = f i item ++ renderEachAt f (i + 1) rest := rfl

theorem renderNodesAt_append (keywords : Keywords) (i : Nat) (scope : Scope)
    (nodes nodes' : List Node) :
    renderNodesAt keywords i scope (nodes ++ nodes') =
      renderNodesAt keywords i scope nodes ++ renderNodesAt keywords i scope nodes' := by
  induction nodes with
  | nil => exact (Rendering.empty_append _).symm
  | cons node rest ih =>
    rw [List.cons_append, renderNodesAt_cons, renderNodesAt_cons, ih, Rendering.append_assoc]

/-! Trees that render alike. Texts may be cut differently and tags may have other numbers. -/

/-- Trees that give the same text or the same error from all data. -/
def Alike (nodes nodes' : List Node) : Prop :=
  ∀ keywords i scope, renderNodesAt keywords i scope nodes = renderNodesAt keywords i scope nodes'

namespace Alike

theorem refl (nodes : List Node) : Alike nodes nodes := fun _ _ _ => rfl

theorem symm {nodes nodes' : List Node} (h : Alike nodes nodes') : Alike nodes' nodes :=
  fun keywords i scope => (h keywords i scope).symm

theorem trans {nodes nodes' nodes'' : List Node} (h : Alike nodes nodes')
    (h' : Alike nodes' nodes'') : Alike nodes nodes'' :=
  fun keywords i scope => (h keywords i scope).trans (h' keywords i scope)

theorem append {nodes nodes' more more' : List Node} (h : Alike nodes nodes')
    (h' : Alike more more') : Alike (nodes ++ more) (nodes' ++ more') := by
  intro keywords i scope
  rw [renderNodesAt_append, renderNodesAt_append, h, h']

theorem block {children children' : List Node} (h : Alike children children') (path : String)
    (inverted : Bool) :
    Alike [.block path inverted children] [.block path inverted children'] := by
  intro keywords i scope
  simp only [renderNodesAt, Node.renderAt, h keywords]

theorem tag (id id' : Nat) (path : Option String) (pipes : List Pipe) :
    Alike [.tag ⟨id, path, pipes⟩] [.tag ⟨id', path, pipes⟩] := fun _ _ _ => rfl

/-- An empty text does not show. -/
theorem emptyText (nodes : List Node) : Alike (.text (String.ofList []) :: nodes) nodes := by
  intro keywords i scope
  rw [renderNodesAt_cons]
  exact Rendering.empty_append _

/-- Neighbouring texts are one text. -/
theorem texts (cs cs' : List Char) :
    Alike [.text (String.ofList (cs ++ cs'))]
      [.text (String.ofList cs), .text (String.ofList cs')] := by
  intro keywords i scope
  simp only [renderNodesAt_cons, renderNodesAt_nil, Node.renderAt, Rendering.append_empty,
    Rendering.ok_append_ok, String.ofList_append]

/-- Leaving out an empty text makes no difference. -/
theorem pushText (cs : List Char) (nodes : List Node) :
    Alike (Template.pushText cs nodes).reverse (nodes.reverse ++ [.text (String.ofList cs)]) := by
  unfold Template.pushText
  split
  · next hempty =>
    obtain rfl : cs = [] := by simpa using hempty
    have h := (refl nodes.reverse).append (emptyText []).symm
    rwa [List.append_nil] at h
  · rw [List.reverse_cons]
    exact refl _

/-- The last text that a reader has pending belongs to the nodes. -/
theorem of_pending {nodes new : List Node} {pending : List Char}
    (h : Alike (.text (String.ofList []) :: nodes) (new ++ [.text (String.ofList pending)])) :
    Alike nodes (Template.pushText pending new.reverse).reverse := by
  have hpush := pushText pending new.reverse
  rw [List.reverse_reverse] at hpush
  exact ((emptyText nodes).symm.trans h).trans hpush.symm

/-- A node in front, and in front of that the text that was pending. -/
theorem behind {node node' : Node} {nodes rest : List Node} (hnode : Alike [node] [node'])
    (h : Alike (.text (String.ofList []) :: nodes) rest) (pending : List Char) :
    Alike (.text (String.ofList pending) :: node :: nodes)
      ((Template.pushText pending []).reverse ++ node' :: rest) := by
  have htext := (pushText pending []).symm
  exact htext.append (hnode.append ((emptyText nodes).symm.trans h))

end Alike

/-! Sources that are read as trees. -/

/-- Source text that is read as these nodes whatever stands before and behind it. -/
inductive Reads : List Char → List Node → Prop where
  | nil : Reads [] []
  | text {cs rest : List Char} {nodes : List Node} : Unpaired '{' cs → Reads rest nodes →
      Reads (cs ++ rest) (.text (String.ofList cs) :: nodes)
  | tag {content rest : List Char} {path : Option String} {pipes : List Pipe}
      {nodes : List Node} : Unpaired '}' content →
      Mark.ofContent? (trimChars content) = some (.value path pipes) → Reads rest nodes →
      Reads (braced content ++ rest) (.tag ⟨0, path, pipes⟩ :: nodes)
  | block {opener body closer rest : List Char} {path : String} {inverted : Bool}
      {children nodes : List Node} : Unpaired '}' opener → Unpaired '}' closer →
      Mark.ofContent? (trimChars opener) = some (.opener path inverted) →
      Mark.ofContent? (trimChars closer) = some (.closer path) → Reads body children →
      Reads rest nodes →
      Reads (braced opener ++ (body ++ (braced closer ++ rest)))
        (.block path inverted children :: nodes)

theorem reverse_append_pushText (pending : List Char) (node : Node) (new before : List Node) :
    new.reverse ++ node :: pushText pending before =
      ((pushText pending []).reverse ++ node :: new).reverse ++ before := by
  unfold pushText
  split <;> simp

/-- A reader that comes to a part with some text pending leaves it with new nodes and some other
text pending. Its stack of open sections is the same again. -/
def Passes (cs : List Char) (nodes : List Node) : Prop :=
  ∀ pending, Unpaired '{' pending → ∀ rest stack before offset,
    ∃ new pending' offset', Unpaired '{' pending' ∧
      build stack before (tokens offset (pending ++ (cs ++ rest))) =
        build stack (new.reverse ++ before) (tokens offset' (pending' ++ rest)) ∧
      Alike (.text (String.ofList pending) :: nodes) (new ++ [.text (String.ofList pending')])

namespace Passes

variable {cs : List Char} {nodes : List Node}

theorem nil : Passes [] [] := fun pending hpending _ _ _ offset =>
  ⟨[], pending, offset, hpending, rfl, Alike.refl _⟩

theorem text {plain : List Char} (hplain : Unpaired '{' plain) (h : Passes cs nodes) :
    Passes (plain ++ cs) (.text (String.ofList plain) :: nodes) := by
  intro pending hpending rest stack before offset
  obtain ⟨new, pending', offset', hpending', hbuild, halike⟩ :=
    h _ (hpending.append hplain) rest stack before offset
  refine ⟨new, pending', offset', hpending', ?_, ?_⟩
  · simpa only [List.append_assoc] using hbuild
  · exact ((Alike.texts pending plain).append (Alike.refl nodes)).symm.trans halike

theorem tag {content : List Char} {path : Option String} {pipes : List Pipe}
    (hcontent : Unpaired '}' content)
    (hmark : Mark.ofContent? (trimChars content) = some (.value path pipes))
    (h : Passes cs nodes) : Passes (braced content ++ cs) (.tag ⟨0, path, pipes⟩ :: nodes) := by
  intro pending hpending rest stack before offset
  have htokens := tokens_braced hpending hcontent offset (cs ++ rest)
  generalize offset + octetCount pending + octetCount content + 4 = next at htokens
  generalize offset + octetCount pending = start at htokens
  obtain ⟨new, pending', offset', hpending', hbuild, halike⟩ :=
    h [] (unpaired_nil '{') rest stack (.tag ⟨start, path, pipes⟩ :: pushText pending before) next
  refine ⟨(pushText pending []).reverse ++ .tag ⟨start, path, pipes⟩ :: new, pending', offset',
    hpending', ?_, ?_⟩
  · rw [List.append_assoc, htokens]
    simp only [build, hmark]
    rw [List.nil_append] at hbuild
    rw [hbuild, reverse_append_pushText]
  · rw [List.append_assoc]
    exact (Alike.tag 0 start path pipes).behind halike pending

theorem block {opener body closer : List Char} {path : String} {inverted : Bool}
    {children : List Node} (hopener : Unpaired '}' opener) (hcloser : Unpaired '}' closer)
    (hopen : Mark.ofContent? (trimChars opener) = some (.opener path inverted))
    (hclose : Mark.ofContent? (trimChars closer) = some (.closer path))
    (hbody : Passes body children) (h : Passes cs nodes) :
    Passes (braced opener ++ (body ++ (braced closer ++ cs)))
      (.block path inverted children :: nodes) := by
  intro pending hpending rest stack before offset
  -- The body is read on a stack of its own, and its last text is put down at the closing tag.
  have htokens := tokens_braced hpending hopener offset (body ++ (braced closer ++ (cs ++ rest)))
  generalize offset + octetCount pending + octetCount opener + 4 = next at htokens
  obtain ⟨inner, pending₁, offset₁, hpending₁, hbuild₁, halike₁⟩ :=
    hbody [] (unpaired_nil '{') (braced closer ++ (cs ++ rest))
      (⟨path, inverted, pushText pending before⟩ :: stack) [] next
  have htokens' := tokens_braced hpending₁ hcloser offset₁ (cs ++ rest)
  generalize offset₁ + octetCount pending₁ + octetCount closer + 4 = next' at htokens'
  let section' := (pushText pending₁ inner.reverse).reverse
  obtain ⟨new, pending', offset', hpending', hbuild, halike⟩ :=
    h [] (unpaired_nil '{') rest stack (.block path inverted section' :: pushText pending before)
      next'
  refine ⟨(pushText pending []).reverse ++ .block path inverted section' :: new, pending',
    offset', hpending', ?_, ?_⟩
  · simp only [List.append_assoc] at htokens ⊢
    rw [htokens]
    simp only [build, hopen]
    rw [List.nil_append] at hbuild₁ hbuild
    rw [hbuild₁, htokens']
    simp only [build, hclose, List.append_nil, if_true]
    rw [hbuild, reverse_append_pushText]
  · have hsection : Alike children section' := halike₁.of_pending
    rw [List.append_assoc]
    exact (hsection.block path inverted).behind halike pending

end Passes

namespace Reads

theorem append {cs cs' : List Char} {nodes nodes' : List Node} (h : Reads cs nodes)
    (h' : Reads cs' nodes') : Reads (cs ++ cs') (nodes ++ nodes') := by
  induction h with
  | nil => exact h'
  | text hcs _ ih =>
    rw [List.append_assoc]
    exact .text hcs ih
  | tag hcontent hmark _ ih =>
    rw [List.append_assoc]
    exact .tag hcontent hmark ih
  | block hopener hcloser hopen hclose hbody _ _ ih =>
    simp only [List.append_assoc, List.cons_append]
    exact .block hopener hcloser hopen hclose hbody ih

theorem passes {cs : List Char} {nodes : List Node} (h : Reads cs nodes) : Passes cs nodes := by
  induction h with
  | nil => exact .nil
  | text hcs _ ih => exact ih.text hcs
  | tag hcontent hmark _ ih => exact ih.tag hcontent hmark
  | block hopener hcloser hopen hclose _ _ ihbody ih =>
    exact .block hopener hcloser hopen hclose ihbody ih

/-- A source that is read as a tree is accepted, and renders as that tree does. -/
theorem parseStripped {cs : List Char} {nodes : List Node} (h : Reads cs nodes) :
    ∃ nodes', parseStripped cs = .ok nodes' ∧ Alike nodes nodes' := by
  obtain ⟨new, pending, offset, hpending, hbuild, halike⟩ :=
    h.passes [] (unpaired_nil '{') [] [] [] 0
  refine ⟨(pushText pending new.reverse).reverse, ?_, halike.of_pending⟩
  unfold Template.parseStripped
  simp only [List.nil_append, List.append_nil] at hbuild
  rw [hbuild, tokens_unpaired hpending.hasPair]
  rfl

end Reads

end DataLayer.Template
