import DataLayer.Proofs.Template.Parts
import Mathlib.Data.List.Forall2

/-!
Trees of which only some characters of the texts count. A condensed tree keeps these characters, has
its neighbouring texts put together, and its tags have no numbers. Trees that are condensed to the
same tree give the same renderings as far as these characters go, and sources whose tokens agree so
far are read as such trees.
-/

namespace DataLayer.Template

open Text

/-! Condensed trees. -/

/-- Puts a text in front of nodes; two texts that meet are one, and an empty text is none. -/
def addText (cs : List Char) : List Node → List Node
  | .text s :: rest => .text (String.ofList (cs ++ s.toList)) :: rest
  | nodes => pushText cs nodes

mutual

/-- Puts a node in front of a condensed tree. -/
def Node.condenseOnto (keep : Char → Bool) (rest : List Node) : Node → List Node
  | .text s => addText (s.toList.filter keep) rest
  | .tag t => .tag { t with id := 0 } :: rest
  | .block path inverted children => .block path inverted (condensed keep children) :: rest

/-- A tree with only those characters of its texts that `keep` selects, without empty texts, with
neighbouring texts put together, and without the numbers of its tags. -/
def condensed (keep : Char → Bool) : List Node → List Node
  | [] => []
  | node :: rest => node.condenseOnto keep (condensed keep rest)

end

section Condensed

variable (keep : Char → Bool)

theorem pushText_nil (nodes : List Node) : pushText [] nodes = nodes := rfl

theorem pushText_of_ne {cs : List Char} (h : cs ≠ []) (nodes : List Node) :
    pushText cs nodes = .text (String.ofList cs) :: nodes := by
  simp [pushText, h]

theorem addText_nil (nodes : List Node) : addText [] nodes = nodes := by
  unfold addText
  split <;> simp [pushText_nil]

theorem addText_addText (cs cs' : List Char) (nodes : List Node) :
    addText cs (addText cs' nodes) = addText (cs ++ cs') nodes := by
  by_cases h : cs' = []
  · subst h
    rw [addText_nil, List.append_nil]
  · cases nodes with
    | nil => simp [addText, pushText_of_ne, h]
    | cons node rest => cases node <;> simp [addText, pushText_of_ne, h]

theorem condensed_text (s : String) (rest : List Node) :
    condensed keep (.text s :: rest) = addText (s.toList.filter keep) (condensed keep rest) := by
  rw [condensed, Node.condenseOnto]

theorem condensed_pushText (cs : List Char) (nodes : List Node) :
    condensed keep (pushText cs nodes) = addText (cs.filter keep) (condensed keep nodes) := by
  by_cases h : cs = []
  · subst h
    rw [pushText_nil, List.filter_nil, addText_nil]
  · rw [pushText_of_ne h, condensed_text, String.toList_ofList]

/-- A text that is put in front of nodes counts in the same way if more nodes follow. -/
theorem condensed_addText_append (cs : List Char) (nodes more : List Node) :
    condensed keep (addText cs nodes ++ more) =
      addText (cs.filter keep) (condensed keep (nodes ++ more)) := by
  have hpush (nodes : List Node) : pushText cs nodes ++ more = pushText cs (nodes ++ more) := by
    unfold pushText
    split <;> rfl
  cases nodes with
  | nil => rw [addText, hpush, condensed_pushText]; simp
  | cons node rest =>
    cases node with
    | text s =>
      rw [addText, List.cons_append, List.cons_append, condensed_text, condensed_text,
        addText_addText, String.toList_ofList, List.filter_append]
    | tag | block => rw [addText, hpush, condensed_pushText]; simp

/-- Nodes in front of a tree can be condensed first. -/
theorem condensed_condensed_append (nodes more : List Node) :
    condensed keep (condensed keep nodes ++ more) = condensed keep (nodes ++ more) := by
  induction nodes using forest_induction generalizing more with
  | nil => rfl
  | text s rest ih =>
    rw [condensed_text, condensed_addText_append, ih, List.filter_filter, List.cons_append,
      condensed_text]
    simp
  | tag t rest ih =>
    simp only [condensed, Node.condenseOnto, List.cons_append, ih]
  | block path inverted children rest ihchildren ihrest =>
    have hchildren := ihchildren []
    simp only [List.append_nil] at hchildren
    simp only [condensed, Node.condenseOnto, List.cons_append, ihrest, hchildren]

variable {keep}

theorem condensed_append_congr {nodes nodes' more more' : List Node}
    (h : condensed keep nodes = condensed keep nodes')
    (h' : condensed keep more = condensed keep more') :
    condensed keep (nodes ++ more) = condensed keep (nodes' ++ more') := by
  have hbehind (front : List Node) :
      condensed keep (front ++ more) = condensed keep (front ++ more') := by
    induction front with
    | nil => exact h'
    | cons node rest ih => rw [List.cons_append, List.cons_append, condensed, condensed, ih]
  rw [← condensed_condensed_append, h, condensed_condensed_append, hbehind]

/-- A reader puts a text behind the nodes that it has. -/
theorem condensed_reverse_pushText (cs : List Char) (nodes : List Node) :
    condensed keep (pushText cs nodes).reverse =
      condensed keep (nodes.reverse ++ [.text (String.ofList cs)]) := by
  by_cases h : cs = []
  · subst h
    have hnone : condensed keep [] = condensed keep [.text (String.ofList [])] := by
      rw [condensed_text, String.toList_ofList, List.filter_nil, addText_nil]
    rw [pushText_nil, ← List.append_nil nodes.reverse, List.append_assoc]
    exact condensed_append_congr rfl hnone
  · rw [pushText_of_ne h, List.reverse_cons]

theorem condensed_text_congr {cs cs' : List Char} (h : cs.filter keep = cs'.filter keep) :
    condensed keep [.text (String.ofList cs)] = condensed keep [.text (String.ofList cs')] := by
  rw [condensed_text, condensed_text, String.toList_ofList, String.toList_ofList, h]

theorem condensed_texts (cs cs' : List Char) :
    condensed keep [.text (String.ofList cs), .text (String.ofList cs')] =
      condensed keep [.text (String.ofList (cs ++ cs'))] := by
  rw [condensed_text, condensed_text, condensed_text, addText_addText]
  simp

end Condensed

/-! What condensed trees give. -/

/-- The characters of a text that `keep` selects. -/
def sift (keep : Char → Bool) (s : String) : String := String.ofList (s.toList.filter keep)

theorem sift_append (keep : Char → Bool) (s t : String) :
    sift keep (s ++ t) = sift keep s ++ sift keep t := by
  simp [sift, String.ofList_append]

theorem sift_true : sift (fun _ => true) = id := by
  funext s
  simp [sift]

namespace Rendering

theorem map_sift_append (keep : Char → Bool) (r s : Rendering) :
    (r ++ s).map (sift keep) = r.map (sift keep) ++ s.map (sift keep) := by
  cases r with
  | error e => rfl
  | ok a =>
    cases s with
    | error e => rfl
    | ok b => exact congrArg Except.ok (sift_append keep a b)

end Rendering

section Rendered

variable {keep : Char → Bool} {keywords : Keywords}

theorem renderNodesAt_addText (cs : List Char) (nodes : List Node) (i : Nat) (scope : Scope) :
    renderNodesAt keywords i scope (addText cs nodes) =
      (.ok (String.ofList cs) : Rendering) ++ renderNodesAt keywords i scope nodes := by
  have hpush (nodes : List Node) : renderNodesAt keywords i scope (pushText cs nodes) =
      (.ok (String.ofList cs) : Rendering) ++ renderNodesAt keywords i scope nodes := by
    by_cases h : cs = []
    · subst h
      exact (Rendering.empty_append _).symm
    · rw [pushText_of_ne h, renderNodesAt_cons]
      rfl
  unfold addText
  split
  · next s rest =>
    rw [renderNodesAt_cons, renderNodesAt_cons, ← Rendering.append_assoc]
    simp only [Node.renderAt, Rendering.ok_append_ok, String.ofList_append, String.ofList_toList]
  · exact hpush _

theorem renderEachAt_map_congr {f g : Nat → Data → Rendering}
    (h : ∀ j item, (f j item).map (sift keep) = (g j item).map (sift keep)) (i : Nat)
    (items : List Data) :
    (renderEachAt f i items).map (sift keep) = (renderEachAt g i items).map (sift keep) := by
  induction items generalizing i with
  | nil => rfl
  | cons item rest ih =>
    rw [renderEachAt_cons, renderEachAt_cons, Rendering.map_sift_append,
      Rendering.map_sift_append, h, ih]

theorem Node.renderAt_block_map_congr {children children' : List Node}
    (h : ∀ j scope, (renderNodesAt keywords j scope children).map (sift keep) =
      (renderNodesAt keywords j scope children').map (sift keep))
    (path : String) (inverted : Bool) (i : Nat) (scope : Scope) :
    ((Node.block path inverted children).renderAt keywords i scope).map (sift keep) =
      ((Node.block path inverted children').renderAt keywords i scope).map (sift keep) := by
  unfold Node.renderAt
  generalize scope.lookup path = value
  dsimp only
  split
  · rfl
  · split
    · exact renderEachAt_map_congr (fun j item => h j (item :: scope)) 0 _
    · exact h 0 _
    · exact h 0 scope

/-- A tree gives what its condensed tree gives, as far as the characters that count go. -/
theorem renderNodesAt_condensed (nodes : List Node) (i : Nat) (scope : Scope) :
    (renderNodesAt keywords i scope (condensed keep nodes)).map (sift keep) =
      (renderNodesAt keywords i scope nodes).map (sift keep) := by
  induction nodes using forest_induction generalizing i scope with
  | nil => rfl
  | text s rest ih =>
    have htext : sift keep (String.ofList (s.toList.filter keep)) = sift keep s := by simp [sift]
    rw [condensed_text, renderNodesAt_addText, renderNodesAt_cons, Rendering.map_sift_append,
      Rendering.map_sift_append, ih]
    exact congrArg (fun t => (.ok t : Rendering) ++ _) htext
  | tag t rest ih =>
    rw [condensed, Node.condenseOnto, renderNodesAt_cons, renderNodesAt_cons,
      Rendering.map_sift_append, Rendering.map_sift_append, ih]
    rfl
  | block path inverted children rest ihchildren ihrest =>
    rw [condensed, Node.condenseOnto, renderNodesAt_cons, renderNodesAt_cons,
      Rendering.map_sift_append, Rendering.map_sift_append, ihrest,
      Node.renderAt_block_map_congr ihchildren]

variable (keywords) in
theorem renderNodesAt_eq_of_condensed {nodes nodes' : List Node}
    (h : condensed keep nodes = condensed keep nodes') (i : Nat) (scope : Scope) :
    (renderNodesAt keywords i scope nodes).map (sift keep) =
      (renderNodesAt keywords i scope nodes').map (sift keep) := by
  rw [← renderNodesAt_condensed, h, renderNodesAt_condensed]

end Rendered

/-! Reading tokens that agree. -/

/-- Tokens that say the same: texts as far as the characters that count go, and tags wherever they
stand. -/
inductive Token.Like (keep : Char → Bool) : Token → Token → Prop where
  | text {cs cs' : List Char} : cs.filter keep = cs'.filter keep → Like keep (.text cs) (.text cs')
  | tag {content : List Char} {offset offset' : Nat} :
      Like keep (.tag content offset) (.tag content offset')

/-- A reader stands where another one stands, but it has read the nodes `base` before. -/
inductive Behind (keep : Char → Bool) :
    List Node → List OpenSection → List Node → List OpenSection → List Node → Prop where
  | outside {base nodes nodes' : List Node} :
      condensed keep nodes.reverse = condensed keep (base ++ nodes'.reverse) →
      Behind keep base [] nodes [] nodes'
  | inside {base before before' nodes nodes' : List Node} {outer outer' : List OpenSection}
      {path : String} {inverted : Bool} :
      condensed keep nodes.reverse = condensed keep nodes'.reverse →
      Behind keep base outer before outer' before' →
      Behind keep base (⟨path, inverted, before⟩ :: outer) nodes
        (⟨path, inverted, before'⟩ :: outer') nodes'

namespace Behind

variable {keep : Char → Bool} {base nodes nodes' : List Node} {stack stack' : List OpenSection}

theorem push (h : Behind keep base stack nodes stack' nodes') {node node' : Node}
    (hnode : condensed keep [node] = condensed keep [node']) :
    Behind keep base stack (node :: nodes) stack' (node' :: nodes') := by
  cases h with
  | outside h =>
    refine .outside ?_
    rw [List.reverse_cons, List.reverse_cons, ← List.append_assoc]
    exact condensed_append_congr h hnode
  | inside h houter =>
    refine .inside ?_ houter
    rw [List.reverse_cons, List.reverse_cons]
    exact condensed_append_congr h hnode

theorem pushText (h : Behind keep base stack nodes stack' nodes') {cs cs' : List Char}
    (hcs : cs.filter keep = cs'.filter keep) :
    Behind keep base stack (pushText cs nodes) stack' (pushText cs' nodes') := by
  have htext := condensed_text_congr hcs
  cases h with
  | outside h =>
    refine .outside ?_
    rw [condensed_reverse_pushText, condensed_append_congr h htext, List.append_assoc]
    exact condensed_append_congr rfl (condensed_reverse_pushText cs' nodes').symm
  | inside h houter =>
    refine .inside ?_ houter
    rw [condensed_reverse_pushText, condensed_reverse_pushText]
    exact condensed_append_congr h htext

/-- Readers that come to tokens that say the same read the same nodes, or stop with the same
error. -/
theorem build (h : Behind keep base stack nodes stack' nodes') {ts ts' : List Token}
    (hts : List.Forall₂ (Token.Like keep) ts ts') :
    (build stack nodes ts).map (condensed keep) =
      (build stack' nodes' ts').map fun result => condensed keep (base ++ result) := by
  induction hts generalizing stack nodes stack' nodes' with
  | nil =>
    cases h with
    | outside h => exact congrArg Except.ok h
    | inside => rfl
  | cons hlike _ ih =>
    cases hlike with
    | text hcs =>
      rw [Template.build, Template.build]
      exact ih (h.pushText hcs)
    | @tag content offset offset' =>
      rw [Template.build, Template.build]
      cases Mark.ofContent? (trimChars content) with
      | none => rfl
      | some mark =>
        cases mark with
        | comment => exact ih h
        | value path pipes => exact ih (h.push rfl)
        | opener path inverted => exact ih (.inside rfl h)
        | closer found =>
          cases h with
          | outside => rfl
          | inside hnodes houter =>
            dsimp only
            split
            · refine ih (houter.push ?_)
              simp [condensed, Node.condenseOnto, hnodes]
            · rfl

end Behind

end DataLayer.Template
