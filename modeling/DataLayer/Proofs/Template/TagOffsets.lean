import DataLayer.Template.Parser

/-!
Tags of a parsed template in document order. Their numbers are the offsets at which they start, so
they increase strictly and no two tags share one.
-/

namespace DataLayer.Template

/-- Induction over templates as forests: the content of a section comes before what follows it. -/
@[elab_as_elim]
theorem forest_induction {motive : List Node → Prop} (nil : motive [])
    (text : ∀ s rest, motive rest → motive (.text s :: rest))
    (tag : ∀ t rest, motive rest → motive (.tag t :: rest))
    (block : ∀ path inverted children rest, motive children → motive rest →
      motive (.block path inverted children :: rest)) : ∀ nodes : List Node, motive nodes
  | [] => nil
  | .text s :: rest => text s rest (forest_induction nil text tag block rest)
  | .tag t :: rest => tag t rest (forest_induction nil text tag block rest)
  | .block path inverted children :: rest =>
    block path inverted children rest (forest_induction nil text tag block children)
      (forest_induction nil text tag block rest)

mutual

def Node.tagIds : Node → List Nat
  | .text _ => []
  | .tag t => [t.id]
  | .block _ _ children => tagIds children

/-- The numbers of all tags, those in sections included. -/
def tagIds : List Node → List Nat
  | [] => []
  | node :: rest => node.tagIds ++ tagIds rest

end

theorem tagIds_append (nodes nodes' : List Node) :
    tagIds (nodes ++ nodes') = tagIds nodes ++ tagIds nodes' := by
  induction nodes with
  | nil => simp [tagIds]
  | cons node rest ih => simp [tagIds, ih]

/-- The offsets of the tokens that may become tags. -/
def tagOffsets : List Token → List Nat
  | [] => []
  | .text _ :: rest => tagOffsets rest
  | .tag _ offset :: rest => offset :: tagOffsets rest
  | .unclosed _ :: rest => tagOffsets rest

theorem tagOffsets_tokens (offset : Nat) (source : List Char) :
    (tagOffsets (tokens offset source)).Pairwise (· < ·) ∧
      ∀ n ∈ tagOffsets (tokens offset source), offset ≤ n := by
  fun_induction tokens offset source with
  | case1 offset source => simp [tagOffsets]
  | case2 offset source before after _ start _ => simp [tagOffsets]
  | case3 offset source before after _ start content rest _ ih =>
    obtain ⟨hsorted, hmin⟩ := ih
    simp only [tagOffsets]
    constructor
    · rw [List.pairwise_cons]
      refine ⟨?_, hsorted⟩
      intro n hn
      have := hmin n hn
      omega
    · intro n hn
      rcases List.mem_cons.mp hn with rfl | hn
      · exact Nat.le_add_right _ _
      · have := hmin n hn
        omega

/-- The numbers of the tags that a reader has passed, those outside the innermost open section
first. -/
def passedIds : List OpenSection → List Node → List Nat
  | [], nodes => tagIds nodes.reverse
  | s :: outer, nodes => passedIds outer s.before ++ tagIds nodes.reverse

theorem passedIds_cons (stack : List OpenSection) (node : Node) (nodes : List Node) :
    passedIds stack (node :: nodes) = passedIds stack nodes ++ node.tagIds := by
  cases stack <;> simp [passedIds, tagIds_append, tagIds]

theorem passedIds_pushText (stack : List OpenSection) (cs : List Char) (nodes : List Node) :
    passedIds stack (pushText cs nodes) = passedIds stack nodes := by
  unfold pushText
  split
  · rfl
  · simp [passedIds_cons, Node.tagIds]

/-- Tags get the offsets of their tokens, in order. -/
theorem tagIds_build {stack : List OpenSection} {nodes result : List Node} {ts : List Token}
    (h : build stack nodes ts = .ok result) :
    ∃ ids, ids.Sublist (tagOffsets ts) ∧ tagIds result = passedIds stack nodes ++ ids := by
  fun_induction build stack nodes ts with
  | case1 nodes =>
    obtain rfl := Except.ok.inj h
    exact ⟨[], List.nil_sublist _, by simp [passedIds]⟩
  | case2 => contradiction
  | case3 stack nodes cs rest ih =>
    obtain ⟨ids, hsub, hids⟩ := ih h
    exact ⟨ids, hsub, by rw [hids, passedIds_pushText]⟩
  | case4 => contradiction
  | case5 => contradiction
  | case6 stack nodes content offset rest _ ih =>
    obtain ⟨ids, hsub, hids⟩ := ih h
    exact ⟨ids, hsub.cons offset, hids⟩
  | case7 stack nodes content offset rest path pipes _ ih =>
    obtain ⟨ids, hsub, hids⟩ := ih h
    refine ⟨offset :: ids, hsub.cons_cons offset, ?_⟩
    rw [hids, passedIds_cons]
    simp [Node.tagIds]
  | case8 stack nodes content offset rest path inverted _ ih =>
    obtain ⟨ids, hsub, hids⟩ := ih h
    refine ⟨ids, hsub.cons offset, ?_⟩
    rw [hids]
    simp [passedIds, tagIds]
  | case9 => contradiction
  | case10 nodes content offset rest s outer _ ih =>
    obtain ⟨ids, hsub, hids⟩ := ih h
    refine ⟨ids, hsub.cons offset, ?_⟩
    rw [hids, passedIds_cons]
    simp [passedIds, Node.tagIds]
  | case11 => contradiction

/-- The numbers of the tags of a parsed template increase in document order. -/
theorem tagIds_pairwise_of_parse {source : List Char} {nodes : List Node}
    (h : parseStripped source = .ok nodes) : (tagIds nodes).Pairwise (· < ·) := by
  obtain ⟨ids, hsub, hids⟩ := tagIds_build h
  rw [hids]
  simpa [passedIds, tagIds] using (tagOffsets_tokens 0 source).1.sublist hsub

theorem tagIds_nodup_of_parse {source : List Char} {nodes : List Node}
    (h : parseStripped source = .ok nodes) : (tagIds nodes).Nodup :=
  (tagIds_pairwise_of_parse h).imp Nat.ne_of_lt

end DataLayer.Template
