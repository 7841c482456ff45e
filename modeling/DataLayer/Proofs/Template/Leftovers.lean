import DataLayer.Proofs.Template.ItemIndex

/-!
Positions that earlier renderings have left. A section clears the counts of its tags before any of
them is read, so leftovers reach only the tags outside all sections, and of these only the tags
that print separators.
-/

namespace DataLayer.Template

/-- What a rendering gives from the positions that earlier renderings, failed ones among them, have
left. -/
def renderAfter (keywords : Keywords) (p : Positions) (source : String) (data : Data) :
    Except TemplateError String :=
  ((render keywords source data).run.run p).1

/-- A tag of a source prints separators and stands outside all sections. -/
def IsOuterSeparator (source : String) (id : Nat) : Prop :=
  ∃ nodes t, parse source = .ok nodes ∧ Node.tag t ∈ nodes ∧ t.id = id ∧ 0 < joins t.pipes

/-- Renders a node outside all sections without positions. `before` tells how many separators each
tag has printed already; a section has no use for it. -/
def Node.renderOuter (keywords : Keywords) (before : Nat → Nat) (scope : Scope) :
    Node → Except TemplateError String
  | .tag t => t.renderFrom keywords (before t.id) scope
  | node => node.renderAt keywords 0 scope

def renderOuter (keywords : Keywords) (before : Nat → Nat) (scope : Scope) :
    List Node → Except TemplateError String
  | [] => .ok ""
  | node :: rest => do
    let text ← node.renderOuter keywords before scope
    return text ++ (← renderOuter keywords before scope rest)

theorem Node.renderOuter_congr (keywords : Keywords) (scope : Scope) {before before' : Nat → Nat}
    (node : Node) (h : ∀ t, node = .tag t → 0 < joins t.pipes → before t.id = before' t.id) :
    node.renderOuter keywords before scope = node.renderOuter keywords before' scope := by
  cases node with
  | text s => rfl
  | block path inverted children => rfl
  | tag t =>
    show t.renderFrom keywords (before t.id) scope = t.renderFrom keywords (before' t.id) scope
    rcases Nat.eq_zero_or_pos (joins t.pipes) with hnone | hsome
    · unfold Tag.renderFrom
      rw [runPipesAt_congr keywords scope hnone (before t.id) (before' t.id)]
    · rw [h t rfl hsome]

/-- Only the tags that print separators look at what was printed before. -/
theorem renderOuter_congr (keywords : Keywords) (scope : Scope) {before before' : Nat → Nat}
    {nodes : List Node}
    (h : ∀ t, Node.tag t ∈ nodes → 0 < joins t.pipes → before t.id = before' t.id) :
    renderOuter keywords before scope nodes = renderOuter keywords before' scope nodes := by
  induction nodes with
  | nil => rfl
  | cons node rest ih =>
    have hnode : node.renderOuter keywords before scope =
        node.renderOuter keywords before' scope := by
      apply node.renderOuter_congr keywords scope
      intro t ht
      exact h t (by simp [ht])
    have hrest : renderOuter keywords before scope rest =
        renderOuter keywords before' scope rest := by
      apply ih
      intro t ht
      exact h t (List.mem_cons_of_mem node ht)
    unfold renderOuter
    rw [hnode, hrest]

/-- From any positions a node outside all sections gives what it gives without them, and it keeps
the counts of the other tags there. -/
theorem Node.render_gives_outer (keywords : Keywords) (scope : Scope) (node : Node)
    (hids : node.tagIds.Nodup) (p : Positions) :
    Gives (node.render keywords 0 scope) p (node.renderOuter keywords (p.count 0) scope)
      (Keeps 0 [node] p) := by
  cases node with
  | text s => exact Gives.pure s (Keeps.refl 0 _ p)
  | tag t => exact (t.render_gives_from keywords 0 scope p).imp fun q hq => hq.keeps
  | block path inverted children =>
    have hbody := renderNodes_gives keywords children hids 1
    exact (Node.render_block_gives hbody path inverted 0 scope p).imp fun q hq => hq.2

/-- The nodes outside all sections render in turn, and each of their tags reads the count that it
has at the start, because they share no tags. -/
theorem renderNodes_gives_outer (keywords : Keywords) (scope : Scope) (nodes : List Node)
    (hids : (tagIds nodes).Nodup) (p : Positions) :
    Gives (renderNodes keywords 0 scope nodes) p (renderOuter keywords (p.count 0) scope nodes)
      fun _ => True := by
  induction nodes generalizing p with
  | nil => exact Gives.pure "" trivial
  | cons node rest ih =>
    simp only [tagIds, List.nodup_append] at hids
    obtain ⟨hnode, hrest, hdisjoint⟩ := hids
    unfold renderNodes renderOuter
    refine (node.render_gives_outer keywords scope hnode p).bind fun text q _ hkeep => ?_
    have hsame : renderOuter keywords (q.count 0) scope rest =
        renderOuter keywords (p.count 0) scope rest := by
      apply renderOuter_congr
      intro t ht _
      refine hkeep 0 t.id (Or.inr ⟨rfl, fun hmem => ?_⟩)
      simp only [tagIds, List.append_nil] at hmem
      exact hdisjoint _ hmem _ (mem_tagIds_of_tag_mem ht) rfl
    have hafter := ih hrest q
    rw [hsame] at hafter
    exact hafter.bind fun text' r _ _ => Gives.pure _ trivial

/-- A rendering needs no more of the positions it starts from than their counts at level 0. -/
theorem renderAfter_eq (keywords : Keywords) (p : Positions) {source : String} {nodes : List Node}
    (h : parse source = .ok nodes) (data : Data) :
    renderAfter keywords p source data = renderOuter keywords (p.count 0) [data] nodes := by
  obtain ⟨q, hq, -⟩ :=
    renderNodes_gives_outer keywords [data] nodes (tagIds_nodup_of_parse h) p
  unfold renderAfter render
  rw [h]
  dsimp only
  rw [hq]

theorem renderAfter_congr (keywords : Keywords) {source : String} {p q : Positions}
    (h : ∀ id, IsOuterSeparator source id → p.count 0 id = q.count 0 id) (data : Data) :
    renderAfter keywords p source data = renderAfter keywords q source data := by
  cases hparse : parse source with
  | error e =>
    unfold renderAfter render
    rw [hparse]
    rfl
  | ok nodes =>
    rw [renderAfter_eq keywords p hparse, renderAfter_eq keywords q hparse]
    apply renderOuter_congr
    intro t ht hjoins
    exact h t.id ⟨nodes, t, hparse, ht, rfl, hjoins⟩

/-- What earlier renderings have left matters only for the tags outside all sections that print
separators. Where there are none all positions are alike, and positions that do not have any of
them are as good as fresh ones. -/
theorem leftovers_reach_outer_separators (keywords : Keywords) (source : String) (data : Data) :
    ((∀ id, ¬IsOuterSeparator source id) → ∀ p q,
      renderAfter keywords p source data = renderAfter keywords q source data) ∧
    (∀ p q, (∀ id, IsOuterSeparator source id → p.count 0 id = q.count 0 id) →
      renderAfter keywords p source data = renderAfter keywords q source data) ∧
    ∀ p : Positions, (∀ id, IsOuterSeparator source id → p.counts.lookup (0, id) = none) →
      renderAfter keywords p source data = renderFresh keywords source data := by
  refine ⟨?_, ?_, ?_⟩
  · intro hnone p q
    exact renderAfter_congr keywords (fun id hid => absurd hid (hnone id)) data
  · intro p q hcounts
    exact renderAfter_congr keywords hcounts data
  · intro p habsent
    have hcounts : ∀ id, IsOuterSeparator source id →
        p.count 0 id = Positions.empty.count 0 id := by
      intro id hid
      simp [Positions.count, habsent id hid, Positions.empty]
    exact renderAfter_congr keywords hcounts data

/-- A section over a list that prints an item and then fails, since a list cannot be printed. -/
def failingSource : String := "{{#A}}\x7b\x7b.|Join(\", \")\x7d\x7d{{A}}{{/A}}"

/-- A tag outside all sections that prints a separator. -/
def joiningSource : String := "\x7b\x7bB|Join(\", \")\x7d\x7d"

def failingData : Data := .record [("A", .list [.text "a", .text "b"]), ("B", .text "c")]

def Node.isTag : Node → Bool
  | .tag _ => true
  | _ => false

/-- The count that the failed rendering leaves makes no difference to the next one, nor to one of a
source whose tag prints separators. -/
theorem leftovers_reach_outer_separators_after_failure :
    let left := ((render (.all [] []) failingSource failingData).run.run .empty).2
    left = ⟨[((1, 6), 1)]⟩ ∧
      renderAfter (.all [] []) left failingSource failingData =
        renderFresh (.all [] []) failingSource failingData ∧
      renderAfter (.all [] []) left joiningSource failingData =
        renderFresh (.all [] []) joiningSource failingData := by
  intro left
  have hleft : left = ⟨[((1, 6), 1)]⟩ := by decide +kernel
  have hinner : (parse failingSource).toOption.all (·.all (!·.isTag)) = true := by decide +kernel
  have hnone : ∀ id, ¬IsOuterSeparator failingSource id := by
    rintro id ⟨nodes, t, hnodes, ht, -⟩
    rw [hnodes] at hinner
    have htag := List.all_eq_true.mp hinner (.tag t) ht
    contradiction
  have habsent : ∀ id, left.counts.lookup (0, id) = none := by
    intro id
    have hne : ((0, id) == (1, 6)) = false := by simp
    rw [hleft, List.lookup_cons, hne]
    rfl
  refine ⟨hleft, ?_, ?_⟩
  · exact (leftovers_reach_outer_separators (.all [] []) failingSource failingData).1
      hnone left .empty
  · exact (leftovers_reach_outer_separators (.all [] []) joiningSource failingData).2.2
      left (fun id _ => habsent id)

end DataLayer.Template
