import DataLayer.Config.Basic
import DataLayer.Proofs.Template.Positions
import DataLayer.Proofs.Template.TagOffsets
import DataLayer.Template.Render

/-!
Rendering without positions. All that a separator needs to know is the index of the current item of
the innermost section around its tag. A reader of templates numbers tags apart, so this renderer
and the one that counts give the same text or the same error.
-/

namespace DataLayer.Template

/-- The text that a keyword makes of a text; `Join` is told whether to separate it. -/
def Keyword.textAt (separated : Bool) (argument : Option String) (scope : Scope) (text : String) :
    Keyword → Except TemplateError String
  | plural plurals => .ok (pluralOf plurals text)
  | firstUpper => .ok (Text.firstUpper text)
  | firstLower => .ok (Text.firstLower text)
  | shortName => .ok (SqlName.short text)
  | sanitize => .ok (SqlName.bare text)
  | type enums => typeText enums ⟨argument, 0, 0, scope⟩ text
  | enumCast enums => castText enums ⟨argument, 0, 0, scope⟩ text
  | storageKind => .ok (SqlType.storage text)
  | join => .ok (if separated then argument.getD "" ++ text else text)

def Keyword.applyAt (k : Keyword) (separated : Bool) (argument : Option String) (scope : Scope)
    (value : Data) : Except TemplateError Data :=
  match value.scalarText? with
  | none => .error (.keywordInput k.name)
  | some text => do return .text (← k.textAt separated argument scope text)

def Pipe.isJoin (p : Pipe) : Bool := p.keyword == "Join"

/-- The number of separators in a tag. -/
def joins (pipes : List Pipe) : Nat := pipes.countP Pipe.isJoin

/-- Sends a value through keywords, where `position` separators of the tag come before. Every
separator but the very first prints itself. -/
def runPipesAt (keywords : Keywords) (scope : Scope) :
    Nat → List Pipe → Data → Except TemplateError Data
  | _, [], value => .ok value
  | position, p :: rest, value =>
    match keywords.get? p.keyword with
    | none => .error (.unknownKeyword p.keyword)
    | some k => do
      let value ← k.applyAt (0 < position) p.argument scope value
      runPipesAt keywords scope (if p.isJoin then position + 1 else position) rest value

/-- Prints a tag before which `position` of its separators come. -/
def Tag.renderFrom (keywords : Keywords) (position : Nat) (scope : Scope) (t : Tag) :
    Except TemplateError String := do
  let value ← runPipesAt keywords scope position t.pipes (t.start scope)
  match value.scalarText? with
  | some text => return text
  | none => throw (.notScalar (t.path.getD ""))

/-- Prints a tag for the item of index `i`. -/
def Tag.renderAt (keywords : Keywords) (i : Nat) (scope : Scope) (t : Tag) :
    Except TemplateError String := do
  let value ← runPipesAt keywords scope (i * joins t.pipes) t.pipes (t.start scope)
  match value.scalarText? with
  | some text => return text
  | none => throw (.notScalar (t.path.getD ""))

/-- Joins what `f` makes of each item and its index, the first of them given. -/
def renderEachAt (f : Nat → Data → Except TemplateError String) :
    Nat → List Data → Except TemplateError String
  | _, [] => .ok ""
  | i, item :: rest => do
    let text ← f i item
    return text ++ (← renderEachAt f (i + 1) rest)

mutual

/-- Renders a node for the item of index `i`. A section over anything but a list is one item. -/
def Node.renderAt (keywords : Keywords) (i : Nat) (scope : Scope) :
    Node → Except TemplateError String
  | .text s => .ok s
  | .tag t => t.renderAt keywords i scope
  | .block path inverted children =>
    let value := scope.lookup path
    if (value.map Data.isTruthy).getD false == inverted then .ok ""
    else match value, inverted with
      | some (.list items), false =>
        renderEachAt (fun j item => renderNodesAt keywords j (item :: scope) children) 0 items
      | some (.record fields), _ => renderNodesAt keywords 0 (.record fields :: scope) children
      | _, _ => renderNodesAt keywords 0 scope children

def renderNodesAt (keywords : Keywords) (i : Nat) (scope : Scope) :
    List Node → Except TemplateError String
  | [] => .ok ""
  | node :: rest => do
    let text ← node.renderAt keywords i scope
    return text ++ (← renderNodesAt keywords i scope rest)

end

/-- Fills a template from data without any positions. -/
def renderIndexed (keywords : Keywords) (source : String) (data : Data) :
    Except TemplateError String := do
  renderNodesAt keywords 0 [data] (← parse source)

/-- A keyword found under the name of a separator is the separator. -/
theorem Keywords.isJoin_eq {keywords : Keywords} {p : Pipe} {k : Keyword}
    (h : keywords.get? p.keyword = some k) : p.isJoin = (k.name == "Join") := by
  have hname : k.name = p.keyword := by simpa using List.find?_some h
  rw [hname]
  rfl

theorem joins_cons (p : Pipe) (rest : List Pipe) :
    joins (p :: rest) = joins rest + if p.isJoin then 1 else 0 := List.countP_cons

/-- What positions become when a tag asks for `n` of them at a level. -/
def Advanced (level tag n : Nat) (p q : Positions) : Prop :=
  ∀ l t, q.count l t = p.count l t + if (l, t) = (level, tag) then n else 0

theorem Advanced.refl (level tag : Nat) (p : Positions) : Advanced level tag 0 p p := by
  intro l t
  simp

theorem Advanced.trans {level tag n n' : Nat} {p q r : Positions} (h : Advanced level tag n p q)
    (h' : Advanced level tag n' q r) : Advanced level tag (n + n') p r := by
  intro l t
  rw [h' l t, h l t, Nat.add_assoc]
  split <;> rfl

theorem Advanced.count_self {level tag n : Nat} {p q : Positions} (h : Advanced level tag n p q) :
    q.count level tag = p.count level tag + n := by
  simpa using h level tag

/-- Only `Join` asks for a position, and only after it has found a text to separate. -/
theorem Keyword.applyText_gives (k : Keyword) (call : Call) (text : String) (p : Positions) :
    Gives (k.applyText call text) p
      (k.textAt (0 < p.count call.level call.tag) call.argument call.scope text)
      (Advanced call.level call.tag (if k.name == "Join" then 1 else 0) p) := by
  have hsame := Advanced.refl call.level call.tag p
  cases k with
  | join =>
    refine ⟨(p.next call.level call.tag).2, ?_, fun _ l t => p.count_next ..⟩
    have hrun : (applyText call text join).run.run p =
        (.ok (if p.count call.level call.tag = 0 then text else call.argument.getD "" ++ text),
          (p.next call.level call.tag).2) := rfl
    rw [hrun]
    by_cases h : p.count call.level call.tag = 0
    · simp [textAt, h]
    · simp [textAt, h, Nat.pos_of_ne_zero h]
  | type enums => exact Gives.except _ hsame
  | enumCast enums => exact Gives.except _ hsame
  | _ => exact Gives.pure _ hsame

theorem Keyword.apply_gives (k : Keyword) (call : Call) (value : Data) (p : Positions) :
    Gives (k.apply call value) p
      (k.applyAt (0 < p.count call.level call.tag) call.argument call.scope value)
      (Advanced call.level call.tag (if k.name == "Join" then 1 else 0) p) := by
  unfold Keyword.apply Keyword.applyAt
  cases value.scalarText? with
  | none => exact Gives.throw _
  | some text => exact (k.applyText_gives call text p).bind fun a q _ h => Gives.pure _ h

theorem runPipes_gives (keywords : Keywords) (level tag : Nat) (scope : Scope)
    (pipes : List Pipe) (value : Data) (p : Positions) :
    Gives (runPipes keywords level tag scope pipes value) p
      (runPipesAt keywords scope (p.count level tag) pipes value)
      (Advanced level tag (joins pipes) p) := by
  induction pipes generalizing value p with
  | nil => exact Gives.pure _ (Advanced.refl level tag p)
  | cons pipe rest ih =>
    unfold runPipes runPipesAt
    cases hk : keywords.get? pipe.keyword with
    | none => exact Gives.throw _
    | some k =>
      refine (k.apply_gives ⟨pipe.argument, level, tag, scope⟩ value p).bind fun a q _ hq => ?_
      rw [← Keywords.isJoin_eq hk] at hq
      have hcount : q.count level tag =
          if pipe.isJoin then p.count level tag + 1 else p.count level tag := by
        rw [hq.count_self]
        split <;> rfl
      have hrest := ih a q
      rw [hcount] at hrest
      refine hrest.imp fun r hr => ?_
      rw [joins_cons, Nat.add_comm]
      exact hq.trans hr

theorem Tag.render_gives_from (keywords : Keywords) (level : Nat) (scope : Scope) (t : Tag)
    (p : Positions) :
    Gives (t.render keywords level scope) p (t.renderFrom keywords (p.count level t.id) scope)
      (Advanced level t.id (joins t.pipes) p) := by
  unfold Tag.render Tag.renderFrom
  have hpipes := runPipes_gives keywords level t.id scope t.pipes (t.start scope) p
  refine hpipes.bind fun a q _ hq => ?_
  cases a.scalarText? with
  | none => exact Gives.throw _
  | some text => exact Gives.pure _ hq

theorem Tag.render_gives (keywords : Keywords) (level i : Nat) (scope : Scope) (t : Tag)
    {p : Positions} (h : p.count level t.id = i * joins t.pipes) :
    Gives (t.render keywords level scope) p (t.renderAt keywords i scope)
      (Advanced level t.id (joins t.pipes) p) := by
  have hfrom := t.render_gives_from keywords level scope p
  rwa [h] at hfrom

/-- At the start of item `i` every tag of a body has printed its separators once for each item
before. Tags of inner sections do not matter, since their counts are cleared there. -/
def Reached (level i : Nat) (nodes : List Node) (p : Positions) : Prop :=
  ∀ t, Node.tag t ∈ nodes → p.count level t.id = i * joins t.pipes

/-- Rendering nodes touches no count further out and none of another tag at their level. -/
def Keeps (level : Nat) (nodes : List Node) (p q : Positions) : Prop :=
  ∀ l t, l < level ∨ (l = level ∧ t ∉ tagIds nodes) → q.count l t = p.count l t

theorem Keeps.refl (level : Nat) (nodes : List Node) (p : Positions) : Keeps level nodes p p :=
  fun _ _ _ => rfl

/-- A tag that asks for positions of its own leaves those of the others alone. -/
theorem Advanced.keeps {level n : Nat} {t : Tag} {p q : Positions}
    (h : Advanced level t.id n p q) : Keeps level [.tag t] p q := by
  intro l id hl
  rw [h l id, if_neg, Nat.add_zero]
  rintro ⟨rfl, rfl⟩
  simp [tagIds, Node.tagIds] at hl

theorem mem_tagIds_of_tag_mem {t : Tag} {nodes : List Node} (h : Node.tag t ∈ nodes) :
    t.id ∈ tagIds nodes := by
  induction nodes with
  | nil => contradiction
  | cons node rest ih =>
    rw [tagIds, List.mem_append]
    rcases List.mem_cons.mp h with rfl | h
    · exact Or.inl (by simp [Node.tagIds])
    · exact Or.inr (ih h)

/-- A node and those that follow it render in turn, because they share no tags. -/
theorem renderNodes_gives_cons {keywords : Keywords} {level i : Nat} {scope : Scope} {node : Node}
    {rest : List Node} {p : Positions} (hids : (tagIds (node :: rest)).Nodup)
    (hp : Reached level i (node :: rest) p)
    (hnode : Gives (node.render keywords level scope) p (node.renderAt keywords i scope) fun q =>
      Reached level (i + 1) [node] q ∧ Keeps level [node] p q)
    (hrest : ∀ q, Reached level i rest q →
      Gives (renderNodes keywords level scope rest) q (renderNodesAt keywords i scope rest)
        fun r => Reached level (i + 1) rest r ∧ Keeps level rest q r) :
    Gives (renderNodes keywords level scope (node :: rest)) p
      (renderNodesAt keywords i scope (node :: rest))
      fun q => Reached level (i + 1) (node :: rest) q ∧ Keeps level (node :: rest) p q := by
  simp only [tagIds, List.nodup_append] at hids
  obtain ⟨-, -, hdisjoint⟩ := hids
  unfold renderNodes renderNodesAt
  refine hnode.bind fun text q _ hafter => ?_
  obtain ⟨hdone, hkeep⟩ := hafter
  have hq : Reached level i rest q := by
    intro t ht
    have hfresh : t.id ∉ tagIds [node] := by
      intro hmem
      simp only [tagIds, List.append_nil] at hmem
      exact hdisjoint _ hmem _ (mem_tagIds_of_tag_mem ht) rfl
    rw [hkeep level t.id (Or.inr ⟨rfl, hfresh⟩)]
    exact hp t (List.mem_cons_of_mem node ht)
  refine (hrest q hq).bind fun text' r _ hafter => Gives.pure _ ?_
  obtain ⟨hdone', hkeep'⟩ := hafter
  constructor
  · intro t ht
    rcases List.mem_cons.mp ht with rfl | ht
    · have hfresh : t.id ∉ tagIds rest := by
        intro hmem
        exact hdisjoint t.id (by simp [Node.tagIds]) _ hmem rfl
      rw [hkeep' level t.id (Or.inr ⟨rfl, hfresh⟩)]
      exact hdone t (List.mem_singleton_self _)
    · exact hdone' t ht
  · intro l t hl
    have hl' : l < level ∨ l = level ∧ t ∉ tagIds rest := by
      refine hl.imp_right fun h => ⟨h.1, fun hmem => h.2 ?_⟩
      simp [tagIds, hmem]
    have hl'' : l < level ∨ l = level ∧ t ∉ tagIds [node] := by
      refine hl.imp_right fun h => ⟨h.1, fun hmem => h.2 ?_⟩
      simp only [tagIds, List.append_nil] at hmem
      simp [tagIds, hmem]
    rw [hkeep' l t hl', hkeep l t hl'']

theorem renderEach_gives {f : Data → RenderM String}
    {g : Nat → Data → Except TemplateError String} {inv : Nat → Positions → Prop}
    (h : ∀ i item p, inv i p → Gives (f item) p (g i item) (inv (i + 1)))
    (items : List Data) {i : Nat} {p : Positions} (hp : inv i p) :
    Gives (renderEach f items) p (renderEachAt g i items) (inv (i + items.length)) := by
  induction items generalizing i p with
  | nil => exact Gives.pure _ hp
  | cons item rest ih =>
    unfold renderEach renderEachAt
    refine (h i item p hp).bind fun text q _ hq => (ih hq).bind fun text' r _ hr => Gives.pure _ ?_
    rwa [List.length_cons, Nat.add_comm rest.length, ← Nat.add_assoc]

/-- A section starts its own tags afresh and leaves those around it alone. -/
theorem Node.render_block_gives {keywords : Keywords} {level : Nat} {children : List Node}
    (hbody : ∀ i scope p, Reached (level + 1) i children p →
      Gives (renderNodes keywords (level + 1) scope children) p
        (renderNodesAt keywords i scope children)
        fun q => Reached (level + 1) (i + 1) children q ∧ Keeps (level + 1) children p q)
    (path : String) (inverted : Bool) (i : Nat) (scope : Scope) (p : Positions) :
    Gives ((Node.block path inverted children).render keywords level scope) p
      ((Node.block path inverted children).renderAt keywords i scope) fun q =>
        Reached level (i + 1) [.block path inverted children] q ∧
          Keeps level [.block path inverted children] p q := by
  have hdone (q : Positions) (hq : ∀ l t, l ≤ level → q.count l t = p.count l t) :
      Reached level (i + 1) [.block path inverted children] q ∧
        Keeps level [.block path inverted children] p q := by
    refine ⟨fun t ht => by simp at ht, fun l t hl => hq l t ?_⟩
    rcases hl with hl | ⟨rfl, -⟩
    · exact Nat.le_of_lt hl
    · exact Nat.le_refl l
  -- What holds at the start of every item of the section.
  let inv (j : Nat) (q : Positions) : Prop :=
    Reached (level + 1) j children q ∧ ∀ l t, l ≤ level → q.count l t = p.count l t
  have hitem (j : Nat) (scope : Scope) (q : Positions) (hq : inv j q) :
      Gives (renderNodes keywords (level + 1) scope children) q
        (renderNodesAt keywords j scope children) (inv (j + 1)) := by
    refine (hbody j scope q hq.1).imp fun r hafter => ⟨hafter.1, fun l t hl => ?_⟩
    rw [hafter.2 l t (Or.inl (Nat.lt_succ_of_le hl)), hq.2 l t hl]
  have henter : inv 0 (p.enterBlock (level + 1)) := by
    constructor
    · intro t _
      simp [Positions.count_enterBlock]
    · intro l t hl
      simp [Positions.count_enterBlock, Nat.lt_succ_of_le hl]
  unfold Node.render Node.renderAt
  generalize scope.lookup path = value
  dsimp only
  split
  · exact Gives.pure _ (hdone p fun _ _ _ => rfl)
  refine (Gives.modify henter).after_step fun q hq => ?_
  have honce (scope : Scope) := (hitem 0 scope q hq).imp fun r hr => hdone r hr.2
  cases value with
  | none => exact honce scope
  | some value =>
    cases value with
    | list items =>
      cases inverted with
      | false =>
        exact (renderEach_gives (fun j item => hitem j (item :: scope)) items hq).imp
          fun r hr => hdone r hr.2
      | true => exact honce scope
    | record fields => exact honce (.record fields :: scope)
    | _ => exact honce scope

/-- Rendering for item `i` from positions that have come to item `i` leads to those of the next
item, and gives what rendering by index gives. -/
theorem renderNodes_gives (keywords : Keywords) (nodes : List Node) (hids : (tagIds nodes).Nodup) :
    ∀ level i scope p, Reached level i nodes p →
      Gives (renderNodes keywords level scope nodes) p (renderNodesAt keywords i scope nodes)
        fun q => Reached level (i + 1) nodes q ∧ Keeps level nodes p q := by
  induction nodes using forest_induction with
  | nil =>
    intro level i scope p _
    exact Gives.pure _ ⟨fun t ht => by simp at ht, Keeps.refl level [] p⟩
  | text s rest ih =>
    intro level i scope p hp
    refine renderNodes_gives_cons hids hp (Gives.pure s ?_) (ih ?_ level i scope)
    · exact ⟨fun t ht => by simp at ht, Keeps.refl level _ p⟩
    · simpa [tagIds, Node.tagIds] using hids
  | tag t rest ih =>
    intro level i scope p hp
    have hcount := hp t (List.mem_cons_self ..)
    refine renderNodes_gives_cons hids hp ?_ (ih ?_ level i scope)
    · refine (t.render_gives keywords level i scope hcount).imp fun q hq => ⟨?_, hq.keeps⟩
      intro t' ht'
      obtain rfl : t' = t := by simpa using ht'
      rw [hq.count_self, hcount, Nat.add_mul, Nat.one_mul]
    · simp only [tagIds, List.nodup_append] at hids
      exact hids.2.1
  | block path inverted children rest ihc ihr =>
    intro level i scope p hp
    refine renderNodes_gives_cons hids hp ?_ (ihr ?_ level i scope)
    all_goals simp only [tagIds, Node.tagIds, List.nodup_append] at hids
    · exact Node.render_block_gives (ihc hids.1 (level + 1)) path inverted i scope p
    · exact hids.2.1

/-- From fresh positions, the nodes of a source give what rendering by index gives. -/
theorem renderNodes_fresh (keywords : Keywords) {source : List Char} {nodes : List Node}
    (h : parseStripped source = .ok nodes) (data : Data) :
    ((renderNodes keywords 0 [data] nodes).run.run .empty).1 =
      renderNodesAt keywords 0 [data] nodes := by
  have hstart : Reached 0 0 nodes .empty := by
    intro t _
    simp
  obtain ⟨q, hq, -⟩ :=
    renderNodes_gives keywords nodes (tagIds_nodup_of_parse h) 0 0 [data] .empty hstart
  rw [hq]

theorem renderFresh_eq_renderIndexed (keywords : Keywords) (source : String) (data : Data) :
    renderFresh keywords source data = renderIndexed keywords source data := by
  unfold renderFresh render renderIndexed
  cases h : parse source with
  | error e => rfl
  | ok nodes => exact renderNodes_fresh keywords h data

theorem runPipesAt_append (keywords : Keywords) (scope : Scope) (position : Nat)
    (pipes pipes' : List Pipe) (value : Data) :
    runPipesAt keywords scope position (pipes ++ pipes') value = (do
      let value ← runPipesAt keywords scope position pipes value
      runPipesAt keywords scope (position + joins pipes) pipes' value) := by
  induction pipes generalizing position value with
  | nil => rfl
  | cons p rest ih =>
    simp only [List.cons_append, runPipesAt]
    cases keywords.get? p.keyword with
    | none => rfl
    | some k =>
      have hposition : position + joins (p :: rest) =
          (if p.isJoin then position + 1 else position) + joins rest := by
        rw [joins_cons]
        split <;> omega
      simp only [hposition, ih, bind_assoc]

theorem Keyword.applyAt_join (separated : Bool) (argument : Option String) (scope : Scope)
    (value : Data) :
    join.applyAt separated argument scope value =
      match value.scalarText? with
      | none => throw (.keywordInput "Join")
      | some text => pure (.text (if separated then argument.getD "" ++ text else text)) := by
  unfold applyAt
  cases value.scalarText? <;> rfl

theorem Keyword.applyAt_congr {k : Keyword} (h : k.name ≠ "Join") (separated separated' : Bool)
    (argument : Option String) (scope : Scope) (value : Data) :
    k.applyAt separated argument scope value = k.applyAt separated' argument scope value := by
  cases k with
  | join => exact absurd rfl h
  | _ => rfl

/-- Where no separator is asked for, the position does not matter. -/
theorem runPipesAt_congr (keywords : Keywords) (scope : Scope) {pipes : List Pipe}
    (h : joins pipes = 0) (position position' : Nat) (value : Data) :
    runPipesAt keywords scope position pipes value =
      runPipesAt keywords scope position' pipes value := by
  induction pipes generalizing value with
  | nil => rfl
  | cons p rest ih =>
    rw [joins_cons] at h
    have hjoin : p.isJoin = false := by
      cases hp : p.isJoin with
      | false => rfl
      | true => simp [hp] at h
    have hrest : joins rest = 0 := by omega
    unfold runPipesAt
    cases hk : keywords.get? p.keyword with
    | none => rfl
    | some k =>
      have hname : k.name ≠ "Join" := by
        rw [Keywords.isJoin_eq hk] at hjoin
        simpa using hjoin
      simp only [hjoin, Bool.false_eq_true, if_false, ih hrest,
        Keyword.applyAt_congr hname (0 < position) (0 < position')]

/-- Prints a tag that has `glue` put before the text that comes out of the first keywords. -/
def Tag.renderGlued (keywords : Keywords) (glue : String) (scope : Scope) (t : Tag)
    (first last : List Pipe) : Except TemplateError String := do
  let value ← runPipesAt keywords scope 0 first (t.start scope)
  match value.scalarText? with
  | none => throw (.keywordInput "Join")
  | some text =>
    let value ← runPipesAt keywords scope 0 last (.text (glue ++ text))
    match value.scalarText? with
    | some text => return text
    | none => throw (.notScalar (t.path.getD ""))

/-- A tag with a single separator prints it for every item but the first. -/
theorem Tag.renderAt_of_join (c : Config) {t : Tag} {first last : List Pipe}
    {separator : Option String} (ht : t.pipes = first ++ ⟨"Join", separator⟩ :: last)
    (hfirst : joins first = 0) (hlast : joins last = 0) (i : Nat) (scope : Scope) :
    t.renderAt c.keywords i scope =
      t.renderGlued c.keywords (if i = 0 then "" else separator.getD "") scope first last := by
  have hjoins : joins t.pipes = 1 := by
    rw [ht, joins, List.countP_append, List.countP_cons]
    show joins first + (joins last + 1) = 1
    rw [hfirst, hlast]
  have hget : c.keywords.get? "Join" = some .join := rfl
  unfold Tag.renderAt Tag.renderGlued
  rw [hjoins, ht, runPipesAt_append, hfirst, Nat.mul_one, Nat.add_zero,
    runPipesAt_congr c.keywords scope hfirst i 0]
  simp only [bind_assoc]
  refine bind_congr fun value => ?_
  simp only [runPipesAt, hget, Keyword.applyAt_join]
  cases value.scalarText? with
  | none => rfl
  | some text =>
    simp only [pure_bind]
    rw [runPipesAt_congr c.keywords scope hlast _ 0]
    cases i with
    | zero => simp
    | succ i => simp

/-- Rendering from fresh positions is rendering by index: a separator is printed before an item
exactly if an item of the innermost section, or a separator of the same tag, comes before it. So a
tag with one separator prints it for every item but the first, and a section inside another starts
afresh whatever the item around it. -/
theorem fresh_rendering_by_index (c : Config) (source : String) (data : Data) :
    renderFresh c.keywords source data = renderIndexed c.keywords source data ∧
    (∀ (t : Tag) (first last : List Pipe) (separator : Option String) (i : Nat) (scope : Scope),
      t.pipes = first ++ ⟨"Join", separator⟩ :: last → joins first = 0 → joins last = 0 →
      t.renderAt c.keywords i scope =
        t.renderGlued c.keywords (if i = 0 then "" else separator.getD "") scope first last) ∧
    ∀ (path : String) (inverted : Bool) (children : List Node) (i : Nat) (scope : Scope),
      (Node.block path inverted children).renderAt c.keywords i scope =
        (Node.block path inverted children).renderAt c.keywords 0 scope := by
  refine ⟨renderFresh_eq_renderIndexed c.keywords source data, ?_, ?_⟩
  · intro t first last separator i scope ht hfirst hlast
    exact t.renderAt_of_join c ht hfirst hlast i scope
  · intro path inverted children i scope
    simp only [Node.renderAt]

end DataLayer.Template
