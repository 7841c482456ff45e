import DataLayer.Code.Fragment
import DataLayer.Proofs.Template.Parts
import DataLayer.Proofs.Template.TagGrammar
import DataLayer.Proofs.Text.Splitting
import DataLayer.Proofs.Text.Trimming

/-!
What pieces of templates show. Texts, tags and sections on one line are parts, and so is what is
joined of them; each shows a text unless one of its tags has a fault.
-/

namespace DataLayer.Template

open Text Code

/-! Parts as texts. -/

/-- A text that is read in the same way wherever it stands. -/
def IsPart (s : String) : Prop := ∃ nodes, Reads s.toList nodes

/-- What a part gives for the item of index `i`. -/
def renderPart (keywords : Keywords) (i : Nat) (scope : Scope) (s : String) : Rendering := do
  renderNodesAt keywords i scope (← parseStripped s.toList)

theorem renderPart_of_reads {s : String} {nodes : List Node} (h : Reads s.toList nodes)
    (keywords : Keywords) (i : Nat) (scope : Scope) :
    renderPart keywords i scope s = renderNodesAt keywords i scope nodes := by
  obtain ⟨nodes', hparse, halike⟩ := h.parseStripped
  unfold renderPart
  rw [hparse, halike keywords i scope]
  rfl

section Append

variable {s t : String}

theorem IsPart.append (h : IsPart s) (h' : IsPart t) : IsPart (s ++ t) := by
  obtain ⟨nodes, hs⟩ := h
  obtain ⟨nodes', ht⟩ := h'
  refine ⟨nodes ++ nodes', ?_⟩
  rw [String.toList_append]
  exact hs.append ht

theorem renderPart_append (h : IsPart s) (h' : IsPart t) (keywords : Keywords) (i : Nat)
    (scope : Scope) :
    renderPart keywords i scope (s ++ t) =
      renderPart keywords i scope s ++ renderPart keywords i scope t := by
  obtain ⟨nodes, hs⟩ := h
  obtain ⟨nodes', ht⟩ := h'
  have hboth : Reads (s ++ t).toList (nodes ++ nodes') := by
    rw [String.toList_append]
    exact hs.append ht
  rw [renderPart_of_reads hs, renderPart_of_reads ht, renderPart_of_reads hboth,
    renderNodesAt_append]

end Append

theorem reads_of_unpaired {s : String} (h : Unpaired '{' s.toList) : Reads s.toList [.text s] := by
  have hreads := Reads.text h .nil
  rwa [List.append_nil, String.ofList_toList] at hreads

theorem renderPart_of_unpaired {s : String} (h : Unpaired '{' s.toList) (keywords : Keywords)
    (i : Nat) (scope : Scope) : renderPart keywords i scope s = .ok s := by
  rw [renderPart_of_reads (reads_of_unpaired h), renderNodesAt_cons]
  exact Rendering.append_empty _

/-! Tags. -/

theorem toList_tag (content : String) : (tag content).toList = braced content.toList := by
  simp [tag, braced]

/-- The content of a tag that is read as a path and keywords. -/
structure IsValue (content : String) (path : Option String) (pipes : List Pipe) : Prop where
  plain : ∀ c ∈ content.toList, c ≠ '}' ∧ c ≠ '\n'
  mark : Mark.ofContent? (trimChars content.toList) = some (.value path pipes)

theorem IsValue.reads {content : String} {path : Option String} {pipes : List Pipe}
    (h : IsValue content path pipes) : Reads (tag content).toList [.tag ⟨0, path, pipes⟩] := by
  have hcontent : Unpaired '}' content.toList :=
    Unpaired.of_notMem fun hmem => (h.plain _ hmem).1 rfl
  have hreads := Reads.tag hcontent h.mark .nil
  rwa [List.append_nil, ← toList_tag] at hreads

/-! Characters of the generated templates. -/

/-- A visible character of ASCII in front of the braces. -/
def IsVisible (c : Char) : Prop := 32 < c.toNat ∧ c.toNat < 123

instance (c : Char) : Decidable (IsVisible c) := inferInstanceAs (Decidable (_ ∧ _))

namespace IsVisible

variable {c : Char}

theorem isBlank_eq_false (h : IsVisible c) : isBlank c = false :=
  Text.isBlank_eq_false h.1 (Nat.lt_trans h.2 (by decide))

theorem ne_brace (h : IsVisible c) {brace : Char} (hbrace : brace = '{' ∨ brace = '}') :
    c ≠ brace := by
  rintro rfl
  rcases hbrace with rfl | rfl
  · exact absurd h.2 (by decide)
  · exact absurd h.2 (by decide)

end IsVisible

/-- A letter of ASCII, or a dot. -/
def IsPathChar (c : Char) : Prop :=
  c = '.' ∨ 65 ≤ c.toNat ∧ c.toNat ≤ 90 ∨ 97 ≤ c.toNat ∧ c.toNat ≤ 122

instance (c : Char) : Decidable (IsPathChar c) := inferInstanceAs (Decidable (_ ∨ _))

theorem IsPathChar.isVisible {c : Char} (h : IsPathChar c) : IsVisible c := by
  rcases h with rfl | h | h
  · decide
  · exact ⟨by omega, by omega⟩
  · exact ⟨by omega, by omega⟩

/-! Paths. -/

/-- A path to a field. -/
structure IsPath (path : String) : Prop where
  nonempty : path.toList ≠ []
  plain : ∀ c ∈ path.toList, IsPathChar c

namespace IsPath

theorem ofList {cs : List Char}
    (h : (!cs.isEmpty && cs.all fun c => decide (IsPathChar c)) = true) :
    IsPath (String.ofList cs) := by
  rw [Bool.and_eq_true] at h
  refine ⟨?_, fun c hc => ?_⟩
  · simpa using h.1
  · rw [String.toList_ofList] at hc
    exact of_decide_eq_true (List.all_eq_true.mp h.2 c hc)

variable {path : String}

theorem notMem_newline (h : IsPath path) : '\n' ∉ path.toList := by
  intro hmem
  exact absurd (h.plain _ hmem).isVisible (by decide)

theorem notMem_brace (h : IsPath path) {c : Char} (hc : c = '{' ∨ c = '}') : c ∉ path.toList := by
  intro hmem
  exact (h.plain _ hmem).isVisible.ne_brace hc rfl

theorem trimChars (h : IsPath path) : trimChars path.toList = path.toList :=
  trimChars_eq_self fun c hc => (h.plain c hc).isVisible.isBlank_eq_false

theorem isBlockPath (h : IsPath path) : IsBlockPath path.toList :=
  ⟨h.nonempty, h.trimChars, .of_notMem (h.notMem_brace (Or.inr rfl))⟩

/-- A tag may name a path and nothing else. -/
theorem isValue (h : IsPath path) : IsValue path (some path) [] := by
  have hnot (c : Char) (hc : ¬IsPathChar c) : c ∉ path.toList := fun hmem => hc (h.plain c hmem)
  refine ⟨fun c hc => ⟨?_, ?_⟩, ?_⟩
  · exact (h.plain c hc).isVisible.ne_brace (Or.inr rfl)
  · rintro rfl
    exact h.notMem_newline hc
  · have hsplit : splitOutsideQuotes '|' path.toList = [path.toList] :=
      splitScan_of_notMem (by simp) (hnot '|' (by decide)) none
    have hparen : '(' ∉ path.toList := hnot '(' (by decide)
    have hvalue : Mark.valueOf? path.toList = some (.value (some path) []) := by
      simp [Mark.valueOf?, hsplit, h.trimChars, h.nonempty, hparen, pipes?]
    rw [h.trimChars]
    cases hpath : path.toList with
    | nil => exact absurd hpath h.nonempty
    | cons first rest =>
      have hfirst (c : Char) (hc : ¬IsPathChar c) : (first == c) = false := by
        refine beq_false_of_ne ?_
        rintro rfl
        exact hnot first hc (by simp [hpath])
      rw [hpath] at hvalue
      simp [Mark.ofContent?, hfirst '!' (by decide), hfirst '#' (by decide),
        hfirst '^' (by decide), hfirst '/' (by decide), hvalue]

theorem within_notMem_newline (h : IsPath path) {body : String} (hbody : '\n' ∉ body.toList) :
    '\n' ∉ (within path body).toList := by
  simp [within, toList_tag, braced, h.notMem_newline, hbody]

theorem without_notMem_newline (h : IsPath path) {body : String} (hbody : '\n' ∉ body.toList) :
    '\n' ∉ (without path body).toList := by
  simp [without, toList_tag, braced, h.notMem_newline, hbody]

end IsPath

/-! Sections. -/

namespace IsBlockPath

variable {path body : String} {children : List Node}

theorem reads_within (h : IsBlockPath path.toList) (hbody : Reads body.toList children) :
    Reads (within path body).toList [.block path false children] := by
  have hreads := Reads.block (h.unpaired_cons (by decide)) (h.unpaired_cons (by decide))
    (h.opener false) h.closer hbody .nil
  simpa [within, toList_tag, String.toList_append] using hreads

theorem reads_without (h : IsBlockPath path.toList) (hbody : Reads body.toList children) :
    Reads (without path body).toList [.block path true children] := by
  have hreads := Reads.block (h.unpaired_cons (by decide)) (h.unpaired_cons (by decide))
    (h.opener true) h.closer hbody .nil
  simpa [without, toList_tag, String.toList_append] using hreads

theorem isPart_within (h : IsBlockPath path.toList) (hbody : IsPart body) :
    IsPart (within path body) := by
  obtain ⟨children, hchildren⟩ := hbody
  exact ⟨_, h.reads_within hchildren⟩

theorem isPart_without (h : IsBlockPath path.toList) (hbody : IsPart body) :
    IsPart (without path body) := by
  obtain ⟨children, hchildren⟩ := hbody
  exact ⟨_, h.reads_without hchildren⟩

variable {keywords : Keywords} {i : Nat} {scope : Scope}

/-- A section over a list gives its body for every item. -/
theorem renderPart_within_list (h : IsBlockPath path.toList) (hbody : IsPart body)
    {items : List Data}
    (hlookup : scope.lookup path = some (.list items)) :
    renderPart keywords i scope (within path body) =
      renderEachAt (fun j item => renderPart keywords j (item :: scope) body) 0 items := by
  obtain ⟨children, hchildren⟩ := hbody
  rw [renderPart_of_reads (h.reads_within hchildren), renderNodesAt_cons, renderNodesAt_nil,
    Rendering.append_empty]
  simp only [renderPart_of_reads hchildren, Node.renderAt, hlookup]
  cases items with
  | nil => rfl
  | cons item rest => rfl

/-- A section over a value that is neither a list nor a record gives its body if it appears. -/
theorem renderPart_within_scalar (h : IsBlockPath path.toList) (hbody : IsPart body) {value : Data}
    (hlookup : scope.lookup path = some value) (hscalar : value.scalarText?.isSome = true) :
    renderPart keywords i scope (within path body) =
      if value.isTruthy then renderPart keywords 0 scope body else .ok "" := by
  obtain ⟨children, hchildren⟩ := hbody
  rw [renderPart_of_reads (h.reads_within hchildren), renderNodesAt_cons, renderNodesAt_nil,
    Rendering.append_empty, renderPart_of_reads hchildren]
  simp only [Node.renderAt, hlookup, Option.map_some, Option.getD_some]
  cases htruthy : value.isTruthy with
  | false => rfl
  | true =>
    cases value with
    | list items => contradiction
    | record fields => contradiction
    | _ => rfl

/-- The opposite section gives its body where the other hides it. -/
theorem renderPart_without_text (h : IsBlockPath path.toList) (hbody : IsPart body) {text : String}
    (hlookup : scope.lookup path = some (.text text)) :
    renderPart keywords i scope (without path body) =
      if text.isEmpty then renderPart keywords 0 scope body else .ok "" := by
  obtain ⟨children, hchildren⟩ := hbody
  rw [renderPart_of_reads (h.reads_without hchildren), renderNodesAt_cons, renderNodesAt_nil,
    Rendering.append_empty, renderPart_of_reads hchildren]
  simp only [Node.renderAt, hlookup]
  cases htext : text.isEmpty <;> simp [Data.isTruthy, htext]

end IsBlockPath

/-! Tags with keywords. -/

instance (content : String) (path : Option String) (pipes : List Pipe) :
    Decidable (IsValue content path pipes) :=
  decidable_of_iff (content.toList.all (fun c => c != '}' && c != '\n') = true ∧
      Mark.ofContent? (trimChars content.toList) = some (.value path pipes))
    ⟨fun h => ⟨by simpa using h.1, h.2⟩, fun h => ⟨by simpa using h.plain, h.2⟩⟩

/-- The tags of the generated templates that have keywords, and what they are read as. -/
def keywordTags : List (String × Option String × List Pipe) := [
  ("EntityName|Plural", some "EntityName", [⟨"Plural", none⟩]),
  ("EntityName|FirstLower", some "EntityName", [⟨"FirstLower", none⟩]),
  ("ForeignName|ShortName", some "ForeignName", [⟨"ShortName", none⟩]),
  ("Join(\" AND \")", none, [⟨"Join", some " AND "⟩]),
  ("Join(\", \")", none, [⟨"Join", some ", "⟩]),
  ("Name|Sanitize", some "Name", [⟨"Sanitize", none⟩]),
  ("Name|ShortName", some "Name", [⟨"ShortName", none⟩]),
  ("Name|ShortName|FirstLower", some "Name", [⟨"ShortName", none⟩, ⟨"FirstLower", none⟩]),
  ("Name|ShortName|Join(\"And\")", some "Name", [⟨"ShortName", none⟩, ⟨"Join", some "And"⟩]),
  ("SqlType|EnumCast(\"Name\")", some "SqlType", [⟨"EnumCast", some "Name"⟩]),
  ("SqlType|ShortName", some "SqlType", [⟨"ShortName", none⟩]),
  ("SqlType|StorageKind|FirstUpper", some "SqlType", [⟨"StorageKind", none⟩, ⟨"FirstUpper", none⟩]),
  ("SqlType|Type(\"Name\")", some "SqlType", [⟨"Type", some "Name"⟩])]

theorem isValue_of_mem {content : String} {path : Option String} {pipes : List Pipe}
    (h : (content, path, pipes) ∈ keywordTags) : IsValue content path pipes := by
  have hall : keywordTags.all (fun t => decide (IsValue t.1 t.2.1 t.2.2)) = true := by
    decide +kernel
  exact of_decide_eq_true (List.all_eq_true.mp hall _ h)

/-! Texts with their faults. -/

/-- A text, unless there is a fault. -/
def checked (fault : Option TemplateError) (text : String) : Rendering :=
  match fault with
  | none => .ok text
  | some e => .error e

theorem checked_append (fault fault' : Option TemplateError) (text text' : String) :
    checked fault text ++ checked fault' text' = checked (fault.or fault') (text ++ text') := by
  cases fault <;> cases fault' <;> rfl

theorem findSome?_const_none {α : Type} (xs : List α) :
    (xs.findSome? fun _ => (none : Option TemplateError)) = none := by simp

section Each

variable {α : Type} {data : α → Data} {f : Nat → Data → Rendering}
  {fault : α → Option TemplateError} {text : α → String}

theorem renderEachAt_eq_join {i : Nat} {xs : List α}
    (h : ∀ j, i ≤ j → ∀ x ∈ xs, f j (data x) = checked (fault x) (text x)) :
    renderEachAt f i (xs.map data) =
      checked (xs.findSome? fault) (String.join (xs.map text)) := by
  induction xs generalizing i with
  | nil => rfl
  | cons x xs ih =>
    rw [List.map_cons, renderEachAt_cons, h i (Nat.le_refl i) x List.mem_cons_self,
      ih fun j hj y hy => h j (Nat.le_of_succ_le hj) y (List.mem_cons_of_mem x hy),
      checked_append, List.map_cons, String.join_cons, List.findSome?_cons]
    cases fault x <;> rfl

theorem intercalate_cons (sep s : String) (rest : List String) :
    sep.intercalate (s :: rest) = s ++ String.join (rest.map (sep ++ ·)) := by
  induction rest generalizing s with
  | nil => simp
  | cons t rest ih =>
    rw [String.intercalate_cons_cons, ih, List.map_cons, String.join_cons]
    simp only [String.append_assoc]

/-- Where every item but the first has a separator in front, the texts are joined with it. -/
theorem renderEachAt_eq_intercalate {sep : String} {xs : List α}
    (h : ∀ j, ∀ x ∈ xs,
      f j (data x) = checked (fault x) (if j = 0 then text x else sep ++ text x)) :
    renderEachAt f 0 (xs.map data) =
      checked (xs.findSome? fault) (sep.intercalate (xs.map text)) := by
  cases xs with
  | nil => rfl
  | cons x xs =>
    -- Behind the first item no index is 0, so every text has the separator in front.
    have hrest : renderEachAt f 1 (xs.map data) =
        checked (xs.findSome? fault) (String.join (xs.map (sep ++ text ·))) :=
      renderEachAt_eq_join fun j hj y hy => by
        rw [h j y (List.mem_cons_of_mem x hy), if_neg (Nat.ne_of_gt hj)]
    rw [List.map_cons, renderEachAt_cons, h 0 x List.mem_cons_self, hrest, checked_append,
      if_pos rfl, List.map_cons, intercalate_cons, List.map_map, List.findSome?_cons]
    cases fault x <;> rfl

end Each

/-! Pieces on one line. -/

/-- A piece of a line that shows a text unless there is a fault. -/
structure Shows (keywords : Keywords) (i : Nat) (scope : Scope) (source : String)
    (fault : Option TemplateError) (text : String) : Prop where
  part : IsPart source
  oneLine : '\n' ∉ source.toList
  rendering : renderPart keywords i scope source = checked fault text

/-- A text on one line without tags. -/
def IsText (s : String) : Prop := ∀ c ∈ s.toList, c ≠ '{' ∧ c ≠ '\n'

theorem IsText.ofList {cs : List Char} (h : cs.all (fun c => c != '{' && c != '\n') = true) :
    IsText (String.ofList cs) := by
  intro c hc
  rw [String.toList_ofList] at hc
  simpa using List.all_eq_true.mp h c hc

namespace Shows

variable {keywords : Keywords} {i : Nat} {scope : Scope} {s s' t t' : String}
  {f f' : Option TemplateError}

theorem of_unpaired (h : Unpaired '{' s.toList) (hline : '\n' ∉ s.toList) :
    Shows keywords i scope s none s :=
  ⟨⟨_, reads_of_unpaired h⟩, hline, renderPart_of_unpaired h keywords i scope⟩

theorem text (h : IsText s) : Shows keywords i scope s none s :=
  of_unpaired (Unpaired.of_notMem fun hmem => (h _ hmem).1 rfl) fun hmem => (h _ hmem).2 rfl

theorem append (h : Shows keywords i scope s f t) (h' : Shows keywords i scope s' f' t') :
    Shows keywords i scope (s ++ s') (f.or f') (t ++ t') := by
  refine ⟨h.part.append h'.part, ?_, ?_⟩
  · rw [String.toList_append, List.mem_append]
    exact not_or.mpr ⟨h.oneLine, h'.oneLine⟩
  · rw [renderPart_append h.part h'.part, h.rendering, h'.rendering, checked_append]

theorem appendPlain (h : Shows keywords i scope s f t) (h' : Shows keywords i scope s' none t') :
    Shows keywords i scope (s ++ s') f (t ++ t') := by
  have hboth := h.append h'
  rwa [Option.or_none] at hboth

/-- Items without faults have no fault together. -/
theorem plain {α : Type} {xs : List α}
    (h : Shows keywords i scope s (xs.findSome? fun _ => none) t) :
    Shows keywords i scope s none t := by
  rwa [findSome?_const_none] at h

/-- A text in front. -/
theorem before (h : Shows keywords i scope s f t) (htext : IsText s') :
    Shows keywords i scope (s' ++ s) f (s' ++ t) :=
  (text htext).append h

/-- A text behind. -/
theorem after (h : Shows keywords i scope s f t) (htext : IsText s') :
    Shows keywords i scope (s ++ s') f (t ++ s') :=
  h.appendPlain (text htext)

theorem value {content : String} {path : Option String} {pipes : List Pipe}
    (h : IsValue content path pipes)
    (hrender : Tag.renderAt keywords i scope ⟨0, path, pipes⟩ = checked f t) :
    Shows keywords i scope (tag content) f t := by
  refine ⟨⟨_, h.reads⟩, ?_, ?_⟩
  · have hcontent : '\n' ∉ content.toList := fun hmem => (h.plain _ hmem).2 rfl
    simp [toList_tag, braced, hcontent]
  · rw [renderPart_of_reads h.reads, renderNodesAt_cons, ← hrender]
    exact Rendering.append_empty _

section Sections

variable {path body : String} {α : Type} [Nonempty α] {xs : List α} {data : α → Data}
  {fault : α → Option TemplateError} {text : α → String}

/-- A section over a list shows the texts of its items. -/
theorem each (hpath : IsPath path) (hlookup : scope.lookup path = some (.list (xs.map data)))
    (h : ∀ j x, Shows keywords j (data x :: scope) body (fault x) (text x)) :
    Shows keywords i scope (within path body) (xs.findSome? fault)
      (String.join (xs.map text)) := by
  obtain ⟨x⟩ := ‹Nonempty α›
  refine ⟨hpath.isBlockPath.isPart_within (h 0 x).part,
    hpath.within_notMem_newline (h 0 x).oneLine, ?_⟩
  rw [hpath.isBlockPath.renderPart_within_list (h 0 x).part hlookup]
  exact renderEachAt_eq_join fun j _ x _ => (h j x).rendering

/-- A section whose body starts with a separator shows the texts of its items with the separator
between them. -/
theorem separated {sep : String} (hpath : IsPath path)
    (hlookup : scope.lookup path = some (.list (xs.map data)))
    (h : ∀ j x, Shows keywords j (data x :: scope) body (fault x)
      (if j = 0 then text x else sep ++ text x)) :
    Shows keywords i scope (within path body) (xs.findSome? fault)
      (sep.intercalate (xs.map text)) := by
  obtain ⟨x⟩ := ‹Nonempty α›
  refine ⟨hpath.isBlockPath.isPart_within (h 0 x).part,
    hpath.within_notMem_newline (h 0 x).oneLine, ?_⟩
  rw [hpath.isBlockPath.renderPart_within_list (h 0 x).part hlookup]
  exact renderEachAt_eq_intercalate fun j x _ => (h j x).rendering

/-- A section over a text that is there where `b` holds. -/
theorem when {flag : String} {b : Bool} (h : Shows keywords 0 scope body f t) (hpath : IsPath path)
    (hlookup : scope.lookup path = some (.text flag)) (hflag : flag.isEmpty = !b) :
    Shows keywords i scope (within path body) (if b then f else none) (if b then t else "") := by
  refine ⟨hpath.isBlockPath.isPart_within h.part, hpath.within_notMem_newline h.oneLine, ?_⟩
  rw [hpath.isBlockPath.renderPart_within_scalar h.part hlookup rfl, Data.isTruthy, hflag,
    h.rendering]
  cases b <;> rfl

/-- A section over a text that is missing where `b` holds. -/
theorem whenNot {flag : String} {b : Bool} (h : Shows keywords 0 scope body f t)
    (hpath : IsPath path) (hlookup : scope.lookup path = some (.text flag))
    (hflag : flag.isEmpty = !b) :
    Shows keywords i scope (without path body) (if b then none else f) (if b then "" else t) := by
  refine ⟨hpath.isBlockPath.isPart_without h.part, hpath.without_notMem_newline h.oneLine, ?_⟩
  rw [hpath.isBlockPath.renderPart_without_text h.part hlookup, hflag, h.rendering]
  cases b <;> rfl

end Sections

end Shows

end DataLayer.Template
