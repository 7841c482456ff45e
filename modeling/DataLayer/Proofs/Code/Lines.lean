import DataLayer.Code.File
import DataLayer.Proofs.Code.Parts
import DataLayer.Proofs.Template.ItemIndex
import DataLayer.Proofs.Template.Lines

/-!
What templates in lines show. The lines around a section disappear and every other line shows a
line, so a template shows its lines and those of its sections in turn.
-/

namespace DataLayer.Template

open Text Code

/-! Lines that stay, and lines that are reduced to their tags. -/

/-- A line that is not reduced to a tag. -/
def IsPlain (line : String) : Prop := isStandalone (trimChars (line.toList ++ ['\n'])) = false

theorem isPlain_of_trimChars {line : String}
    (h : ∀ content, trimChars line.toList ≠ braced content) : IsPlain line := by
  unfold IsPlain
  rw [trimChars_append_newline]
  cases hstandalone : isStandalone (trimChars line.toList) with
  | false => rfl
  | true =>
    obtain ⟨content, hcontent⟩ := eq_braced_of_isStandalone hstandalone
    exact absurd hcontent (h content)

/-- A line that starts with something else than a brace stays. -/
theorem isPlain_of_head {line : String} {c : Char} (hline : line.toList.head? = some c)
    (hc : IsVisible c) : IsPlain line := by
  refine isPlain_of_trimChars fun content hcontent => hc.ne_brace (Or.inl rfl) ?_
  obtain ⟨rest, hrest⟩ := List.head?_eq_some_iff.mp hline
  rw [hrest, trimChars_cons hc.isBlank_eq_false, braced] at hcontent
  exact (List.cons.inj hcontent).1

/-- A line that ends with something else than a brace stays. -/
theorem isPlain_of_getLast {line : String} {c : Char} (hline : line.toList.getLast? = some c)
    (hc : IsVisible c) : IsPlain line := by
  refine isPlain_of_trimChars fun content hcontent => hc.ne_brace (Or.inr rfl) ?_
  obtain ⟨front, hfront⟩ := List.getLast?_eq_some_iff.mp hline
  have hlast := congrArg List.getLast? hcontent
  rw [getLast?_braced, hfront, trimChars, List.dropWhile_append, dropEndWhile] at hlast
  split at hlast <;> simpa [hc.isBlank_eq_false] using hlast

theorem IsText.indent {line : String} (n : Nat) (h : IsText line) :
    IsText (Code.indent n line) := by
  intro c hc
  rw [Code.indent, String.toList_append, String.toList_ofList, List.mem_append] at hc
  rcases hc with hc | hc
  · simp [List.eq_of_mem_replicate hc]
  · exact h c hc

theorem isPlain_indent {line : String} (n : Nat) (h : IsPlain line) : IsPlain (indent n line) := by
  have hdrop (m : Nat) (cs : List Char) :
      (List.replicate m ' ' ++ cs).dropWhile isBlank = cs.dropWhile isBlank := by
    induction m with
    | zero => rfl
    | succ m ih =>
      rw [List.replicate_succ, List.cons_append, List.dropWhile_cons_of_pos isBlank_space, ih]
  unfold IsPlain at *
  rwa [indent, String.toList_append, String.toList_ofList, List.append_assoc, trimChars, hdrop]

/-- A text without braces stays. -/
theorem IsText.isPlain {line : String} (h : IsText line) : IsPlain line := by
  refine isPlain_of_trimChars fun content hcontent => ?_
  have hmem : '{' ∈ trimChars line.toList := by simp [hcontent, braced]
  rw [trimChars, dropEndWhile, List.mem_reverse] at hmem
  have hdrop := (List.dropWhile_sublist isBlank).mem hmem
  exact (h '{' ((List.dropWhile_sublist isBlank).mem (List.mem_reverse.mp hdrop))).1 rfl

/-- A line that starts with a tag for a value stays. -/
theorem isPlain_of_tag {line : String} {c : Char} {rest : List Char}
    (hline : line.toList = '{' :: '{' :: c :: rest) (hc : IsVisible c)
    (hmark : isSilentMark c = false) : IsPlain line := by
  have hbrace : isBlank '{' = false := isBlank_eq_false (by decide) (by decide)
  unfold IsPlain
  rw [trimChars_append_newline, hline, trimChars_cons hbrace, dropEndWhile_cons hbrace,
    dropEndWhile_cons hc.isBlank_eq_false]
  cases hstandalone : tagContent? ('{' :: '{' :: c :: dropEndWhile isBlank rest) with
  | none => simp [isStandalone, hstandalone]
  | some content =>
    have hcontent := eq_braced_of_tagContent? hstandalone
    cases content with
    | nil => simp [isStandalone, hstandalone]
    | cons c' content =>
      obtain ⟨rfl, -⟩ : c = c' ∧ _ := by simpa [braced] using hcontent
      simp [isStandalone, hstandalone, hmark]

/-- A tag of a section is all that is left of its line. -/
theorem stripLine_braced {path : String} (h : IsPath path) (mark : Char)
    (hmark : isSilentMark mark = true) (hbrace : mark ≠ '{' ∧ mark ≠ '}') :
    stripLine (braced (mark :: path.toList) ++ ['\n']) = braced (mark :: path.toList) := by
  have hpair (c : Char) (hc : c = '{' ∨ c = '}') : hasPair c (mark :: path.toList) = false := by
    refine (Unpaired.of_notMem fun hmem => ?_).hasPair
    rcases List.mem_cons.mp hmem with rfl | hmem
    · rcases hc with rfl | rfl
      · exact hbrace.1 rfl
      · exact hbrace.2 rfl
    · exact h.notMem_brace hc hmem
  rw [stripLine, trimChars_append_newline, trimChars_braced]
  simp [isStandalone, tagContent?_braced, hmark, hpair]

/-! Templates in lines. -/

/-- What is left of lines when the standalone ones are reduced. -/
def reduced (lines : List String) : String :=
  String.ofList (lines.flatMap fun l => stripLine (l.toList ++ ['\n']))

theorem lines_ofLines {ls : List String} (h : ∀ l ∈ ls, '\n' ∉ l.toList) :
    lines (ofLines ls).toList = ls.map fun l => l.toList ++ ['\n'] := by
  induction ls with
  | nil => rfl
  | cons l ls ih =>
    have hrest := ih fun l' hl' => h l' (List.mem_cons_of_mem l hl')
    have hcons : (ofLines (l :: ls)).toList = l.toList ++ '\n' :: (ofLines ls).toList := by
      simp [ofLines]
    rw [hcons, lines_cons (h l (List.mem_cons_self ..)), hrest]
    rfl

theorem stripStandalone_ofLines {ls : List String} (h : ∀ l ∈ ls, '\n' ∉ l.toList) :
    stripStandalone (ofLines ls).toList = (reduced ls).toList := by
  rw [stripStandalone, lines_ofLines h, reduced, String.toList_ofList, List.flatMap_map]

theorem renderIndexed_ofLines {ls : List String} (h : ∀ l ∈ ls, '\n' ∉ l.toList)
    (keywords : Keywords) (data : Data) :
    renderIndexed keywords (ofLines ls) data = renderPart keywords 0 [data] (reduced ls) := by
  unfold renderIndexed renderPart parse
  rw [stripStandalone_ofLines h]

theorem ofLines_append (ls ls' : List String) :
    ofLines (ls ++ ls') = ofLines ls ++ ofLines ls' := by
  simp [ofLines]

theorem ofLines_flatMap {α : Type} (xs : List α) (f : α → List String) :
    ofLines (xs.flatMap f) = String.join (xs.map fun x => ofLines (f x)) := by
  induction xs with
  | nil => rfl
  | cons x xs ih => rw [List.flatMap_cons, ofLines_append, ih, List.map_cons, String.join_cons]

theorem reduced_append (ls ls' : List String) :
    reduced (ls ++ ls') = reduced ls ++ reduced ls' := by
  simp [reduced]

theorem reduced_singleton {l : String} (h : IsPlain l) : reduced [l] = l ++ "\n" := by
  unfold IsPlain at h
  simp [reduced, stripLine, h]

theorem reduced_blockLines {path : String} (h : IsPath path) (ls : List String) :
    reduced (blockLines path ls) = within path (reduced ls) := by
  have hopen := stripLine_braced h '#' (by decide) (by decide)
  have hclose := stripLine_braced h '/' (by decide) (by decide)
  rw [← String.toList_inj]
  simp [reduced, blockLines, within, toList_tag, hopen, hclose]

theorem notMem_newline_of_blockLines {path : String} (h : IsPath path) {ls : List String}
    (hls : ∀ l ∈ ls, '\n' ∉ l.toList) : ∀ l ∈ blockLines path ls, '\n' ∉ l.toList := by
  intro l hl
  have htag (mark : String) (hmark : '\n' ∉ mark.toList) :
      '\n' ∉ (tag (mark ++ path)).toList := by
    simp [toList_tag, braced, h.notMem_newline, hmark]
  rw [blockLines, List.cons_append, List.mem_cons, List.mem_append, List.mem_singleton] at hl
  rcases hl with rfl | hl | rfl
  · exact htag _ (by decide)
  · exact hls l hl
  · exact htag _ (by decide)

theorem indent_zero (line : String) : indent 0 line = line := by simp [indent]

theorem isPlain_opening : IsPlain opening := by
  refine isPlain_of_trimChars fun content hcontent => ?_
  have hbrace : isBlank '{' = false := isBlank_eq_false (by decide) (by decide)
  have hlength := congrArg List.length hcontent
  simp [Code.opening, trimChars, dropEndWhile, hbrace, braced] at hlength

/-- Lines that show lines unless there is a fault. -/
structure ShowsLines (keywords : Keywords) (i : Nat) (scope : Scope) (ls : List String)
    (fault : Option TemplateError) (shown : List String) : Prop where
  oneLine : ∀ l ∈ ls, '\n' ∉ l.toList
  part : IsPart (reduced ls)
  rendering : renderPart keywords i scope (reduced ls) = checked fault (ofLines shown)

theorem Shows.indent {keywords : Keywords} {i : Nat} {scope : Scope} {s t : String}
    {f : Option TemplateError} (n : Nat) (h : Shows keywords i scope s f t) :
    Shows keywords i scope (Code.indent n s) f (Code.indent n t) :=
  h.before fun c hc => by
    rw [String.toList_ofList] at hc
    simp [List.eq_of_mem_replicate hc]

namespace ShowsLines

variable {keywords : Keywords} {i : Nat} {scope : Scope} {l t : String}
  {ls ls' shown shown' : List String} {f f' : Option TemplateError}

theorem nil : ShowsLines keywords i scope [] none [] :=
  ⟨fun _ h => absurd h List.not_mem_nil, ⟨[], Reads.nil⟩,
    renderPart_of_reads (s := reduced []) Reads.nil keywords i scope⟩

theorem append (h : ShowsLines keywords i scope ls f shown)
    (h' : ShowsLines keywords i scope ls' f' shown') :
    ShowsLines keywords i scope (ls ++ ls') (f.or f') (shown ++ shown') := by
  refine ⟨?_, ?_, ?_⟩
  · intro l hl
    rcases List.mem_append.mp hl with hl | hl
    · exact h.oneLine l hl
    · exact h'.oneLine l hl
  · rw [reduced_append]
    exact h.part.append h'.part
  · rw [reduced_append, renderPart_append h.part h'.part, h.rendering, h'.rendering,
      checked_append, ofLines_append]

theorem of_newline (hplain : IsPlain l) (hline : '\n' ∉ l.toList)
    (h : IsPart (l ++ "\n")) (hrender : renderPart keywords i scope (l ++ "\n") =
      checked f (t ++ "\n")) : ShowsLines keywords i scope [l] f [t] := by
  refine ⟨fun l' hl' => ?_, ?_, ?_⟩
  · obtain rfl := List.mem_singleton.mp hl'
    exact hline
  · rwa [reduced_singleton hplain]
  · rw [reduced_singleton hplain, hrender]
    simp [ofLines]

/-- A line that shows a line. -/
theorem line (h : Shows keywords i scope l f t) (hplain : IsPlain l) :
    ShowsLines keywords i scope [l] f [t] := by
  have hnewline : Unpaired '{' "\n".toList := by decide
  have hpart : IsPart "\n" := ⟨_, reads_of_unpaired hnewline⟩
  refine of_newline hplain h.oneLine (h.part.append hpart) ?_
  rw [renderPart_append h.part hpart, h.rendering, renderPart_of_unpaired hnewline]
  cases f <;> rfl

/-- Items without faults have no fault together. -/
theorem plain {α : Type} {xs : List α}
    (h : ShowsLines keywords i scope ls (xs.findSome? fun _ => none) shown) :
    ShowsLines keywords i scope ls none shown := by
  rwa [findSome?_const_none] at h

theorem appendPlain (h : ShowsLines keywords i scope ls f shown)
    (h' : ShowsLines keywords i scope ls' none shown') :
    ShowsLines keywords i scope (ls ++ ls') f (shown ++ shown') := by
  have hboth := h.append h'
  rwa [Option.or_none] at hboth

/-- A line without tags shows itself. -/
theorem cons (hl : IsText l) (h : ShowsLines keywords i scope ls none ls) :
    ShowsLines keywords i scope (l :: ls) none (l :: ls) :=
  (line (.text hl) hl.isPlain).append h

theorem blank : ShowsLines keywords i scope [""] none [""] :=
  cons (.ofList rfl) nil

theorem text (n : Nat) (h : IsText l) :
    ShowsLines keywords i scope [indent n l] none [indent n l] :=
  line (.text (h.indent n)) (h.indent n).isPlain

/-- A line with a closing brace of the generated code. -/
theorem closing (n : Nat) :
    ShowsLines keywords i scope [indent n Code.closing] none [indent n Code.closing] :=
  text n (.ofList rfl)

/-- A line with an opening brace of the generated code. -/
theorem opening (n : Nat) :
    ShowsLines keywords i scope [indent n Code.opening] none [indent n Code.opening] := by
  have hspaces : Unpaired '{' (List.replicate n ' ') :=
    Unpaired.of_notMem fun hmem => by simp at hmem
  have hunpaired : Unpaired '{' (indent n Code.opening ++ "\n").toList := by
    have hend : Unpaired '{' ['{', '\n'] := by decide
    simpa [indent, Code.opening] using hspaces.append hend
  refine of_newline (isPlain_indent n isPlain_opening) ?_ ⟨_, reads_of_unpaired hunpaired⟩
    (renderPart_of_unpaired hunpaired ..)
  simp [indent, Code.opening]

section Sections

variable {path : String} {α : Type} [Nonempty α] {xs : List α} {data : α → Data}
  {fault : α → Option TemplateError} {lines : α → List String}

/-- A section over a list shows the lines of its items. -/
theorem each (hpath : IsPath path) (hlookup : scope.lookup path = some (.list (xs.map data)))
    (h : ∀ j x, ShowsLines keywords j (data x :: scope) ls (fault x) (lines x)) :
    ShowsLines keywords i scope (blockLines path ls) (xs.findSome? fault) (xs.flatMap lines) := by
  obtain ⟨x⟩ := ‹Nonempty α›
  have hreduced := reduced_blockLines hpath ls
  refine ⟨notMem_newline_of_blockLines hpath (h 0 x).oneLine, ?_, ?_⟩
  · rw [hreduced]
    exact hpath.isBlockPath.isPart_within (h 0 x).part
  · rw [hreduced, hpath.isBlockPath.renderPart_within_list (h 0 x).part hlookup, ofLines_flatMap]
    exact renderEachAt_eq_join fun j _ x _ => (h j x).rendering

/-- A section over one line shows a line for every item. -/
theorem eachLine {text : α → String} (hpath : IsPath path)
    (hlookup : scope.lookup path = some (.list (xs.map data)))
    (h : ∀ j x, Shows keywords j (data x :: scope) l (fault x) (text x)) (hplain : IsPlain l) :
    ShowsLines keywords i scope (blockLines path [l]) (xs.findSome? fault) (xs.map text) := by
  rw [List.map_eq_flatMap]
  exact each hpath hlookup fun j x => line (h j x) hplain

/-- A section over a text shows its lines unless the text is empty. -/
theorem unlessEmpty {text : String} (hpath : IsPath path)
    (hlookup : scope.lookup path = some (.text text))
    (h : ShowsLines keywords 0 scope ls none shown) :
    ShowsLines keywords i scope (blockLines path ls) none
      (if text.isEmpty then [] else shown) := by
  have hreduced := reduced_blockLines hpath ls
  refine ⟨notMem_newline_of_blockLines hpath h.oneLine, ?_, ?_⟩
  · rw [hreduced]
    exact hpath.isBlockPath.isPart_within h.part
  · rw [hreduced, hpath.isBlockPath.renderPart_within_scalar h.part hlookup rfl, Data.isTruthy,
      h.rendering]
    cases text.isEmpty <;> rfl

end Sections

end ShowsLines

end DataLayer.Template

namespace DataLayer

open Code Template

/-- A file of these lines, unless there is a fault. -/
def fileText (typeName : String) (fault : Option TemplateError) (lines : List String) :
    Except RenderFailure String :=
  match fault with
  | none => .ok (ofLines lines)
  | some e => .error ⟨typeName, e⟩

theorem fileText_eq_ok {typeName text : String} {fault : Option TemplateError}
    {lines : List String} :
    fileText typeName fault lines = .ok text ↔ fault = none ∧ text = ofLines lines := by
  cases fault <;> simp [fileText, eq_comm]

/-- A file whose template shows lines is made of these lines. -/
theorem text_eq_fileText {c : Config} {ls shown : List String} {data : Data}
    {fault : Option TemplateError} (h : ShowsLines c.keywords 0 [data] ls fault shown)
    (typeName : String) :
    c.renderer.text typeName (ofLines ls) data = fileText typeName fault shown := by
  have hrender : renderFresh c.keywords (ofLines ls) data = checked fault (ofLines shown) := by
    rw [renderFresh_eq_renderIndexed, renderIndexed_ofLines h.oneLine, h.rendering]
  unfold renderFresh at hrender
  unfold Renderer.text Config.renderer
  rw [hrender]
  cases fault <;> rfl

end DataLayer
