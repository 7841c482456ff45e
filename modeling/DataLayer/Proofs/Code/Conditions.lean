import DataLayer.Proofs.Code.Tags
import DataLayer.Proofs.Template.RoundTrip

/-!
Separators in conditions. Every item of a list enters the conditions in it anew, and their tags
start counting there, so a separator that stands in a condition is printed before no item at all.
-/

namespace DataLayer.Template

open Text Code

/-! Sources without text between their tags. -/

/-- A tag that prints the innermost value with a separator in front. -/
def joined (separator : String) : String := tag (".|Join(\"" ++ separator ++ "\")")

/-- A list with a separator between its items. -/
def joinedItems (list separator : String) : String := within list (joined separator)

/-- The same list with a condition around each of its items. -/
def joinedItemsIf (list condition separator : String) : String :=
  within list (within condition (joined separator))

/-- What the tag is read as. -/
def joinedTag (separator : String) : Tag := ⟨0, some ".", [⟨"Join", some separator⟩]⟩

theorem toList_joined (separator : String) :
    (joined separator).toList = braced (joinedTag separator).chars := by
  simp [joined, toList_tag, joinedTag, Tag.chars, Tag.segments, Pipe.chars, quoted,
    List.intercalate_cons_cons]

theorem toList_within (path body : String) :
    (within path body).toList =
      braced ('#' :: path.toList) ++ (body.toList ++ braced ('/' :: path.toList)) := by
  simp [within, toList_tag]

theorem isNormal_joinedTag {separator : String} (hquote : '"' ∉ separator.toList)
    (hpair : ¬['}', '}'] <:+: separator.toList) : (joinedTag separator).IsNormal := by
  have hdot : ".".toList = ['.'] := by decide +kernel
  have hpath : IsTagPath ".".toList := by
    rw [hdot]
    exact ⟨by decide, by decide +kernel, by simp [IsQuote], by simp⟩
  have hkeyword : IsKeyword "Join".toList :=
    ⟨by decide +kernel, List.all_eq_true.mp (by decide +kernel)⟩
  constructor
  · rintro path ⟨⟩
    exact hpath
  · rintro ⟨⟩
  · intro p hp
    obtain rfl := List.mem_singleton.mp hp
    refine ⟨hkeyword, ?_⟩
    rintro argument ⟨⟩
    exact ⟨hquote, not_infix_iff_hasPair.mp hpair⟩

/-- A section around tags on one line is not reduced, nor is it if its inner tags hold line ends. -/
theorem stripStandalone_within {path body : String} {front : List (List Char)}
    {content : List Char} (hpath : IsBlockPath path.toList) (hline : '\n' ∉ path.toList)
    (hbody : body.toList = (front ++ [content]).flatMap braced)
    (hcontents : ∀ cs ∈ front ++ [content], Unpaired '}' cs) :
    stripStandalone (within path body).toList = (within path body).toList := by
  have htags : (within path body).toList =
      (('#' :: path.toList) :: front ++ [content, '/' :: path.toList]).flatMap braced := by
    simp [toList_within, hbody]
  have hopener : Unpaired '}' ('#' :: path.toList) := hpath.unpaired_cons (by decide)
  have hcloser : Unpaired '}' ('/' :: path.toList) := hpath.unpaired_cons (by decide)
  rw [htags]
  refine stripStandalone_flatMap_braced (fun cs hcs => ?_) (by simp [hline])
  have hsplit : cs = '#' :: path.toList ∨ cs ∈ front ++ [content] ∨ cs = '/' :: path.toList := by
    simpa [or_assoc] using hcs
  rcases hsplit with rfl | hcs | rfl
  · exact hopener
  · exact hcontents cs hcs
  · exact hcloser

theorem renderFresh_eq_renderPart {source : String}
    (h : stripStandalone source.toList = source.toList) (keywords : Keywords) (data : Data) :
    renderFresh keywords source data = renderPart keywords 0 [data] source := by
  rw [renderFresh_eq_renderIndexed, renderIndexed, parse, h]
  rfl

section Separator

variable {separator : String} (hquote : '"' ∉ separator.toList)
  (hpair : ¬['}', '}'] <:+: separator.toList)

include hquote hpair

theorem reads_joined : Reads (joined separator).toList [.tag (joinedTag separator)] := by
  have hnormal := isNormal_joinedTag hquote hpair
  have hmark := tagText_iff.mp hnormal.tagText
  rw [← hnormal.chars_ne_nil_and_trimmed.2] at hmark
  have hreads := Reads.tag hnormal.unpaired hmark .nil
  rwa [List.append_nil, ← toList_joined] at hreads

/-- Outside of conditions every item but the first has the separator in front. -/
theorem renderPart_joined {keywords : Keywords} (hjoin : keywords.get? "Join" = some .join)
    {item : Data} {text : String} (htext : item.scalarText? = some text) (i : Nat)
    (scope : Scope) :
    renderPart keywords i (item :: scope) (joined separator) =
      .ok (if i = 0 then text else separator ++ text) := by
  have hstart : ((joinedTag separator).start (item :: scope)).scalarText? = some text := htext
  have hjoins : joins (joinedTag separator).pipes = 1 := rfl
  rw [renderPart_of_reads (reads_joined hquote hpair), renderNodesAt_cons, renderNodesAt_nil,
    Rendering.append_empty, Node.renderAt, Tag.renderAt_of_start text hstart, hjoins, Nat.mul_one]
  cases i with
  | zero => simp [joinedTag, runTextsAt, hjoin, Keyword.textAt]; rfl
  | succ i => simp [joinedTag, runTextsAt, hjoin, Keyword.textAt]; rfl

/-- In a condition the tag counts from zero for every item. -/
theorem renderPart_joined_within {keywords : Keywords} (hjoin : keywords.get? "Join" = some .join)
    {condition : String} (hcondition : IsBlockPath condition.toList) {item value : Data}
    {text : String} (htext : item.scalarText? = some text) {scope : Scope}
    (hlookup : Scope.lookup (item :: scope) condition = some value)
    (htruthy : value.isTruthy = true) (hscalar : value.scalarText?.isSome = true) (i : Nat) :
    renderPart keywords i (item :: scope) (within condition (joined separator)) = .ok text := by
  have hpart : IsPart (joined separator) := ⟨_, reads_joined hquote hpair⟩
  rw [hcondition.renderPart_within_scalar hpart hlookup hscalar, if_pos htruthy,
    renderPart_joined hquote hpair hjoin htext, if_pos rfl]

end Separator

/-! Texts with and without separators. -/

theorem length_intercalate (separator : String) (texts : List String) :
    (separator.intercalate texts).length =
      (String.join texts).length + (texts.length - 1) * separator.length := by
  cases texts with
  | nil => simp
  | cons text rest =>
    have hrest : (String.join (rest.map (separator ++ ·))).length =
        (String.join rest).length + rest.length * separator.length := by
      induction rest with
      | nil => simp
      | cons next rest ih =>
        simp only [List.map_cons, String.join_cons, String.length_append, ih, List.length_cons,
          Nat.succ_mul]
        omega
    rw [intercalate_cons, String.join_cons, String.length_append, String.length_append, hrest,
      List.length_cons, Nat.add_sub_cancel, Nat.add_assoc]

theorem join_eq_intercalate_iff {separator : String} {texts : List String} :
    String.join texts = separator.intercalate texts ↔ separator = "" ∨ texts.length ≤ 1 := by
  constructor
  · intro h
    have hlength := length_intercalate separator texts
    rw [← h] at hlength
    rcases Nat.mul_eq_zero.mp (Nat.left_eq_add.mp hlength) with hone | hempty
    · exact Or.inr (by omega)
    · exact Or.inl (String.length_eq_zero_iff.mp hempty)
  · rintro (rfl | hlength)
    · cases texts with
      | nil => rfl
      | cons text rest => simp [intercalate_cons]
    · match texts with
      | [] => rfl
      | [text] => simp

/-! Lists with and without a condition. -/

section Lists

variable {keywords : Keywords} (hjoin : keywords.get? "Join" = some .join)
  {list condition separator : String} (hlist : IsBlockPath list.toList)
  (hline : '\n' ∉ list.toList) (hcondition : IsBlockPath condition.toList)
  (hquote : '"' ∉ separator.toList) (hpair : ¬['}', '}'] <:+: separator.toList)
  {data : Data} {items : List Data} {text : Data → String}
  (hlookup : Scope.lookup [data] list = some (.list items))
  (htext : ∀ item ∈ items, item.scalarText? = some (text item))

include hjoin hlist hline hquote hpair hlookup htext

theorem renderFresh_joinedItems :
    renderFresh keywords (joinedItems list separator) data =
      .ok (separator.intercalate (items.map text)) := by
  have htag := (isNormal_joinedTag hquote hpair).unpaired
  have hpart : IsPart (joined separator) := ⟨_, reads_joined hquote hpair⟩
  have hbody : (joined separator).toList =
      ([] ++ [(joinedTag separator).chars]).flatMap braced := by simp [toList_joined]
  have hstrip := stripStandalone_within hlist hline hbody (by simpa using htag)
  have heach : renderEachAt (fun j item =>
        renderPart keywords j (item :: [data]) (joined separator)) 0 (items.map id) =
      checked (items.findSome? fun _ => none) (separator.intercalate (items.map text)) :=
    renderEachAt_eq_intercalate fun j item hitem =>
      renderPart_joined hquote hpair hjoin (htext item hitem) j [data]
  rw [joinedItems, renderFresh_eq_renderPart hstrip, hlist.renderPart_within_list hpart hlookup]
  rwa [List.map_id, findSome?_const_none] at heach

include hcondition

theorem renderFresh_joinedItemsIf
    (hholds : ∀ item ∈ items, ∃ value, Scope.lookup [item, data] condition = some value ∧
      value.isTruthy = true ∧ value.scalarText?.isSome = true) :
    renderFresh keywords (joinedItemsIf list condition separator) data =
      .ok (String.join (items.map text)) := by
  have hopener : Unpaired '}' ('#' :: condition.toList) := hcondition.unpaired_cons (by decide)
  have htag := (isNormal_joinedTag hquote hpair).unpaired
  have hcloser : Unpaired '}' ('/' :: condition.toList) := hcondition.unpaired_cons (by decide)
  have hpart : IsPart (joined separator) := ⟨_, reads_joined hquote hpair⟩
  have hbody : (within condition (joined separator)).toList =
      (['#' :: condition.toList, (joinedTag separator).chars] ++
        ['/' :: condition.toList]).flatMap braced := by simp [toList_within, toList_joined]
  have hstrip := stripStandalone_within hlist hline hbody
    (by simpa using ⟨hopener, htag, hcloser⟩)
  have heach : renderEachAt (fun j item =>
        renderPart keywords j (item :: [data]) (within condition (joined separator))) 0
          (items.map id) =
      checked (items.findSome? fun _ => none) (String.join (items.map text)) :=
    renderEachAt_eq_join fun j _ item hitem => by
      obtain ⟨value, hvalue, htruthy, hscalar⟩ := hholds item hitem
      exact renderPart_joined_within hquote hpair hjoin hcondition (htext item hitem) hvalue
        htruthy hscalar j
  rw [joinedItemsIf, renderFresh_eq_renderPart hstrip,
    hlist.renderPart_within_list (hcondition.isPart_within hpart) hlookup]
  rwa [List.map_id, findSome?_const_none] at heach

end Lists

/-- A list prints its items with the separator between them; but with a condition around the
separator they stand one right behind the other. So the condition makes no difference only where
there is nothing to separate or nothing to separate it with. -/
theorem conditions_drop_separators {keywords : Keywords}
    (hjoin : keywords.get? "Join" = some .join) {list condition separator : String}
    (hlist : IsBlockPath list.toList) (hline : '\n' ∉ list.toList)
    (hcondition : IsBlockPath condition.toList) (hquote : '"' ∉ separator.toList)
    (hpair : ¬['}', '}'] <:+: separator.toList) {data : Data} {items : List Data}
    {texts : List String} (hlookup : Scope.lookup [data] list = some (.list items))
    (htexts : items.map Data.scalarText? = texts.map some)
    (hholds : ∀ item ∈ items, ∃ value, Scope.lookup [item, data] condition = some value ∧
      value.isTruthy = true ∧ value.scalarText?.isSome = true) :
    renderFresh keywords (joinedItems list separator) data = .ok (separator.intercalate texts) ∧
    renderFresh keywords (joinedItemsIf list condition separator) data =
      .ok (String.join texts) ∧
    (renderFresh keywords (joinedItemsIf list condition separator) data =
      renderFresh keywords (joinedItems list separator) data ↔
        separator = "" ∨ texts.length ≤ 1) := by
  let text (item : Data) : String := item.scalarText?.getD ""
  have hitems : items.map text = texts := by
    have h := congrArg (List.map (·.getD "")) htexts
    simpa [text, Function.comp_def] using h
  have htext (item : Data) (hitem : item ∈ items) : item.scalarText? = some (text item) := by
    have hmem : item.scalarText? ∈ texts.map some := htexts ▸ List.mem_map_of_mem hitem
    obtain ⟨s, -, hs⟩ := List.mem_map.mp hmem
    simp [text, ← hs]
  have hplain := renderFresh_joinedItems hjoin hlist hline hquote hpair hlookup htext
  have hinner := renderFresh_joinedItemsIf hjoin hlist hline hcondition hquote hpair hlookup htext
    hholds
  rw [hitems] at hplain hinner
  refine ⟨hplain, hinner, ?_⟩
  rw [hplain, hinner, Except.ok.injEq, join_eq_intercalate_iff]

/-- Items of which one is a number, and a field behind a path that they have in common. -/
def shippedData : Data :=
  .record [("Items", .list [.text "a", .number (.integer 7), .flag true]),
    ("Order", .record [("Shipped", .text "yes")])]

theorem conditions_drop_separators_shipped :
    renderFresh (.all [] []) (joinedItems "Items" "|\n\x7d") shippedData =
      .ok "a|\n\x7d7|\n\x7dtrue" ∧
    renderFresh (.all [] []) (joinedItemsIf "Items" "Order.Shipped" "|\n\x7d") shippedData =
      .ok "a7true" := by
  have hlist : IsBlockPath "Items".toList :=
    ⟨by decide +kernel, by decide +kernel, by decide +kernel⟩
  have hcondition : IsBlockPath "Order.Shipped".toList :=
    ⟨by decide +kernel, by decide +kernel, by decide +kernel⟩
  have hpair : ¬['}', '}'] <:+: "|\n\x7d".toList := not_infix_iff_hasPair.mpr (by decide +kernel)
  have hlookup : Scope.lookup [shippedData] "Items" =
      some (.list [.text "a", .number (.integer 7), .flag true]) := by rfl
  have hholds : ∀ item ∈ [Data.text "a", .number (.integer 7), .flag true],
      ∃ value, Scope.lookup [item, shippedData] "Order.Shipped" = some value ∧
        value.isTruthy = true ∧ value.scalarText?.isSome = true := by
    intro item hitem
    refine ⟨.text "yes", ?_, by decide +kernel, rfl⟩
    simp only [List.mem_cons, List.not_mem_nil, or_false] at hitem
    rcases hitem with rfl | rfl | rfl <;> rfl
  have htexts : [Data.text "a", .number (.integer 7), .flag true].map Data.scalarText? =
      ["a", "7", "true"].map some := by rfl
  have hjoin : Keywords.get? (.all [] []) "Join" = some .join := rfl
  have hrender := conditions_drop_separators hjoin hlist (by decide +kernel) hcondition
    (by decide +kernel) hpair hlookup htexts hholds
  exact ⟨hrender.1, hrender.2.1⟩

/-- Two items and a flag that is set. -/
def flaggedData : Data :=
  .record [("L", .list [.text "a", .text "b"]), ("P", .flag true)]

/-- A condition that holds for both items takes the separator between them away. -/
theorem condition_takes_separator :
    Scope.lookup [flaggedData] "L" = some (.list [.text "a", .text "b"]) ∧
    (∀ s, Scope.lookup [.text s, flaggedData] "P" = some (.flag true)) ∧
    renderFresh (.all [] []) (joinedItems "L" ", ") flaggedData = .ok "a, b" ∧
    renderFresh (.all [] []) (joinedItemsIf "L" "P" ", ") flaggedData = .ok "ab" :=
  ⟨rfl, fun _ => rfl, eq_ok_of_toOption (by decide +kernel), eq_ok_of_toOption (by decide +kernel)⟩

end DataLayer.Template
