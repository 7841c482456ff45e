import DataLayer.Proofs.Config.Reading
import Mathlib.Data.List.Nodup

/-!
The places of the texts of a document. A reader that takes texts in another way reads the same
document with other texts in it. So a reader that takes a text for what the document holds from
there on tells all that the document says, and where: the texts stand one behind the other.
-/

namespace DataLayer.Config

/-! Other texts in place of those of a value. -/

namespace Value

mutual

def mapTexts (f : String → String) : Value → Value
  | .text s => .text (f s)
  | .flag b => .flag b
  | .list items => .list (mapItems f items)
  | .table fields => .table (mapFields f fields)

def mapItems (f : String → String) : List Value → List Value
  | [] => []
  | v :: vs => v.mapTexts f :: mapItems f vs

def mapFields (f : String → String) : List (String × Value) → List (String × Value)
  | [] => []
  | (name, v) :: fields => (name, v.mapTexts f) :: mapFields f fields

end

mutual

/-- The texts in a value, in order. -/
def texts : Value → List String
  | .text s => [s]
  | .flag _ => []
  | .list items => textsOfItems items
  | .table fields => textsOfFields fields

def textsOfItems : List Value → List String
  | [] => []
  | v :: vs => v.texts ++ textsOfItems vs

def textsOfFields : List (String × Value) → List String
  | [] => []
  | (_, v) :: fields => v.texts ++ textsOfFields fields

end

variable (f : String → String)

theorem mapItems_eq (items : List Value) : mapItems f items = items.map (mapTexts f) := by
  induction items with
  | nil => rfl
  | cons v vs ih => rw [mapItems, ih, List.map_cons]

theorem mapFields_eq (fields : Fields) :
    mapFields f fields = fields.map fun field => (field.1, field.2.mapTexts f) := by
  induction fields with
  | nil => rfl
  | cons field fields ih => rw [mapFields, ih, List.map_cons]

theorem textsOfItems_eq (items : List Value) : textsOfItems items = items.flatMap texts := by
  induction items with
  | nil => rfl
  | cons v vs ih => rw [textsOfItems, ih, List.flatMap_cons]

theorem textsOfFields_eq (fields : Fields) :
    textsOfFields fields = fields.flatMap fun field => field.2.texts := by
  induction fields with
  | nil => rfl
  | cons field fields ih => rw [textsOfFields, ih, List.flatMap_cons]

theorem map_fst_mapFields (fields : Fields) :
    (mapFields f fields).map (·.1) = fields.map (·.1) := by
  rw [mapFields_eq, List.map_map]
  rfl

end Value

/-- Fields are put together if their names differ, and stay as they are. -/
theorem Fields.ofList?_eq (fields : Fields) :
    ofList? fields = if (fields.map (·.1)).Nodup then some fields else none := by
  have hfrom (acc : Fields) (hacc : (acc.map (·.1)).Nodup) :
      fields.foldlM (fun acc f => Fields.add? acc f.1 f.2) acc =
        if ((acc ++ fields).map (·.1)).Nodup then some (acc ++ fields) else none := by
    induction fields generalizing acc with
    | nil => simp [hacc]
    | cons field rest ih =>
      have hsplit : acc ++ field :: rest = (acc ++ [field]) ++ rest := by simp
      rw [List.foldlM_cons, add?, hsplit]
      by_cases hmem : field.1 ∈ acc.map (·.1)
      · have hnot : ¬(((acc ++ [field]) ++ rest).map (·.1)).Nodup := by
          intro hnodup
          rw [List.map_append, List.map_append, List.nodup_append, List.nodup_append] at hnodup
          exact hnodup.1.2.2 _ hmem field.1 (by simp) rfl
        rw [if_pos (isSome_lookup_iff.mpr hmem), if_neg hnot]
        rfl
      · have hnodup : ((acc ++ [field]).map (·.1)).Nodup := by
          rw [List.map_append, List.nodup_append]
          refine ⟨hacc, by simp, ?_⟩
          intro name hname name' hname' heq
          subst heq
          obtain rfl : name = field.1 := by simpa using hname'
          exact hmem hname
        rw [if_neg (isSome_lookup_iff.not.mpr hmem)]
        exact ih (acc ++ [field]) hnodup
  exact hfrom [] (by simp)

theorem Fields.ofList?_mapFields (f : String → String) (fields : Fields) :
    ofList? (Value.mapFields f fields) = (ofList? fields).map (Value.mapFields f) := by
  rw [ofList?_eq, ofList?_eq, Value.map_fst_mapFields]
  split <;> rfl

/-! The same document with other texts. -/

/-- A way to take texts is given by another one, for texts that can be read. -/
def TextView.Gives (view : TextView) (f : String → String) (view' : TextView) : Prop :=
  ∀ cs said rest, readText cs = some (said, rest) → view' cs said = f (view cs said)

/-- Values that are nested no deeper than this are the same, with other texts in them. -/
structure TextView.GivesTo (view : TextView) (f : String → String) (view' : TextView)
    (depth : Nat) : Prop where
  value (cs : List Char) :
    readValue view' depth cs = (readValue view depth cs).map (Prod.map (Value.mapTexts f) id)
  items (cs : List Char) :
    readItems view' depth cs = (readItems view depth cs).map (Prod.map (Value.mapItems f) id)
  fields (cs : List Char) :
    readFields view' depth cs = (readFields view depth cs).map (Prod.map (Value.mapFields f) id)

section Gives

variable {view view' : TextView} {f : String → String} {depth : Nat}

theorem TextView.Gives.map_readText (h : view.Gives f view') (cs : List Char) :
    ((readText cs).map fun (said, rest) => (Value.text (view' cs said), rest)) =
      ((readText cs).map fun (said, rest) => (Value.text (view cs said), rest)).map
        (Prod.map (Value.mapTexts f) id) := by
  rw [Option.map_map]
  apply Option.map_congr
  intro pair hpair
  simp only [h _ _ _ hpair, Function.comp_apply, Prod.map_apply, Value.mapTexts, id]

namespace TextView.GivesTo

theorem zero : view.GivesTo f view' 0 := ⟨fun _ => rfl, fun _ => rfl, fun _ => rfl⟩

theorem map_readItems (ih : view.GivesTo f view' depth) (cs : List Char) :
    ((readItems view' depth cs).map fun (items, rest) => (Value.list items, rest)) =
      ((readItems view depth cs).map fun (items, rest) => (Value.list items, rest)).map
        (Prod.map (Value.mapTexts f) id) := by
  rw [ih.items, Option.map_map, Option.map_map]
  rfl

theorem bind_readFields (ih : view.GivesTo f view' depth) (cs : List Char) :
    ((readFields view' depth cs).bind fun (fields, rest) =>
        (Fields.ofList? fields).map fun fs => (Value.table fs, rest)) =
      ((readFields view depth cs).bind fun (fields, rest) =>
        (Fields.ofList? fields).map fun fs => (Value.table fs, rest)).map
          (Prod.map (Value.mapTexts f) id) := by
  rw [ih.fields]
  cases readFields view depth cs with
  | none => rfl
  | some pair =>
    simp only [Option.map_some, Option.bind_some, Prod.map_fst, Fields.ofList?_mapFields,
      Option.map_map]
    rfl

theorem readValue_succ (ih : view.GivesTo f view' depth) (h : view.Gives f view')
    (cs : List Char) :
    readValue view' (depth + 1) cs =
      (readValue view (depth + 1) cs).map (Prod.map (Value.mapTexts f) id) := by
  unfold readValue
  split
  · exact ih.map_readItems _
  · exact ih.bind_readFields _
  · dsimp only
    split
    · rfl
    · split
      · rfl
      · exact h.map_readText _

theorem readItems_succ (ih : view.GivesTo f view' depth) (cs : List Char) :
    readItems view' (depth + 1) cs =
      (readItems view (depth + 1) cs).map (Prod.map (Value.mapItems f) id) := by
  unfold readItems
  cases skipFill false cs with
  | none => rfl
  | some cs =>
    simp only [Option.bind_some]
    split
    · rfl
    · simp only [ih.value]
      cases readValue view depth cs with
      | none => rfl
      | some pair =>
        simp only [Option.map_some, Option.bind_some, Prod.map_snd, id]
        cases skipFill false pair.2 with
        | none => rfl
        | some rest =>
          simp only [Option.bind_some]
          split
          · simp only [ih.items, Option.map_map]
            rfl
          · rfl
          · rfl

theorem readFields_succ (ih : view.GivesTo f view' depth) (cs : List Char) :
    readFields view' (depth + 1) cs =
      (readFields view (depth + 1) cs).map (Prod.map (Value.mapFields f) id) := by
  unfold readFields
  cases skipFill false cs with
  | none => rfl
  | some cs =>
    simp only [Option.bind_some]
    split
    · rfl
    · cases readSettingName cs with
      | none => rfl
      | some named =>
        simp only [Option.bind_some, ih.value]
        cases readValue view depth named.2 with
        | none => rfl
        | some pair =>
          simp only [Option.map_some, Option.bind_some, Prod.map_snd, id]
          cases skipFill false pair.2 with
          | none => rfl
          | some rest =>
            simp only [Option.bind_some]
            split
            · simp only [ih.fields, Option.map_map]
              rfl
            · rfl
            · rfl

end TextView.GivesTo

theorem TextView.Gives.read (h : view.Gives f view') (depth : Nat) :
    view.GivesTo f view' depth := by
  induction depth with
  | zero => exact .zero
  | succ depth ih => exact ⟨ih.readValue_succ h, ih.readItems_succ, ih.readFields_succ⟩

/-- A statement with other texts in it. -/
def Statement.mapTexts (f : String → String) : Statement → Statement
  | .setting name v => .setting name (v.mapTexts f)
  | .entry table => .entry table

theorem TextView.Gives.readStatement (h : view.Gives f view') (cs : List Char) :
    readStatement view' cs = (readStatement view cs).map (Prod.map (Statement.mapTexts f) id) := by
  unfold Config.readStatement
  split
  · rw [Option.map_map]
    rfl
  · cases readSettingName cs with
    | none => rfl
    | some named =>
      simp only [Option.bind_some, (h.read cs.length).value, Option.map_map]
      rfl

theorem TextView.Gives.readStatements (h : view.Gives f view') (count : Nat) (cs : List Char) :
    readStatements view' count cs =
      (readStatements view count cs).map (List.map (Statement.mapTexts f)) := by
  induction count generalizing cs with
  | zero => rfl
  | succ count ih =>
    unfold Config.readStatements
    split
    · rfl
    · rfl
    · next cs _ _ =>
      rw [h.readStatement]
      cases Config.readStatement view cs with
      | none => rfl
      | some pair =>
        simp only [Option.map_some, Option.bind_some, Prod.map_snd, id]
        cases readLineEnd false pair.2 with
        | none => rfl
        | some rest =>
          simp only [Option.bind_some, ih, Option.map_map]
          rfl

end Gives

/-! Where texts stand. -/

/-- Takes a text for what the document holds from its quote on. -/
def whereItStands : TextView := fun cs _ => String.ofList cs

/-- What a text says that a rest of a document starts with. -/
def saidAt (place : String) : String :=
  match readText place.toList with
  | some (said, _) => String.ofList said
  | none => ""

theorem whereItStands_gives : whereItStands.Gives saidAt whatIsSaid := by
  intro cs said rest h
  simp [whereItStands, saidAt, whatIsSaid, h]

/-- Texts that stand one behind the other from one rest of a document up to another one. -/
inductive InOrder : List Char → List String → List Char → Prop
  | nil {cs rest : List Char} (reach : rest <:+ cs) : InOrder cs [] rest
  | cons {cs said after rest : List Char} {place : String} {places : List String}
      (stands : place.toList <:+ cs) (reads : readText place.toList = some (said, after))
      (others : InOrder after places rest) : InOrder cs (place :: places) rest

namespace InOrder

variable {cs cs' mid rest : List Char} {places places' : List String}

theorem widen (h : InOrder cs places rest) (hcs : cs <:+ cs') : InOrder cs' places rest := by
  cases h with
  | nil reach => exact .nil (reach.trans hcs)
  | cons stands reads others => exact .cons (stands.trans hcs) reads others

theorem append (h : InOrder cs places mid) (h' : InOrder mid places' rest) :
    InOrder cs (places ++ places') rest := by
  induction h with
  | nil reach => exact h'.widen reach
  | cons stands reads others ih => exact .cons stands reads (ih h')

theorem narrow (h : InOrder cs places mid) (hrest : rest <:+ mid) : InOrder cs places rest := by
  have hall := h.append (.nil hrest)
  rwa [List.append_nil] at hall

end InOrder

/-- A text of a document ends before another one starts. -/
def EndsBefore (place place' : String) : Prop :=
  ∃ said after, readText place.toList = some (said, after) ∧ place'.toList <:+ after

/-- Texts in order end before those behind them, and are texts of the document. -/
theorem InOrder.pairwise {cs rest : List Char} {places : List String}
    (h : InOrder cs places rest) :
    places.Pairwise EndsBefore ∧
      ∀ place ∈ places, place.toList <:+ cs ∧ (readText place.toList).isSome := by
  induction h with
  | nil reach => simp
  | cons stands reads others ih =>
    obtain ⟨hpairwise, hall⟩ := ih
    refine ⟨List.pairwise_cons.mpr ⟨fun place hplace => ?_, hpairwise⟩, fun place hplace => ?_⟩
    · exact ⟨_, _, reads, (hall place hplace).1⟩
    · rcases List.mem_cons.mp hplace with rfl | hplace
      · exact ⟨stands, by simp [reads]⟩
      · obtain ⟨hsuffix, hreads⟩ := hall place hplace
        exact ⟨hsuffix.trans ((readText_suffix reads).trans stands), hreads⟩

theorem InOrder.of_readText {cs said rest : List Char} (h : readText cs = some (said, rest)) :
    InOrder cs [whereItStands cs said] rest := by
  have hplace : (whereItStands cs said).toList = cs := String.toList_ofList
  have hstands : (whereItStands cs said).toList <:+ cs := ⟨[], hplace⟩
  have hreads : readText (whereItStands cs said).toList = some (said, rest) := by
    rw [hplace]
    exact h
  exact .cons hstands hreads (.nil (List.suffix_refl _))

/-- The texts of a value that is nested no deeper than this stand between the start of the value and
what follows it. -/
structure ReadsInOrder (depth : Nat) : Prop where
  value {cs rest : List Char} {v : Value} :
    readValue whereItStands depth cs = some (v, rest) → InOrder cs v.texts rest
  items {cs rest : List Char} {vs : List Value} :
    readItems whereItStands depth cs = some (vs, rest) → InOrder cs (Value.textsOfItems vs) rest
  fields {cs rest : List Char} {fields : List (String × Value)} :
    readFields whereItStands depth cs = some (fields, rest) →
      InOrder cs (Value.textsOfFields fields) rest

namespace ReadsInOrder

variable {depth : Nat} {cs rest : List Char}

theorem zero : ReadsInOrder 0 := by
  constructor
  all_goals
    intro _ _ _ h
    cases h

theorem list (ih : ReadsInOrder depth) {v : Value}
    (h : ((readItems whereItStands depth cs).map fun (items, r) => (Value.list items, r)) =
      some (v, rest)) : InOrder cs v.texts rest := by
  obtain ⟨⟨items, rest'⟩, hread, heq⟩ := Option.map_eq_some_iff.mp h
  obtain ⟨rfl, rfl⟩ := Prod.mk.inj heq
  exact ih.items hread

theorem table (ih : ReadsInOrder depth) {v : Value}
    (h : ((readFields whereItStands depth cs).bind fun (fields, r) =>
      (Fields.ofList? fields).map fun fs => (Value.table fs, r)) = some (v, rest)) :
    InOrder cs v.texts rest := by
  obtain ⟨⟨fields, rest'⟩, hread, h⟩ := Option.bind_eq_some_iff.mp h
  obtain ⟨fields', hlist, heq⟩ := Option.map_eq_some_iff.mp h
  obtain ⟨rfl, rfl⟩ := Prod.mk.inj heq
  rw [Fields.ofList?_eq] at hlist
  obtain ⟨-, hlist⟩ := Option.ite_none_right_eq_some.mp hlist
  obtain rfl := Option.some.inj hlist
  exact ih.fields hread

theorem readValue_succ (ih : ReadsInOrder depth) {v : Value}
    (h : readValue whereItStands (depth + 1) cs = some (v, rest)) : InOrder cs v.texts rest := by
  unfold readValue at h
  split at h
  · exact (ih.list h).widen (List.suffix_cons ..)
  · exact (ih.table h).widen (List.suffix_cons ..)
  · dsimp only at h
    split at h
    · cases h
      exact .nil (List.drop_suffix ..)
    · split at h
      · cases h
        exact .nil (List.drop_suffix ..)
      · obtain ⟨⟨said, rest'⟩, hread, heq⟩ := Option.map_eq_some_iff.mp h
        obtain ⟨rfl, rfl⟩ := Prod.mk.inj heq
        exact .of_readText hread

theorem readItems_succ (ih : ReadsInOrder depth) {vs : List Value}
    (h : readItems whereItStands (depth + 1) cs = some (vs, rest)) :
    InOrder cs (Value.textsOfItems vs) rest := by
  unfold readItems at h
  obtain ⟨cs', hfill, h⟩ := Option.bind_eq_some_iff.mp h
  have hcs := skipFill_suffix hfill
  split at h
  · cases h
    exact .nil ((List.suffix_cons ..).trans hcs)
  · obtain ⟨⟨v, rest₁⟩, hread, h⟩ := Option.bind_eq_some_iff.mp h
    obtain ⟨rest₂, hfill', h⟩ := Option.bind_eq_some_iff.mp h
    have hfirst := ((ih.value hread).widen hcs).narrow (skipFill_suffix hfill')
    split at h
    · obtain ⟨⟨vs', rest₃⟩, hrest, heq⟩ := Option.map_eq_some_iff.mp h
      obtain ⟨rfl, rfl⟩ := Prod.mk.inj heq
      exact hfirst.append ((ih.items hrest).widen (List.suffix_cons ..))
    · cases h
      exact hfirst.append (.nil (List.suffix_cons ..))
    · cases h

theorem readFields_succ (ih : ReadsInOrder depth) {fields : List (String × Value)}
    (h : readFields whereItStands (depth + 1) cs = some (fields, rest)) :
    InOrder cs (Value.textsOfFields fields) rest := by
  unfold readFields at h
  obtain ⟨cs', hfill, h⟩ := Option.bind_eq_some_iff.mp h
  have hcs := skipFill_suffix hfill
  split at h
  · cases h
    exact .nil ((List.suffix_cons ..).trans hcs)
  · obtain ⟨⟨name, rest₀⟩, hname, h⟩ := Option.bind_eq_some_iff.mp h
    obtain ⟨⟨v, rest₁⟩, hread, h⟩ := Option.bind_eq_some_iff.mp h
    obtain ⟨rest₂, hfill', h⟩ := Option.bind_eq_some_iff.mp h
    have hcs := (readSettingName_suffix hname).trans hcs
    have hfirst := ((ih.value hread).widen hcs).narrow (skipFill_suffix hfill')
    split at h
    · obtain ⟨⟨fields', rest₃⟩, hrest, heq⟩ := Option.map_eq_some_iff.mp h
      obtain ⟨rfl, rfl⟩ := Prod.mk.inj heq
      exact hfirst.append ((ih.fields hrest).widen (List.suffix_cons ..))
    · cases h
      exact hfirst.append (.nil (List.suffix_cons ..))
    · cases h

end ReadsInOrder

theorem read_inOrder (depth : Nat) : ReadsInOrder depth := by
  induction depth with
  | zero => exact .zero
  | succ depth ih => exact ⟨ih.readValue_succ, ih.readItems_succ, ih.readFields_succ⟩

/-- The texts in the setting that a statement makes. -/
def Statement.texts : Statement → List String
  | .setting _ v => v.texts
  | .entry _ => []

theorem readStatement_inOrder {cs rest : List Char} {st : Statement}
    (h : readStatement whereItStands cs = some (st, rest)) : InOrder cs st.texts rest := by
  unfold readStatement at h
  split at h
  · obtain ⟨⟨table, rest'⟩, hheader, heq⟩ := Option.map_eq_some_iff.mp h
    obtain ⟨rfl, rfl⟩ := Prod.mk.inj heq
    have hrest := readHeader_suffix hheader
    exact .nil (by simp only [List.suffix_cons_iff, hrest, or_true])
  · obtain ⟨⟨name, rest₀⟩, hname, h⟩ := Option.bind_eq_some_iff.mp h
    obtain ⟨⟨v, rest'⟩, hread, heq⟩ := Option.map_eq_some_iff.mp h
    obtain ⟨rfl, rfl⟩ := Prod.mk.inj heq
    exact ((read_inOrder _).value hread).widen (readSettingName_suffix hname)

theorem readStatements_inOrder {count : Nat} {cs : List Char} {sts : List Statement}
    (h : readStatements whereItStands count cs = some sts) :
    InOrder cs (sts.flatMap Statement.texts) [] := by
  induction count generalizing cs sts with
  | zero => cases h
  | succ count ih =>
    unfold readStatements at h
    split at h
    · cases h
    · cases h
      exact .nil (List.nil_suffix)
    · next cs' _ hfill =>
      obtain ⟨⟨st, rest⟩, hread, h⟩ := Option.bind_eq_some_iff.mp h
      obtain ⟨rest', hend, h⟩ := Option.bind_eq_some_iff.mp h
      obtain ⟨sts', hrest, rfl⟩ := Option.map_eq_some_iff.mp h
      have hfirst := (readStatement_inOrder hread).widen (skipFill_suffix hfill)
      exact hfirst.append ((ih hrest).widen (readLineEnd_suffix hend))

end DataLayer.Config
