import DataLayer.Proofs.Model.Owners
import DataLayer.Proofs.Schema.Objects
import Mathlib.Data.Fintype.EquivFin
import Mathlib.Data.List.Sort

/-!
The order of declarations. Objects of each kind are resolved on their own, in the order in which
they are declared, so it does not matter how objects of different types are mixed in a document.
-/

namespace DataLayer

/-! Lists in another order. -/

section Mixing

variable {α β : Type}

/-- Two lists have the same items, and items of the same key in the same order. Items without a key
may stand in any order. -/
def Mixes (key : α → Option β) (xs ys : List α) : Prop :=
  ∃ σ : Fin xs.length ≃ Fin ys.length, (∀ i, ys.get (σ i) = xs.get i) ∧
    ∀ i j v, i < j → key (xs.get i) = some v → key (xs.get j) = some v → σ i < σ j

variable [DecidableEq β] {key : α → Option β} {xs ys : List α}

/-- The places of the items that have a key, in order. -/
def placesOf (key : α → Option β) (v : β) (xs : List α) : List (Fin xs.length) :=
  (List.finRange xs.length).filter fun i => key (xs.get i) == some v

theorem mem_placesOf {v : β} {i : Fin xs.length} :
    i ∈ placesOf key v xs ↔ key (xs.get i) = some v := by
  simp [placesOf]

theorem placesOf_pairwise (key : α → Option β) (v : β) (xs : List α) :
    (placesOf key v xs).Pairwise (· < ·) :=
  (List.pairwise_lt_finRange xs.length).filter _

theorem map_get_placesOf (key : α → Option β) (v : β) (xs : List α) :
    (placesOf key v xs).map xs.get = xs.filter (key · == some v) := by
  have hfilter := List.filter_map (f := xs.get) (p := (key · == some v))
    (l := List.finRange xs.length)
  rw [List.map_get_finRange] at hfilter
  exact hfilter.symm

/-- Lists that are mixed in different ways do not differ in the items of one key. -/
theorem Mixes.filter_eq (h : Mixes key xs ys) (v : β) :
    xs.filter (key · == some v) = ys.filter (key · == some v) := by
  obtain ⟨σ, hsame, hkeeps⟩ := h
  have hplaces : (placesOf key v xs).map σ = placesOf key v ys := by
    refine List.Pairwise.eq_of_mem_iff (r := (· < ·)) ?_ (placesOf_pairwise key v ys) fun j => ?_
    · rw [List.pairwise_map]
      refine List.Pairwise.imp_of_mem (fun {i j} hi hj hlt => ?_) (placesOf_pairwise key v xs)
      exact hkeeps i j v hlt (mem_placesOf.mp hi) (mem_placesOf.mp hj)
    · rw [List.mem_map, mem_placesOf]
      constructor
      · rintro ⟨i, hi, rfl⟩
        rw [hsame]
        exact mem_placesOf.mp hi
      · intro hj
        refine ⟨σ.symm j, mem_placesOf.mpr ?_, σ.apply_symm_apply j⟩
        rwa [← hsame, σ.apply_symm_apply]
  calc xs.filter (key · == some v) = (placesOf key v xs).map xs.get :=
        (map_get_placesOf key v xs).symm
    _ = (placesOf key v xs).map (ys.get ∘ σ) :=
        List.map_congr_left fun i _ => (hsame i).symm
    _ = ys.filter (key · == some v) := by rw [← List.map_map, hplaces, map_get_placesOf]

end Mixing

namespace Schema

open Element (AllAlike)

/-! Alike elements declare the same. -/

/-- What alike elements give is the same for lists of them. -/
theorem Element.AllAlike.filterMap_eq {α : Type} {f : Element → Option α}
    (hf : ∀ e e', e.Alike e' → f e = f e') {es es' : List Element} (h : AllAlike es es') :
    es.filterMap f = es'.filterMap f := filterMap_eq_of_forall₂ hf h

variable {e e' : Element}

theorem Element.Alike.related (h : e.Alike e') (relationship : String) (kind : Kind) :
    AllAlike (e.related relationship kind) (e'.related relationship kind) := h.select _

theorem Element.Alike.keyColumns (h : e.Alike e') : e.keyColumns = e'.keyColumns :=
  (h.related "ColumnSpecifications" .indexedColumn).filterMap_eq
    fun _ _ hx => hx.reference? "Column"

theorem Column.ofElement?_congr (h : e.Alike e') : Column.ofElement? e = Column.ofElement? e' := by
  unfold Column.ofElement?
  rw [h.objectName?, h.typeReference?, h.flag? "IsNullable", h.flag? "IsIdentity"]

theorem Table.ofElement?_congr (h : e.Alike e') : Table.ofElement? e = Table.ofElement? e' := by
  have hcolumns := (h.related "Columns" .simpleColumn).filterMap_eq
    fun _ _ => Column.ofElement?_congr
  unfold Table.ofElement?
  rw [h.objectName?, hcolumns]

theorem Key.ofForeignKey?_congr (h : e.Alike e') : Key.ofForeignKey? e = Key.ofForeignKey? e' := by
  unfold Key.ofForeignKey?
  rw [h.objectName?, h.reference? "DefiningTable", h.reference? "ForeignTable",
    h.references "Columns", h.references "ForeignColumns"]

theorem Key.ofPrimaryKey?_congr (h : e.Alike e') : Key.ofPrimaryKey? e = Key.ofPrimaryKey? e' := by
  unfold Key.ofPrimaryKey?
  rw [h.objectName?, h.reference? "DefiningTable", h.keyColumns]

theorem Key.ofIndex?_congr (h : e.Alike e') : Key.ofIndex? e = Key.ofIndex? e' := by
  unfold Key.ofIndex?
  rw [h.objectName?, h.reference? "IndexedObject", h.keyColumns, h.flag? "IsUnique"]

theorem Parameter.ofElement?_congr (h : e.Alike e') :
    Parameter.ofElement? e = Parameter.ofElement? e' := by
  unfold Parameter.ofElement?
  rw [h.objectName?, h.typeReference?]

theorem Routine.ofElement?_congr (kind : RoutineKind) (h : e.Alike e') :
    Routine.ofElement? kind e = Routine.ofElement? kind e' := by
  have hparams := (h.related "Parameters" .parameter).filterMap_eq
    fun _ _ => Parameter.ofElement?_congr
  unfold Routine.ofElement?
  rw [h.objectName?, hparams]

namespace Tree

variable {t t' : Tree}

theorem tables_congr (h : ∀ kind, AllAlike (t.objects kind) (t'.objects kind)) :
    t.tables = t'.tables :=
  (h .table).filterMap_eq fun _ _ => Table.ofElement?_congr

theorem keys_congr (h : ∀ kind, AllAlike (t.objects kind) (t'.objects kind)) :
    t.keys = t'.keys := by
  unfold keys
  rw [(h .foreignKey).filterMap_eq fun _ _ => Key.ofForeignKey?_congr,
    (h .primaryKey).filterMap_eq fun _ _ => Key.ofPrimaryKey?_congr,
    (h .index).filterMap_eq fun _ _ => Key.ofIndex?_congr]

theorem routines_congr (h : ∀ kind, AllAlike (t.objects kind) (t'.objects kind)) :
    t.routines = t'.routines := by
  unfold routines
  refine List.flatMap_congr fun kind _ => ?_
  exact (h kind.objectKind).filterMap_eq fun _ _ => Routine.ofElement?_congr kind

/-- Documents whose objects are mixed in different ways have the same objects of each kind. -/
theorem allAlike_objects {x x' : Xml.Tree} (h : Mixes Xml.Tree.type? x.objects x'.objects)
    (kind : Kind) : AllAlike ((ofXml x).objects kind) ((ofXml x').objects kind) := by
  have hobjects := forall₂_objects x kind
  rw [h.filter_eq] at hobjects
  exact Element.allAlike_of_forall₂ hobjects (forall₂_objects x' kind)

end Tree

end Schema

/-- Two documents with the same objects, those of each type in the same order, have the same
entities, accessors, routines and warnings. -/
theorem mixing_of_types_irrelevant (c : Config) {x x' : Xml.Tree}
    (h : Mixes Xml.Tree.type? x.objects x'.objects) :
    let t := Schema.Tree.ofXml x
    let t' := Schema.Tree.ofXml x'
    Model.entitiesOf c t.tables = Model.entitiesOf c t'.tables ∧
    (∀ m, Model.addKeys c t.keys m = Model.addKeys c t'.keys m) ∧
    t.routines = t'.routines ∧
    Model.ofSchema c t = Model.ofSchema c t' := by
  intro t t'
  have halike := Schema.Tree.allAlike_objects h
  have htables : t.tables = t'.tables := Schema.Tree.tables_congr halike
  have hkeys : t.keys = t'.keys := Schema.Tree.keys_congr halike
  have hroutines : t.routines = t'.routines := Schema.Tree.routines_congr halike
  refine ⟨by rw [htables], fun m => by rw [hkeys], hroutines, ?_⟩
  unfold Model.ofSchema
  rw [htables, hkeys, hroutines]

/-! Two tables and a key, which may be declared before its table. -/

namespace Xml.Tree

theorem objects_schema {ts : List Xml.Tree} (h : ∀ x ∈ ts, x.name = "Element") :
    (schema ts).objects = ts := by
  have hnamed : named "Model" (schema ts) = [.element "Model" [] ts] := rfl
  have hall : ∀ x ∈ ts, (x.name == "Element") = true := fun x hx => by simp [h x hx]
  rw [objects, hnamed, List.flatMap_singleton, named]
  exact List.filter_eq_self.mpr hall

def keyLast : List Xml.Tree := [
  .table "[dbo].[A]" [.column "[dbo].[A].[Id]" "[int]"],
  .table "[dbo].[B]" [],
  .primaryKey "[dbo].[PK_A]" "[dbo].[A]" "[dbo].[A].[Id]"]

def keyFirst : List Xml.Tree := [
  .primaryKey "[dbo].[PK_A]" "[dbo].[A]" "[dbo].[A].[Id]",
  .table "[dbo].[A]" [.column "[dbo].[A].[Id]" "[int]"],
  .table "[dbo].[B]" []]

/-- The key moves to the front, and the tables stay in their order. -/
theorem mixes_keyLast : Mixes type? keyLast keyFirst := by
  refine ⟨(⟨fun i => i + 1, fun i => i + 2, by decide, by decide⟩ : Fin 3 ≃ Fin 3),
    fun (i : Fin 3) => ?_, fun (i j : Fin 3) v hlt hi hj => ?_⟩
  · match i with
    | 0 | 1 | 2 => rfl
  · have htypes := hi.trans hj.symm
    match i, j with
    | 0, 1 => exact (by decide : (1 : Fin 3) < 2)
    | 0, 2 | 1, 2 => exact absurd htypes (by decide)
    | 0, 0 | 1, 0 | 1, 1 | 2, 0 | 2, 1 | 2, 2 => exact absurd hlt (by decide)

end Xml.Tree

theorem mixing_of_types_irrelevant_key :
    Mixes Xml.Tree.type? (Xml.Tree.schema Xml.Tree.keyLast).objects
      (Xml.Tree.schema Xml.Tree.keyFirst).objects ∧
    Model.ofSchema Config.initial (.ofXml (.schema Xml.Tree.keyLast)) =
      Model.ofSchema Config.initial (.ofXml (.schema Xml.Tree.keyFirst)) := by
  have hlast : (Xml.Tree.schema Xml.Tree.keyLast).objects = Xml.Tree.keyLast :=
    Xml.Tree.objects_schema (by decide)
  have hfirst : (Xml.Tree.schema Xml.Tree.keyFirst).objects = Xml.Tree.keyFirst :=
    Xml.Tree.objects_schema (by decide)
  have hmixes := Xml.Tree.mixes_keyLast
  rw [← hlast, ← hfirst] at hmixes
  exact ⟨hmixes, (mixing_of_types_irrelevant Config.initial hmixes).2.2.2⟩

end DataLayer
