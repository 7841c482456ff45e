import DataLayer.Proofs.Code.Tags

/-!
The methods that are generated for a model, and the signatures under which the data access class
and its interface show them.
-/

namespace DataLayer

open Template Code

namespace Accessor

/-- The columns of the key in the name of a method. -/
def byCode (a : Accessor) : String := "By" ++ "And".intercalate (a.params.map Property.shortName)

/-- A parameter for every column of the key. -/
def paramCode (c : Config) (a : Accessor) : String :=
  ", ".intercalate (a.params.map fun p => (c.typeOf p).name ++ " " ++ Text.firstLower p.shortName)

/-- A parameter for every kind of child rows that may be read together with a row. -/
def includeCode (c : Config) (m : Model) (a : Accessor) : String :=
  String.join ((m.accessorsAt a.foreigns).map fun f =>
    ", bool include" ++ c.plural f.entity ++ " = false")

/-- The type of the identity that a saved row gets. -/
def identityCode (c : Config) (a : Accessor) : String :=
  String.join (a.identityColumns.map fun p => (c.typeOf p).name ++ "?")

end Accessor

/-- What a generated method does: it reads, saves or deletes one row or all rows with a key. A save
may return the identity of the row. -/
inductive Action where
  | getOne | getMany | save | saveIdentity | deleteOne | deleteMany
  deriving DecidableEq, Repr

namespace Action

/-- The actions in the order of their methods. -/
def all : List Action := [getOne, getMany, save, saveIdentity, deleteOne, deleteMany]

/-- The list of the accessors that have a method for an action. -/
def path : Action → String
  | getOne | deleteOne => "UniqueMethods"
  | getMany | deleteMany => "MultipleMethods"
  | save => "NonQueryMethods"
  | saveIdentity => "ScalarMethods"

/-- The source of a signature. -/
def source (mark : String) : Action → String
  | getOne => Code.getOne mark
  | getMany => Code.getMany mark
  | save => saveNonQuery mark
  | saveIdentity => saveScalar mark
  | deleteOne => Code.deleteOne mark
  | deleteMany => Code.deleteMany mark

end Action

/-- A method that is generated for an accessor. -/
structure Declaration where
  accessor : Accessor
  action : Action
  deriving DecidableEq, Repr

namespace Declaration

def isAsync (d : Declaration) : Bool :=
  match d.action with
  | .getOne | .getMany => d.accessor.asyncs.get
  | .save | .saveIdentity => d.accessor.asyncs.save
  | .deleteOne | .deleteMany => d.accessor.asyncs.delete

/-- The type of what a method returns, if it returns something. -/
def result? (c : Config) (d : Declaration) : Option String :=
  match d.action with
  | .getOne => some d.accessor.entity
  | .getMany => some (listType d.accessor.entity)
  | .saveIdentity => some (d.accessor.identityCode c)
  | .save | .deleteOne | .deleteMany => none

def returnCode (c : Config) (d : Declaration) : String :=
  match d.result? c with
  | some result => if d.isAsync then taskType result else result
  | none => if d.isAsync then "Task" else "void"

def verb (d : Declaration) : String :=
  match d.action with
  | .getOne | .getMany => "Get"
  | .save | .saveIdentity => "Save"
  | .deleteOne | .deleteMany => "Delete"

/-- The entity name in the number of the rows. -/
def subject (c : Config) (d : Declaration) : String :=
  match d.action with
  | .getOne | .save | .saveIdentity | .deleteOne => d.accessor.entity
  | .getMany | .deleteMany => c.plural d.accessor.entity

/-- The name of a method. -/
def name (c : Config) (d : Declaration) : String :=
  d.verb ++ d.subject c ++ d.accessor.byCode ++ Accessor.asyncSuffix d.isAsync

def parameters (c : Config) (m : Model) (d : Declaration) : String :=
  match d.action with
  | .getOne => d.accessor.paramCode c ++ d.accessor.includeCode c m
  | .save | .saveIdentity => d.accessor.entity ++ " " ++ Text.firstLower d.accessor.entity
  | .getMany | .deleteOne | .deleteMany => d.accessor.paramCode c

def signature (c : Config) (m : Model) (d : Declaration) : String :=
  d.returnCode c ++ " " ++ d.name c ++ "(" ++ d.parameters c m ++ ")"

/-- The first property whose type is missing in a signature. -/
def signatureFault (c : Config) (d : Declaration) : Option TemplateError :=
  match d.action with
  | .save => none
  | .saveIdentity => d.accessor.identityColumns.findSome? c.typeFault
  | .getOne | .getMany | .deleteOne | .deleteMany => d.accessor.params.findSome? c.typeFault

end Declaration

namespace Model

def accessorsOf (m : Model) : Action → List Accessor
  | .getOne | .deleteOne => m.uniqueAccessors
  | .getMany | .deleteMany => m.multipleAccessors
  | .save => m.nonQueryAccessors
  | .saveIdentity => m.scalarAccessors

/-- The methods of a model. The accessors of an action keep their order. -/
def declarations (m : Model) : List Declaration :=
  Action.all.flatMap fun k => (m.accessorsOf k).map (⟨·, k⟩)

theorem mem_declarations {m : Model} {d : Declaration} :
    d ∈ m.declarations ↔ d.accessor ∈ m.accessorsOf d.action := by
  have hall : ∀ k, k ∈ Action.all := by
    intro k
    cases k <;> decide
  rw [declarations, List.mem_flatMap]
  constructor
  · rintro ⟨k, -, hd⟩
    obtain ⟨a, ha, rfl⟩ := List.mem_map.mp hd
    exact ha
  · intro hd
    exact ⟨d.action, hall _, List.mem_map.mpr ⟨d.accessor, hd, rfl⟩⟩

theorem mem_accessors_of_mem_declarations {m : Model} {d : Declaration} (h : d ∈ m.declarations) :
    d.accessor ∈ m.accessors := by
  obtain ⟨a, k⟩ := d
  rw [mem_declarations] at h
  cases k <;> exact (List.mem_filter.mp h).1

end Model

namespace Template

/-! Pieces of signatures. -/

section Pieces

variable {c : Config} {i : Nat} {scope : Scope} (a : Accessor) (foreigns : List Data)

theorem lookup_params :
    Scope.lookup (a.dataWith foreigns :: scope) "Params" =
      some (.list (a.params.map Property.data)) :=
  Scope.lookup_record (by simp) rfl scope

theorem lookup_identityColumns :
    Scope.lookup (a.dataWith foreigns :: scope) "IdentityColumns" =
      some (.list (a.identityColumns.map Property.data)) :=
  Scope.lookup_record (by simp) rfl scope

theorem lookup_foreigns (m : Model) :
    Scope.lookup (a.data m :: scope) "Foreigns" =
      some (.list ((m.accessorsAt a.foreigns).map (·.dataWith []))) :=
  Scope.lookup_record (by simp) rfl scope

theorem shows_paramList :
    Shows c.keywords i (a.dataWith foreigns :: scope) paramList
      (a.params.findSome? c.typeFault) (a.paramCode c) :=
  .list (.ofList rfl) isValue_comma (lookup_params a foreigns)
    (fun _ p => (shows_typeName p).after (.ofList rfl) |>.appendPlain (shows_variable p))
    (by simp only [String.append_assoc])

theorem shows_byParams :
    Shows c.keywords i (a.dataWith foreigns :: scope) byParams none a.byCode := by
  have h : Shows c.keywords i (a.dataWith foreigns :: scope)
      (within "Params" (tag "Name|ShortName|Join(\"And\")")) none
      ("And".intercalate (a.params.map Property.shortName)) :=
    .plain <| .separated (.ofList rfl) (lookup_params a foreigns) fun _ p => shows_andShortName p
  exact h.before (.ofList rfl)

theorem shows_identityType :
    Shows c.keywords i (a.dataWith foreigns :: scope) identityType
      (a.identityColumns.findSome? c.typeFault) (a.identityCode c) :=
  .each (.ofList rfl) (lookup_identityColumns a foreigns)
    fun _ p => (shows_typeName p).after (.ofList rfl)

theorem Shows.taskType {s t : String} {f : Option TemplateError}
    (h : Shows c.keywords i scope s f t) :
    Shows c.keywords i scope (Code.taskType s) f (Code.taskType t) :=
  (h.before (.ofList rfl)).after (.ofList rfl)

theorem Shows.listType {s t : String} {f : Option TemplateError}
    (h : Shows c.keywords i scope s f t) :
    Shows c.keywords i scope (Code.listType s) f (Code.listType t) :=
  (h.before (.ofList rfl)).after (.ofList rfl)

/-- A piece that depends on a verb being asynchronous. -/
theorem shows_returnType {flag mark asynchronous synchronous t t' : String} {b : Bool}
    {f : Option TemplateError} (hpath : IsPath flag)
    (hlookup : scope.lookup flag = some (.text (Accessor.asyncSuffix b))) (hmark : IsText mark)
    (h : Shows c.keywords 0 scope asynchronous f t)
    (h' : Shows c.keywords 0 scope synchronous f t') :
    Shows c.keywords i scope (returnType flag mark asynchronous synchronous) f
      ((if b then mark else "") ++ if b then t else t') := by
  have hflag : (Accessor.asyncSuffix b).isEmpty = !b := by cases b <;> rfl
  have hboth := ((h.before hmark).when hpath hlookup hflag).append
    (h'.whenNot (i := i) hpath hlookup hflag)
  unfold returnType
  cases b with
  | false => simpa using hboth
  | true => simpa using hboth

theorem shows_includes (m : Model) :
    Shows c.keywords i (a.data m :: scope)
      (within "Foreigns" (", bool include" ++ pluralName ++ " = false")) none
      (a.includeCode c m) :=
  .plain <| .each (.ofList rfl) (lookup_foreigns a m) fun _ f =>
    ((shows_pluralName f []).before (.ofList rfl)).after (.ofList rfl)

end Pieces

/-! Signatures. -/

section Signatures

variable {c : Config} {m : Model} {i : Nat} {scope : Scope} {mark : String} (a : Accessor)

theorem lookup_getAsync : Scope.lookup (a.data m :: scope) "GetAsync" =
    some (.text (Accessor.asyncSuffix a.asyncs.get)) :=
  Scope.lookup_record (by simp) rfl scope

theorem lookup_saveAsync : Scope.lookup (a.data m :: scope) "SaveAsync" =
    some (.text (Accessor.asyncSuffix a.asyncs.save)) :=
  Scope.lookup_record (by simp) rfl scope

theorem lookup_deleteAsync : Scope.lookup (a.data m :: scope) "DeleteAsync" =
    some (.text (Accessor.asyncSuffix a.asyncs.delete)) :=
  Scope.lookup_record (by simp) rfl scope

theorem shows_getAsync : Shows c.keywords i (a.data m :: scope) (tag "GetAsync") none
    (Accessor.asyncSuffix a.asyncs.get) :=
  .name (.ofList rfl) (lookup_getAsync a)

theorem shows_saveAsync : Shows c.keywords i (a.data m :: scope) (tag "SaveAsync") none
    (Accessor.asyncSuffix a.asyncs.save) :=
  .name (.ofList rfl) (lookup_saveAsync a)

theorem shows_deleteAsync : Shows c.keywords i (a.data m :: scope) (tag "DeleteAsync") none
    (Accessor.asyncSuffix a.asyncs.delete) :=
  .name (.ofList rfl) (lookup_deleteAsync a)

theorem signature_eq (d : Declaration) : d.signature c m =
    d.returnCode c ++ (" " ++ d.verb ++ d.subject c ++ d.accessor.byCode ++
      Accessor.asyncSuffix d.isAsync ++ "(" ++ d.parameters c m ++ ")") := by
  simp only [Declaration.signature, Declaration.name, String.append_assoc]

/-- A signature, from its return type and its parameters. -/
theorem shows_method {source returns verb subject flag parameters mark' t u p : String} {b : Bool}
    {f g : Option TemplateError}
    (hreturns : Shows c.keywords i (a.data m :: scope) returns f (mark' ++ t)) (hverb : IsText verb)
    (hsubject : Shows c.keywords i (a.data m :: scope) subject none u)
    (hflag : Shows c.keywords i (a.data m :: scope) (tag flag) none (Accessor.asyncSuffix b))
    (hparameters : Shows c.keywords i (a.data m :: scope) parameters g p)
    (hsource : source =
      returns ++ verb ++ subject ++ byParams ++ tag flag ++ "(" ++ parameters ++ ")") :
    Shows c.keywords i (a.data m :: scope) source (f.or g)
      (mark' ++ (t ++ (verb ++ u ++ a.byCode ++ Accessor.asyncSuffix b ++ "(" ++ p ++ ")"))) := by
  have hopen : IsText "(" := .ofList rfl
  have hclose : IsText ")" := .ofList rfl
  have h := hreturns.append ((hsubject.before hverb).append (shows_byParams a _) |>.append hflag
    |>.after hopen |>.append hparameters |>.after hclose)
  simpa only [hsource, String.append_assoc, Option.none_or] using h

theorem getOne_eq (mark : String) : getOne mark =
    returnType "GetAsync" mark (taskType entityName) entityName ++ " Get" ++ entityName ++
      byParams ++ tag "GetAsync" ++ "(" ++
      (paramList ++ within "Foreigns" (", bool include" ++ pluralName ++ " = false")) ++ ")" := by
  simp only [getOne, String.append_assoc]

theorem append_save (returns : String) : returns ++ save =
    returns ++ " Save" ++ entityName ++ byParams ++ tag "SaveAsync" ++ "(" ++
      (entityName ++ " " ++ entityVariable) ++ ")" := by
  simp only [save, String.append_assoc]

/-- The source of a signature shows it. Where the method is asynchronous the mark stands in
front. -/
theorem shows_signature (d : Declaration) (hmark : IsText mark) :
    Shows c.keywords i (d.accessor.data m :: scope) (d.action.source mark) (d.signatureFault c)
      ((if d.isAsync then mark else "") ++ d.signature c m) := by
  obtain ⟨a, action⟩ := d
  have hget : IsText " Get" := .ofList rfl
  have hsave : IsText " Save" := .ofList rfl
  have hdelete : IsText " Delete" := .ofList rfl
  have htask : Shows c.keywords 0 (a.data m :: scope) "Task" none "Task" :=
    .text (.ofList rfl)
  have hvoid : Shows c.keywords 0 (a.data m :: scope) "void" none "void" :=
    .text (.ofList rfl)
  have hone (j : Nat) : Shows c.keywords j (a.data m :: scope) entityName none a.entity :=
    shows_entityName a _
  have hmany : Shows c.keywords i (a.data m :: scope) pluralName none (c.plural a.entity) :=
    shows_pluralName a _
  have hidentity (j : Nat) : Shows c.keywords j (a.data m :: scope) identityType
      (a.identityColumns.findSome? c.typeFault) (a.identityCode c) := shows_identityType a _
  have hparams : Shows c.keywords i (a.data m :: scope) paramList
      (a.params.findSome? c.typeFault) (a.paramCode c) := shows_paramList a _
  have hrow : Shows c.keywords i (a.data m :: scope) (entityName ++ " " ++ entityVariable) none
      (a.entity ++ " " ++ Text.firstLower a.entity) :=
    ((hone i).after (.ofList rfl)).append (shows_entityVariable a _)
  rw [signature_eq]
  cases action with
  | getOne =>
    have hreturns := shows_returnType (i := i) (.ofList rfl) (lookup_getAsync a) hmark
      (hone 0).taskType (hone 0)
    exact shows_method a hreturns hget (hone i) (shows_getAsync a)
      (hparams.appendPlain (shows_includes a m)) (getOne_eq mark)
  | getMany =>
    have hreturns := shows_returnType (i := i) (.ofList rfl) (lookup_getAsync a) hmark
      (hone 0).listType.taskType (hone 0).listType
    exact shows_method a hreturns hget hmany (shows_getAsync a) hparams rfl
  | save =>
    have hreturns := shows_returnType (i := i) (.ofList rfl) (lookup_saveAsync a) hmark htask
      hvoid
    exact shows_method a hreturns hsave (hone i) (shows_saveAsync a) hrow (append_save _)
  | saveIdentity =>
    have hreturns := shows_returnType (i := i) (.ofList rfl) (lookup_saveAsync a) hmark
      (hidentity 0).taskType (hidentity 0)
    have h := shows_method a hreturns hsave (hone i) (shows_saveAsync a) hrow (append_save _)
    rw [Option.or_none] at h
    exact h
  | deleteOne =>
    have hreturns := shows_returnType (i := i) (.ofList rfl) (lookup_deleteAsync a) hmark htask
      hvoid
    exact shows_method a hreturns hdelete (hone i) (shows_deleteAsync a) hparams rfl
  | deleteMany =>
    have hreturns := shows_returnType (i := i) (.ofList rfl) (lookup_deleteAsync a) hmark htask
      hvoid
    exact shows_method a hreturns hdelete hmany (shows_deleteAsync a) hparams rfl

end Signatures

end Template

end DataLayer
