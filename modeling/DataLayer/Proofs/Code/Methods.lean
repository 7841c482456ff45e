import DataLayer.Proofs.Code.Queries

/-!
The methods of the data access class: a signature, and a body that sends one query. A body can only
fail to be shown where its signature or one of its casts does.
-/

namespace DataLayer

open Template Code

def awaitCode (isAsync : Bool) : String := if isAsync then "await " else ""

def executeCode (isAsync : Bool) : String :=
  call ("ExecuteSqlString" ++ Accessor.asyncSuffix isAsync ++ "();")

namespace Accessor

def getOneBody (c : Config) (m : Model) (a : Accessor) : List String :=
  [queryLine (a.selectCode a.keyCode ++ a.selectForeignCode c m),
    indent 12 ("var reader = " ++ awaitCode a.asyncs.get ++ "_db.BeginReader(query)")] ++
  a.bindParamCode c ++
  (m.accessorsAt a.foreigns).map (fun f =>
    call ("AddBitInParam(\"include" ++ c.plural f.entity ++ "\", include" ++ c.plural f.entity ++
      ")")) ++
  [call ("AutoMapResult<" ++ a.entity ++ ">()")] ++
  (m.accessorsAt a.foreigns).map (fun f =>
    call ("AutoMapResult<" ++ f.entity ++ ">(\"" ++ c.plural f.entity ++ "\")")) ++
  [executeCode a.asyncs.get,
    indent 12 ("var ret = reader.GetResultCollection<" ++ a.entity ++ ">().FirstOrDefault();")] ++
  (m.accessorsAt a.foreigns).flatMap (fun f => [
    indent 12 ("if (include" ++ c.plural f.entity ++ " && ret != null)"),
    indent 12 opening,
    indent 16 ("ret." ++ c.plural f.entity ++ " = reader.GetResultCollection<" ++ f.entity ++
      ">(\"" ++ c.plural f.entity ++ "\");"),
    indent 12 closing]) ++
  [indent 12 "return ret;"]

def getManyBody (c : Config) (a : Accessor) : List String :=
  [queryLine (a.selectCode a.keyCode),
    indent 12 ("var reader = " ++ awaitCode a.asyncs.get ++ "_db.BeginReader(query)")] ++
  a.bindParamCode c ++
  [call ("AutoMapResult<" ++ a.entity ++ ">()"),
    executeCode a.asyncs.get,
    indent 12 ("return reader.GetResult<" ++ listType a.entity ++ ">();")]

def saveBody (c : Config) (a : Accessor) : List String :=
  [queryLine (a.updateCode ++ " ELSE " ++ a.insertCode),
    indent 12 (awaitCode a.asyncs.save ++ "_db.BeginNonQuery(query)")] ++
  a.bindColumnCode c ++
  [executeCode a.asyncs.save]

def saveIdentityBody (c : Config) (a : Accessor) : List String :=
  [queryLine (a.updateCode ++ " ELSE BEGIN " ++ a.insertCode ++ " SELECT SCOPE_IDENTITY() END"),
    indent 12 ("var scalar = " ++ awaitCode a.asyncs.save ++ "_db.BeginScalar<" ++
      a.identityCode c ++ ">(query)")] ++
  a.bindIdentityCode ++ a.bindColumnCode c ++
  [executeCode a.asyncs.save, indent 12 "return scalar.GetResult();"]

def deleteBody (c : Config) (a : Accessor) : List String :=
  [queryLine a.deleteCode,
    indent 12 (awaitCode a.asyncs.delete ++ "_db.BeginNonQuery(query)")] ++
  a.bindParamCode c ++
  [executeCode a.asyncs.delete]

end Accessor

namespace Declaration

/-- What stands between the braces of a method. -/
def body (c : Config) (m : Model) (d : Declaration) : List String :=
  match d.action with
  | .getOne => d.accessor.getOneBody c m
  | .getMany => d.accessor.getManyBody c
  | .save => d.accessor.saveBody c
  | .saveIdentity => d.accessor.saveIdentityBody c
  | .deleteOne | .deleteMany => d.accessor.deleteBody c

/-- The lines of a method in the data access class. -/
def methodCode (c : Config) (m : Model) (d : Declaration) : List String :=
  ["", indent 8 ("public " ++ ((if d.isAsync then asyncMark else "") ++ d.signature c m)),
    indent 8 opening] ++ d.body c m ++ [indent 8 closing]

/-- The first property whose type or cast is missing in a method. -/
def methodFault (c : Config) (d : Declaration) : Option TemplateError :=
  (d.signatureFault c).or
    (match d.action with
    | .save | .saveIdentity => d.accessor.columns.findSome? c.castFault
    | .getOne | .getMany | .deleteOne | .deleteMany => d.accessor.params.findSome? c.castFault)

end Declaration

namespace Template

section Methods

variable {c : Config} {m : Model} {i : Nat} {scope : Scope} (a : Accessor)

theorem shows_await {flag : String} {b : Bool} (hpath : IsPath flag)
    (hlookup : scope.lookup flag = some (.text (Accessor.asyncSuffix b))) :
    Shows c.keywords i scope (await flag) none (awaitCode b) := by
  have hflag : (Accessor.asyncSuffix b).isEmpty = !b := by cases b <;> rfl
  have htext : Shows c.keywords 0 scope "await " none "await " := .text (.ofList rfl)
  have h := htext.when (i := i) hpath hlookup hflag
  cases b <;> exact h

theorem shows_execute {flag : String} {b : Bool}
    (h : Shows c.keywords i scope (tag flag) none (Accessor.asyncSuffix b)) :
    ShowsLines c.keywords i scope [execute flag] none [executeCode b] :=
  .call ((h.before (.ofList rfl)).after (.ofList rfl))

/-- The line that opens a reader. -/
theorem shows_reader :
    ShowsLines c.keywords i (a.data m :: scope)
      [indent 12 ("var reader = " ++ await "GetAsync" ++ "_db.BeginReader(query)")] none
      [indent 12 ("var reader = " ++ awaitCode a.asyncs.get ++ "_db.BeginReader(query)")] :=
  .code ((shows_await (.ofList rfl) (lookup_getAsync a)).before (.ofList rfl)
    |>.after (.ofList rfl)) (e := 'v') (by simp) (by decide)

/-- The line that starts a command without a result. -/
theorem shows_nonQuery {flag : String} {b : Bool} (hpath : IsPath flag)
    (hlookup : scope.lookup flag = some (.text (Accessor.asyncSuffix b))) :
    ShowsLines c.keywords i scope [indent 12 (await flag ++ "_db.BeginNonQuery(query)")] none
      [indent 12 (awaitCode b ++ "_db.BeginNonQuery(query)")] :=
  .line (((shows_await hpath hlookup).after (.ofList rfl)).indent 12)
    (isPlain_indent 12 (isPlain_of_getLast (c := ')') (by simp) (by decide)))

theorem shows_mapResult :
    ShowsLines c.keywords i (a.data m :: scope) [call ("AutoMapResult<" ++ entityName ++ ">()")]
      none [call ("AutoMapResult<" ++ a.entity ++ ">()")] :=
  .call ((shows_entityName a _).before (.ofList rfl) |>.after (.ofList rfl))

theorem shows_includeParams :
    ShowsLines c.keywords i (a.data m :: scope)
      (blockLines "Foreigns"
        [call ("AddBitInParam(\"include" ++ pluralName ++ "\", include" ++ pluralName ++ ")")]) none
      ((m.accessorsAt a.foreigns).map fun f =>
        call ("AddBitInParam(\"include" ++ c.plural f.entity ++ "\", include" ++
          c.plural f.entity ++ ")")) :=
  .plain <| .eachLine (.ofList rfl) (lookup_foreigns a m)
    (fun _ f => ((shows_pluralName f []).before (.ofList rfl) |>.after (.ofList rfl)
      |>.append (shows_pluralName f []) |>.after (.ofList rfl)).call)
    (isPlain_call _)

theorem shows_mapForeigns :
    ShowsLines c.keywords i (a.data m :: scope)
      (blockLines "Foreigns"
        [call ("AutoMapResult<" ++ entityName ++ ">(\"" ++ pluralName ++ "\")")]) none
      ((m.accessorsAt a.foreigns).map fun f =>
        call ("AutoMapResult<" ++ f.entity ++ ">(\"" ++ c.plural f.entity ++ "\")")) :=
  .plain <| .eachLine (.ofList rfl) (lookup_foreigns a m)
    (fun _ f => ((shows_entityName f []).before (.ofList rfl) |>.after (.ofList rfl)
      |>.append (shows_pluralName f []) |>.after (.ofList rfl)).call)
    (isPlain_call _)

/-- Child rows are attached to the row if they were asked for. -/
theorem shows_attachForeigns :
    ShowsLines c.keywords i (a.data m :: scope)
      (blockLines "Foreigns" [
        indent 12 ("if (include" ++ pluralName ++ " && ret != null)"),
        indent 12 opening,
        indent 16 ("ret." ++ pluralName ++ " = reader.GetResultCollection<" ++ entityName ++
          ">(\"" ++ pluralName ++ "\");"),
        indent 12 closing]) none
      ((m.accessorsAt a.foreigns).flatMap fun f => [
        indent 12 ("if (include" ++ c.plural f.entity ++ " && ret != null)"),
        indent 12 opening,
        indent 16 ("ret." ++ c.plural f.entity ++ " = reader.GetResultCollection<" ++ f.entity ++
          ">(\"" ++ c.plural f.entity ++ "\");"),
        indent 12 closing]) := by
  refine .plain (.each (.ofList rfl) (lookup_foreigns a m) fun _ f => ?_)
  have hcondition (j : Nat) : ShowsLines c.keywords j (f.dataWith [] :: a.data m :: scope)
      [indent 12 ("if (include" ++ pluralName ++ " && ret != null)")] none
      [indent 12 ("if (include" ++ c.plural f.entity ++ " && ret != null)")] :=
    .code ((shows_pluralName f []).before (.ofList rfl) |>.after (.ofList rfl)) (e := 'i')
      (by simp) (by decide)
  have hattach (j : Nat) : ShowsLines c.keywords j (f.dataWith [] :: a.data m :: scope)
      [indent 16 ("ret." ++ pluralName ++ " = reader.GetResultCollection<" ++ entityName ++
        ">(\"" ++ pluralName ++ "\");")] none
      [indent 16 ("ret." ++ c.plural f.entity ++ " = reader.GetResultCollection<" ++ f.entity ++
        ">(\"" ++ c.plural f.entity ++ "\");")] :=
    .code ((shows_pluralName f []).before (.ofList rfl) |>.after (.ofList rfl)
      |>.append (shows_entityName f []) |>.after (.ofList rfl)
      |>.append (shows_pluralName f []) |>.after (.ofList rfl)) (e := 'r') (by simp)
      (by decide)
  exact (hcondition _).append (.opening 12) |>.append (hattach _)
    |>.append (.closing 12)

theorem isPath_path (k : Action) : IsPath k.path := by cases k <;> exact .ofList rfl

theorem lookup_path (k : Action) : Scope.lookup [m.data c] k.path =
    some (.list ((m.accessorsOf k).map (·.data m))) := by
  cases k <;> exact Scope.lookup_record (by simp [Action.path]) rfl []

/-- The methods of all accessors of an action. -/
theorem shows_methodLines {k : Action} {body : List String}
    {fault : Accessor → Option TemplateError}
    (h : ∀ j a, ShowsLines c.keywords j [a.data m, m.data c] body (fault a)
      (Declaration.body c m ⟨a, k⟩)) :
    ShowsLines c.keywords 0 [m.data c] (methodLines k.path (k.source asyncMark) body)
      ((m.accessorsOf k).findSome? fun a => (Declaration.signatureFault c ⟨a, k⟩).or (fault a))
      ((m.accessorsOf k).flatMap fun a => Declaration.methodCode c m ⟨a, k⟩) := by
  refine .each (isPath_path k) (lookup_path k) fun j a => ?_
  have hsignature : Shows c.keywords j [a.data m, m.data c] (k.source asyncMark) _ _ :=
    shows_signature ⟨a, k⟩ (.ofList rfl)
  have hpublic : ShowsLines c.keywords j [a.data m, m.data c]
      [indent 8 ("public " ++ k.source asyncMark)] _ _ :=
    .code (hsignature.before (.ofList rfl)) (e := 'p') (by simp) (by decide)
  exact ShowsLines.blank.append hpublic |>.appendPlain (.opening 8) |>.append (h j a)
    |>.appendPlain (.closing 8)

theorem shows_getOneLines :
    ShowsLines c.keywords 0 [m.data c] getOneLines
      ((m.accessorsOf .getOne).findSome? fun a => Declaration.methodFault c ⟨a, .getOne⟩)
      ((m.accessorsOf .getOne).flatMap fun a => Declaration.methodCode c m ⟨a, .getOne⟩) := by
  refine shows_methodLines (k := .getOne) fun j a => ?_
  have hresult : ShowsLines c.keywords j [a.data m, m.data c]
      [indent 12 ("var ret = reader.GetResultCollection<" ++ entityName ++ ">().FirstOrDefault();")]
      none [indent 12 ("var ret = reader.GetResultCollection<" ++ a.entity ++
        ">().FirstOrDefault();")] :=
    .code ((shows_entityName a _).before (.ofList rfl) |>.after (.ofList rfl)) (e := 'v')
      (by simp) (by decide)
  exact (ShowsLines.query ((shows_selectRows a _ (shows_keyCondition a _)).append
      (shows_selectForeigns a))).append (shows_reader a)
    |>.append (shows_bindParams a _) |>.appendPlain (shows_includeParams a)
    |>.appendPlain (shows_mapResult a) |>.appendPlain (shows_mapForeigns a)
    |>.appendPlain ((shows_execute (shows_getAsync a)).append hresult)
    |>.appendPlain (shows_attachForeigns a) |>.appendPlain (.text 12 (.ofList rfl))

theorem shows_getManyLines :
    ShowsLines c.keywords 0 [m.data c] getManyLines
      ((m.accessorsOf .getMany).findSome? fun a => Declaration.methodFault c ⟨a, .getMany⟩)
      ((m.accessorsOf .getMany).flatMap fun a => Declaration.methodCode c m ⟨a, .getMany⟩) := by
  refine shows_methodLines (k := .getMany) fun j a => ?_
  have hresult : ShowsLines c.keywords j [a.data m, m.data c]
      [indent 12 ("return reader.GetResult<" ++ listType entityName ++ ">();")] none
      [indent 12 ("return reader.GetResult<" ++ listType a.entity ++ ">();")] :=
    .code ((shows_entityName a _).listType.before (.ofList rfl) |>.after (.ofList rfl))
      (e := 'r') (by simp) (by decide)
  exact (ShowsLines.query (shows_selectRows a _ (shows_keyCondition a _))).append (shows_reader a)
    |>.append (shows_bindParams a _)
    |>.appendPlain ((shows_mapResult a).append (shows_execute (shows_getAsync a))
      |>.append hresult)

theorem shows_saveNonQueryLines :
    ShowsLines c.keywords 0 [m.data c] saveNonQueryLines
      ((m.accessorsOf .save).findSome? fun a => Declaration.methodFault c ⟨a, .save⟩)
      ((m.accessorsOf .save).flatMap fun a => Declaration.methodCode c m ⟨a, .save⟩) := by
  refine shows_methodLines (k := .save) fun j a => ?_
  exact (ShowsLines.query (shows_saveRow a _)).append
      (shows_nonQuery (.ofList rfl) (lookup_saveAsync a))
    |>.append (shows_bindColumns a _) |>.appendPlain (shows_execute (shows_saveAsync a))

theorem shows_saveScalarLines :
    ShowsLines c.keywords 0 [m.data c] saveScalarLines
      ((m.accessorsOf .saveIdentity).findSome? fun a =>
        Declaration.methodFault c ⟨a, .saveIdentity⟩)
      ((m.accessorsOf .saveIdentity).flatMap fun a =>
        Declaration.methodCode c m ⟨a, .saveIdentity⟩) := by
  -- The type of the identity is written twice, and its fault is that of the signature already.
  have hfault (a : Accessor) : Declaration.methodFault c ⟨a, .saveIdentity⟩ =
      (Declaration.signatureFault c ⟨a, .saveIdentity⟩).or
        ((a.identityColumns.findSome? c.typeFault).or (a.columns.findSome? c.castFault)) := by
    have hsignature : Declaration.signatureFault c ⟨a, .saveIdentity⟩ =
        a.identityColumns.findSome? c.typeFault := rfl
    rw [hsignature, ← Option.or_assoc, Option.or_self]
    rfl
  simp only [hfault]
  refine shows_methodLines (k := .saveIdentity) fun j a => ?_
  have hscalar : ShowsLines c.keywords j [a.data m, m.data c]
      [indent 12 ("var scalar = " ++ await "SaveAsync" ++ "_db.BeginScalar<" ++ identityType ++
        ">(query)")] (a.identityColumns.findSome? c.typeFault)
      [indent 12 ("var scalar = " ++ awaitCode a.asyncs.save ++ "_db.BeginScalar<" ++
        a.identityCode c ++ ">(query)")] :=
    .code ((shows_await (.ofList rfl) (lookup_saveAsync a)).before (.ofList rfl)
      |>.after (.ofList rfl) |>.append (shows_identityType a _) |>.after (.ofList rfl))
      (e := 'v') (by simp) (by decide)
  exact (ShowsLines.query (shows_saveRowForIdentity a _)).append hscalar
    |>.appendPlain (shows_bindIdentities a _) |>.append (shows_bindColumns a _)
    |>.appendPlain ((shows_execute (shows_saveAsync a)).append (.text 12 (.ofList rfl)))

theorem shows_deleteLines {k : Action} (hk : k = .deleteOne ∨ k = .deleteMany) :
    ShowsLines c.keywords 0 [m.data c] (deleteLines k.path (k.source asyncMark))
      ((m.accessorsOf k).findSome? fun a => Declaration.methodFault c ⟨a, k⟩)
      ((m.accessorsOf k).flatMap fun a => Declaration.methodCode c m ⟨a, k⟩) := by
  have hbody (j : Nat) (a : Accessor) : ShowsLines c.keywords j [a.data m, m.data c]
      ([queryLine deleteRows, indent 12 (await "DeleteAsync" ++ "_db.BeginNonQuery(query)")] ++
        bindParams ++ [execute "DeleteAsync"])
      (a.params.findSome? c.castFault) (a.deleteBody c) :=
    (ShowsLines.query (shows_deleteRows a _)).append
        (shows_nonQuery (.ofList rfl) (lookup_deleteAsync a))
      |>.append (shows_bindParams a _) |>.appendPlain (shows_execute (shows_deleteAsync a))
  rcases hk with rfl | rfl
  · exact shows_methodLines hbody
  · exact shows_methodLines hbody

end Methods

end Template

end DataLayer
