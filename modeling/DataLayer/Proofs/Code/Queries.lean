import DataLayer.Code.AccessClass
import DataLayer.Proofs.Code.Declarations

/-!
The queries of the generated methods, and the lines that bind their parameters. Only a cast in such
a line can have a fault.
-/

namespace DataLayer

open Template Code

namespace Accessor

/-- The condition that a row has the values of the key. -/
def keyCode (a : Accessor) : String :=
  " AND ".intercalate (a.params.map fun p => "[" ++ p.shortName ++ "] = @" ++ p.shortName)

/-- The condition that a child row refers to the row that is read. -/
def foreignCode (a : Accessor) : String :=
  " AND ".intercalate (a.params.map fun p => "[" ++ p.shortName ++ "] = @" ++ p.foreignShortName)

def selectCode (a : Accessor) (condition : String) : String :=
  "SELECT * FROM " ++ a.table ++ " WHERE " ++ condition

/-- Child rows are read only on demand. -/
def selectForeignCode (c : Config) (m : Model) (a : Accessor) : String :=
  String.join ((m.accessorsAt a.foreigns).map fun f =>
    " IF(@include" ++ c.plural f.entity ++ " = 1) " ++ f.selectCode f.foreignCode)

def deleteCode (a : Accessor) : String := "DELETE FROM " ++ a.table ++ " WHERE " ++ a.keyCode

def updateCode (a : Accessor) : String :=
  "IF EXISTS(SELECT 1 FROM " ++ a.table ++ " WHERE " ++ a.keyCode ++ ") UPDATE " ++ a.table ++
    " SET " ++
    ", ".intercalate (a.columns.map fun p => "[" ++ p.shortName ++ "] = @" ++ p.shortName) ++
    " WHERE " ++ a.keyCode

def insertCode (a : Accessor) : String :=
  "INSERT INTO " ++ a.table ++ " (" ++
    ", ".intercalate (a.columns.map fun p => "[" ++ p.shortName ++ "]") ++ ") VALUES(" ++
    ", ".intercalate (a.columns.map fun p => "@" ++ p.shortName) ++ ")"

end Accessor

/-- Binds a value under the name of the column of a property. -/
def Property.bindCode (p : Property) (value : String) : String :=
  call ("Add" ++ Text.firstUpper (SqlType.storage p.sqlType) ++ "InParam(\"" ++ p.shortName ++
    "\", " ++ value ++ ", true)")

namespace Accessor

def bindParamCode (c : Config) (a : Accessor) : List String :=
  a.params.map fun p => p.bindCode (c.castOf p ++ Text.firstLower p.shortName)

/-- The value of a property of the entity that is saved. -/
def valueCode (a : Accessor) (p : Property) : String :=
  Text.firstLower a.entity ++ "." ++ p.shortName

def bindColumnCode (c : Config) (a : Accessor) : List String :=
  a.columns.map fun p => p.bindCode (c.castOf p ++ a.valueCode p)

def bindIdentityCode (a : Accessor) : List String :=
  a.identityColumns.map fun p => p.bindCode (a.valueCode p)

end Accessor

namespace Template

section Queries

variable {c : Config} {m : Model} {i : Nat} {scope : Scope} (a : Accessor) (foreigns : List Data)

theorem lookup_columns :
    Scope.lookup (a.dataWith foreigns :: scope) "Columns" =
      some (.list (a.columns.map Property.data)) :=
  Scope.lookup_record (by simp) rfl scope

theorem isValue_and : IsValue "Join(\" AND \")" none [⟨"Join", some " AND "⟩] :=
  isValue_of_mem (by simp [keywordTags])

theorem shows_keyCondition :
    Shows c.keywords i (a.dataWith foreigns :: scope) keyCondition none a.keyCode :=
  .plain <| .list (.ofList rfl) isValue_and (lookup_params a foreigns)
    (fun _ p => (shows_shortName p).before (.ofList rfl) |>.after (.ofList rfl)
      |>.append (shows_shortName p))
    (by simp only [String.append_assoc])

theorem shows_foreignCondition :
    Shows c.keywords i (a.dataWith foreigns :: scope) foreignCondition none a.foreignCode :=
  .plain <| .list (.ofList rfl) isValue_and (lookup_params a foreigns)
    (fun _ p => (shows_shortName p).before (.ofList rfl) |>.after (.ofList rfl)
      |>.append (shows_foreignName p))
    (by simp only [String.append_assoc])

theorem shows_selectRows {condition t : String}
    (h : Shows c.keywords i (a.dataWith foreigns :: scope) condition none t) :
    Shows c.keywords i (a.dataWith foreigns :: scope) (selectRows condition) none
      (a.selectCode t) :=
  (shows_tableName a foreigns).before (.ofList rfl) |>.after (.ofList rfl) |>.append h

theorem shows_selectForeigns :
    Shows c.keywords i (a.data m :: scope) selectForeigns none (a.selectForeignCode c m) :=
  .plain <| .each (.ofList rfl) (lookup_foreigns a m) fun _ f =>
    (shows_pluralName f []).before (.ofList rfl) |>.after (.ofList rfl)
      |>.append (shows_selectRows f [] (shows_foreignCondition f []))

theorem shows_deleteRows :
    Shows c.keywords i (a.dataWith foreigns :: scope) deleteRows none a.deleteCode :=
  (shows_tableName a foreigns).before (.ofList rfl) |>.after (.ofList rfl)
    |>.append (shows_keyCondition a foreigns)

theorem shows_updateRow :
    Shows c.keywords i (a.dataWith foreigns :: scope) updateRow none a.updateCode := by
  have hcolumns : Shows c.keywords i (a.dataWith foreigns :: scope)
      (within "Columns" (separator ", " ++ "[" ++ shortName ++ "] = @" ++ shortName)) none
      (", ".intercalate (a.columns.map fun p => "[" ++ p.shortName ++ "] = @" ++ p.shortName)) :=
    .plain <| .list (.ofList rfl) isValue_comma (lookup_columns a foreigns)
      (fun _ p => (shows_shortName p).before (.ofList rfl) |>.after (.ofList rfl)
        |>.append (shows_shortName p))
      (by simp only [String.append_assoc])
  exact (shows_tableName a foreigns).before (.ofList rfl) |>.after (.ofList rfl)
    |>.append (shows_keyCondition a foreigns) |>.after (.ofList rfl)
    |>.append (shows_tableName a foreigns) |>.after (.ofList rfl) |>.append hcolumns
    |>.after (.ofList rfl) |>.append (shows_keyCondition a foreigns)

theorem shows_insertRow :
    Shows c.keywords i (a.dataWith foreigns :: scope) insertRow none a.insertCode := by
  have hcolumns : Shows c.keywords i (a.dataWith foreigns :: scope)
      (within "Columns" (separator ", " ++ "[" ++ shortName ++ "]")) none
      (", ".intercalate (a.columns.map fun p => "[" ++ p.shortName ++ "]")) :=
    .plain <| .list (.ofList rfl) isValue_comma (lookup_columns a foreigns)
      (fun _ p => (shows_shortName p).before (.ofList rfl) |>.after (.ofList rfl))
      (by simp only [String.append_assoc])
  have hvalues : Shows c.keywords i (a.dataWith foreigns :: scope)
      (within "Columns" (separator ", " ++ "@" ++ shortName)) none
      (", ".intercalate (a.columns.map fun p => "@" ++ p.shortName)) :=
    .plain <| .list (.ofList rfl) isValue_comma (lookup_columns a foreigns)
      (fun _ p => (shows_shortName p).before (.ofList rfl))
      (by simp only [String.append_assoc])
  exact (shows_tableName a foreigns).before (.ofList rfl) |>.after (.ofList rfl)
    |>.append hcolumns |>.after (.ofList rfl) |>.append hvalues |>.after (.ofList rfl)

theorem shows_saveRow :
    Shows c.keywords i (a.dataWith foreigns :: scope) saveRow none
      (a.updateCode ++ " ELSE " ++ a.insertCode) :=
  (shows_updateRow a foreigns).after (.ofList rfl) |>.append (shows_insertRow a foreigns)

theorem shows_saveRowForIdentity :
    Shows c.keywords i (a.dataWith foreigns :: scope) saveRowForIdentity none
      (a.updateCode ++ " ELSE BEGIN " ++ a.insertCode ++ " SELECT SCOPE_IDENTITY() END") :=
  (shows_updateRow a foreigns).after (.ofList rfl) |>.append (shows_insertRow a foreigns)
    |>.after (.ofList rfl)

end Queries

/-! Lines of bodies. -/

section Bodies

variable {c : Config} {m : Model} {i : Nat} {scope : Scope} {s t : String}
  {f : Option TemplateError}

/-- A line of code after some space. It stays because it starts with something else than a brace. -/
theorem ShowsLines.code {n : Nat} {e : Char} (h : Shows c.keywords i scope s f t)
    (hhead : s.toList.head? = some e) (he : IsVisible e) :
    ShowsLines c.keywords i scope [indent n s] f [indent n t] :=
  .line (h.indent n) (isPlain_indent n (isPlain_of_head hhead he))

theorem ShowsLines.query (h : Shows c.keywords i scope s f t) :
    ShowsLines c.keywords i scope [queryLine s] f [queryLine t] :=
  .code ((h.before (.ofList rfl)).after (.ofList rfl)) (by simp) (e := 'c')
    (by decide)

theorem Shows.call (h : Shows c.keywords i scope s f t) :
    Shows c.keywords i scope (call s) f (call t) :=
  (h.before (.ofList rfl)).indent 25

theorem isPlain_call (s : String) : IsPlain (call s) :=
  isPlain_indent 25 (isPlain_of_head (c := '.') (by simp) (by decide))

theorem ShowsLines.call (h : Shows c.keywords i scope s f t) :
    ShowsLines c.keywords i scope [Code.call s] f [Code.call t] :=
  .line h.call (isPlain_call s)

variable (a : Accessor) (foreigns : List Data)

theorem shows_parameterLine (p : Property)
    (h : Shows c.keywords i (p.data :: scope) s f t) :
    Shows c.keywords i (p.data :: scope) (parameterLine s) f (p.bindCode t) :=
  ((shows_storage p).before (.ofList rfl) |>.after (.ofList rfl)
    |>.append (shows_shortName p) |>.after (.ofList rfl) |>.append h
    |>.after (.ofList rfl)).call

theorem shows_bindParams :
    ShowsLines c.keywords i (a.dataWith foreigns :: scope) bindParams
      (a.params.findSome? c.castFault) (a.bindParamCode c) :=
  .eachLine (.ofList rfl) (lookup_params a foreigns)
    (fun _ p => shows_parameterLine p ((shows_enumCast p).appendPlain (shows_variable p)))
    (isPlain_call _)

theorem shows_propertyValue (p : Property) :
    Shows c.keywords i (p.data :: a.dataWith foreigns :: scope) propertyValue none
      (a.valueCode p) :=
  (shows_entityVariable_property a foreigns p).after (.ofList rfl)
    |>.append (shows_shortName p)

theorem shows_bindColumns :
    ShowsLines c.keywords i (a.dataWith foreigns :: scope) bindColumns
      (a.columns.findSome? c.castFault) (a.bindColumnCode c) :=
  .eachLine (.ofList rfl) (lookup_columns a foreigns)
    (fun _ p => shows_parameterLine p
      ((shows_enumCast p).appendPlain (shows_propertyValue a foreigns p)))
    (isPlain_call _)

theorem shows_bindIdentities :
    ShowsLines c.keywords i (a.dataWith foreigns :: scope) bindIdentities none
      a.bindIdentityCode :=
  .plain <| .eachLine (.ofList rfl) (lookup_identityColumns a foreigns)
    (fun _ p => shows_parameterLine p (shows_propertyValue a foreigns p)) (isPlain_call _)

end Bodies

end Template

end DataLayer
