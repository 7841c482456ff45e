import DataLayer.Proofs.Code.Methods
import DataLayer.Proofs.Run.Generation

/-!
The text of the data access class and that of its interface. The class has a method for every
declaration of the interface, in the same order and under the same signature. What can keep them
from being rendered is a property without a type.
-/

namespace DataLayer

open Template Code
open Schema (Routine)

/-! The files line by line. -/

namespace Config

/-- The imports that depend on the configuration. -/
def importCode (c : Config) : List String :=
  c.usings.map (fun u => "using " ++ u ++ ";") ++
    if c.modelNamespace.isEmpty then [] else ["using " ++ c.modelNamespace ++ ";"]

/-- What stands before the members of the interface. -/
def interfaceHead (c : Config) : List String :=
  ["// <auto-generated>",
    "// Generated by dacgen. Changes to this file are overwritten.",
    "// </auto-generated>",
    "using System;",
    "using System.Collections.Generic;",
    "using System.Threading.Tasks;"] ++
  c.importCode ++
  ["", "namespace " ++ c.accessNamespace, opening,
    indent 4 ("public partial interface I" ++ c.className), indent 4 opening]

/-- What stands before the namespace of the class. -/
def classHeader (c : Config) : List String :=
  ["// <auto-generated>",
    "// Generated by dacgen. Requires the data-access helper runtime " ++ helperVersion ++
      " or later.",
    "// Changes to this file are overwritten.",
    "// </auto-generated>",
    "using System;",
    "using System.Collections.Generic;",
    "using System.Linq;",
    "using System.Threading.Tasks;",
    "using CpsDbHelper;",
    "using CpsDbHelper.Extensions;",
    "using CpsDbHelper.Utils;"] ++ c.importCode

/-- What stands before the members of the class. -/
def classHead (c : Config) : List String :=
  c.classHeader ++
  ["", "namespace " ++ c.accessNamespace, opening,
    indent 4 (c.classAccess ++ " partial class " ++ c.className ++ " : I" ++ c.className),
    indent 4 opening]

/-- The members of the class that do not depend on the model. -/
def connectionCode (c : Config) : List String := [
  indent 8 ("public const string HelperVersion = \"" ++ helperVersion ++ "\";"),
  "",
  indent 8 "private readonly DbHelperFactory _db;",
  "",
  indent 8 ("public " ++ c.className ++ "(string connectionString)"),
  indent 8 opening,
  indent 12 "_db = new DbHelperFactory(connectionString);",
  indent 8 closing,
  "",
  indent 8 "public void BeginTransaction()",
  indent 8 opening,
  indent 12 "_db.BeginTransaction();",
  indent 8 closing,
  "",
  indent 8 "public void EndTransaction(bool commit = true)",
  indent 8 opening,
  indent 12 "_db.EndConnection(commit);",
  indent 8 closing]

end Config

/-- A constant for the name of a routine, under its signature. -/
def routineCode (r : Routine) : List String := [
  indent 12 ("// " ++ r.name ++ "(" ++
    ", ".intercalate (r.params.map fun p =>
      SqlName.short p.name ++ " " ++ SqlName.short p.sqlType) ++ ")"),
  indent 12 ("public const string " ++ SqlName.bare r.name ++ " = \"" ++ r.name ++ "\";")]

/-- A class with the constants of routines. -/
def routineClassCode (name : String) (rs : List Routine) : List String :=
  ["", indent 8 ("public static class " ++ name), indent 8 opening] ++ rs.flatMap routineCode ++
  [indent 8 closing]

/-- The source of the methods of an action. -/
def Action.lines : Action → List String
  | .getOne => getOneLines
  | .getMany => getManyLines
  | .save => saveNonQueryLines
  | .saveIdentity => saveScalarLines
  | .deleteOne => deleteLines (path deleteOne) (source asyncMark deleteOne)
  | .deleteMany => deleteLines (path deleteMany) (source asyncMark deleteMany)

namespace Model

def interfaceCode (c : Config) (m : Model) : List String :=
  c.interfaceHead ++
  [indent 8 "void BeginTransaction();", indent 8 "void EndTransaction(bool commit = true);"] ++
  m.declarations.map (fun d => indent 8 (d.signature c m ++ ";")) ++
  [indent 4 closing, closing]

/-- The members of the class that stand for the routines of the database. -/
def routineCode (m : Model) : List String :=
  routineClassCode "StoredProcedures" (m.routinesOf .procedure) ++
  routineClassCode "ScalarFunctions" (m.routinesOf .scalarFunction) ++
  routineClassCode "InlineTableFunctions" (m.routinesOf .inlineFunction) ++
  routineClassCode "TableFunctions" (m.routinesOf .tableFunction)

def classCode (c : Config) (m : Model) : List String :=
  c.classHead ++ c.connectionCode ++ m.declarations.flatMap (·.methodCode c m) ++
  m.routineCode ++ [indent 4 closing, closing]

end Model

namespace Template

section Files

variable {c : Config} {m : Model}

/-! Pieces that do not depend on accessors. -/

theorem shows_className :
    Shows c.keywords 0 [m.data c] (tag "DataAccessClassName") none c.className :=
  .name (.ofList rfl) (Scope.lookup_record (by simp) rfl [])

theorem shows_helperVersion :
    Shows c.keywords 0 [m.data c] (tag "HelperVersion") none helperVersion :=
  .name (.ofList rfl) (Scope.lookup_record (by simp) rfl [])

theorem shows_importLines :
    ShowsLines c.keywords 0 [m.data c] (usingLines ++ namespaceLines) none c.importCode := by
  have hlookup : Scope.lookup [m.data c] "Namespace" = some (.text c.modelNamespace) :=
    Scope.lookup_record (by simp) rfl []
  have hline : ShowsLines c.keywords 0 [m.data c] ["using " ++ tag "Namespace" ++ ";"] none
      ["using " ++ c.modelNamespace ++ ";"] :=
    .line ((Shows.name (.ofList rfl) hlookup).before (.ofList rfl)
      |>.after (.ofList rfl)) (isPlain_of_head (c := 'u') (by simp) (by decide))
  exact (shows_usingLines (Scope.lookup_record (by simp) rfl [])).append
    (ShowsLines.unlessEmpty (.ofList rfl) hlookup hline)

theorem shows_accessNamespace :
    Shows c.keywords 0 [m.data c] (tag "DalNamespace") none c.accessNamespace :=
  .name (.ofList rfl) (Scope.lookup_record (by simp) rfl [])

/-- Lines for every action, in the order of the actions. -/
theorem shows_actions {lines : Action → List String} {fault : Declaration → Option TemplateError}
    {shown : Declaration → List String}
    (h : ∀ k, ShowsLines c.keywords 0 [m.data c] (lines k)
      ((m.accessorsOf k).findSome? fun a => fault ⟨a, k⟩)
      ((m.accessorsOf k).flatMap fun a => shown ⟨a, k⟩)) :
    ShowsLines c.keywords 0 [m.data c] (Action.all.flatMap lines) (m.declarations.findSome? fault)
      (m.declarations.flatMap shown) := by
  unfold Model.declarations
  induction Action.all with
  | nil => exact .nil
  | cons k ks ih =>
    simp only [List.flatMap_cons, List.findSome?_append, List.flatMap_append, List.findSome?_map,
      List.flatMap_map]
    exact (h k).append ih

/-! The interface. -/

theorem shows_declarationLines (k : Action) :
    ShowsLines c.keywords 0 [m.data c] (declarationLines k.path (k.source ""))
      ((m.accessorsOf k).findSome? fun a => Declaration.signatureFault c ⟨a, k⟩)
      ((m.accessorsOf k).flatMap fun a =>
        [indent 8 (Declaration.signature c m ⟨a, k⟩ ++ ";")]) := by
  refine .each (isPath_path k) (lookup_path k) fun j a => ?_
  have hsignature : Shows c.keywords j [a.data m, m.data c] (k.source "") _ _ :=
    shows_signature ⟨a, k⟩ (.ofList rfl)
  rw [ite_self, String.empty_append] at hsignature
  exact .line ((hsignature.after (.ofList rfl)).indent 8)
    (isPlain_indent 8 (isPlain_of_getLast (c := ';') (by simp) (by decide)))

theorem interfaceLines_eq : interfaceLines =
    ["// <auto-generated>",
      "// Generated by dacgen. Changes to this file are overwritten.",
      "// </auto-generated>",
      "using System;",
      "using System.Collections.Generic;",
      "using System.Threading.Tasks;"] ++ (usingLines ++ namespaceLines) ++
    ["", "namespace " ++ tag "DalNamespace", opening,
      indent 4 ("public partial interface I" ++ tag "DataAccessClassName"), indent 4 opening] ++
    [indent 8 "void BeginTransaction();", indent 8 "void EndTransaction(bool commit = true);"] ++
    (Action.all.flatMap fun k => declarationLines k.path (k.source "")) ++
    [indent 4 closing, closing] := rfl

theorem shows_interfaceLines :
    ShowsLines c.keywords 0 [m.data c] interfaceLines
      (m.declarations.findSome? (·.signatureFault c)) (m.interfaceCode c) := by
  rw [interfaceLines_eq]
  have htype : ShowsLines c.keywords 0 [m.data c]
      [indent 4 ("public partial interface I" ++ tag "DataAccessClassName")] none
      [indent 4 ("public partial interface I" ++ c.className)] :=
    .code (shows_className.before (.ofList rfl)) (e := 'p') (by simp) (by decide)
  have htransactions : ShowsLines c.keywords 0 [m.data c]
      [indent 8 "void BeginTransaction();", indent 8 "void EndTransaction(bool commit = true);"]
      none
      [indent 8 "void BeginTransaction();", indent 8 "void EndTransaction(bool commit = true);"] :=
    (ShowsLines.text 8 (.ofList rfl)).append (.text 8 (.ofList rfl))
  have hmembers : ShowsLines c.keywords 0 [m.data c]
      (Action.all.flatMap fun k => declarationLines k.path (k.source ""))
      (m.declarations.findSome? (·.signatureFault c))
      (m.declarations.map fun d => indent 8 (d.signature c m ++ ";")) := by
    rw [List.map_eq_flatMap]
    exact shows_actions shows_declarationLines
  have hcomments : ShowsLines c.keywords 0 [m.data c] ["// <auto-generated>",
      "// Generated by dacgen. Changes to this file are overwritten.",
      "// </auto-generated>",
      "using System;",
      "using System.Collections.Generic;",
      "using System.Threading.Tasks;"] none _ :=
    .cons (.ofList rfl) <| .cons (.ofList rfl) <| .cons (.ofList rfl) <|
      .cons (.ofList rfl) <| .cons (.ofList rfl) <| .cons (.ofList rfl) .nil
  have hhead := (shows_namespaceHead shows_accessNamespace).append (htype.append (.opening 4))
  exact hcomments.append shows_importLines |>.append hhead
    |>.append htransactions |>.append hmembers |>.appendPlain shows_end

/-! The class. -/

theorem shows_lines (k : Action) :
    ShowsLines c.keywords 0 [m.data c] k.lines
      ((m.accessorsOf k).findSome? fun a => Declaration.methodFault c ⟨a, k⟩)
      ((m.accessorsOf k).flatMap fun a => Declaration.methodCode c m ⟨a, k⟩) := by
  cases k with
  | getOne => exact shows_getOneLines
  | getMany => exact shows_getManyLines
  | save => exact shows_saveNonQueryLines
  | saveIdentity => exact shows_saveScalarLines
  | deleteOne => exact shows_deleteLines (k := .deleteOne) (Or.inl rfl)
  | deleteMany => exact shows_deleteLines (k := .deleteMany) (Or.inr rfl)

theorem shows_connectionLines :
    ShowsLines c.keywords 0 [m.data c] connectionLines none c.connectionCode := by
  have hversion : ShowsLines c.keywords 0 [m.data c]
      [indent 8 ("public const string HelperVersion = \"" ++ tag "HelperVersion" ++ "\";")] none
      [indent 8 ("public const string HelperVersion = \"" ++ helperVersion ++ "\";")] :=
    .code ((shows_helperVersion.before (.ofList rfl)).after (.ofList rfl)) (e := 'p')
      (by simp) (by decide)
  have hconstructor : ShowsLines c.keywords 0 [m.data c]
      [indent 8 ("public " ++ tag "DataAccessClassName" ++ "(string connectionString)")] none
      [indent 8 ("public " ++ c.className ++ "(string connectionString)")] :=
    .code ((shows_className.before (.ofList rfl)).after (.ofList rfl)) (e := 'p')
      (by simp) (by decide)
  have hfield : ShowsLines c.keywords 0 [m.data c]
      ["", indent 8 "private readonly DbHelperFactory _db;", ""] none
      ["", indent 8 "private readonly DbHelperFactory _db;", ""] :=
    ShowsLines.blank.append (.text 8 (.ofList rfl)) |>.append .blank
  have hblock (body : String) (hbody : IsText body) : ShowsLines c.keywords 0 [m.data c]
      [indent 8 opening, indent 12 body, indent 8 closing] none
      [indent 8 opening, indent 12 body, indent 8 closing] :=
    (ShowsLines.opening 8).append (.text 12 hbody) |>.append (.closing 8)
  have hbegin : ShowsLines c.keywords 0 [m.data c] ["", indent 8 "public void BeginTransaction()"]
      none ["", indent 8 "public void BeginTransaction()"] :=
    ShowsLines.blank.append (.text 8 (.ofList rfl))
  have hend : ShowsLines c.keywords 0 [m.data c]
      ["", indent 8 "public void EndTransaction(bool commit = true)"] none
      ["", indent 8 "public void EndTransaction(bool commit = true)"] :=
    ShowsLines.blank.append (.text 8 (.ofList rfl))
  exact hversion.append hfield |>.append hconstructor
    |>.append (hblock "_db = new DbHelperFactory(connectionString);" (.ofList rfl))
    |>.append hbegin |>.append (hblock "_db.BeginTransaction();" (.ofList rfl))
    |>.append hend |>.append (hblock "_db.EndConnection(commit);" (.ofList rfl))

instance : Nonempty Schema.Parameter := ⟨⟨"", ""⟩⟩

instance : Nonempty Routine := ⟨⟨.procedure, "", []⟩⟩

section Routines

variable {i : Nat} {scope : Scope} (r : Routine)

theorem shows_parameter (p : Schema.Parameter) :
    Shows c.keywords i (.record [("Name", .text p.name), ("SqlType", .text p.sqlType)] :: scope)
      (shortName ++ " " ++ tag "SqlType|ShortName") none
      (SqlName.short p.name ++ " " ++ SqlName.short p.sqlType) := by
  have hname : Shows c.keywords i
      (.record [("Name", .text p.name), ("SqlType", .text p.sqlType)] :: scope) shortName none
      (SqlName.short p.name) :=
    .field "Name" [⟨"ShortName", none⟩] isValue_shortName (Scope.lookup_record (by simp) rfl _)
      rfl rfl
  have htype : Shows c.keywords i
      (.record [("Name", .text p.name), ("SqlType", .text p.sqlType)] :: scope)
      (tag "SqlType|ShortName") none (SqlName.short p.sqlType) :=
    .field "SqlType" [⟨"ShortName", none⟩] (isValue_of_mem (by simp [keywordTags]))
      (Scope.lookup_record (by simp) rfl _) rfl rfl
  exact (hname.after (.ofList rfl)).append htype

theorem lookup_routineName : Scope.lookup (routineData r :: scope) "Name" = some (.text r.name) :=
  Scope.lookup_record (by simp) rfl scope

theorem shows_routineName : Shows c.keywords i (routineData r :: scope) (tag "Name") none r.name :=
  .name (.ofList rfl) (lookup_routineName r)

theorem shows_routineComment :
    ShowsLines c.keywords i (routineData r :: scope)
      [indent 12 ("// " ++ tag "Name" ++ "(" ++
        within "Params" (separator ", " ++ shortName ++ " " ++ tag "SqlType|ShortName") ++ ")")]
      none
      [indent 12 ("// " ++ r.name ++ "(" ++
        ", ".intercalate (r.params.map fun p =>
          SqlName.short p.name ++ " " ++ SqlName.short p.sqlType) ++ ")")] := by
  have hparams : Shows c.keywords i (routineData r :: scope)
      (within "Params" (separator ", " ++ shortName ++ " " ++ tag "SqlType|ShortName")) none
      (", ".intercalate (r.params.map fun p =>
        SqlName.short p.name ++ " " ++ SqlName.short p.sqlType)) :=
    .plain <| .list (.ofList rfl) isValue_comma (Scope.lookup_record (by simp) rfl _)
      (fun _ p => shows_parameter p) (by simp only [String.append_assoc])
  exact .code ((shows_routineName r).before (.ofList rfl) |>.after (.ofList rfl)
    |>.append hparams |>.after (.ofList rfl)) (e := '/') (by simp) (by decide)

theorem shows_routineConstant :
    ShowsLines c.keywords i (routineData r :: scope)
      [indent 12 ("public const string " ++ tag "Name|Sanitize" ++ " = \"" ++ tag "Name" ++ "\";")]
      none
      [indent 12 ("public const string " ++ SqlName.bare r.name ++ " = \"" ++ r.name ++
        "\";")] := by
  have hbare : Shows c.keywords i (routineData r :: scope) (tag "Name|Sanitize") none
      (SqlName.bare r.name) :=
    .field "Name" [⟨"Sanitize", none⟩] (isValue_of_mem (by simp [keywordTags]))
      (lookup_routineName r) rfl rfl
  exact .code ((hbare.before (.ofList rfl)).after (.ofList rfl)
    |>.append (shows_routineName r) |>.after (.ofList rfl)) (e := 'p') (by simp)
    (by decide)

theorem shows_routineLines {name path : String} {rs : List Routine} (hname : IsText name)
    (hpath : IsPath path) (hlookup : Scope.lookup [m.data c] path = some (routineList rs)) :
    ShowsLines c.keywords 0 [m.data c] (routineLines name path) none
      (routineClassCode name rs) := by
  have hhead : ShowsLines c.keywords 0 [m.data c]
      ["", indent 8 ("public static class " ++ name), indent 8 opening] none
      ["", indent 8 ("public static class " ++ name), indent 8 opening] :=
    ShowsLines.blank.append (.code ((Shows.text hname).before (.ofList rfl)) (e := 'p')
      (by simp) (by decide)) |>.append (.opening 8)
  have hroutines := ShowsLines.plain <| ShowsLines.each (i := 0) hpath hlookup fun _ r =>
    (shows_routineComment r).append (shows_routineConstant (c := c) r)
  exact hhead.append hroutines |>.append (.closing 8)

end Routines

theorem classLines_eq : classLines = classHeaderLines ++
    ["", "namespace " ++ tag "DalNamespace", opening,
      indent 4 (tag "ClassAccess" ++ " partial class " ++ tag "DataAccessClassName" ++ " : I" ++
        tag "DataAccessClassName"), indent 4 opening] ++
    connectionLines ++ Action.all.flatMap Action.lines ++
    (routineLines "StoredProcedures" "Sps" ++
      routineLines "ScalarFunctions" "ScalarFunctions" ++
      routineLines "InlineTableFunctions" "InlineTableFunctions" ++
      routineLines "TableFunctions" "TableFunctions") ++
    [indent 4 closing, closing] := by
  simp only [classLines, Action.all, List.flatMap_cons, List.flatMap_nil, Action.lines,
    Action.path, Action.source, List.append_assoc, List.append_nil, List.cons_append,
    List.nil_append]

theorem shows_classHeaderLines :
    ShowsLines c.keywords 0 [m.data c] classHeaderLines none c.classHeader := by
  have hversion : ShowsLines c.keywords 0 [m.data c]
      ["// Generated by dacgen. Requires the data-access helper runtime " ++ tag "HelperVersion" ++
        " or later."] none
      ["// Generated by dacgen. Requires the data-access helper runtime " ++ helperVersion ++
        " or later."] :=
    .line ((shows_helperVersion.before (.ofList rfl)).after (.ofList rfl))
      (isPlain_of_head (c := '/') (by simp) (by decide))
  have hfirst : ShowsLines c.keywords 0 [m.data c] ["// <auto-generated>"] none
      ["// <auto-generated>"] := .cons (.ofList rfl) .nil
  have hrest : ShowsLines c.keywords 0 [m.data c] ["// Changes to this file are overwritten.",
      "// </auto-generated>",
      "using System;",
      "using System.Collections.Generic;",
      "using System.Linq;",
      "using System.Threading.Tasks;",
      "using CpsDbHelper;",
      "using CpsDbHelper.Extensions;",
      "using CpsDbHelper.Utils;"] none _ :=
    .cons (.ofList rfl) <| .cons (.ofList rfl) <| .cons (.ofList rfl) <|
      .cons (.ofList rfl) <| .cons (.ofList rfl) <| .cons (.ofList rfl) <|
      .cons (.ofList rfl) <| .cons (.ofList rfl) <| .cons (.ofList rfl) .nil
  have h := (hfirst.append hversion |>.append hrest).append shows_importLines
  rw [← List.append_assoc] at h
  exact h

theorem shows_classLines :
    ShowsLines c.keywords 0 [m.data c] classLines (m.declarations.findSome? (·.methodFault c))
      (m.classCode c) := by
  have htype : ShowsLines c.keywords 0 [m.data c]
      [indent 4 (tag "ClassAccess" ++ " partial class " ++ tag "DataAccessClassName" ++ " : I" ++
        tag "DataAccessClassName")] none
      [indent 4 (c.classAccess ++ " partial class " ++ c.className ++ " : I" ++ c.className)] := by
    have haccess : Shows c.keywords 0 [m.data c] (tag "ClassAccess") none c.classAccess :=
      .name (.ofList rfl) (Scope.lookup_record (by simp) rfl [])
    exact .line ((haccess.after (.ofList rfl)).append shows_className
      |>.after (.ofList rfl) |>.append shows_className |>.indent 4)
      (isPlain_indent 4 (isPlain_of_tag (c := 'C') (by simp [tag]; rfl) (by decide) (by decide)))
  have hmethods : ShowsLines c.keywords 0 [m.data c] (Action.all.flatMap Action.lines)
      (m.declarations.findSome? (·.methodFault c)) (m.declarations.flatMap (·.methodCode c m)) :=
    shows_actions shows_lines
  have hroutines : ShowsLines c.keywords 0 [m.data c]
      (routineLines "StoredProcedures" "Sps" ++
        routineLines "ScalarFunctions" "ScalarFunctions" ++
        routineLines "InlineTableFunctions" "InlineTableFunctions" ++
        routineLines "TableFunctions" "TableFunctions") none m.routineCode :=
    (shows_routineLines (.ofList rfl) (.ofList rfl)
        (Scope.lookup_record (by simp) rfl [])).append
      (shows_routineLines (.ofList rfl) (.ofList rfl)
        (Scope.lookup_record (by simp) rfl []))
      |>.append (shows_routineLines (.ofList rfl) (.ofList rfl)
        (Scope.lookup_record (by simp) rfl []))
      |>.append (shows_routineLines (.ofList rfl) (.ofList rfl)
        (Scope.lookup_record (by simp) rfl []))
  have hhead := (shows_namespaceHead shows_accessNamespace).append (htype.append (.opening 4))
  rw [classLines_eq]
  exact shows_classHeaderLines.append hhead |>.append shows_connectionLines |>.append hmethods
    |>.appendPlain hroutines |>.appendPlain shows_end

end Files

end Template

/-! The texts of the files. -/

theorem interfaceText_eq (c : Config) (m : Model) :
    c.renderer.interfaceText c m =
      fileText ("I" ++ c.className) (m.declarations.findSome? (·.signatureFault c))
        (m.interfaceCode c) :=
  text_eq_fileText shows_interfaceLines ("I" ++ c.className)

theorem classText_eq (c : Config) (m : Model) :
    c.renderer.classText c m =
      fileText c.className (m.declarations.findSome? (·.methodFault c)) (m.classCode c) :=
  text_eq_fileText shows_classLines c.className

/-- A fault in a signature is also one of its method. -/
theorem findSome?_signatureFault {c : Config} {ds : List Declaration}
    (h : ds.findSome? (·.methodFault c) = none) : ds.findSome? (·.signatureFault c) = none := by
  rw [List.findSome?_eq_none_iff] at h ⊢
  intro d hd
  exact (Option.or_eq_none_iff.mp (h d hd)).1

/-- Both files are rendered unless a method has a fault, and then the class is not. -/
theorem aggregateTexts_eq (c : Config) (m : Model) :
    c.renderer.aggregateTexts c m =
      match m.declarations.findSome? (·.methodFault c) with
      | none => .ok (ofLines (m.classCode c), ofLines (m.interfaceCode c))
      | some e => .error ⟨c.className, e⟩ := by
  unfold Renderer.aggregateTexts
  rw [classText_eq, interfaceText_eq]
  cases h : m.declarations.findSome? (·.methodFault c) with
  | none =>
    rw [findSome?_signatureFault h]
    rfl
  | some e => rfl

theorem eq_of_aggregateTexts {c : Config} {m : Model} {texts : String × String}
    (h : c.renderer.aggregateTexts c m = .ok texts) :
    texts = (ofLines (m.classCode c), ofLines (m.interfaceCode c)) := by
  rw [aggregateTexts_eq] at h
  cases hfault : m.declarations.findSome? (·.methodFault c) with
  | none =>
    rw [hfault] at h
    exact (Except.ok.inj h).symm
  | some e =>
    rw [hfault] at h
    cases h

/-! How many methods there are. -/

theorem length_unique_add_multiple (m : Model) :
    m.uniqueAccessors.length + m.multipleAccessors.length = m.accessors.length := by
  unfold Model.uniqueAccessors Model.multipleAccessors
  induction m.accessors with
  | nil => rfl
  | cons a as ih => cases h : a.unique <;> simp [h] <;> omega

theorem length_nonQuery_add_scalar (m : Model) :
    m.nonQueryAccessors.length + m.scalarAccessors.length =
      (m.accessors.filter fun a => a.unique || !a.identityColumns.isEmpty).length := by
  unfold Model.nonQueryAccessors Model.scalarAccessors
  induction m.accessors with
  | nil => rfl
  | cons a as ih =>
    cases h : a.unique <;> cases h' : a.identityColumns.isEmpty <;> simp [h, h'] <;> omega

theorem length_declarations (m : Model) :
    m.declarations.length = 2 * m.accessors.length +
      (m.accessors.filter fun a => a.unique || !a.identityColumns.isEmpty).length := by
  rw [← length_unique_add_multiple, ← length_nonQuery_add_scalar]
  simp only [Model.declarations, Action.all, List.flatMap_cons, List.flatMap_nil,
    List.length_append, List.length_map, List.length_nil, Model.accessorsOf]
  omega

/-- The class has a method for every declaration of its interface, in the same order: a get, a save
if one is possible and a delete for every accessor. The text of a method after `public` is the
declaration, with the mark of asynchronous methods in front where its verb is asynchronous. -/
theorem class_implements_interface (c : Config) (m : Model) :
    m.declarations =
      (m.accessors.filter (·.unique)).map (⟨·, .getOne⟩) ++
      (m.accessors.filter (!·.unique)).map (⟨·, .getMany⟩) ++
      (m.accessors.filter fun a => a.unique && a.identityColumns.isEmpty).map (⟨·, .save⟩) ++
      (m.accessors.filter (!·.identityColumns.isEmpty)).map (⟨·, .saveIdentity⟩) ++
      (m.accessors.filter (·.unique)).map (⟨·, .deleteOne⟩) ++
      (m.accessors.filter (!·.unique)).map (⟨·, .deleteMany⟩) ∧
    m.declarations.length = 2 * m.accessors.length +
      (m.accessors.filter fun a => a.unique || !a.identityColumns.isEmpty).length ∧
    ∀ classText interfaceText,
      c.renderer.aggregateTexts c m = .ok (classText, interfaceText) →
      interfaceText = ofLines (c.interfaceHead ++
        [indent 8 "void BeginTransaction();",
          indent 8 "void EndTransaction(bool commit = true);"] ++
        m.declarations.map (fun d => indent 8 (d.signature c m ++ ";")) ++
        [indent 4 closing, closing]) ∧
      classText = ofLines (c.classHead ++ c.connectionCode ++
        m.declarations.flatMap (fun d =>
          ["", indent 8 ("public " ++ ((if d.isAsync then "async " else "") ++ d.signature c m)),
            indent 8 opening] ++ d.body c m ++ [indent 8 closing]) ++
        m.routineCode ++ [indent 4 closing, closing]) := by
  refine ⟨?_, length_declarations m, fun classText interfaceText h => ?_⟩
  · simp [Model.declarations, Action.all, Model.accessorsOf, Model.uniqueAccessors,
      Model.multipleAccessors, Model.nonQueryAccessors, Model.scalarAccessors]
  · rw [aggregateTexts_eq] at h
    cases hfault : m.declarations.findSome? (·.methodFault c) with
    | some e => rw [hfault] at h; contradiction
    | none =>
      rw [hfault] at h
      obtain ⟨rfl, rfl⟩ : ofLines (m.classCode c) = classText ∧
          ofLines (m.interfaceCode c) = interfaceText := by simpa using h
      exact ⟨rfl, rfl⟩

/-- The key column of a table of orders. -/
def Property.orderId : Property :=
  ⟨"[dbo].[Order].[Id]", "[int]", ⟨.integer, "int"⟩, false, true, none, []⟩

/-- A model whose rows are read asynchronously, by a key that is their identity. -/
def Model.orders : Model where
  entities := []
  accessors := [{
    kind := .primaryKey
    key := "[dbo].[PK_Order]"
    table := "[dbo].[Order]"
    entity := "Order"
    params := [.orderId]
    columns := []
    identityColumns := [.orderId]
    unique := true
    asyncs := ⟨true, false, false⟩
    foreigns := [] }]
  routines := []

/-- The interface to orders has a declaration for each of the three methods. -/
theorem class_implements_interface_orders :
    ∃ classText interfaceText,
      Config.bare.renderer.aggregateTexts Config.bare .orders = .ok (classText, interfaceText) ∧
      interfaceText = ofLines (Config.bare.interfaceHead ++
        [indent 8 "void BeginTransaction();",
          indent 8 "void EndTransaction(bool commit = true);",
          indent 8 "Task<Order> GetOrderByIdAsync(int id);",
          indent 8 "int? SaveOrderById(Order order);",
          indent 8 "void DeleteOrderById(int id);",
          indent 4 closing, closing]) := by
  obtain ⟨hsignatures, hfault⟩ :
      Model.orders.declarations.map (·.signature Config.bare .orders) =
        ["Task<Order> GetOrderByIdAsync(int id)", "int? SaveOrderById(Order order)",
          "void DeleteOrderById(int id)"] ∧
      Model.orders.declarations.findSome? (·.methodFault Config.bare) = none := by
    decide +kernel
  have hlines : (Model.orders.declarations.map fun d =>
      indent 8 (d.signature Config.bare .orders ++ ";")) =
        (Model.orders.declarations.map (·.signature Config.bare .orders)).map fun s =>
          indent 8 (s ++ ";") := by
    rw [List.map_map]
    rfl
  obtain ⟨-, -, htexts⟩ := class_implements_interface Config.bare .orders
  have hok := aggregateTexts_eq Config.bare .orders
  rw [hfault] at hok
  refine ⟨_, _, hok, ?_⟩
  have hinterface := (htexts _ _ hok).1
  rw [hlines, hsignatures] at hinterface
  simpa using hinterface

end DataLayer
