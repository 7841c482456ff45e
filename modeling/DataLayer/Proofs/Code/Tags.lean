import DataLayer.Proofs.Code.Lines

/-!
What the tags of the templates show: fields of the data as they are, their short names, plurals and
types. Only the tags of a type and of a cast can have a fault.
-/

namespace DataLayer

open Template Code

/-! Fields in scope. -/

theorem Scope.lookup_of_notMem {name : String} (h : '.' ∉ name.toList) (scope : Scope) :
    scope.lookup name = scope.findSome? (·.field? name) := by
  have hdot : (name == ".") = false := by
    refine beq_false_of_ne fun heq => h ?_
    simp [heq]
  have hsplit : Text.splitAt '.' name.toList = [name.toList] :=
    Text.splitScan_of_notMem (by simp) h ()
  unfold Scope.lookup
  rw [hdot, hsplit]
  simp [Data.follow]

/-- The fields of the innermost record come first. -/
theorem Scope.lookup_record {name : String} {fields : List (String × Data)} {value : Data}
    (hname : '.' ∉ name.toList) (hvalue : fields.lookup name = some value) (scope : Scope) :
    Scope.lookup (.record fields :: scope) name = some value := by
  simp [Scope.lookup_of_notMem hname, Data.field?, hvalue]

/-- A name that the innermost record does not have is looked up further out. -/
theorem Scope.lookup_record_of_none {name : String} {fields : List (String × Data)}
    (hname : '.' ∉ name.toList) (hfields : fields.lookup name = none) (scope : Scope) :
    Scope.lookup (.record fields :: scope) name = scope.lookup name := by
  simp [Scope.lookup_of_notMem hname, Data.field?, hfields]

/-- The innermost value. -/
theorem Scope.lookup_dot (value : Data) (scope : Scope) :
    Scope.lookup (value :: scope) "." = some value := rfl

/-! Types of properties in generated code. -/

namespace Config

/-- The type of a property in generated code. -/
def typeOf (c : Config) (p : Property) : PropertyType :=
  SqlType.resolve c.overrides.enums p.sqlType p.nullable (some p.name)

/-- A property without a type is a fault wherever its type is written. -/
def typeFault (c : Config) (p : Property) : Option TemplateError :=
  if (c.typeOf p).isUnknown then some (.unmappedType p.name p.sqlType) else none

/-- Whether the type of a property is an enumeration that the configuration declares. -/
def isEnum (c : Config) (p : Property) : Bool := (SqlType.enumType? c.overrides.enums p.name).isSome

/-- The cast in front of a value of an enumeration. -/
def castOf (c : Config) (p : Property) : String :=
  if c.isEnum p then "(" ++ (SqlType.map p.sqlType p.nullable).name ++ ")" else ""

/-- An enumeration over a column type without a type is a fault wherever the cast is written. -/
def castFault (c : Config) (p : Property) : Option TemplateError :=
  if c.isEnum p && (SqlType.map p.sqlType p.nullable).isUnknown then
    some (.unmappedType p.name p.sqlType)
  else none

def plural (c : Config) (name : String) : String := Keyword.pluralOf c.overrides.plurals name

end Config

/-- The column that a property refers to, by its last part. -/
def Property.foreignShortName (p : Property) : String := SqlName.short (p.foreignName.getD "")

instance : Nonempty Property := ⟨⟨"", "", .unmapped, false, false, none, []⟩⟩

instance : Nonempty Accessor :=
  ⟨⟨.primaryKey, "", "", "", [], [], [], false, ⟨false, false, false⟩, []⟩⟩

namespace Template

/-! Chains of keywords. A text that goes through them stays a text. -/

/-- Sends a text through keywords, where `position` separators of the tag come before. -/
def runTextsAt (keywords : Keywords) (scope : Scope) : Nat → List Pipe → String → Rendering
  | _, [], text => .ok text
  | position, p :: rest, text =>
    match keywords.get? p.keyword with
    | none => .error (.unknownKeyword p.keyword)
    | some k => do
      let text ← k.textAt (0 < position) p.argument scope text
      runTextsAt keywords scope (if p.isJoin then position + 1 else position) rest text

theorem Tag.renderAt_of_start {t : Tag} {scope : Scope} (text : String)
    (h : (t.start scope).scalarText? = some text) (keywords : Keywords) (i : Nat) :
    t.renderAt keywords i scope =
      runTextsAt keywords scope (i * joins t.pipes) t.pipes text := by
  unfold Tag.renderAt
  -- Induction on the keywords, over all values and positions that the earlier ones may leave.
  generalize t.start scope = value at h
  generalize i * joins t.pipes = position
  generalize t.path.getD "" = path
  induction t.pipes generalizing value text position with
  | nil => simp [runPipesAt, runTextsAt, bind, Except.bind, h, pure, Except.pure]
  | cons p rest ih =>
    unfold runPipesAt runTextsAt
    cases hk : keywords.get? p.keyword with
    | none => rfl
    | some k =>
      simp only [Keyword.applyAt, h]
      cases k.textAt (0 < position) p.argument scope text with
      | error e => rfl
      | ok text' => exact ih _ _ rfl _

/-- A tag shows what its keywords make of the field that it names. -/
theorem Shows.field {keywords : Keywords} {i : Nat} {scope : Scope} {content : String}
    (path : String) (pipes : List Pipe) {value : Data} {start text : String}
    {fault : Option TemplateError}
    (h : IsValue content (some path) pipes) (hlookup : scope.lookup path = some value)
    (hstart : value.scalarText? = some start)
    (htext : runTextsAt keywords scope (i * joins pipes) pipes start = checked fault text) :
    Shows keywords i scope (tag content) fault text := by
  refine .value h ?_
  rw [Tag.renderAt_of_start start, htext]
  simp [Tag.start, hlookup, hstart]

section Scopes

variable {c : Config} {i : Nat} {scope : Scope}

/-- A tag that only names a field shows its text. -/
theorem Shows.name {name text : String} (h : IsPath name)
    (hlookup : scope.lookup name = some (.text text)) :
    Shows c.keywords i scope (tag name) none text :=
  .field name [] h.isValue hlookup rfl rfl

theorem Shows.separator {sep : String}
    (h : IsValue ("Join(\"" ++ sep ++ "\")") none [⟨"Join", some sep⟩]) :
    Shows c.keywords i scope (Code.separator sep) none (if i = 0 then "" else sep) := by
  refine .value h ?_
  rw [Tag.renderAt_of_start "" rfl]
  have hget : c.keywords.get? "Join" = some .join := rfl
  cases i with
  | zero => simp [runTextsAt, hget, Keyword.textAt]; rfl
  | succ i => simp [runTextsAt, hget, Keyword.textAt, joins, Pipe.isJoin]; rfl

/-- A list of items with a separator between them. -/
theorem Shows.list {α : Type} [Nonempty α] {xs : List α} {data : α → Data}
    {sep path body rest : String} {fault : α → Option TemplateError} {text : α → String}
    (hpath : IsPath path)
    (hsep : IsValue ("Join(\"" ++ sep ++ "\")") none [⟨"Join", some sep⟩])
    (hlookup : scope.lookup path = some (.list (xs.map data)))
    (h : ∀ j x, Shows c.keywords j (data x :: scope) rest (fault x) (text x))
    (hbody : body = Code.separator sep ++ rest) :
    Shows c.keywords i scope (within path body) (xs.findSome? fault)
      (sep.intercalate (xs.map text)) := by
  refine .separated hpath hlookup fun j x => ?_
  rw [hbody]
  have hboth := (Shows.separator hsep).append (h j x)
  rw [Option.none_or] at hboth
  split
  · next hj => simpa [hj] using hboth
  · next hj => simpa [hj] using hboth

end Scopes

theorem isValue_shortName : IsValue "Name|ShortName" (some "Name") [⟨"ShortName", none⟩] :=
  isValue_of_mem (by simp [keywordTags])

theorem isValue_comma : IsValue "Join(\", \")" none [⟨"Join", some ", "⟩] :=
  isValue_of_mem (by simp [keywordTags])

/-! Texts, and the imports that a configuration asks for. -/

section Texts

variable {c : Config} {i : Nat} {scope : Scope}

theorem shows_dot (text : String) : Shows c.keywords i (.text text :: scope) (tag ".") none text :=
  .name (.ofList rfl) (Scope.lookup_dot (.text text) scope)

theorem shows_usingLines (h : scope.lookup "Usings" = some (.texts c.usings)) :
    ShowsLines c.keywords i scope usingLines none
      (c.usings.map fun name => "using " ++ name ++ ";") :=
  .plain <| .eachLine (.ofList rfl) h
    (fun _ name => ((shows_dot name).before (.ofList rfl)).after (.ofList rfl))
    (isPlain_of_head (c := 'u') (by simp) (by decide))

/-- The lines that open the namespace of a file. -/
theorem shows_namespaceHead {path name : String}
    (h : Shows c.keywords i scope (tag path) none name) :
    ShowsLines c.keywords i scope ["", "namespace " ++ tag path, opening] none
      ["", "namespace " ++ name, opening] := by
  have hopening : ShowsLines c.keywords i scope [indent 0 opening] _ _ := .opening 0
  rw [indent_zero] at hopening
  exact ShowsLines.blank.append (.line (h.before (.ofList rfl))
    (isPlain_of_head (c := 'n') (by simp) (by decide))) |>.append hopening

/-- The braces that close the type and the namespace of a file. -/
theorem shows_end : ShowsLines c.keywords i scope [indent 4 closing, closing] none
    [indent 4 closing, closing] := by
  have hclosing : ShowsLines c.keywords i scope [indent 0 closing] _ _ := .closing 0
  rw [indent_zero] at hclosing
  exact (ShowsLines.closing 4).append hclosing

end Texts

/-! Properties. -/

section Properties

variable {c : Config} {i : Nat} {scope : Scope} (p : Property)

theorem lookup_name : Scope.lookup (p.data :: scope) "Name" = some (.text p.name) :=
  Scope.lookup_record (by simp) rfl scope

theorem lookup_sqlType : Scope.lookup (p.data :: scope) "SqlType" = some (.text p.sqlType) :=
  Scope.lookup_record (by simp) rfl scope

theorem lookup_nullable : Scope.lookup (p.data :: scope) "Nullable" = some (.flag p.nullable) :=
  Scope.lookup_record (by simp) rfl scope

theorem column?_property :
    Keyword.column? ⟨some "Name", 0, 0, p.data :: scope⟩ = some p.name := by
  simp [Keyword.column?, lookup_name, Data.text?]

theorem flagInScope?_property :
    Keyword.flagInScope? (p.data :: scope) "Nullable" = some p.nullable := by
  simp [Keyword.flagInScope?, lookup_nullable, Data.flag?]

theorem typeText_property :
    Keyword.typeText c.overrides.enums ⟨some "Name", 0, 0, p.data :: scope⟩ p.sqlType =
      checked (c.typeFault p) (c.typeOf p).name := by
  simp only [Keyword.typeText, column?_property, flagInScope?_property, Option.getD_some,
    Config.typeFault, Config.typeOf]
  split <;> simp_all [checked]

theorem castText_property :
    Keyword.castText c.overrides.enums ⟨some "Name", 0, 0, p.data :: scope⟩ p.sqlType =
      checked (c.castFault p) (c.castOf p) := by
  simp only [Keyword.castText, column?_property, flagInScope?_property, Option.getD_some,
    Config.castFault, Config.castOf, Config.isEnum]
  rcases Option.eq_none_or_eq_some (SqlType.enumType? c.overrides.enums p.name) with
    henum | ⟨e, henum⟩
  · simp [checked, henum]
  · by_cases htype : (SqlType.map p.sqlType p.nullable).isUnknown <;>
      simp [checked, henum, htype]

/-- The type of a property is written as it is resolved, or not at all. -/
theorem shows_typeName :
    Shows c.keywords i (p.data :: scope) typeName (c.typeFault p) (c.typeOf p).name := by
  refine .field "SqlType" [⟨"Type", some "Name"⟩]
    (isValue_of_mem (by simp [keywordTags])) (lookup_sqlType p) rfl ?_
  have hget : c.keywords.get? "Type" = some (.type c.overrides.enums) := rfl
  simp only [runTextsAt, hget, Keyword.textAt, typeText_property]
  exact bind_pure _

theorem shows_enumCast :
    Shows c.keywords i (p.data :: scope) (tag "SqlType|EnumCast(\"Name\")") (c.castFault p)
      (c.castOf p) := by
  refine .field "SqlType" [⟨"EnumCast", some "Name"⟩]
    (isValue_of_mem (by simp [keywordTags])) (lookup_sqlType p) rfl ?_
  have hget : c.keywords.get? "EnumCast" = some (.enumCast c.overrides.enums) := rfl
  simp only [runTextsAt, hget, Keyword.textAt, castText_property]
  exact bind_pure _

theorem shows_shortName : Shows c.keywords i (p.data :: scope) shortName none p.shortName :=
  .field "Name" [⟨"ShortName", none⟩] isValue_shortName (lookup_name p) rfl rfl

theorem shows_variable :
    Shows c.keywords i (p.data :: scope) (tag "Name|ShortName|FirstLower") none
      (Text.firstLower p.shortName) :=
  .field "Name" [⟨"ShortName", none⟩, ⟨"FirstLower", none⟩]
    (isValue_of_mem (by simp [keywordTags])) (lookup_name p) rfl rfl

theorem shows_andShortName :
    Shows c.keywords i (p.data :: scope) (tag "Name|ShortName|Join(\"And\")") none
      (if i = 0 then p.shortName else "And" ++ p.shortName) := by
  refine .field "Name" [⟨"ShortName", none⟩, ⟨"Join", some "And"⟩]
    (isValue_of_mem (by simp [keywordTags])) (lookup_name p) rfl ?_
  have hget : c.keywords.get? "ShortName" = some .shortName := rfl
  have hget' : c.keywords.get? "Join" = some .join := rfl
  cases i <;> simp [runTextsAt, hget, hget', Keyword.textAt, joins, Pipe.isJoin] <;> rfl

theorem shows_storage :
    Shows c.keywords i (p.data :: scope) (tag "SqlType|StorageKind|FirstUpper") none
      (Text.firstUpper (SqlType.storage p.sqlType)) :=
  .field "SqlType" [⟨"StorageKind", none⟩, ⟨"FirstUpper", none⟩]
    (isValue_of_mem (by simp [keywordTags])) (lookup_sqlType p) rfl rfl

theorem shows_foreignName :
    Shows c.keywords i (p.data :: scope) (tag "ForeignName|ShortName") none p.foreignShortName := by
  have hlookup : Scope.lookup (p.data :: scope) "ForeignName" =
      some (Data.optionalText p.foreignName) := Scope.lookup_record (by simp) rfl scope
  have hstart : (Data.optionalText p.foreignName).scalarText? = some (p.foreignName.getD "") := by
    cases p.foreignName <;> rfl
  exact .field "ForeignName" [⟨"ShortName", none⟩]
    (isValue_of_mem (by simp [keywordTags])) hlookup hstart rfl

end Properties

/-! Accessors. -/

section Accessors

variable {c : Config} {i : Nat} {scope : Scope} (a : Accessor) (foreigns : List Data)

theorem lookup_entityName :
    Scope.lookup (a.dataWith foreigns :: scope) "EntityName" = some (.text a.entity) :=
  Scope.lookup_record (by simp) rfl scope

theorem shows_entityName :
    Shows c.keywords i (a.dataWith foreigns :: scope) entityName none a.entity :=
  .name (.ofList rfl) (lookup_entityName a foreigns)

theorem shows_pluralName :
    Shows c.keywords i (a.dataWith foreigns :: scope) pluralName none (c.plural a.entity) :=
  .field "EntityName" [⟨"Plural", none⟩] (isValue_of_mem (by simp [keywordTags]))
    (lookup_entityName a foreigns) rfl rfl

theorem shows_entityVariable :
    Shows c.keywords i (a.dataWith foreigns :: scope) entityVariable none
      (Text.firstLower a.entity) :=
  .field "EntityName" [⟨"FirstLower", none⟩] (isValue_of_mem (by simp [keywordTags]))
    (lookup_entityName a foreigns) rfl rfl

/-- The variable of an entity also within the sections of its properties. -/
theorem shows_entityVariable_property (p : Property) :
    Shows c.keywords i (p.data :: a.dataWith foreigns :: scope) entityVariable none
      (Text.firstLower a.entity) := by
  have hlookup : Scope.lookup (p.data :: a.dataWith foreigns :: scope) "EntityName" =
      some (.text a.entity) :=
    (Scope.lookup_record_of_none (by simp) rfl _).trans (lookup_entityName a foreigns)
  exact .field "EntityName" [⟨"FirstLower", none⟩]
    (isValue_of_mem (by simp [keywordTags])) hlookup rfl rfl

theorem shows_tableName :
    Shows c.keywords i (a.dataWith foreigns :: scope) (tag "TableName") none a.table :=
  .name (.ofList rfl) (Scope.lookup_record (by simp) rfl scope)

end Accessors

end Template

end DataLayer
