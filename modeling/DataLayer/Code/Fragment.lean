/-!
Template sources in pieces: tags, sections, and the signatures that the data access class and its
interface have in common.
-/

namespace DataLayer.Code

def tag (content : String) : String := "\x7b\x7b" ++ content ++ "\x7d\x7d"

/-- A section, on one line. -/
def within (path body : String) : String := tag ("#" ++ path) ++ body ++ tag ("/" ++ path)

/-- A section that shows its content where `within` hides it. -/
def without (path body : String) : String := tag ("^" ++ path) ++ body ++ tag ("/" ++ path)

/-- Lines with their line ends. -/
def ofLines (lines : List String) : String := String.join (lines.map (· ++ "\n"))

/-- A section whose tags stand on lines of their own. -/
def blockLines (path : String) (lines : List String) : List String :=
  tag ("#" ++ path) :: lines ++ [tag ("/" ++ path)]

def entityName : String := tag "EntityName"

def pluralName : String := tag "EntityName|Plural"

def entityVariable : String := tag "EntityName|FirstLower"

def shortName : String := tag "Name|ShortName"

/-- What stands before every item but the first. -/
def separator (text : String) : String := tag ("Join(\"" ++ text ++ "\")")

def typeName : String := tag "SqlType|Type(\"Name\")"

/-- The parameters of an accessor as they are declared. -/
def paramList : String :=
  within "Params" (separator ", " ++ typeName ++ " " ++ tag "Name|ShortName|FirstLower")

/-- The columns of a key in the name of an accessor. -/
def byParams : String := "By" ++ within "Params" (tag "Name|ShortName|Join(\"And\")")

/-- The return type of a verb. The mark stands before it where the verb is asynchronous. -/
def returnType (flag mark asynchronous synchronous : String) : String :=
  within flag (mark ++ asynchronous) ++ without flag synchronous

def listType (item : String) : String := "IList<" ++ item ++ ">"

def taskType (result : String) : String := "Task<" ++ result ++ ">"

/-- The type of the identity that a saved row gets. -/
def identityType : String := within "IdentityColumns" (typeName ++ "?")

def getOne (mark : String) : String :=
  returnType "GetAsync" mark (taskType entityName) entityName ++ " Get" ++ entityName ++ byParams ++
    tag "GetAsync" ++ "(" ++ paramList ++
    within "Foreigns" (", bool include" ++ pluralName ++ " = false") ++ ")"

def getMany (mark : String) : String :=
  returnType "GetAsync" mark (taskType (listType entityName)) (listType entityName) ++ " Get" ++
    pluralName ++ byParams ++ tag "GetAsync" ++ "(" ++ paramList ++ ")"

/-- The name and the parameter of a save. -/
def save : String :=
  " Save" ++ entityName ++ byParams ++ tag "SaveAsync" ++ "(" ++ entityName ++ " " ++
    entityVariable ++ ")"

def saveNonQuery (mark : String) : String := returnType "SaveAsync" mark "Task" "void" ++ save

def saveScalar (mark : String) : String :=
  returnType "SaveAsync" mark (taskType identityType) identityType ++ save

/-- A delete, with the entity name in the number of the rows. -/
def delete (mark name : String) : String :=
  returnType "DeleteAsync" mark "Task" "void" ++ " Delete" ++ name ++ byParams ++
    tag "DeleteAsync" ++ "(" ++ paramList ++ ")"

def deleteOne (mark : String) : String := delete mark entityName

def deleteMany (mark : String) : String := delete mark pluralName

/-- An indented line. -/
def indent (n : Nat) (line : String) : String := String.ofList (List.replicate n ' ') ++ line

def opening : String := "\x7b"

def closing : String := "\x7d"

/-- The imports that a configuration asks for. -/
def usingLines : List String := blockLines "Usings" ["using " ++ tag "." ++ ";"]

/-- The import of the namespace of the entities, if they have one. -/
def namespaceLines : List String := blockLines "Namespace" ["using " ++ tag "Namespace" ++ ";"]

/-- An automatic property. -/
def autoProperty (type name : String) : String :=
  "public " ++ type ++ " " ++ name ++ " " ++ opening ++ " get; set; " ++ closing

end DataLayer.Code
