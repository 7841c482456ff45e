import DataLayer.Text.Blank
import DataLayer.Text.Split

/-!
Qualified names of database objects such as `[dbo].[Table1].[Id]`: parts joined by dots, where a
part in brackets may hold dots itself.
-/

namespace DataLayer.SqlName

open Text

/-- Whether a bracket is open after a character. -/
def inBrackets (inside : Bool) (c : Char) : Bool :=
  if c == '[' then true else if c == ']' then false else inside

/-- Drops white space, then opening brackets in front and closing brackets behind. -/
def stripBrackets (cs : List Char) : List Char :=
  dropEndWhile (· == ']') ((trimChars cs).dropWhile (· == '['))

/-- The parts of a name as written, brackets and white space included. -/
def rawParts (cs : List Char) : List (List Char) :=
  splitScan (fun inside c => !inside && c == '.') inBrackets false cs

def parts (name : String) : List String :=
  (rawParts name.toList).map fun p => String.ofList (stripBrackets p)

/-- The last part. -/
def short (name : String) : String := (parts name).getLastD ""

/-- The name without brackets, with underscores for dots. -/
def bare (name : String) : String :=
  String.ofList ((name.toList.filter fun c => c != '[' && c != ']').map fun c =>
    if c == '.' then '_' else c)

end DataLayer.SqlName
