import DataLayer.Text.Split

/-!
Paths as texts with `/` between their segments. A path is kept as it is written: empty segments
and segments `.` are passed over where a path is taken apart, and never removed from one that is
put together.
-/

namespace DataLayer.Path

open Text

def isAbsolute (path : String) : Bool := path.startsWith "/"

/-- The path `name` as seen from `base`; an absolute `name` stands for itself. -/
def join (base name : String) : String :=
  if isAbsolute name || base.isEmpty then name
  else if base.endsWith "/" then base ++ name
  else base ++ "/" ++ name

def isSkipped (segment : List Char) : Bool := segment.isEmpty || segment == ['.']

/-- Drops skipped segments at the end. -/
def dropSkipped (segments : List (List Char)) : List (List Char) :=
  (segments.reverse.dropWhile isSkipped).reverse

/-- A path taken apart: the leading `/` or `.`, if any, and the segments after it up to the last
one that counts. -/
structure Parts where
  root : Bool
  here : Bool
  segments : List (List Char)
  deriving DecidableEq

def parts (path : String) : Parts :=
  match splitAt '/' path.toList with
  | [] :: s :: rest => ⟨true, false, dropSkipped (s :: rest)⟩
  | ['.'] :: rest => ⟨false, true, dropSkipped rest⟩
  | segments => ⟨false, false, dropSkipped segments⟩

def ofParts (p : Parts) : String :=
  let body := String.ofList (['/'].intercalate p.segments)
  if p.root then "/" ++ body
  else if p.here then (if p.segments.isEmpty then "." else "./" ++ body)
  else body

/-- The path without its last segment; the root and the empty path have none. -/
def parent? (path : String) : Option String :=
  let p := parts path
  if !p.segments.isEmpty then some (ofParts { p with segments := dropSkipped p.segments.dropLast })
  else if p.here then some ""
  else none

/-- The last segment, unless it leads to a parent directory. -/
def fileName? (path : String) : Option (List Char) :=
  match (parts path).segments.getLast? with
  | none => none
  | some s => if s == ['.', '.'] then none else some s

/-- What stands before the last dot; a name without a dot, or with one at the start only, is its
own stem. -/
def stem (name : List Char) : List Char :=
  match (name.reverse.dropWhile (· != '.')) with
  | [] | [_] => name
  | _ :: before => before.reverse

def fileStem? (path : String) : Option String :=
  (fileName? path).map fun n => String.ofList (stem n)

end DataLayer.Path
