import DataLayer.FileSystem
import DataLayer.Path
import DataLayer.Text.Utf8

/-!
A disk as a value: the files and directories below one root, with a working directory. Paths are
resolved segment by segment, so every segment but the last must lead to a directory that is there.
-/

namespace DataLayer

inductive FileEntry where
  | directory
  | file (content : List UInt8)
  deriving DecidableEq

/-- The place of an entry: the names that lead to it from the root. -/
abbrev Place := List String

/-- Files and directories by place. The root needs no entry. -/
structure FileTree where
  entries : List (Place × FileEntry)
  workingDirectory : Place

namespace FileTree

/-- An empty working directory below the root. -/
def empty : FileTree := ⟨[(["work"], .directory)], ["work"]⟩

def lookup? (t : FileTree) (p : Place) : Option FileEntry :=
  if p = [] then some .directory else t.entries.lookup p

/-- Replaces the entry at a place, or adds it behind the others. -/
def putEntry (p : Place) (e : FileEntry) : List (Place × FileEntry) → List (Place × FileEntry)
  | [] => [(p, e)]
  | (q, f) :: rest => if q = p then (p, e) :: rest else (q, f) :: putEntry p e rest

def put (t : FileTree) (p : Place) (e : FileEntry) : FileTree :=
  { t with entries := putEntry p e t.entries }

/-- Removes a place and everything below it. -/
def remove (t : FileTree) (p : Place) : FileTree :=
  { t with entries := t.entries.filter fun q => !p.isPrefixOf q.1 }

theorem lookup_putEntry (p q : Place) (e : FileEntry) (es : List (Place × FileEntry)) :
    (putEntry p e es).lookup q = if q = p then some e else es.lookup q := by
  have beq_false {a b : Place} (h : a ≠ b) : (a == b) = false := beq_false_of_ne h
  induction es with
  | nil => by_cases h : q = p <;> simp [putEntry, List.lookup_cons, h, beq_false]
  | cons x xs ih =>
    obtain ⟨r, f⟩ := x
    by_cases hr : r = p
    · subst hr
      by_cases h : q = r <;> simp [putEntry, List.lookup_cons, h, beq_false]
    · by_cases h : q = r
      · subst h
        simp [putEntry, hr]
      · simp [putEntry, hr, List.lookup_cons, h, ih, beq_false]

/-- What a path leads to. -/
inductive Target where
  /-- An entry that is there; the flag tells whether the path asks for a directory. -/
  | found (place : Place) (asDirectory : Bool)
  /-- A name that is free in a directory that is there. -/
  | free (place : Place) (asDirectory : Bool)
  /-- A directory on the way is missing. -/
  | missing
  /-- A file stands where the path needs a directory, or a name is not allowed. -/
  | refused
  deriving DecidableEq

/-- A name holds at most 255 octets and no NUL. -/
def isAllowedName (name : List Char) : Bool :=
  Text.octetCount name ≤ 255 && !name.contains '\x00'

/-- Follows segments from a directory. -/
def follow (t : FileTree) : Place → List (List Char) → Target
  | here, [] => .found here true
  | here, segment :: rest =>
    if Path.isSkipped segment then follow t here rest
    else if segment = ['.', '.'] then follow t here.dropLast rest
    else if !isAllowedName segment then .refused
    else
      let next := here ++ [String.ofList segment]
      match t.lookup? next with
      | some .directory => follow t next rest
      | some (.file _) => if rest.isEmpty then .found next false else .refused
      | none => if rest.all List.isEmpty then .free next (!rest.isEmpty) else .missing

/-- What a path leads to from the working directory, or from the root if it is absolute. -/
def locate (t : FileTree) (path : String) : Target :=
  if path.isEmpty then .missing
  else if path.utf8ByteSize ≥ 4096 then .refused
  else t.follow (if Path.isAbsolute path then [] else t.workingDirectory)
    (Text.splitAt '/' path.toList)

/-- The entry that a path leads to. -/
def at? (t : FileTree) (path : String) : Option FileEntry :=
  match t.locate path with
  | .found p _ => t.lookup? p
  | _ => none

def isDirectory (t : FileTree) (path : String) : Bool := t.at? path == some .directory

def content? (t : FileTree) (path : String) : Option (List UInt8) :=
  match t.at? path with
  | some (.file bytes) => some bytes
  | _ => none

/-- Creates one directory. The tree is `none` on failure, which `missing` tells from others. -/
def makeDirectory (t : FileTree) (path : String) : Option FileTree × Target :=
  match t.locate path with
  | .free p d => (some (t.put p .directory), .free p d)
  | target => (none, target)

/-- Creates the first path of a list of ancestors, and the later ones as far as they are missing.
The flag tells whether the first one is a directory at the end. -/
def makeDirectories : List String → FileTree → Bool × FileTree
  | [], t => (false, t)
  | path :: above, t =>
    if path.isEmpty then (true, t)
    else match t.makeDirectory path with
      | (some made, _) => (true, made)
      | (none, .missing) =>
        match makeDirectories above t with
        | (false, t') => (false, t')
        | (true, t') =>
          match t'.makeDirectory path with
          | (some made, _) => (true, made)
          | (none, _) => (t'.isDirectory path, t')
      | (none, _) => (t.isDirectory path, t)

/-- A path followed by its parents, at most `count` of them. -/
def withParents : Nat → String → List String
  | 0, path => [path]
  | count + 1, path =>
    path :: match Path.parent? path with
      | none => []
      | some above => withParents count above

def createAll (t : FileTree) (path : String) : Bool × FileTree :=
  makeDirectories (withParents path.length path) t

/-- Writes one file; its directory must be there. -/
def write (t : FileTree) (path : String) (bytes : List UInt8) : Bool × FileTree :=
  match t.locate path with
  | .found p false => (true, t.put p (.file bytes))
  | .free p false => (true, t.put p (.file bytes))
  | _ => (false, t)

/-- Removes a file, or a directory with all it holds. -/
def delete (t : FileTree) (path : String) : Bool × FileTree :=
  match t.locate path with
  | .found p _ => (true, t.remove p)
  | _ => (false, t)

/-- The names below the working directory in order, directories with a `/` behind. -/
def listing (t : FileTree) : List String :=
  let names := t.entries.filterMap fun (p, e) =>
    if t.workingDirectory.isPrefixOf p && p ≠ t.workingDirectory then
      let name := "/".intercalate (p.drop t.workingDirectory.length)
      some (if e == .directory then name ++ "/" else name)
    else none
  names.mergeSort fun a b => !(b < a)

instance : FileSystem (StateM FileTree) where
  isFile path := fun t => ((t.content? path).isSome, t)
  pathExists path := fun t => ((t.at? path).isSome, t)
  readFile path := fun t => (t.content? path, t)
  createDirectories path := fun t => t.createAll path
  writeFile path content := fun t => t.write path (Text.octets content)

end FileTree

end DataLayer
