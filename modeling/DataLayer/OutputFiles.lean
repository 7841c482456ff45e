import DataLayer.FileSystem
import DataLayer.Path

/-!
Generated files that wait to be written. All directories are created before the first file is
written, and writing stops at the first failure.
-/

namespace DataLayer

/-- A file to be written. -/
structure OutputFile where
  path : String
  content : String
  deriving DecidableEq, Repr

namespace OutputFile

variable {m : Type → Type} [Monad m] [FileSystem m]

/-- Creates the directory that holds the file. The failure is that directory. -/
def createParent (file : OutputFile) : m (Except String Unit) :=
  match Path.parent? file.path with
  | none => pure (.ok ())
  | some parent => do
    if ← createDirectories parent then pure (.ok ()) else pure (.error parent)

/-- Writes the file, and creates the directory that holds it. -/
def write (file : OutputFile) : m Bool := do
  match ← createParent file with
  | .error _ => pure false
  | .ok _ => writeFile file.path file.content

/-- Creates the directories of all files, in order. -/
def createParents : List OutputFile → m (Except String Unit)
  | [] => pure (.ok ())
  | file :: rest => do
    match ← createParent file with
    | .error path => pure (.error path)
    | .ok _ => createParents rest

/-- Writes files in order and reports their paths. The failure is the path of the file. -/
def writeAll : List OutputFile → m (Except String (List String))
  | [] => pure (.ok [])
  | file :: rest => do
    if ← write file then
      match ← writeAll rest with
      | .error path => pure (.error path)
      | .ok paths => pure (.ok (file.path :: paths))
    else pure (.error file.path)

/-- Creates every directory, then writes every file. The failure is a path. -/
def flush (files : List OutputFile) : m (Except String (List String)) := do
  match ← createParents files with
  | .error path => pure (.error path)
  | .ok _ => writeAll files

end OutputFile

end DataLayer
