/-!
The operations on files that a run performs. A run is written once over these operations; it is
carried out on the disk, and reasoned about on a value that stands for a disk.
-/

namespace DataLayer

/-- Operations on files in a monad `m`. Those that change files answer whether they succeeded. -/
class FileSystem (m : Type → Type) where
  isFile : String → m Bool
  pathExists : String → m Bool
  /-- The octets of a file, if it can be read. -/
  readFile : String → m (Option (List UInt8))
  /-- Creates a directory and those above it that are missing. -/
  createDirectories : String → m Bool
  /-- Writes one file, in place of what it held before. -/
  writeFile : String → String → m Bool

export FileSystem (isFile pathExists readFile createDirectories writeFile)

/-- Operations on files leave a further state as it is. -/
instance {σ : Type} {m : Type → Type} [Monad m] [FileSystem m] : FileSystem (StateT σ m) where
  isFile path := (isFile path : m Bool)
  pathExists path := (pathExists path : m Bool)
  readFile path := (readFile path : m _)
  createDirectories path := (createDirectories path : m Bool)
  writeFile path content := (writeFile path content : m Bool)

end DataLayer
