import DataLayer.CommandLine.Program

/-! The program on a disk. -/

namespace DataLayer.Disk

/-- Whether an action comes to its end without an error. -/
def answered {α : Type} (action : IO α) : IO Bool := do
  try
    let _ ← action
    return true
  catch _ => return false

/-- Files on the disk. What can be read counts as a file, and the path of no characters stands for
the working directory. -/
instance : FileSystem IO where
  isFile path := answered (IO.FS.withFile path .read fun h => h.read 1)
  pathExists path := answered (IO.FS.realPath path)
  readFile path := do
    try
      return some (← IO.FS.readBinFile path).toList
    catch _ => return none
  createDirectories path :=
    if path.isEmpty then return true else answered (IO.FS.createDirAll path)
  writeFile path content := answered (IO.FS.writeFile path content)

end DataLayer.Disk

open DataLayer

def main (arguments : List String) : IO UInt32 := do
  let ending ← CommandLine.run arguments
  IO.print ending.output
  IO.eprint ending.remarks
  return ending.exitCode.toUInt32
