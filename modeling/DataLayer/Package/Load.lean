import DataLayer.FileSystem
import DataLayer.Package.Archive
import DataLayer.Package.Inflate
import DataLayer.Schema.Tree

/-! Loading the schema document of a package, which is an archive with an entry for it. -/

namespace DataLayer.Package

/-- The entry that holds the schema document. -/
def entryName : String := "model.xml"

/-- What an entry unpacks to, if its data are sound. -/
def unpack? (bytes : List UInt8) (e : Entry) : Option (List UInt8) :=
  let packed := (bytes.drop e.dataStart).take e.packedSize
  let content := if e.method = 0 then some packed else Inflate.inflate? packed
  content.filter fun c => (Crc32.ofOctets c).toNat == e.crc

/-- The schema document in the octets of a package. The path is for errors only. -/
def documentOf (path : String) (bytes : List UInt8) : Except SchemaError (List UInt8) :=
  match Archive.ofOctets? bytes with
  | none => .error (.badArchive path)
  | some archive =>
    match archive.find (Text.octets entryName) with
    | none => .error (.missingEntry path entryName)
    | some e =>
      if e.encrypted || (e.method ≠ 0 && e.method ≠ 8) then .error (.badArchive path)
      else match unpack? bytes e with
        | none => .error (.unreadableEntry path entryName)
        | some content => .ok content

/-- Loads the schema of a package. -/
def load {m : Type → Type} [Monad m] [FileSystem m] (path : String) :
    m (Except SchemaError Schema.Tree) := do
  match ← readFile path with
  | none => return .error (.badArchive path)
  | some bytes =>
    match documentOf path bytes with
    | .error e => return .error e
    | .ok document => return Schema.Tree.parse document

end DataLayer.Package
