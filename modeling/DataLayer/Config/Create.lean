import DataLayer.Config.Load

/-! Creating the configuration file of a new project. -/

namespace DataLayer.Config

inductive CreateError where
  | alreadyExists (path : String)
  | noDirectory (path : String)
  | unwritable (path : String)
  deriving DecidableEq, Repr

def CreateError.message : CreateError → String
  | alreadyExists path => path ++ " already exists"
  | noDirectory path => "Failed to create " ++ path
  | unwritable path => "Failed to write " ++ path

/-- Writes the document of a new project into a directory, and answers its path. A file that is
there already is left alone. -/
def create {m : Type → Type} [Monad m] [FileSystem m] (directory : String) :
    m (Except CreateError String) := do
  let path := Path.join directory fileName
  if ← pathExists path then return .error (.alreadyExists path)
  else if !(← createDirectories directory) then return .error (.noDirectory directory)
  else if !(← writeFile path defaultText) then return .error (.unwritable path)
  else return .ok path

end DataLayer.Config
