import ApiTypes.FileAccess
import ApiTypes.FilePath
import ApiTypes.Generation

/-!
# Writing a module

## Main definitions

* `Generation.writeModule` — writes a module, with the directories that its file lies in
-/

namespace ApiTypes.Generation

/-- What could not be made. -/
inductive WriteError where
  | directory (path : String)
  | file (path : String)
deriving DecidableEq, Repr

/-- The error in words. -/
def WriteError.message : WriteError → String
  | directory path => "Failed to create directory `" ++ path ++ "`"
  | file path => "Failed to write `" ++ path ++ "`"

variable {m : Type → Type} [Monad m] [FileAccess m]

/-- Makes the directory that a file lies in, and says whether it is there now. The empty path leads
to the working directory, which is there already. -/
def makeDirectory (path : String) : m Bool :=
  if path = "" then pure true else FileAccess.createDirectories path

/-- Writes the module with the declarations to a path. Directories that are missing are made. -/
def writeModule (path : String) (declarations : List String) : m (Except WriteError Unit) := do
  let parent := (FilePath.parent? path).getD ""
  if ← makeDirectory parent then
    if ← FileAccess.write path (moduleText declarations) then return .ok ()
    else return .error (.file path)
  else return .error (.directory parent)

end ApiTypes.Generation
