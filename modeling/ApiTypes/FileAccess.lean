/-!
# Access to files

What a program does with files: it reads them, makes directories and writes texts. A context that
provides these may be the real file system or a model of it.

## Main definitions

* `FileAccess` — a context in which files can be read and written
-/

namespace ApiTypes

/-- A context in which files can be read and written by their paths. -/
class FileAccess (m : Type → Type) where
  /-- The bytes of a file, if there is one that can be read. -/
  read : String → m (Option (List UInt8))
  /-- Makes a directory and those that it lies in; says whether all of them are there now. -/
  createDirectories : String → m Bool
  /-- Writes a file in place of the one that was there; says whether this was possible. -/
  write : String → String → m Bool

end ApiTypes
