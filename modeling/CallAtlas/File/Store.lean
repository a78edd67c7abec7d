import CallAtlas.File.Error

/-!
# Reading and writing files

`Files m` is what the program needs of a file system, in any monad `m`: the octets of a file, and the
writing of a text to a file whose directories are made as needed.
-/

namespace CallAtlas.File

/-- A file system. -/
class Files (m : Type → Type) where
  /-- The octets of a file. -/
  read : Path → m (Except FileError (List UInt8))
  /-- Writes the text to a file in place of what it held, and makes the directories on the way to it
  that are not there. -/
  write : Path → String → m (Except FileError Unit)

end CallAtlas.File
