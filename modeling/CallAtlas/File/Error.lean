import CallAtlas.File.Path
import CallAtlas.Text.Quoted

/-!
# What goes wrong with files

`Failure` is a cause that the operating system reports, with its number and wording; `FileError` says
what path it is about.
-/

namespace CallAtlas.File

/-- A cause that the operating system reports. -/
inductive Failure where
  | noEntry
  | entryExists
  | notDirectory
  | isDirectory
  | nameTooLong
  /-- Any other cause, with its number and wording. -/
  | other (number : Nat) (text : String)
  deriving DecidableEq, Repr

/-- The number of the cause. -/
def Failure.number : Failure → Nat
  | .noEntry => 2
  | .entryExists => 17
  | .notDirectory => 20
  | .isDirectory => 21
  | .nameTooLong => 36
  | .other number _ => number

/-- The cause in words. -/
def Failure.text : Failure → String
  | .noEntry => "No such file or directory"
  | .entryExists => "File exists"
  | .notDirectory => "Not a directory"
  | .isDirectory => "Is a directory"
  | .nameTooLong => "File name too long"
  | .other _ text => text

/-- Why a file is not read or written. -/
inductive FileError where
  /-- The operating system refuses. -/
  | refused (cause : Failure) (path : Path)
  /-- The path has a null character, which no file name may have. -/
  | nullCharacter
  deriving DecidableEq, Repr

/-- The error in words. -/
def FileError.message : FileError → String
  | .refused cause path =>
    "[Errno " ++ toString cause.number ++ "] " ++ cause.text ++ ": " ++ Text.quoted path.toString
  | .nullCharacter => "embedded null byte"

/-- Whether the path has a null character. -/
def Path.hasNull (p : Path) : Bool :=
  p.toString.toList.contains '\x00'

end CallAtlas.File
