import CallAtlas.File.Path
import CallAtlas.Text.Blank

/-!
# Settings

What the program takes from its environment, and the trace file that they name.

- `traceFile`: the file to load, or a `SettingError`;
- `expandHome`: a path whose first name starts with a tilde, made to start at a home directory.
-/

namespace CallAtlas

open File (Path)

/-- The settings in the environment; one that is not set is none. -/
structure Environment where
  traceFile : Option String := none
  logLevel : Option String := none
  logFormat : Option String := none
  home : Option String := none
  deriving DecidableEq, Repr, Inhabited

/-- Why the settings name no file. -/
inductive SettingError where
  /-- No file is given. -/
  | noFile
  /-- The home directory that the path starts at is not known. -/
  | noHome
  /-- The path asks for the home directory of a name with a null character. -/
  | nullCharacter
  deriving DecidableEq, Repr

/-- The error in words. -/
def SettingError.message : SettingError → String
  | .noFile => "No call tree file configured. Pass --file or set CALLTREE_FILE."
  | .noHome => "Could not determine home directory."
  | .nullCharacter => "embedded null byte"

/-- The home directory with that setting. Slashes at its end do not count, and one that is nothing else is
the top; one that itself starts at a home directory is of no use. -/
def homeDirectory (home : String) : Except SettingError Path :=
  match Text.dropTrailing (· == '/') home.toList with
  | [] => .ok ⟨.top, []⟩
  | '~' :: _ => .error .noHome
  | s => .ok (Path.ofString (String.ofList s))

/-- The path, from the home directory if its first name is a tilde; a tilde and a name ask for the home
directory of somebody else, which is not known. -/
def expandHome (env : Environment) (path : Path) : Except SettingError Path :=
  match path.root, path.parts with
  | .current, first :: rest =>
    if first = "~" then
      match env.home with
      | some home => (homeDirectory home).map (·.append rest)
      | none => .error .noHome
    else if first.toList.head? = some '~' then
      .error (if first.toList.contains '\x00' then .nullCharacter else .noHome)
    else .ok path
  | _, _ => .ok path

/-- The trace file to load: the path given, else the one in the environment, without the blanks around
it. -/
def traceFile (env : Environment) (given : Option Path) : Except SettingError Path :=
  match given with
  | some path => expandHome env path
  | none =>
    let value := Text.strip (env.traceFile.getD "")
    if value = "" then .error .noFile else expandHome env (Path.ofString value)

end CallAtlas
