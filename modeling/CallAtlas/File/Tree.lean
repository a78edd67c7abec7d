import CallAtlas.File.Store
import CallAtlas.Text.Utf8

/-!
# A file tree in memory

`Tree` holds the files and directories below a current directory, each under the list of names that
leads to it. What lies outside is not known: directories may be made and files written there, without
effect, but nothing can be read.

- `Tree.locate`: where a path leads, name by name, as the operating system goes: two points lead from
  a directory to the one it is in;
- `Tree.read`, `Tree.write`, `Tree.makeDirectories`: the operations;
- the instance of `Files`: a tree as the state of a program.
-/

namespace CallAtlas.File

/-- What is found under a name. -/
inductive Entry where
  | file (octets : List UInt8)
  | directory
  deriving DecidableEq, Repr, Inhabited

/-- The files and directories below a current directory. -/
structure Tree where
  entries : List (List String × Entry) := []
  deriving DecidableEq, Repr, Inhabited

/-- Where a path leads. -/
inductive Place where
  | inside (names : List String)
  | outside
  deriving DecidableEq, Repr

/-- The most octets a name may have. -/
def maxNameOctets : Nat := 255

/-- The most octets a path may have. -/
def maxPathOctets : Nat := 4095

/-- Whether a name is longer than the file system allows. -/
def isLongName (name : String) : Bool :=
  maxNameOctets < name.utf8ByteSize

/-- Whether a path is longer than the operating system allows. -/
def isLongPath (path : Path) : Bool :=
  maxPathOctets < path.toString.utf8ByteSize

namespace Tree

variable (t : Tree)

/-- What is under the names, the current directory being under none. -/
def entry? (names : List String) : Option Entry :=
  if names = [] then some .directory else (t.entries.find? fun e => e.1 == names).map (·.2)

/-- Puts an entry under the names, in place of what was there. -/
def put (names : List String) (entry : Entry) : Tree :=
  ⟨t.entries.filter (fun e => e.1 != names) ++ [(names, entry)]⟩

/-- Where one more name leads. -/
def step (place : Place) (name : String) : Except Failure Place :=
  match place with
  | .outside => if name = ".." then .ok .outside else .error .noEntry
  | .inside names =>
    match t.entry? names with
    | none => .error .noEntry
    | some (.file _) => .error .notDirectory
    | some .directory =>
      if name = ".." then .ok (if names = [] then .outside else .inside names.dropLast)
      else if isLongName name then .error .nameTooLong
      else if (t.entry? (names ++ [name])).isSome then .ok (.inside (names ++ [name]))
      else .error .noEntry

/-- Where the path leads. -/
def locate (path : Path) : Except Failure Place :=
  if isLongPath path then .error .nameTooLong
  else
    let start := if path.root = .current then Place.inside [] else .outside
    path.parts.foldlM t.step start

/-- What is at a place. -/
def at? (place : Place) : Option Entry :=
  match place with
  | .inside names => t.entry? names
  | .outside => some .directory

/-- Whether the path leads to a directory. -/
def isDirectory (path : Path) : Bool :=
  match t.locate path with
  | .ok place => t.at? place = some .directory
  | .error _ => false

/-- The octets of the file that the path leads to. -/
def read (path : Path) : Except FileError (List UInt8) :=
  if path.hasNull then .error .nullCharacter
  else
    match t.locate path with
    | .error e => .error (.refused e path)
    | .ok place =>
      match t.at? place with
      | some (.file octets) => .ok octets
      | some .directory => .error (.refused .isDirectory path)
      | none => .error (.refused .noEntry path)

/-- The place of a new entry that the path is to lead to, its last name apart. -/
def locateNew (path : Path) (name : String) : Except Failure Place :=
  if isLongPath path then .error .nameTooLong
  else
    match t.locate path.parent with
    | .error e => .error e
    | .ok place =>
      match t.at? place with
      | none => .error .noEntry
      | some (.file _) => .error .notDirectory
      | some .directory => if isLongName name then .error .nameTooLong else .ok place

/-- Makes a directory in a directory that is there. -/
def makeDirectory (path : Path) : Except Failure Tree :=
  match path.parts.getLast? with
  | none => .error .entryExists
  | some name =>
    match t.locateNew path name with
    | .error e => .error e
    | .ok .outside => .ok t
    | .ok (.inside names) =>
      if name = ".." ∨ (t.entry? (names ++ [name])).isSome then .error .entryExists
      else .ok (t.put (names ++ [name]) .directory)

/-- Takes a directory that is there already for one that was made. -/
def orDirectory (path : Path) : Except Failure Tree → Except FileError Tree
  | .ok t => .ok t
  | .error e => if t.isDirectory path then .ok t else .error (.refused e path)

/-- Makes the directory with these names, after at most `above` of those on the way to it if the way
is not there. -/
def makeDirectoriesFrom (root : Root) (parts : List String) : (above : Nat) → Except FileError Tree
  | 0 =>
    let path : Path := ⟨root, parts⟩
    t.orDirectory path (t.makeDirectory path)
  | above + 1 =>
    let path : Path := ⟨root, parts⟩
    match t.makeDirectory path with
    | .ok t => .ok t
    | .error .noEntry =>
      match makeDirectoriesFrom root parts.dropLast above with
      | .error e => .error e
      | .ok t => t.orDirectory path (t.makeDirectory path)
    | .error e => t.orDirectory path (.error e)

/-- Makes the directory and those on the way to it, as far as they are not there. -/
def makeDirectories (path : Path) : Except FileError Tree :=
  t.makeDirectoriesFrom path.root path.parts path.parts.length

/-- Puts the octets in the file that the path leads to, whose directory is there. -/
def putFile (path : Path) (octets : List UInt8) : Except FileError Tree :=
  match path.parts.getLast? with
  | none => .error (.refused .isDirectory path)
  | some name =>
    match t.locateNew path name with
    | .error e => .error (.refused e path)
    | .ok .outside => .ok t
    | .ok (.inside names) =>
      if name = ".." ∨ t.entry? (names ++ [name]) = some .directory then
        .error (.refused .isDirectory path)
      else .ok (t.put (names ++ [name]) (.file octets))

/-- Writes the text to a file; directories are made as needed. -/
def write (path : Path) (text : String) : Except FileError Tree :=
  if path.hasNull then .error .nullCharacter
  else
    match t.makeDirectories path.parent with
    | .error e => .error e
    | .ok t => t.putFile path (Text.Utf8.encode text.toList)

/-- The files, each as the names that lead to it. -/
def files : List (List String × List UInt8) :=
  t.entries.filterMap fun e =>
    match e.2 with
    | .file octets => some (e.1, octets)
    | .directory => none

end Tree

instance : Files (StateM Tree) where
  read path := do return (← get).read path
  write path text := fun t =>
    match t.write path text with
    | .ok t' => (.ok (), t')
    | .error e => (.error e, t)

end CallAtlas.File
