import CallAtlas.Text.Cut

/-!
# Paths

A path is a root and a list of names. Reading a path drops its empty names and its points; two points
stay, since what they mean depends on the files.
-/

namespace CallAtlas.File

/-- Where a path starts. -/
inductive Root where
  /-- At the current directory. -/
  | current
  /-- At the top. -/
  | top
  /-- At the top, written with exactly two slashes. -/
  | doubleTop
  deriving DecidableEq, Repr, Inhabited

/-- The root as it is written. -/
def Root.text : Root → String
  | .current => ""
  | .top => "/"
  | .doubleTop => "//"

/-- A path. -/
structure Path where
  root : Root
  parts : List String
  deriving DecidableEq, Repr, Inhabited

namespace Path

/-- The root of a path, from the characters it is written with. -/
def rootOf : List Char → Root
  | '/' :: '/' :: '/' :: _ => .top
  | '/' :: '/' :: _ => .doubleTop
  | '/' :: _ => .top
  | _ => .current

/-- The names of a path, from the characters it is written with. -/
def partsOf (s : List Char) : List String :=
  ((Text.pieces '/' s).map String.ofList).filter fun p => p ≠ "" ∧ p ≠ "."

/-- The path that is written so. -/
def ofString (s : String) : Path :=
  ⟨rootOf s.toList, partsOf s.toList⟩

/-- The path as it is written; the current directory is a point. -/
def toString (p : Path) : String :=
  if p.root = .current ∧ p.parts = [] then "."
  else p.root.text ++ String.intercalate "/" p.parts

/-- The path below `p` with these names. -/
def append (p : Path) (parts : List String) : Path :=
  { p with parts := p.parts ++ parts }

/-- The directory that the path stands in; the path itself if it has no name. -/
def parent (p : Path) : Path :=
  { p with parts := p.parts.dropLast }

example : (ofString "a//b/./c/").toString = "a/b/c" ∧ (ofString "").toString = "." ∧
    (ofString "//a").toString = "//a" ∧ (ofString "///a").toString = "/a" := by
  decide +kernel

end Path

end CallAtlas.File
