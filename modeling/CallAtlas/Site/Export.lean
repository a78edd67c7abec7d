import CallAtlas.Site.Page

/-!
# A whole site

`pages` lists the pages of a graph's site in the order in which they are written: the two listings,
then each class, by ascending name, followed by its methods, by ascending signature. A page written
later replaces one with the same file.
-/

namespace CallAtlas.Site

open CallAtlas.Graph

/-- A page with its place in the site. -/
structure Page where
  path : List String
  content : List Piece
  deriving DecidableEq, Repr

/-- The pages of a class: its own, then those of its methods. -/
def pagesOfClass (g : CallGraph) (info : ClassInfo) : List Page :=
  ⟨classFile info.name, classPage info⟩ ::
    info.methods.filterMap fun m =>
      (g.methodInfo? ⟨info.name, m.signature⟩).map fun method =>
        ⟨methodFile ⟨info.name, m.signature⟩, methodPage method⟩

/-- The pages of the site. -/
def pages (g : CallGraph) : List Page :=
  ⟨indexFile, entrypointsPage g⟩ :: ⟨classesFile, classesPage g⟩ ::
    (g.classNames.filterMap g.classInfo?).flatMap (pagesOfClass g)

end CallAtlas.Site
