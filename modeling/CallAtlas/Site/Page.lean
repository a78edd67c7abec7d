import CallAtlas.Graph.Query
import CallAtlas.Site.Markup
import CallAtlas.Site.Name

/-!
# The pages of a site

- `entrypointsPage`, `classesPage`: the two listings at the top of the site;
- `classPage`: the methods of a class with their counts of calls;
- `methodPage`: the calls that a method makes and those that reach it.

Every page starts with links to the two listings. `root` leads from a page to the top of the site.
-/

namespace CallAtlas.Site

open CallAtlas.Graph

/-- The style of every page. -/
def style : String :=
  "a \x7b text-decoration: none; \x7da:hover \x7b text-decoration: underline \x7d"

/-- The links at the head of every page. -/
def navigation (root : String) : List Piece :=
  anchor (root ++ "index.html") "VM entry-points" ++ .text "&nbsp;&nbsp;" ::
    anchor (root ++ "classes.html") "class index" ++ [.text "\n"]

/-- A whole page. -/
def page (root : String) (body : List Piece) : List Piece :=
  element "html" <|
    element "head" (.tag (.plain "meta charset=\"utf-8\"") :: element "style" [.text style]) ++
    element "body" (navigation root ++ body)

/-- A heading on a line of its own. -/
def title (text : String) : List Piece :=
  element "h1" [.text text] ++ [.text "\n"]

/-- The method's full name as a link to its page. -/
def methodLink (root : String) (m : MethodName) : List Piece :=
  anchor (href root (methodFile m)) m.qualified

/-- The page that lists the entry points. -/
def entrypointsPage (g : CallGraph) : List Piece :=
  page "" <|
    title "VM entry-points" ++ g.entrypointNames.flatMap fun m => methodLink "" m ++ lineBreak

/-- The page that lists the classes. -/
def classesPage (g : CallGraph) : List Piece :=
  page "" <|
    title "Classes" ++
    g.classNames.flatMap fun name => anchor (href "" (classFile name)) name ++ lineBreak

/-- A count in a column. -/
def countColumn (label : String) (n : Nat) : List Piece :=
  [.tag (.plain "span style=\"float: left; width: 80px\""), .text (label ++ " " ++ toString n),
    .tag (.plain "/span"), .text "\n"]

/-- The page of a class. -/
def classPage (info : ClassInfo) : List Piece :=
  let root := "../"
  page root <|
    title ("class " ++ info.name) ++
    info.methods.flatMap fun m =>
      countColumn "IN" m.reverseCount ++ countColumn "OUT" m.forwardCount ++
      anchor (href root (methodFile ⟨info.name, m.signature⟩)) m.signature ++ lineBreak

/-- A call on a line of its own. -/
def callLine (root : String) (call : CallRef) : List Piece :=
  .text (call.callType ++ " ") :: methodLink root call.method ++ lineBreak

/-- The page of a method. -/
def methodPage (info : MethodInfo) : List Piece :=
  let root := "../../"
  page root <|
    title ("method " ++ info.method.signature) ++
    .text "Class: " :: anchor (href root (classFile info.method.className)) info.method.className ++
    element "h2" [.text "Calling:"] ++ info.forward.flatMap (callLine root) ++
    element "h2" [.text "Called by"] ++ info.reverse.flatMap (callLine root)

end CallAtlas.Site
