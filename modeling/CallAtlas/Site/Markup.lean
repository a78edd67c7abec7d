/-!
# Markup

A page is a list of pieces, each a tag or a text. Only `render` makes a string of them, and it escapes
`<` and `>` in every text, so tags come from the pieces that are tags and from nowhere else. An `&`
stays as it is: texts may use character references.
-/

namespace CallAtlas.Site

/-- A tag. -/
inductive Tag where
  /-- A tag that is the same whatever the page shows; `inner` stands between the angle brackets. -/
  | plain (inner : String)
  /-- The start of a link. -/
  | link (href : String)
  deriving DecidableEq, Repr

/-- A piece of a page. -/
inductive Piece where
  | tag (t : Tag)
  | text (s : String)
  deriving DecidableEq, Repr

/-- A character of a text, escaped. -/
def escapeChar (c : Char) : List Char :=
  if c = '<' then ['&', 'l', 't', ';']
  else if c = '>' then ['&', 'g', 't', ';']
  else [c]

/-- A text without angle brackets. -/
def escape (s : String) : String :=
  String.ofList (s.toList.flatMap escapeChar)

/-- What stands between the angle brackets of a tag. -/
def Tag.inner : Tag → String
  | plain s => s
  | link h => "a href=\"" ++ h ++ "\""

/-- A piece as a string. -/
def Piece.render : Piece → String
  | tag t => "<" ++ t.inner ++ ">"
  | text s => escape s

/-- A page as a string. -/
def render (pieces : List Piece) : String :=
  String.join (pieces.map Piece.render)

/-- The element of that name around the pieces. -/
def element (name : String) (inner : List Piece) : List Piece :=
  .tag (.plain name) :: inner ++ [.tag (.plain ("/" ++ name))]

/-- The text as a link. -/
def anchor (href label : String) : List Piece :=
  [.tag (.link href), .text label, .tag (.plain "/a")]

/-- The end of a line, in the page as shown and in its source. -/
def lineBreak : List Piece :=
  [.tag (.plain "br"), .text "\n"]

end CallAtlas.Site
