import CallAtlas.Hash.Sha256
import CallAtlas.Text.Percent
import CallAtlas.Trace.Record

/-!
# The files of a site

Each class and each method has a page in a file of its own, in a directory tree whose parts are
percent-encoded names. A link writes the path of a file with each part encoded once more, since the
reader of a link decodes it once.

- `fileName`: the encoded name, cut and given a part of its hash where it would be too long for a file
  system;
- `classFile`, `methodFile`: the paths, as lists of parts;
- `href`: the link to a path.
-/

namespace CallAtlas.Site

/-- The longest encoded name. -/
def maxName : Nat := 200

/-- How many digits of the hash a name that is cut gets. -/
def hashDigits : Nat := 16

/-- The hash that tells apart names that are cut alike. -/
def nameHash (text : List Char) : List Char :=
  (Hash.Sha256.hexDigest (Text.Utf8.encode text)).take hashDigits

/-- The name of the file for a class or a signature, without its ending. -/
def fileNameChars (text : List Char) : List Char :=
  let name := Text.Percent.encodeChars text
  if maxName < name.length then
    name.take (maxName - hashDigits - 1) ++ '-' :: nameHash text
  else name

/-- The name of the file for a class or a signature, without its ending. -/
def fileName (text : String) : String :=
  String.ofList (fileNameChars text.toList)

/-- The name of the page for a class or a signature. -/
def pageName (text : String) : String :=
  fileName text ++ ".html"

/-- A part of a path, which counts for nothing if it is empty or a point. -/
def pathPart (name : String) : List String :=
  if name = "" ∨ name = "." then [] else [name]

/-- The path of a class's page. -/
def classFile (className : String) : List String :=
  ["class", pageName className]

/-- The path of a method's page. -/
def methodFile (m : MethodName) : List String :=
  "method" :: pathPart (fileName m.className) ++ [pageName m.signature]

/-- The path of the page that lists the entry points. -/
def indexFile : List String := ["index.html"]

/-- The path of the page that lists the classes. -/
def classesFile : List String := ["classes.html"]

/-- The parts of a path with slashes between them. -/
def joined (parts : List String) : String :=
  String.intercalate "/" parts

/-- The link to a path, from a page for which `root` leads to the top of the site. -/
def href (root : String) (parts : List String) : String :=
  root ++ joined (parts.map Text.Percent.encode)

end CallAtlas.Site
