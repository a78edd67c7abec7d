import CallAtlas.Json.Basic
import CallAtlas.Text.Quoted

/-!
# Values in messages

How a message to a caller shows a JSON value, and what it calls its kind.

- `shown`: a text as it is, any other value as it would stand in a list;
- `kindName`: the kind of a value.
-/

namespace CallAtlas.Json

/-- What a message calls the kind of a value. -/
def kindName : Json → String
  | .null => "NoneType"
  | .bool _ => "bool"
  | .int _ => "int"
  | .str _ => "str"
  | .arr _ => "list"
  | .obj _ => "dict"

mutual

/-- A value as it stands in a list. -/
def listed : Json → String
  | .null => "None"
  | .bool true => "True"
  | .bool false => "False"
  | .int i => toString i
  | .str s => Text.quoted s
  | .arr items => "[" ++ String.intercalate ", " (listedItems items) ++ "]"
  | .obj members => "\x7b" ++ String.intercalate ", " (listedMembers members) ++ "\x7d"

/-- The items of a list. -/
def listedItems : List Json → List String
  | [] => []
  | v :: rest => listed v :: listedItems rest

/-- The members of an object. -/
def listedMembers : List (String × Json) → List String
  | [] => []
  | (name, v) :: rest => (Text.quoted name ++ ": " ++ listed v) :: listedMembers rest

end

/-- A value as it stands in a sentence. -/
def shown : Json → String
  | .str s => s
  | v => listed v

end CallAtlas.Json
