/-!
# JSON values

The values that answers are made of. An object keeps the order of its members.
-/

namespace CallAtlas

/-- A JSON value; numbers are integers. -/
inductive Json where
  | null
  | bool (b : Bool)
  | int (i : Int)
  | str (s : String)
  | arr (items : List Json)
  | obj (members : List (String × Json))
  deriving Inhabited, Repr, BEq

namespace Json

/-- A count. -/
def nat (n : Nat) : Json :=
  .int n

/-- The text, or null. -/
def str? : Option String → Json
  | some s => .str s
  | none => .null

/-- The integer, or null. -/
def int? : Option Int → Json
  | some i => .int i
  | none => .null

/-- The value of the first member with that name, if the value is an object that has one. -/
def member? (name : String) : Json → Option Json
  | .obj members => (members.find? (·.1 == name)).map (·.2)
  | _ => none

end Json

end CallAtlas
