/-!
# Relations between methods

The call types that a trace is known to use, each phrased from the caller's side and from the side of
the method called. `invertCallType` turns a call type round; a call type that is none of them comes
back as it is, marked.
-/

namespace CallAtlas.Graph

/-- The known ways in which one method leads to another. -/
inductive Relation where
  | direct
  | virtual
  | interfacial
  | overridden
  | implemented
  deriving DecidableEq, Repr

namespace Relation

/-- Every relation. -/
def all : List Relation :=
  [.direct, .virtual, .interfacial, .overridden, .implemented]

/-- The relation, from the caller's side. -/
def phrase : Relation → String
  | .direct => "directly calls"
  | .virtual => "virtually calls"
  | .interfacial => "interfacially calls"
  | .overridden => "is overridden by"
  | .implemented => "is implemented by"

/-- The relation, from the side of the method called. -/
def inverse : Relation → String
  | .direct => "directly called by"
  | .virtual => "virtually called by"
  | .interfacial => "interfacially called by"
  | .overridden => "overrides"
  | .implemented => "implements"

/-- The relation with that phrase. -/
def ofPhrase? (callType : String) : Option Relation :=
  all.find? fun r => r.phrase == callType

end Relation

/-- The call type, phrased from the side of the method called. -/
def invertCallType (callType : String) : String :=
  match Relation.ofPhrase? callType with
  | some r => r.inverse
  | none => "REV(" ++ callType ++ ")"

end CallAtlas.Graph
