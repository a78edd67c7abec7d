import CallAtlas.Json.Printer
import CallAtlas.Json.Shown
import CallAtlas.Tools.Answer

/-!
# Tools

Questions about a call graph, as tools that are called by name with an object of arguments.

- `Call.decode`: the call that a name and arguments ask for; a missing argument is an
  `ArgumentError`;
- `Call.answer`: the answer to a call, an object; an argument of a wrong kind is an `ArgumentError` where
  the answer hangs on it;
- `dispatch`: the two together;
- `respond`: the text that a caller receives, where a missing argument is an answer too.

A value that is no text may still stand for a class: null, a truth value or a number names no class, so the
class is not found. A list or an object cannot name anything. A signature has to be a text.
-/

namespace CallAtlas.Tools

open CallAtlas.Graph

/-- A call of a tool, with the values of its arguments. -/
inductive Call where
  | classes
  | classMethods (name : Json)
  | entrypoints
  | method (className signature : Json)
  | trace (className signature maxDepth : Json)
  | stats
  | unknown (tool : String)
  deriving Repr

/-- What is wrong with the arguments of a call. -/
inductive ArgumentError where
  /-- There is no argument of that name. -/
  | missing (name : String)
  /-- A list or an object stands for a name. -/
  | noName (v : Json)
  /-- A value without parts stands for a signature. -/
  | noParts (v : Json)
  /-- A list or an object stands for a signature, and has no percent sign among its items or names. -/
  | noText (v : Json)
  /-- A list or an object stands for a signature, and has a percent sign among its items or names. -/
  | noCharacters (v : Json)
  /-- A value that no depth can be compared with stands for the limit of depth. -/
  | noLimit (v : Json)
  deriving Repr

/-- The error in words. -/
def ArgumentError.message : ArgumentError → String
  | .missing name => "\x27" ++ name ++ "\x27"
  | .noName v => "unhashable type: \x27" ++ v.kindName ++ "\x27"
  | .noParts v => "argument of type \x27" ++ v.kindName ++ "\x27 is not iterable"
  | .noText v => "\x27" ++ v.kindName ++ "\x27 object has no attribute \x27split\x27"
  | .noCharacters v => "expected string or bytes-like object, got \x27" ++ v.kindName ++ "\x27"
  | .noLimit v =>
    "\x27>\x27 not supported between instances of \x27int\x27 and \x27" ++ v.kindName ++ "\x27"

/-- The limit of depth of a trace that names none. -/
def defaultDepth : Int := 5

/-! ## Reading a call -/

/-- The value of an argument that may be left out. -/
def argument? (arguments : List (String × Json)) (name : String) : Option Json :=
  (Json.obj arguments).member? name

/-- The value of an argument that must be there. -/
def argument (arguments : List (String × Json)) (name : String) : Except ArgumentError Json :=
  match argument? arguments name with
  | some v => .ok v
  | none => .error (.missing name)

/-- The call that a tool's name and arguments ask for. -/
def Call.decode (tool : String) (arguments : List (String × Json)) : Except ArgumentError Call :=
  match tool with
  | "calltree_classes" => .ok .classes
  | "calltree_class" => .classMethods <$> argument arguments "class_name"
  | "calltree_entrypoints" => .ok .entrypoints
  | "calltree_method" => do
    let className ← argument arguments "class_name"
    return .method className (← argument arguments "signature")
  | "calltree_trace" => do
    let className ← argument arguments "class_name"
    let signature ← argument arguments "signature"
    return .trace className signature ((argument? arguments "max_depth").getD (.int defaultDepth))
  | "calltree_stats" => .ok .stats
  | _ => .ok (.unknown tool)

/-! ## Values that stand for names and limits -/

/-- The name that a value stands for, if it can stand for one: a text for itself, any other value without
parts for none. -/
def nameIn : Json → Except ArgumentError (Option String)
  | .str s => .ok (some s)
  | .arr items => .error (.noName (.arr items))
  | .obj members => .error (.noName (.obj members))
  | _ => .ok none

/-- The limit of depth that a value stands for; a truth value counts as 1 or 0. -/
def limitIn : Json → Except ArgumentError Int
  | .int i => .ok i
  | .bool b => .ok b.toInt
  | v => .error (.noLimit v)

/-- Whether the value is a percent sign. -/
def isPercentSign : Json → Bool
  | .str s => s == "%"
  | _ => false

/-- What is wrong with a value that is no text and stands for the signature of a method, in a class that
is there or not. -/
def signatureError (classIsThere : Bool) (v : Json) : ArgumentError :=
  match v with
  | .arr items =>
    if classIsThere then .noName v
    else if items.any isPercentSign then .noCharacters v
    else .noText v
  | .obj members =>
    if classIsThere then .noName v
    else if members.any (·.1 == "%") then .noCharacters v
    else .noText v
  | _ => .noParts v

/-! ## Answers -/

/-- The class of that name with its methods. -/
def answerClass (g : CallGraph) (name : Json) : Except ArgumentError Json :=
  match nameIn name with
  | .error e => .error e
  | .ok none => .ok (noClass name.shown)
  | .ok (some name) => .ok (classAnswer g name)

/-- The method of that name with its calls. -/
def answerMethod (g : CallGraph) (className signature : Json) : Except ArgumentError Json :=
  match nameIn className, signature with
  | .error e, _ => .error e
  | .ok none, _ => .ok (noClass className.shown)
  | .ok (some c), .str s => .ok (methodAnswer g c s)
  | .ok (some c), v =>
    if (g.class? c).isNone then .ok (noClass c) else .error (signatureError true v)

/-- The trees around the method of that name. The limit of depth matters only if there is a method. -/
def answerTrace (g : CallGraph) (className signature maxDepth : Json) : Except ArgumentError Json :=
  match nameIn className, signature with
  | .error e, _ => .error e
  | .ok none, .str s => .ok (noStart className.shown s)
  | .ok (some c), .str s =>
    match limitIn maxDepth with
    | .ok limit => .ok (traceAnswer g c s limit)
    | .error e =>
      if (g.method? ⟨c, lookup g c s⟩).isNone then .ok (noStart c (lookup g c s)) else .error e
  | .ok c, v => .error (signatureError (c.any fun c => (g.class? c).isSome) v)

/-- The answer to a call. -/
def Call.answer (l : Loaded) : Call → Except ArgumentError Json
  | .classes => .ok (classesAnswer l.graph)
  | .classMethods name => answerClass l.graph name
  | .entrypoints => .ok (entrypointsAnswer l.graph)
  | .method className signature => answerMethod l.graph className signature
  | .trace className signature maxDepth => answerTrace l.graph className signature maxDepth
  | .stats => .ok (statsAnswer l)
  | .unknown tool => .ok (errorObject ("Unknown tool: " ++ tool))

/-- The answer to the call that a tool's name and arguments ask for. -/
def dispatch (l : Loaded) (tool : String) (arguments : List (String × Json)) :
    Except ArgumentError Json :=
  match Call.decode tool arguments with
  | .error e => .error e
  | .ok call => call.answer l

/-- The text that a caller of a tool receives, if the arguments are of the right kinds. -/
def respond (l : Loaded) (tool : String) (arguments : List (String × Json)) :
    Except ArgumentError String :=
  match dispatch l tool arguments with
  | .ok answer => .ok answer.indented
  | .error (.missing name) =>
    .ok (errorObject ("Missing argument: " ++ (ArgumentError.missing name).message)).indented
  | .error e => .error e

end CallAtlas.Tools
