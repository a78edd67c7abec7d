import CallAtlas.Tools.Answer
import Mathlib.Algebra.GroupWithZero.Nat

/-!
# What answers name

Answers name methods: by class and signature, or by signature below the name of a class.

* `Json.member?` with `Json.textAt?`, `Json.countAt?`, `Json.itemsAt`: the parts of a value, by name.
* `Json.partNames`, `Json.listedNames`, `Json.names`: the methods that a value names.
* `Browse.names_encodeClass`, `Browse.names_encodeMethod`, `Tools.names_traceObject` and their like: the methods
  that the answers name.
-/

namespace CallAtlas

/-! ## Parts of a value -/

namespace Json

/-- The text, if the value is one. -/
def text? : Json → Option String
  | .str s => some s
  | _ => none

/-- The count, if the value is one. -/
def count? : Json → Option Nat
  | .int (.ofNat n) => some n
  | _ => none

/-- The items, if the value is an array. -/
def items : Json → List Json
  | .arr items => items
  | _ => []

/-- The text that the member of that name has. -/
def textAt? (name : String) (v : Json) : Option String :=
  (v.member? name).bind text?

/-- The count that the member of that name has. -/
def countAt? (name : String) (v : Json) : Option Nat :=
  (v.member? name).bind count?

/-- The items that the member of that name has. -/
def itemsAt (name : String) (v : Json) : List Json :=
  ((v.member? name).map items).getD []

/-- The sum of the counts that the members of that name have, if all values have such a member. -/
def total? (name : String) (vs : List Json) : Option Nat :=
  (vs.mapM (countAt? name)).map List.sum

/-- The method whose class and signature are members of the value. -/
def methodName? (v : Json) : Option MethodName :=
  match v.textAt? "class_name", v.textAt? "signature" with
  | some className, some signature => some ⟨className, signature⟩
  | _, _ => none

mutual

/-- The methods that the value and its parts name by class and signature. -/
def partNames : Json → List MethodName
  | .arr items => itemNames items
  | .obj members => (methodName? (.obj members)).toList ++ memberNames members
  | _ => []

/-- The methods that the items name. -/
def itemNames : List Json → List MethodName
  | [] => []
  | v :: rest => partNames v ++ itemNames rest

/-- The methods that the members name. -/
def memberNames : List (String × Json) → List MethodName
  | [] => []
  | (_, v) :: rest => partNames v ++ memberNames rest

end

/-- The methods that the value lists by signature, if it is a class. -/
def listedNames (v : Json) : List MethodName :=
  match v.textAt? "name" with
  | some className => ((v.itemsAt "methods").filterMap (textAt? "signature")).map (⟨className, ·⟩)
  | none => []

/-- All methods that the value names. -/
def names (v : Json) : List MethodName :=
  v.partNames ++ v.listedNames

theorem itemNames_map {α : Type} (encode : α → Json) (xs : List α) :
    itemNames (xs.map encode) = xs.flatMap fun a => (encode a).partNames := by
  induction xs with
  | nil => rfl
  | cons a xs ih => rw [List.map_cons, itemNames, ih, List.flatMap_cons]

theorem total?_map {α : Type} {name : String} {encode : α → Json} (count : α → Nat)
    (h : ∀ a, (encode a).countAt? name = some (count a)) (xs : List α) :
    total? name (xs.map encode) = some (xs.map count).sum := by
  have hcounts : (xs.map encode).mapM (countAt? name) = some (xs.map count) := by
    induction xs with
    | nil => rfl
    | cons a xs ih =>
      rw [List.map_cons, List.mapM_cons, h, ih, List.map_cons]
      rfl
  rw [total?, hcounts, Option.map_some]

end Json

/-! ## Names in answers -/

namespace Browse

open CallAtlas.Graph

theorem itemNames_encodeName (names : List MethodName) : Json.itemNames (names.map encodeName) = names := by
  rw [Json.itemNames_map]
  exact List.flatMap_singleton' names

theorem itemNames_encodeRef (refs : List CallRef) :
    Json.itemNames (refs.map encodeRef) = refs.map (·.method) := by
  rw [Json.itemNames_map, List.map_eq_flatMap]
  rfl

theorem itemNames_str (texts : List String) : Json.itemNames (texts.map .str) = [] := by
  rw [Json.itemNames_map, List.flatMap_eq_nil_iff]
  exact fun _ _ => rfl

theorem itemNames_encodeSummary (methods : List MethodSummary) :
    Json.itemNames (methods.map encodeSummary) = [] := by
  rw [Json.itemNames_map, List.flatMap_eq_nil_iff]
  exact fun _ _ => rfl

theorem names_encodeMethod (info : MethodInfo) : (encodeMethod info).names =
    info.method :: (info.forward.map (·.method) ++ info.reverse.map (·.method)) := by
  show [info.method] ++ ([] ++ ([] ++ (Json.itemNames (info.forward.map encodeRef) ++
    (Json.itemNames (info.reverse.map encodeRef) ++ [])))) ++ [] = _
  rw [itemNames_encodeRef, itemNames_encodeRef]
  simp

theorem listedNames_encodeClass (info : ClassInfo) :
    (encodeClass info).listedNames = info.methods.map fun s => ⟨info.name, s.signature⟩ := by
  have hsignature : Json.textAt? "signature" ∘ encodeSummary = some ∘ MethodSummary.signature := rfl
  show ((info.methods.map encodeSummary).filterMap (Json.textAt? "signature")).map _ = _
  rw [List.filterMap_map, hsignature, List.filterMap_eq_map, List.map_map]
  rfl

theorem names_encodeClass (info : ClassInfo) :
    (encodeClass info).names = info.methods.map fun s => ⟨info.name, s.signature⟩ := by
  show [] ++ ([] ++ (Json.itemNames (info.methods.map encodeSummary) ++ [])) ++
    (encodeClass info).listedNames = _
  rw [itemNames_encodeSummary, listedNames_encodeClass]
  rfl

end Browse

/-! ## Names in trees -/

namespace Tools

open CallAtlas.Graph

theorem partNames_encodeCallType (inverted : Bool) (edge : Option CallEdge) :
    (encodeCallType inverted edge).partNames = [] := by
  cases edge <;> rfl

mutual

theorem partNames_encodeTree (inverted : Bool) :
    ∀ t : CallTree, (encodeTree inverted t).partNames = t.toList.map (·.name)
  | .node v cs => by
    show [v.name] ++ ([] ++ ([] ++ ((encodeCallType inverted v.edge).partNames ++ ([] ++
      (Json.itemNames (encodeTrees inverted cs) ++ []))))) = _
    rw [partNames_encodeCallType, itemNames_encodeTrees inverted cs, CallTree.toList]
    simp

theorem itemNames_encodeTrees (inverted : Bool) : ∀ ts : List CallTree,
    Json.itemNames (encodeTrees inverted ts) = (CallTree.forestToList ts).map (·.name)
  | [] => rfl
  | t :: ts => by
    rw [encodeTrees, Json.itemNames, partNames_encodeTree inverted t, itemNames_encodeTrees inverted ts,
      CallTree.forestToList, List.map_append]

end

theorem methodName?_encodeTree (inverted : Bool) (t : CallTree) :
    (encodeTree inverted t).methodName? = some t.visit.name := by
  cases t
  rfl

theorem partNames_encodeTree? (inverted : Bool) (t : Option CallTree) :
    (encodeTree? inverted t).partNames = t.toList.flatMap fun t => t.toList.map (·.name) := by
  cases t with
  | none => rfl
  | some t =>
    rw [encodeTree?, partNames_encodeTree]
    simp

theorem names_traceObject (g : CallGraph) (start : MethodNode) (maxDepth : Int) :
    (traceObject g start maxDepth).names =
      ((g.tree? .callers start.id maxDepth).toList ++ (g.tree? .callees start.id maxDepth).toList).flatMap
        fun t => t.toList.map (·.name) := by
  show [] ++ ([] ++ ((encodeTree? true _).partNames ++ ((encodeTree? false _).partNames ++ []))) ++ [] = _
  rw [partNames_encodeTree?, partNames_encodeTree?, List.flatMap_append]
  simp

theorem names_statsAnswer (l : Loaded) : (statsAnswer l).names = [] :=
  rfl

end Tools

end CallAtlas
