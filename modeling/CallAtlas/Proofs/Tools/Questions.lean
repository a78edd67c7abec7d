import CallAtlas.Tools.Dispatch

/-!
# Questions to the tools

A `Question` is a call of a tool with values of the right kinds.

* `Question.answer`, `dispatch_question`: the answer to it.
* `dispatch_cases`: whatever the tools are called with, they give an error or such an answer.
-/

namespace CallAtlas.Tools

open CallAtlas.Graph

/-- What the tools can be asked. A trace may leave out the limit of depth. -/
inductive Question where
  | classes
  | entrypoints
  | classMethods (name : String)
  | method (name : MethodName)
  | trace (name : MethodName) (maxDepth : Option Int)
  | stats
  deriving DecidableEq, Repr

/-- The arguments that name a method. -/
def nameArguments (name : MethodName) : List (String × Json) :=
  [("class_name", .str name.className), ("signature", .str name.signature)]

namespace Question

/-- The tool to ask. -/
def tool : Question → String
  | classes => "calltree_classes"
  | entrypoints => "calltree_entrypoints"
  | classMethods _ => "calltree_class"
  | method _ => "calltree_method"
  | trace .. => "calltree_trace"
  | stats => "calltree_stats"

/-- The arguments to ask it with. -/
def arguments : Question → List (String × Json)
  | classMethods name => [("class_name", .str name)]
  | method name => nameArguments name
  | trace name maxDepth => nameArguments name ++ maxDepth.toList.map fun d => ("max_depth", .int d)
  | classes | entrypoints | stats => []

/-- The answer. -/
def answer (l : Loaded) : Question → Json
  | classes => classesAnswer l.graph
  | entrypoints => entrypointsAnswer l.graph
  | classMethods name => classAnswer l.graph name
  | method name => methodAnswer l.graph name.className name.signature
  | trace name maxDepth => traceAnswer l.graph name.className name.signature (maxDepth.getD defaultDepth)
  | stats => statsAnswer l

end Question

/-! ## Answers -/

/-- Every question is answered. -/
theorem dispatch_question (l : Loaded) (q : Question) :
    dispatch l q.tool q.arguments = .ok (q.answer l) := by
  cases q with
  | classes => rfl
  | entrypoints => rfl
  | classMethods name => rfl
  | method name => rfl
  | trace name maxDepth => cases maxDepth <;> rfl
  | stats => rfl

/-- What a call is answered with is an error, or the answer to a question. -/
theorem Call.answer_cases {l : Loaded} {call : Call} {v : Json} (h : call.answer l = .ok v) :
    (∃ message, v = errorObject message) ∨ ∃ q : Question, v = q.answer l := by
  cases call with
  | classes => exact .inr ⟨.classes, (Except.ok.inj h).symm⟩
  | entrypoints => exact .inr ⟨.entrypoints, (Except.ok.inj h).symm⟩
  | stats => exact .inr ⟨.stats, (Except.ok.inj h).symm⟩
  | unknown tool => exact .inl ⟨_, (Except.ok.inj h).symm⟩
  | classMethods name =>
    rw [Call.answer, answerClass] at h
    split at h <;> cases h
    · exact .inl ⟨_, rfl⟩
    next c _ => exact .inr ⟨.classMethods c, rfl⟩
  | method className signature =>
    rw [Call.answer] at h
    unfold answerMethod at h
    split at h
    · cases h
    · cases h
      exact .inl ⟨_, rfl⟩
    next c s _ =>
      cases h
      exact .inr ⟨.method ⟨c, s⟩, rfl⟩
    · split at h <;> cases h
      exact .inl ⟨_, rfl⟩
  | trace className signature maxDepth =>
    rw [Call.answer] at h
    unfold answerTrace at h
    split at h
    · cases h
    · cases h
      exact .inl ⟨_, rfl⟩
    next c s _ =>
      split at h
      next limit _ =>
        cases h
        exact .inr ⟨.trace ⟨c, s⟩ (some limit), rfl⟩
      next e _ =>
        split at h <;> cases h
        exact .inl ⟨_, rfl⟩
    · cases h

/-- Whatever the tools are called with, they answer with an error, or with the answer to a question. -/
theorem dispatch_cases {l : Loaded} {tool : String} {arguments : List (String × Json)} {v : Json}
    (h : dispatch l tool arguments = .ok v) :
    (∃ message, v = errorObject message) ∨ ∃ q : Question, v = q.answer l := by
  unfold dispatch at h
  split at h
  · cases h
  · exact Call.answer_cases h

end CallAtlas.Tools
