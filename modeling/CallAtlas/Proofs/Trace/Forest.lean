import CallAtlas.Proofs.Trace.Grammar
import CallAtlas.Proofs.Trace.Nesting
import CallAtlas.Text.Blank

/-!
# Forests of calls

What a trace is a listing of: calls in order, each with the calls that it makes.

* `Call`: a call whose names a line can carry; `Call.line` writes it, and `Call.parseLine_line` reads it
  back.
* `Forest`, with its calls depth first (`nodes`, `roots`), the pairs of a call and the calls it makes
  (`calls`), and its listing (`lines`).
* `Forest.Reads`: a list of records is that of a forest, whatever the numbers of the lines.
* `Reads.foldl_extend`, `Reads.made`: below a last record not too far up, every record of a forest is
  taken, and the calls they stand for are those of the forest, besides those of its roots from the latest
  record one level up.
-/

namespace CallAtlas.Trace

open Text

/-! ## Lines -/

/-- A call that a line can carry, with what its line has after the method. -/
structure Call where
  callType : String
  method : MethodName
  rest : String
  isCallType : IsCallType callType.toList
  isClassName : IsClassName method.className.toList
  isSignature : IsSignature method.signature.toList

namespace Call

/-- The line of the call, after so many blanks. -/
def line (c : Call) (columns : Nat) : String :=
  String.ofList (List.replicate columns ' ') ++ c.callType ++ " " ++ c.method.qualified ++ ":" ++ c.rest

/-- The parts of the line without its line end. -/
private def fields (c : Call) (columns : Nat) : Fields :=
  ⟨List.replicate columns ' ', c.callType.toList, c.method.className.toList, c.method.signature.toList,
    dropTrailing isLineEnd c.rest.toList⟩

private theorem fields_wellFormed (c : Call) (columns : Nat) : (c.fields columns).WellFormed where
  margin _ hx := .inl (List.eq_of_mem_replicate hx)
  callType := c.isCallType
  className := c.isClassName
  signature := c.isSignature

private theorem toList_line (c : Call) (columns : Nat) : (c.line columns).toList =
    List.replicate columns ' ' ++ c.callType.toList ++ ' ' :: c.method.className.toList ++
      '.' :: c.method.signature.toList ++ ':' :: c.rest.toList := by
  simp [line, MethodName.qualified]

/-- The line of a call is read as that call, at the level of its columns. -/
theorem parseLine_line (c : Call) (columns : Nat) (lineNo : Option Int) :
    parseLine (c.line columns) lineNo = .ok ⟨depthOf columns, c.callType, c.method, lineNo⟩ := by
  have htext : dropTrailing isLineEnd (c.line columns).toList = (c.fields columns).text := by
    rw [toList_line, dropTrailing_append_cons _ (by decide)]
    rfl
  unfold parseLine
  simp only [htext, Fields.ofLine_text (c.fields_wellFormed columns)]
  simp [Fields.record, fields]

/-- The line of a call is not blank. -/
theorem allBlank_line (c : Call) (columns : Nat) : allBlank (c.line columns) = false := by
  have hcolon : isBlank ':' = false := by decide
  rw [allBlank, List.all_eq_false]
  exact ⟨':', by simp [toList_line], by simp [hcolon]⟩

end Call

/-! ## Forests -/

/-- Calls in order, each with the calls that it makes. -/
inductive Forest where
  /-- No calls. -/
  | nil
  /-- A first call, the calls that it makes, and the calls after it. -/
  | cons (call : Call) (inner next : Forest)

namespace Forest

/-- All calls, depth first. -/
def nodes : Forest → List Call
  | nil => []
  | cons call inner next => call :: (inner.nodes ++ next.nodes)

/-- The calls that no call makes. -/
def roots : Forest → List Call
  | nil => []
  | cons call _ next => call :: next.roots

/-- The roots, as calls from a method. -/
def callsFrom (caller : MethodName) (f : Forest) : List NamedCall :=
  f.roots.map fun c => ⟨c.callType, caller, c.method⟩

/-- Each call with the method that makes it, the roots apart. -/
def calls : Forest → List NamedCall
  | nil => []
  | cons call inner next => inner.callsFrom call.method ++ inner.calls ++ next.calls

/-- The listing, depth first; the roots stand after so many blanks. -/
def lines : Forest → Nat → List String
  | nil, _ => []
  | cons call inner next, columns =>
    call.line columns :: (inner.lines (columns + levelWidth) ++ next.lines columns)

theorem length_lines (f : Forest) (columns : Nat) : (f.lines columns).length = f.nodes.length := by
  induction f generalizing columns with
  | nil => rfl
  | cons call inner next ihInner ihNext =>
    rw [lines, nodes, List.length_cons, List.length_cons, List.length_append, List.length_append, ihInner,
      ihNext]

/-- The records are those of the forest with its roots at that depth, whatever the numbers of the
lines. -/
inductive Reads : Forest → Int → List Record → Prop
  | nil {depth : Int} : Reads nil depth []
  | cons {call : Call} {inner next : Forest} {depth : Int} {r : Record} {xs ys : List Record}
    (hdepth : r.depth = depth) (htype : r.callType = call.callType) (hmethod : r.method = call.method)
    (hinner : Reads inner (depth + 1) xs) (hnext : Reads next depth ys) :
    Reads (cons call inner next) depth (r :: (xs ++ ys))

end Forest

/-! ## The records of a forest -/

namespace Forest.Reads

variable {f : Forest} {top depth : Int} {rs taken : List Record}

theorem depth_le (h : f.Reads depth rs) : ∀ r ∈ rs, depth ≤ r.depth := by
  induction h with
  | nil => simp
  | @cons call inner next depth r xs ys hdepth htype hmethod hinner hnext ihInner ihNext =>
    intro x hx
    rw [List.mem_cons, List.mem_append] at hx
    rcases hx with rfl | hx | hx
    · omega
    · have := ihInner x hx
      omega
    · exact ihNext x hx

theorem map_method (h : f.Reads depth rs) : rs.map (·.method) = f.nodes.map (·.method) := by
  induction h with
  | nil => rfl
  | cons hdepth htype hmethod hinner hnext ihInner ihNext =>
    rw [nodes, List.map_cons, List.map_cons, List.map_append, List.map_append, ihInner, ihNext, hmethod]

/-- The records at the level of the roots are those of the roots. -/
theorem filter_depth (h : f.Reads depth rs) :
    (rs.filter (·.depth = depth)).map (fun r => (r.callType, r.method)) =
      f.roots.map fun c => (c.callType, c.method) := by
  induction h with
  | nil => rfl
  | @cons call inner next depth r xs ys hdepth htype hmethod hinner hnext ihInner ihNext =>
    have hxs : xs.filter (·.depth = depth) = [] := by
      rw [List.filter_eq_nil_iff]
      intro x hx
      have := hinner.depth_le x hx
      simp only [decide_eq_true_eq]
      omega
    rw [List.filter_cons_of_pos (by simpa using hdepth), List.filter_append, hxs, List.nil_append,
      List.map_cons, ihNext, roots, List.map_cons, htype, hmethod]

theorem map_method_filter_depth (h : f.Reads depth rs) :
    (rs.filter (·.depth = depth)).map (·.method) = f.roots.map (·.method) := by
  simpa [Function.comp_def] using congrArg (List.map Prod.snd) h.filter_depth

/-- The roots of one kind of call type are as many in the records as in the forest. -/
theorem length_filter_callType (h : f.Reads depth rs) (p : String → Prop) [DecidablePred p] :
    (rs.filter fun r => r.depth = depth ∧ p r.callType).length =
      (f.roots.filter (p ·.callType)).length := by
  have hfilter := congrArg (fun l => (l.filter (p ·.1)).length) h.filter_depth
  rw [List.filter_map, List.filter_map, List.length_map, List.length_map, List.filter_filter] at hfilter
  simpa [Function.comp_def, and_comm] using hfilter

/-- Every record of a forest is taken. -/
theorem foldl_extend (h : f.Reads depth rs) (hdepth : top ≤ depth)
    (hopen : depth - top ≤ openLevels top taken) : rs.foldl (extend top) taken = taken ++ rs := by
  induction h generalizing taken with
  | nil => simp
  | @cons call inner next depth r xs ys hr htype hmethod hinner hnext ihInner ihNext =>
    have hfits : Fits top taken r := ⟨by omega, by omega⟩
    have hopen₁ : depth + 1 - top ≤ openLevels top (taken ++ [r]) := by
      rw [openLevels_append_singleton]
      omega
    have hopen₂ := le_openLevels_append hinner.depth_le hopen₁
    rw [List.foldl_cons, List.foldl_append, extend_of_fits hfits, ihInner (by omega) hopen₁,
      ihNext hdepth (by omega)]
    simp

/-- The records of a forest stand for its calls, besides those of its roots from the latest record one
level up. -/
theorem made (h : f.Reads depth rs) (hdepth : top ≤ depth)
    {c : NamedCall} : Made top (taken ++ rs) c ↔ Made top taken c ∨ c ∈ f.calls ∨
      top < depth ∧ ∃ j, latest taken (depth - 1) = some j ∧ c ∈ f.callsFrom j.method := by
  induction h generalizing taken with
  | nil => simp [calls, callsFrom, roots]
  | @cons call inner next depth r xs ys hr htype hmethod hinner hnext ihInner ihNext =>
    have hlatest₁ : latest (taken ++ [r]) depth = some r := by
      rw [latest_append_singleton, if_pos hr]
    have hlatest₂ : latest (taken ++ [r] ++ xs) (depth - 1) = latest taken (depth - 1) := by
      rw [latest_append_of_lt fun x hx => by have := hinner.depth_le x hx; omega,
        latest_append_singleton, if_neg (by omega)]
    -- The calls made by the first root come from `r`, the latest record above theirs.
    have hinnerRoots : (top < depth + 1 ∧ ∃ j, latest (taken ++ [r]) (depth + 1 - 1) = some j ∧
        c ∈ inner.callsFrom j.method) ↔ c ∈ inner.callsFrom call.method := by
      rw [Int.add_sub_cancel, hlatest₁, ← hmethod]
      constructor
      · rintro ⟨-, j, hj, hc⟩
        cases hj
        exact hc
      · exact fun hc => ⟨by omega, r, rfl, hc⟩
    have hroots : ∀ j : Record, c ∈ (Forest.cons call inner next).callsFrom j.method ↔
        c = ⟨call.callType, j.method, call.method⟩ ∨ c ∈ next.callsFrom j.method := fun j => by
      rw [callsFrom, roots, List.map_cons, List.mem_cons, callsFrom]
    have hsplit : taken ++ r :: (xs ++ ys) = taken ++ [r] ++ xs ++ ys := by simp
    rw [hsplit, ihNext hdepth, ihInner (by omega), made_append_singleton, hlatest₂, hr, htype, hmethod,
      hinnerRoots, calls, List.mem_append, List.mem_append]
    simp only [hroots, and_or_left, exists_or, or_assoc, or_comm, or_left_comm]

end Forest.Reads

end CallAtlas.Trace
