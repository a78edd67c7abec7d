import CallAtlas.Proofs.Graph.Joining
import CallAtlas.Proofs.Trace.Margins
import CallAtlas.Proofs.Trace.Names

/-!
# Refusals that can be written

A builder that is given lines stops where a refusal names a number too long to be written. The numbers that the
refusals of a whole trace name are the numbers of its lines and levels no deeper than a line is long, so a trace ends
early only if it, or one of its lines, has a length that cannot be written itself.

* `Builder.isWritable_of_refused`: the refusal of a line's record can be written.
* `Builder.addLine_eq_of_isWritable`, `Builder.addLinesFrom_eq_of_isWritable`: so a line, and a run of lines, is taken
  as if all refusals could be.
* `load_eq_addLines`: the trace is what a new builder makes of its lines.
-/

namespace CallAtlas.Graph

open Text (isWritable)
open Trace

/-- A number no further from 0 than one that can be written can be written. -/
theorem isWritable_of_natAbs_le {m n : Int} (h : isWritable n = true) (hle : m.natAbs ≤ n.natAbs) :
    isWritable m = true := by
  unfold isWritable at h ⊢
  exact decide_eq_true (Nat.lt_of_le_of_lt hle (of_decide_eq_true h))

namespace Builder

variable {b b' : Builder} {r : Record} {m : Malformed} {lineNo : Nat} {line : String}

/-- To place a record does not refuse it for its level. -/
theorem place_ne_malformed (b : Builder) (r : Record) (level : Nat) (m : Malformed) :
    (b.place r level).2 ≠ .error (.malformed m) := by
  rcases b.place_cases r level with ⟨g, e, -, heq⟩ | ⟨g, id, -, ⟨-, heq⟩ | ⟨caller, -, heq⟩⟩ <;> rw [heq]
  · nofun
  · unfold enter
    dsimp only
    split <;> nofun
  · unfold connect
    dsimp only
    split <;> nofun

/-- The level at which the records begin is no higher than the first of them, or than those before it. -/
theorem le_getD_origin (horigin : ∀ top ∈ b.origin, -1 ≤ top) {start : Int} (hstart : -1 ≤ start) :
    -1 ≤ b.origin.getD start := by
  cases h : b.origin with
  | none => exact hstart
  | some top => exact horigin top h

/-- A record is refused with its depth, or with the level at which it stands below the top. -/
theorem isWritable_of_refused (h : b.addRecord r = (b', .error (.malformed m))) (horigin : ∀ top ∈ b.origin, -1 ≤ top)
    (hdepth : -1 ≤ r.depth) {n : Int} (hn : isWritable n = true) (hlt : r.depth.natAbs < n.natAbs)
    (hno : r.lineNo.all isWritable = true) : m.isWritable = true := by
  have htop : -1 ≤ b.origin.getD (if r.depth < 0 then r.depth else 0) := le_getD_origin horigin (by omega)
  unfold addRecord at h
  dsimp only at h
  generalize b.origin.getD (if r.depth < 0 then r.depth else 0) = top at h htop
  split at h
  · cases h
    rw [Malformed.isWritable, Cause.isWritable, hno, isWritable_of_natAbs_le hn (by omega)]
    rfl
  split at h
  · cases h
    rw [Malformed.isWritable, Cause.isWritable, hno, isWritable_of_natAbs_le hn (by omega)]
    rfl
  · have hplaced := congrArg Prod.snd h
    exact absurd hplaced (place_ne_malformed _ _ _ _)

theorem addLine_eq_of_isWritable (horigin : ∀ top ∈ b.origin, -1 ≤ top) (hno : isWritable lineNo = true)
    (hline : isWritable line.length = true) :
    b.addLine Malformed.isWritable lineNo line = b.addLine (fun _ => true) lineNo line := by
  cases hread : parseLine line (some lineNo) with
  | error m => rw [addLine_of_error hread, addLine_of_error hread]
  | ok r =>
    cases hadd : b.addRecord r with
    | mk b' out =>
      match out with
      | .ok () => rw [addLine_of_taken hread hadd, addLine_of_taken hread hadd]
      | .error (.graph e) =>
        unfold addLine
        rw [hread]
        dsimp only
        rw [hadd]
      | .error (.malformed m) =>
        have hlineNo : r.lineNo.all isWritable = true := by
          rw [lineNo_of_parseLine hread, Option.all_some, hno]
        have hwritable := isWritable_of_refused hadd horigin (le_depth_of_parseLine hread) hline
          (natAbs_depth_lt_of_parseLine hread) hlineNo
        rw [addLine_of_refused hread hadd hwritable, addLine_of_refused hread hadd rfl]

/-- The records of lines begin no higher than at column zero. -/
theorem le_origin_addLine (horigin : ∀ top ∈ b.origin, -1 ≤ top) (isTold : Malformed → Bool) (lineNo : Nat)
    (line : String) : ∀ top ∈ (b.addLine isTold lineNo line).1.origin, -1 ≤ top := by
  intro top htop
  rw [origin_addLine] at htop
  cases hread : parseLine line (some lineNo) with
  | error m =>
    rw [hread] at htop
    exact horigin top htop
  | ok r =>
    rw [hread] at htop
    have hdepth := le_depth_of_parseLine hread
    obtain rfl : b.origin.getD (min r.depth 0) = top := Option.some.inj htop
    exact le_getD_origin horigin (by omega)

/-- A run of lines is taken as if all refusals could be written. -/
theorem addLinesFrom_eq_of_isWritable (hasHeader : Bool) {lines : List String} (horigin : ∀ top ∈ b.origin, -1 ≤ top)
    {last : Nat} (hlast : isWritable last = true) (hno : lineNo + lines.length ≤ last + 1)
    (hlines : ∀ line ∈ lines, isWritable line.length = true) :
    b.addLinesFrom Malformed.isWritable hasHeader lineNo lines =
      b.addLinesFrom (fun _ => true) hasHeader lineNo lines := by
  induction lines generalizing b lineNo with
  | nil => rfl
  | cons line rest ih =>
    obtain ⟨hline, hrest⟩ := List.forall_mem_cons.1 hlines
    rw [List.length_cons] at hno
    cases hout : isLeftOut hasHeader lineNo line with
    | true =>
      rw [addLinesFrom_of_leftOut hout, addLinesFrom_of_leftOut hout]
      exact ih horigin (by omega) hrest
    | false =>
      have hlineNo : isWritable lineNo = true := isWritable_of_natAbs_le hlast (by omega)
      have hadd : b.countLine.addLine Malformed.isWritable lineNo line =
          b.countLine.addLine (fun _ => true) lineNo line :=
        addLine_eq_of_isWritable horigin hlineNo hline
      have horigin' := le_origin_addLine (b := b.countLine) horigin (fun _ => true) lineNo line
      rw [addLinesFrom_of_not_leftOut hout, addLinesFrom_of_not_leftOut hout, hadd]
      split
      next heq =>
        rw [heq] at horigin'
        exact ih horigin' (by omega) hrest
      · rfl

end Builder

/-- **A trace is what a new builder makes of its lines**, as long as its length and those of its lines can be
written. -/
theorem load_eq_addLines {lines : List String} (hlength : isWritable lines.length = true)
    (hlines : ∀ line ∈ lines, isWritable line.length = true) :
    let b := ({} : Builder).addLines lines true
    b.2 = .ok () ∧ load lines = ⟨b.1.build.graph, b.1.build.stats⟩ := by
  intro b
  have hadd : b = ({} : Builder).addLinesFrom (fun _ => true) true 1 lines :=
    Builder.addLinesFrom_eq_of_isWritable true nofun hlength (by omega) hlines
  have hcarried : Builder.Carried (startLevel (readable true 1 lines)) fun _ _ => True :=
    ⟨id, fun _ _ h => h, fun _ _ _ _ h => h⟩
  obtain ⟨b', heq, -⟩ := (Builder.Follows.empty _).addLinesFrom hcarried trivial true 1 lines rfl
  rw [load, hadd, heq]
  exact ⟨rfl, rfl⟩

end CallAtlas.Graph
