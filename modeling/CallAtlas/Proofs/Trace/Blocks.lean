import CallAtlas.Proofs.Trace.Nesting
import Mathlib.Data.List.Induction

/-!
# Records one block after the other

A block of records that begins at the top is taken after other records as it is by itself.

* `Begins`: the first record of a block is at the top.
* `accepted_append`: the records taken of two blocks are those taken of each; `made_append`: so are the
  calls that they stand for.
* `Record.unnumbered`: a record without the number of its line, which has no part in this
  (`accepted_map_unnumbered`, `made_map_unnumbered`).
-/

namespace CallAtlas.Trace

variable {top : Int} {taken xs ys rs : List Record} {r : Record} {c : NamedCall}

/-! ## Two blocks -/

/-- The first record, if there is one, is at the top. -/
def Begins (top : Int) (rs : List Record) : Prop :=
  ∀ r, rs.head? = some r → r.depth = top

theorem openLevels_append (hys : ys ≠ []) : openLevels top (xs ++ ys) = openLevels top ys := by
  rw [openLevels, openLevels, List.getLast?_append, List.getLast?_eq_some_getLast hys, Option.some_or]

theorem Nests.openLevels_nonneg (h : Nests top taken) : 0 ≤ openLevels top taken := by
  cases h with
  | nil => exact Int.le_refl 0
  | snoc h hr =>
    rw [openLevels_append_singleton]
    have := hr.1
    omega

/-- From its first record on, a block is taken as it is by itself. -/
private theorem foldl_extend_append (hys : ys ≠ []) :
    rs.foldl (extend top) (xs ++ ys) = xs ++ rs.foldl (extend top) ys := by
  induction rs generalizing ys with
  | nil => rfl
  | cons r rs ih =>
    have hfits : Fits top (xs ++ ys) r ↔ Fits top ys r := by rw [Fits, Fits, openLevels_append hys]
    rw [List.foldl_cons, List.foldl_cons]
    by_cases hr : Fits top ys r
    · rw [extend_of_fits hr, extend_of_fits (hfits.2 hr), List.append_assoc]
      exact ih (List.append_ne_nil_of_right_ne_nil ys (List.cons_ne_nil r []))
    · rw [extend_of_not_fits hr, extend_of_not_fits (mt hfits.1 hr)]
      exact ih hys

/-- The records taken of two blocks are those taken of each. -/
theorem accepted_append (h : Begins top ys) :
    accepted top (xs ++ ys) = accepted top xs ++ accepted top ys := by
  have hxs := Nests.accepted top xs
  rw [accepted, List.foldl_append]
  change ys.foldl (extend top) (accepted top xs) = accepted top xs ++ ys.foldl (extend top) []
  cases ys with
  | nil => rw [List.foldl_nil, List.foldl_nil, List.append_nil]
  | cons r rs =>
    have hr : r.depth = top := h r rfl
    have hfits : ∀ {taken}, Nests top taken → Fits top taken r := fun ht =>
      ⟨by omega, by have := ht.openLevels_nonneg; omega⟩
    rw [List.foldl_cons, List.foldl_cons, extend_of_fits (hfits hxs), extend_of_fits (hfits .nil),
      List.nil_append]
    exact foldl_extend_append (List.cons_ne_nil r [])

theorem latest_append (level : Int) :
    latest (xs ++ ys) level = (latest ys level).or (latest xs level) := by
  rw [latest, List.reverse_append, List.find?_append, latest, latest]

/-- Two blocks stand for the calls of each. -/
theorem made_append (h : Nests top ys) : Made top (xs ++ ys) c ↔ Made top xs c ∨ Made top ys c := by
  induction h with
  | nil => simp [made_nil]
  | @snoc ys r h hr ih =>
    rw [← List.append_assoc, made_append_singleton, made_append_singleton, ih, or_assoc]
    refine or_congr_right (or_congr_right (and_congr_right fun htop => ?_))
    -- The block has a record one level up itself.
    have hsome : (latest ys (r.depth - 1)).isSome := by
      have := hr.2
      exact h.latest_isSome (by omega) (by omega)
    obtain ⟨j, hj⟩ := Option.isSome_iff_exists.1 hsome
    rw [latest_append, hj, Option.some_or]

/-! ## Numbers of lines -/

/-- The record without the number of its line. -/
def Record.unnumbered (r : Record) : Record :=
  { r with lineNo := none }

theorem startLevel_map_unnumbered (rs : List Record) :
    startLevel (rs.map Record.unnumbered) = startLevel rs := by
  cases rs <;> rfl

theorem openLevels_map_unnumbered (taken : List Record) :
    openLevels top (taken.map Record.unnumbered) = openLevels top taken := by
  rw [openLevels, openLevels, List.getLast?_map]
  cases taken.getLast? <;> rfl

theorem accepted_map_unnumbered (rs : List Record) :
    accepted top (rs.map Record.unnumbered) = (accepted top rs).map Record.unnumbered := by
  have hfold : ∀ taken, (rs.map Record.unnumbered).foldl (extend top) (taken.map Record.unnumbered) =
      (rs.foldl (extend top) taken).map Record.unnumbered := by
    induction rs with
    | nil => exact fun _ => rfl
    | cons r rs ih =>
      intro taken
      have hfits : Fits top (taken.map Record.unnumbered) r.unnumbered ↔ Fits top taken r := by
        rw [Fits, Fits, openLevels_map_unnumbered]
        rfl
      rw [List.map_cons, List.foldl_cons, List.foldl_cons, ← ih]
      by_cases hr : Fits top taken r
      · rw [extend_of_fits hr, extend_of_fits (hfits.2 hr), List.map_append, List.map_singleton]
      · rw [extend_of_not_fits hr, extend_of_not_fits (mt hfits.1 hr)]
  exact hfold []

theorem latest_map_unnumbered (taken : List Record) (level : Int) :
    latest (taken.map Record.unnumbered) level = (latest taken level).map Record.unnumbered := by
  rw [latest, ← List.map_reverse, List.find?_map]
  rfl

theorem made_map_unnumbered (taken : List Record) :
    Made top (taken.map Record.unnumbered) c ↔ Made top taken c := by
  induction taken using List.reverseRecOn with
  | nil => rfl
  | append_singleton taken r ih =>
    rw [List.map_append, List.map_singleton, made_append_singleton, made_append_singleton, ih,
      latest_map_unnumbered]
    refine or_congr_right (and_congr_right fun _ => ?_)
    simp [Record.unnumbered]

end CallAtlas.Trace
