import CallAtlas.Trace.Record

/-!
# How records nest

Which records of a trace have a place below those before them, and which calls they stand for, said of
the whole list of records taken so far: there is no stack here. `top` is the level at which the records
begin.

* `startLevel`, `openLevels`, `Fits`: a record has a place at `top` or below it, but at most one level
  below the last record taken.
* `accepted`: the records taken of a list; `Nests` holds of the lists that can be taken.
* `latest`, `Made`: a record below `top` stands for a call from the latest record one level up.
* `Nests.latest_isSome`: every level down to that of the last record has a latest record, so each record
  below `top` has a caller (`Nests.exists_caller`).
* `Descends`: the methods that records at `top` lead to, by the calls that the records stand for;
  `Nests.descends`: the method of every record is one of them.
-/

namespace CallAtlas.Trace

/-- The level at which the records begin. -/
def startLevel : List Record → Int
  | [] => 0
  | r :: _ => min r.depth 0

/-- How many levels there are from `top` down to the last record taken. -/
def openLevels (top : Int) (taken : List Record) : Int :=
  match taken.getLast? with
  | none => 0
  | some last => 1 + (last.depth - top)

/-- The record has a place after the records taken. -/
def Fits (top : Int) (taken : List Record) (r : Record) : Prop :=
  0 ≤ r.depth - top ∧ r.depth - top ≤ openLevels top taken

instance (top : Int) (taken : List Record) (r : Record) : Decidable (Fits top taken r) :=
  inferInstanceAs (Decidable (_ ∧ _))

/-- The records taken, and the next one if it fits. -/
def extend (top : Int) (taken : List Record) (r : Record) : List Record :=
  if Fits top taken r then taken ++ [r] else taken

/-- The records taken of a list, one after the other. -/
def accepted (top : Int) (rs : List Record) : List Record :=
  rs.foldl (extend top) []

/-- The last record taken at a level. -/
def latest (taken : List Record) (level : Int) : Option Record :=
  taken.reverse.find? fun r => r.depth = level

/-- A call of one type from one method to another, by their names. -/
structure NamedCall where
  callType : String
  caller : MethodName
  callee : MethodName
  deriving DecidableEq, Repr

/-- One of the records taken stands below `top` and makes the call, from the latest record one level
up. -/
def Made (top : Int) (taken : List Record) (c : NamedCall) : Prop :=
  ∃ before r after j, taken = before ++ r :: after ∧ top < r.depth ∧
    latest before (r.depth - 1) = some j ∧ c = ⟨r.callType, j.method, r.method⟩

theorem startLevel_cons (r : Record) (rs : List Record) :
    startLevel (r :: rs) = min r.depth 0 :=
  rfl

theorem startLevel_nonpos (rs : List Record) : startLevel rs ≤ 0 := by
  cases rs with
  | nil => exact Int.le_refl 0
  | cons r rs => exact Int.min_le_right r.depth 0

/-! ## One record more -/

/-- A record of a list with one more at its end is that last one, or stands in the list. -/
private theorem append_singleton_cases {taken before after : List Record} {r s : Record}
    (h : taken ++ [r] = before ++ s :: after) :
    taken = before ∧ r = s ∨ ∃ after', taken = before ++ s :: after' := by
  rcases List.eq_nil_or_concat after with rfl | ⟨after, last, rfl⟩
  · obtain ⟨hbefore, hs⟩ := List.append_inj' h rfl
    exact .inl ⟨hbefore, List.singleton_inj.1 hs⟩
  · rw [List.concat_eq_append, ← List.cons_append, ← List.append_assoc] at h
    exact .inr ⟨after, (List.append_inj' h rfl).1⟩

@[simp] theorem openLevels_append_singleton (top : Int) (taken : List Record) (r : Record) :
    openLevels top (taken ++ [r]) = 1 + (r.depth - top) := by
  simp [openLevels]

theorem latest_append_singleton (taken : List Record) (r : Record) (level : Int) :
    latest (taken ++ [r]) level = if r.depth = level then some r else latest taken level := by
  unfold latest
  rw [List.reverse_append, List.reverse_singleton, List.singleton_append, List.find?_cons]
  by_cases h : r.depth = level <;> simp [h]

theorem mem_of_latest_eq_some {taken : List Record} {level : Int} {r : Record}
    (h : latest taken level = some r) : r ∈ taken ∧ r.depth = level :=
  ⟨List.mem_reverse.1 (List.mem_of_find?_eq_some h), by simpa using List.find?_some h⟩

theorem made_nil {top : Int} {c : NamedCall} : ¬Made top [] c := by
  rintro ⟨before, r, after, j, h, -⟩
  simp at h

theorem made_append_singleton {top : Int} {taken : List Record} {r : Record} {c : NamedCall} :
    Made top (taken ++ [r]) c ↔ Made top taken c ∨
      top < r.depth ∧ ∃ j, latest taken (r.depth - 1) = some j ∧ c = ⟨r.callType, j.method, r.method⟩ := by
  constructor
  · rintro ⟨before, s, after, j, h, htop, hj, hc⟩
    rcases append_singleton_cases h with ⟨rfl, rfl⟩ | ⟨after, heq⟩
    · exact .inr ⟨htop, j, hj, hc⟩
    · exact .inl ⟨before, s, after, j, heq, htop, hj, hc⟩
  · rintro (⟨before, s, after, j, rfl, h⟩ | ⟨htop, j, hj, hc⟩)
    · exact ⟨before, s, after ++ [r], j, by simp, h⟩
    · exact ⟨taken, r, [], j, rfl, htop, hj, hc⟩

/-- The first record has its place at `top`. -/
theorem fits_nil_iff {top : Int} {r : Record} : Fits top [] r ↔ r.depth = top := by
  rw [Fits, openLevels, List.getLast?_nil]
  dsimp only
  omega

theorem extend_of_fits {top : Int} {taken : List Record} {r : Record} (h : Fits top taken r) :
    extend top taken r = taken ++ [r] :=
  if_pos h

theorem extend_of_not_fits {top : Int} {taken : List Record} {r : Record} (h : ¬Fits top taken r) :
    extend top taken r = taken :=
  if_neg h

/-- A record taken is one of those taken before, or of those that came. -/
theorem mem_of_mem_foldl_extend {top : Int} {taken rs : List Record} {r : Record}
    (h : r ∈ rs.foldl (extend top) taken) : r ∈ taken ∨ r ∈ rs := by
  induction rs generalizing taken with
  | nil => exact .inl h
  | cons s rs ih =>
    rcases ih h with hmem | hmem
    · by_cases hs : Fits top taken s
      · rw [extend_of_fits hs, List.mem_append, List.mem_singleton] at hmem
        rcases hmem with hmem | rfl
        · exact .inl hmem
        · exact .inr List.mem_cons_self
      · rw [extend_of_not_fits hs] at hmem
        exact .inl hmem
    · exact .inr (List.mem_cons_of_mem _ hmem)

/-! ## Records below a level -/

section

variable {top : Int} {taken rs : List Record}

/-- Records below a level leave its latest record the latest. -/
theorem latest_append_of_lt {level : Int} (h : ∀ r ∈ rs, level < r.depth) :
    latest (taken ++ rs) level = latest taken level := by
  have hnone : rs.reverse.find? (fun r => r.depth = level) = none := by
    rw [List.find?_eq_none]
    intro r hr
    have := h r (List.mem_reverse.1 hr)
    simp only [decide_eq_true_eq]
    omega
  rw [latest, List.reverse_append, List.find?_append, hnone, Option.none_or, latest]

/-- Records at a level or below it leave a place at that level. -/
theorem le_openLevels_append {depth : Int} (h : ∀ r ∈ rs, depth ≤ r.depth)
    (hopen : depth - top ≤ openLevels top taken) : depth - top ≤ openLevels top (taken ++ rs) := by
  rcases List.eq_nil_or_concat rs with rfl | ⟨before, last, rfl⟩
  · rwa [List.append_nil]
  · have := h last (by simp)
    rw [List.concat_eq_append, ← List.append_assoc, openLevels_append_singleton]
    omega

end

/-! ## Lists that can be taken -/

/-- Each record fits after those before it. -/
inductive Nests (top : Int) : List Record → Prop
  | nil : Nests top []
  | snoc {taken : List Record} {r : Record} (h : Nests top taken) (hr : Fits top taken r) :
    Nests top (taken ++ [r])

namespace Nests

variable {top : Int} {taken : List Record}

theorem extend (h : Nests top taken) (r : Record) : Nests top (extend top taken r) := by
  by_cases hr : Fits top taken r
  · rw [extend_of_fits hr]
    exact h.snoc hr
  · rwa [extend_of_not_fits hr]

theorem foldl_extend (h : Nests top taken) (rs : List Record) :
    Nests top (rs.foldl (Trace.extend top) taken) := by
  induction rs generalizing taken with
  | nil => exact h
  | cons r rs ih => exact ih (h.extend r)

theorem accepted (top : Int) (rs : List Record) : Nests top (accepted top rs) :=
  nil.foldl_extend rs

/-- Every level from `top` down to that of the last record has a latest record. -/
theorem latest_isSome (h : Nests top taken) {level : Int} (h0 : top ≤ level)
    (hlt : level - top < openLevels top taken) : (latest taken level).isSome := by
  induction h with
  | nil =>
    simp only [openLevels, List.getLast?_nil] at hlt
    omega
  | @snoc taken r h hr ih =>
    rw [openLevels_append_singleton] at hlt
    rw [latest_append_singleton]
    split
    · rfl
    · have := hr.2
      exact ih (by omega)

/-- A record below `top` has a caller. -/
theorem exists_caller (h : Nests top taken) {before after : List Record} {r : Record}
    (heq : taken = before ++ r :: after) (hr : top < r.depth) :
    ∃ j, latest before (r.depth - 1) = some j := by
  induction h generalizing after with
  | nil => simp at heq
  | @snoc taken s h hs ih =>
    rcases append_singleton_cases heq with ⟨rfl, rfl⟩ | ⟨after, heq⟩
    · have := hs.2
      exact Option.isSome_iff_exists.1 (h.latest_isSome (by omega) (by omega))
    · exact ih heq

theorem top_le (h : Nests top taken) : ∀ r ∈ taken, top ≤ r.depth := by
  induction h with
  | nil => simp
  | snoc h hr ih =>
    intro r hmem
    rcases List.mem_append.1 hmem with hmem | hmem
    · exact ih r hmem
    · have := hr.1
      rw [List.mem_singleton.1 hmem]
      omega

end Nests

/-! ## Calls from the top -/

/-- The method is that of a record at `top`, or calls made from such a one lead to it. -/
inductive Descends (top : Int) (taken : List Record) : MethodName → Prop
  | top {r : Record} (hr : r ∈ taken) (hdepth : r.depth = top) : Descends top taken r.method
  | call {c : NamedCall} (h : Descends top taken c.caller) (hc : Made top taken c) :
    Descends top taken c.callee

/-- Records at the top lead to the method of every record. The induction is on how far below the top the
record is. -/
theorem Nests.descends {top : Int} {taken : List Record} (h : Nests top taken) {r : Record}
    (hr : r ∈ taken) : Descends top taken r.method := by
  induction hn : (r.depth - top).toNat generalizing r with
  | zero =>
    have := h.top_le r hr
    exact .top hr (by omega)
  | succ n ih =>
    have htop : top < r.depth := by omega
    obtain ⟨before, after, heq⟩ := List.append_of_mem hr
    obtain ⟨j, hj⟩ := h.exists_caller heq htop
    obtain ⟨hmem, hdepth⟩ := mem_of_latest_eq_some hj
    have hcaller : Descends top taken j.method :=
      ih (by rw [heq]; exact List.mem_append_left _ hmem) (by omega)
    exact .call (c := ⟨r.callType, j.method, r.method⟩) hcaller ⟨before, r, after, j, heq, htop, hj, rfl⟩

end CallAtlas.Trace
