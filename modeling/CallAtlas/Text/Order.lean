/-!
# Ascending order

Texts are in ascending order by code point. `ascending key` sorts by a list of texts, the first of
which counts most; items with equal keys keep their order.

- `ascending_perm`: the same items;
- `pairwise_ascending`: in the order of their keys;
- `isOrder_leKey`: that order is linear.

The sort merges sorted halves. It recurses on the items and on a bound of their number only, so that it
also computes inside a proof.
-/

namespace CallAtlas.Text

variable {α : Type}

/-! ## The order -/

/-- A linear order. -/
structure IsOrder (le : α → α → Bool) : Prop where
  trans : ∀ {a b c}, le a b → le b c → le a c
  total : ∀ a b, le a b ∨ le b a
  antisymm : ∀ {a b}, le a b → le b a → a = b

/-- The order of lists by the first place where they differ; a list comes before those that it
starts. -/
def lexLe [DecidableEq α] (le : α → α → Bool) : List α → List α → Bool
  | [], _ => true
  | _ :: _, [] => false
  | a :: as, b :: bs => if a = b then lexLe le as bs else le a b

/-- The order of texts. -/
def leText : List Char → List Char → Bool :=
  lexLe fun c d => c.toNat ≤ d.toNat

/-- The order of keys. -/
def leKey : List String → List String → Bool :=
  lexLe fun a b => leText a.toList b.toList

theorem IsOrder.lexLe [DecidableEq α] {le : α → α → Bool} (h : IsOrder le) :
    IsOrder (lexLe le) where
  trans {as bs cs} hab hbc := by
    induction as generalizing bs cs with
    | nil => rfl
    | cons a as ih =>
      match bs, cs with
      | [], _ => simp [Text.lexLe] at hab
      | _ :: _, [] => simp [Text.lexLe] at hbc
      | b :: bs, c :: cs =>
        unfold Text.lexLe at hab hbc ⊢
        by_cases hab' : a = b
        · subst hab'
          by_cases hac : a = c
          · subst hac
            simp only [if_true] at *
            exact ih hab hbc
          · simpa [hac] using hbc
        · by_cases hbc' : b = c
          · subst hbc'
            simpa [hab'] using hab
          · rw [if_neg hab'] at hab
            rw [if_neg hbc'] at hbc
            by_cases hac : a = c
            · subst hac
              exact absurd (h.antisymm hab hbc) hab'
            · rw [if_neg hac]
              exact h.trans hab hbc
  total as bs := by
    induction as generalizing bs with
    | nil => exact .inl rfl
    | cons a as ih =>
      match bs with
      | [] => exact .inr rfl
      | b :: bs =>
        unfold Text.lexLe
        by_cases hab : a = b
        · simpa [hab] using ih bs
        · simpa [hab, Ne.symm hab] using h.total a b
  antisymm {as bs} hab hba := by
    induction as generalizing bs with
    | nil =>
      match bs with
      | [] => rfl
      | _ :: _ => simp [Text.lexLe] at hba
    | cons a as ih =>
      match bs with
      | [] => simp [Text.lexLe] at hab
      | b :: bs =>
        unfold Text.lexLe at hab hba
        by_cases hab' : a = b
        · subst hab'
          simp only [if_true] at hab hba
          rw [ih hab hba]
        · rw [if_neg hab'] at hab
          rw [if_neg (Ne.symm hab')] at hba
          exact absurd (h.antisymm hab hba) hab'

theorem isOrder_leText : IsOrder leText :=
  IsOrder.lexLe {
    trans := fun hab hbc =>
      decide_eq_true (Nat.le_trans (of_decide_eq_true hab) (of_decide_eq_true hbc))
    total := fun a b => by simpa using Nat.le_total a.toNat b.toNat
    antisymm := fun hab hba =>
      Char.toNat_inj.1 (Nat.le_antisymm (of_decide_eq_true hab) (of_decide_eq_true hba)) }

theorem isOrder_leKey : IsOrder leKey :=
  IsOrder.lexLe {
    trans := isOrder_leText.trans
    total := fun a b => isOrder_leText.total a.toList b.toList
    antisymm := fun hab hba => String.toList_inj.1 (isOrder_leText.antisymm hab hba) }

/-! ## Merging -/

/-- Merges `x :: xs` into a sorted list, where `rest` merges `xs`. -/
def mergeHead (le : α → α → Bool) (x : α) (xs : List α) (rest : List α → List α) : List α → List α
  | [] => x :: xs
  | y :: ys => if le x y then x :: rest (y :: ys) else y :: mergeHead le x xs rest ys

/-- Merges two sorted lists; of items that are equal, those of the first list come first. -/
def merge (le : α → α → Bool) : List α → List α → List α
  | [] => id
  | x :: xs => mergeHead le x xs (merge le xs)

/-- Sorts the items, by halving them at most `bound` times. -/
def sortWithin (le : α → α → Bool) : (bound : Nat) → List α → List α
  | 0, items => items
  | n + 1, items =>
    match items with
    | [] => []
    | [a] => [a]
    | _ =>
      let half := items.length / 2
      merge le (sortWithin le n (items.take half)) (sortWithin le n (items.drop half))

/-- The items in ascending order of their keys. -/
def ascending (key : α → List String) (items : List α) : List α :=
  sortWithin (fun a b => leKey (key a) (key b)) items.length items

/-! ## The same items -/

theorem mergeHead_perm {le : α → α → Bool} {x : α} {xs : List α} {rest : List α → List α}
    (h : ∀ ys, (rest ys).Perm (xs ++ ys)) (ys : List α) :
    (mergeHead le x xs rest ys).Perm (x :: xs ++ ys) := by
  induction ys with
  | nil => simp [mergeHead]
  | cons y ys ih =>
    unfold mergeHead
    split
    · exact (h _).cons x
    · exact (ih.cons y).trans List.perm_middle.symm

theorem merge_perm (le : α → α → Bool) (xs ys : List α) : (merge le xs ys).Perm (xs ++ ys) := by
  induction xs generalizing ys with
  | nil => exact .refl _
  | cons x xs ih => exact mergeHead_perm ih ys

theorem sortWithin_perm (le : α → α → Bool) (n : Nat) (items : List α) :
    (sortWithin le n items).Perm items := by
  induction n generalizing items with
  | zero => exact .refl _
  | succ n ih =>
    unfold sortWithin
    split
    · exact .refl _
    · exact .refl _
    · refine (merge_perm ..).trans (((ih _).append (ih _)).trans ?_)
      rw [List.take_append_drop]

theorem ascending_perm (key : α → List String) (items : List α) :
    (ascending key items).Perm items :=
  sortWithin_perm ..

/-! ## In order -/

/-- A relation that is transitive and compares any two items. -/
structure IsPreorder (le : α → α → Bool) : Prop where
  trans : ∀ {a b c}, le a b → le b c → le a c
  total : ∀ a b, le a b ∨ le b a

theorem isPreorder_key (key : α → List String) : IsPreorder fun a b => leKey (key a) (key b) where
  trans := isOrder_leKey.trans
  total a b := isOrder_leKey.total (key a) (key b)

theorem pairwise_mergeHead {le : α → α → Bool} (hle : IsPreorder le) {x : α} {xs : List α}
    {rest : List α → List α} (hperm : ∀ ys, (rest ys).Perm (xs ++ ys))
    (hrest : ∀ ys, ys.Pairwise (le · ·) → (rest ys).Pairwise (le · ·))
    (hx : (x :: xs).Pairwise (le · ·)) {ys : List α} (hys : ys.Pairwise (le · ·)) :
    (mergeHead le x xs rest ys).Pairwise (le · ·) := by
  induction ys with
  | nil => exact hx
  | cons y ys ih =>
    have hxs := List.pairwise_cons.1 hx
    have hy := List.pairwise_cons.1 hys
    unfold mergeHead
    split
    next hxy =>
      refine List.pairwise_cons.2 ⟨fun a ha => ?_, hrest _ hys⟩
      rcases List.mem_append.1 ((hperm _).mem_iff.1 ha) with ha | ha
      · exact hxs.1 a ha
      · rcases List.mem_cons.1 ha with rfl | ha
        · exact hxy
        · exact hle.trans hxy (hy.1 a ha)
    next hxy =>
      have hyx : le y x = true := (hle.total x y).resolve_left hxy
      refine List.pairwise_cons.2 ⟨fun a ha => ?_, ih hy.2⟩
      rcases List.mem_append.1 ((mergeHead_perm hperm ys).mem_iff.1 ha) with ha | ha
      · rcases List.mem_cons.1 ha with rfl | ha
        · exact hyx
        · exact hle.trans hyx (hxs.1 a ha)
      · exact hy.1 a ha

theorem pairwise_merge {le : α → α → Bool} (hle : IsPreorder le) {xs ys : List α}
    (hxs : xs.Pairwise (le · ·)) (hys : ys.Pairwise (le · ·)) :
    (merge le xs ys).Pairwise (le · ·) := by
  induction xs generalizing ys with
  | nil => exact hys
  | cons x xs ih =>
    exact pairwise_mergeHead hle (merge_perm le xs) (fun _ h => ih (List.pairwise_cons.1 hxs).2 h)
      hxs hys

theorem pairwise_sortWithin {le : α → α → Bool} (hle : IsPreorder le) (n : Nat) (items : List α)
    (h : items.length ≤ n) : (sortWithin le n items).Pairwise (le · ·) := by
  induction n generalizing items with
  | zero => simp [List.length_eq_zero_iff.1 (Nat.le_zero.1 h), sortWithin]
  | succ n ih =>
    unfold sortWithin
    split
    · exact .nil
    · exact List.pairwise_singleton ..
    next hnil hone =>
      have hlen : 2 ≤ items.length := by
        match items, hnil, hone with
        | [], hnil, _ => exact absurd rfl hnil
        | [a], _, hone => exact absurd rfl (hone a)
        | _ :: _ :: _, _, _ => simp
      exact pairwise_merge hle (ih _ (by simp; omega)) (ih _ (by simp; omega))

theorem pairwise_ascending (key : α → List String) (items : List α) :
    (ascending key items).Pairwise fun a b => leKey (key a) (key b) :=
  pairwise_sortWithin (isPreorder_key key) items.length items (Nat.le_refl _)

@[simp] theorem mem_ascending {key : α → List String} {items : List α} {a : α} :
    a ∈ ascending key items ↔ a ∈ items :=
  (ascending_perm key items).mem_iff

@[simp] theorem length_ascending (key : α → List String) (items : List α) :
    (ascending key items).length = items.length :=
  (ascending_perm key items).length_eq

end CallAtlas.Text
