import CallAtlas.Proofs.Text.Percent

/-!
# Segments of a path

What a percent-encoded text looks like, said apart from how it is made.

* `IsPlain`, `IsCapitalDigit`: the characters that stand for themselves, and the digits of an escape.
* `IsSegment`: a text made of plain characters and of escapes, so that it can stand as one segment of a path;
  `isSegment_encodeChars`: an encoded text is one.
* `encodeChars_eq_self_iff`: only a text of plain characters is its own encoding, since any other one grows
  (`length_le_encodeChars`, `one_lt_length_encodeChar`).
* `encode_reversible`: the encoding is read back, safe in a path, and goes character by character.
-/

namespace CallAtlas.Text.Percent

open Hex (upperDigit)

/-- A letter, a digit, or one of four marks. -/
def IsPlain (c : Char) : Prop :=
  ('A' ≤ c ∧ c ≤ 'Z') ∨ ('a' ≤ c ∧ c ≤ 'z') ∨ ('0' ≤ c ∧ c ≤ '9') ∨
    c = '_' ∨ c = '.' ∨ c = '-' ∨ c = '~'

/-- A hexadecimal digit, in upper case. -/
def IsCapitalDigit (c : Char) : Prop :=
  ('0' ≤ c ∧ c ≤ '9') ∨ ('A' ≤ c ∧ c ≤ 'F')

/-- The text is a sequence of plain characters and of escapes: a percent sign and two digits. -/
inductive IsSegment : List Char → Prop where
  | nil : IsSegment []
  | plain {c : Char} {s : List Char} : IsPlain c → IsSegment s → IsSegment (c :: s)
  | escape {high low : Char} {s : List Char} : IsCapitalDigit high → IsCapitalDigit low →
      IsSegment s → IsSegment ('%' :: high :: low :: s)

variable {c : Char} {s t : List Char}

theorem isAlphanum_iff :
    c.isAlphanum = true ↔ ('A' ≤ c ∧ c ≤ 'Z') ∨ ('a' ≤ c ∧ c ≤ 'z') ∨ ('0' ≤ c ∧ c ≤ '9') := by
  have hsort : c.isAlphanum = true ↔ (c.isUpper = true ∨ c.isLower = true) ∨ c.isDigit = true := by
    rw [← Bool.or_eq_true, ← Bool.or_eq_true]
    rfl
  have hupper : c.isUpper = true ↔ 'A' ≤ c ∧ c ≤ 'Z' := decide_eq_true_iff
  have hlower : c.isLower = true ↔ 'a' ≤ c ∧ c ≤ 'z' :=
    Bool.and_eq_true_iff.trans (and_congr decide_eq_true_iff decide_eq_true_iff)
  have hdigit : c.isDigit = true ↔ '0' ≤ c ∧ c ≤ '9' :=
    Bool.and_eq_true_iff.trans (and_congr decide_eq_true_iff decide_eq_true_iff)
  rw [hsort, hupper, hlower, hdigit, or_assoc]

theorem isUnreserved_iff : isUnreserved c = true ↔ IsPlain c := by
  simp only [isUnreserved, IsPlain, isAlphanum_iff, Bool.or_eq_true, beq_iff_eq, or_assoc]

theorem isCapitalDigit_upperDigit : ∀ n < 16, IsCapitalDigit (upperDigit n) := by
  unfold IsCapitalDigit
  decide

/-! ## Encoded texts are segments -/

theorem IsSegment.append (hs : IsSegment s) (ht : IsSegment t) : IsSegment (s ++ t) := by
  induction hs with
  | nil => exact ht
  | plain hc _ ih => exact .plain hc ih
  | escape hhigh hlow _ ih => exact .escape hhigh hlow ih

theorem isSegment_flatMap_triple (bs : List UInt8) : IsSegment (bs.flatMap triple) := by
  induction bs with
  | nil => exact .nil
  | cons b bs ih =>
    have hb := b.toNat_lt
    exact .escape (isCapitalDigit_upperDigit _ (by omega)) (isCapitalDigit_upperDigit _ (by omega)) ih

theorem isSegment_encodeChar (c : Char) : IsSegment (encodeChar c) := by
  cases hc : isUnreserved c with
  | true =>
    rw [encodeChar_of_isUnreserved hc]
    exact .plain (isUnreserved_iff.1 hc) .nil
  | false =>
    rw [encodeChar_of_not_isUnreserved hc]
    exact isSegment_flatMap_triple _

theorem isSegment_encodeChars (s : List Char) : IsSegment (encodeChars s) := by
  induction s with
  | nil => exact .nil
  | cons c s ih => exact (isSegment_encodeChar c).append ih

/-! ## Texts that stay -/

theorem length_flatMap_triple (bs : List UInt8) : (bs.flatMap triple).length = 3 * bs.length := by
  induction bs with
  | nil => rfl
  | cons b bs ih =>
    rw [List.flatMap_cons, List.length_append, ih, List.length_cons]
    simp only [triple, List.length_cons, List.length_nil]
    omega

/-- A character that does not stand for itself becomes longer. -/
theorem one_lt_length_encodeChar (hc : isUnreserved c = false) : 1 < (encodeChar c).length := by
  have hsize := c.utf8Size_pos
  rw [encodeChar_of_not_isUnreserved hc, length_flatMap_triple, String.length_utf8EncodeChar]
  omega

theorem length_le_encodeChars (s : List Char) : s.length ≤ (encodeChars s).length := by
  induction s with
  | nil => exact Nat.le_refl 0
  | cons c s ih =>
    rw [encodeChars_cons, List.length_append, List.length_cons]
    cases hc : isUnreserved c with
    | true =>
      rw [encodeChar_of_isUnreserved hc, List.length_singleton]
      omega
    | false =>
      have := one_lt_length_encodeChar hc
      omega

theorem encodeChars_eq_self_iff : encodeChars s = s ↔ ∀ c ∈ s, isUnreserved c = true := by
  refine ⟨fun h => ?_, encodeChars_eq_self⟩
  induction s with
  | nil => simp
  | cons c s ih =>
    rw [encodeChars_cons] at h
    cases hc : isUnreserved c with
    | true =>
      rw [encodeChar_of_isUnreserved hc, List.singleton_append, List.cons.injEq] at h
      simpa [hc] using ih h.2
    | false =>
      -- The encoding of the first character alone makes up for more than that character.
      have hlen := congrArg List.length h
      have hfirst := one_lt_length_encodeChar hc
      have hrest := length_le_encodeChars s
      rw [List.length_append, List.length_cons] at hlen
      omega

/-- **The encoding is reversible and safe in a path.** An encoded text is read as the text, it is a sequence of
plain characters and of escapes, a text put together from two is encoded part by part, two texts have
different encodings, and exactly the texts of plain characters are their own encodings. -/
theorem encode_reversible (s t : String) :
    decode (encode s) = s ∧ IsSegment (encode s).toList ∧ encode (s ++ t) = encode s ++ encode t ∧
      (encode s = encode t ↔ s = t) ∧ (encode s = s ↔ ∀ c ∈ s.toList, IsPlain c) := by
  refine ⟨decode_encode s, ?_, ?_, ⟨fun h => ?_, congrArg encode⟩, ?_⟩
  · rw [toList_encode]
    exact isSegment_encodeChars s.toList
  · rw [← String.toList_inj]
    simp [encodeChars_append]
  · rw [← decode_encode s, h, decode_encode]
  · rw [← String.toList_inj, toList_encode, encodeChars_eq_self_iff]
    simp only [isUnreserved_iff]

/-- A percent sign is encoded too, so a text that looks encoded is told from the text that it would be read as. -/
example : encode "run(%28)" = "run%28%2528%29" ∧ decode "run%28%2528%29" = "run(%28)" := by decide

end CallAtlas.Text.Percent
