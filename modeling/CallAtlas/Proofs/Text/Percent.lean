import CallAtlas.Proofs.Text.Utf8
import CallAtlas.Text.Percent

/-!
# Percent-encoding reads back what it writes

* `isEncoded_of_mem_encodeChars`: an encoded text has unreserved characters and `%` only;
  `encodeChars_eq_self`: a text of unreserved characters stays.
* `decodeFrom_encodeChars`: an encoded text is read as the text, after a run of octets that is a text too.
* `decodeChars_encodeChars`, `decode_encode`: so it is from its start; two texts have different encodings
  (`encodeChars_injective`).
-/

namespace CallAtlas.Text.Percent

open Hex (upperDigit)

variable {c : Char} {s t : List Char}

/-! ## Characters of an encoded text -/

/-- A character that an encoded text may have. -/
def isEncoded (c : Char) : Bool :=
  isUnreserved c || c == '%'

theorem isUnreserved_upperDigit : ∀ n < 16, isUnreserved (upperDigit n) = true := by
  decide

theorem isUnreserved_percent : isUnreserved '%' = false := by
  decide

theorem isEncoded_of_mem_triple {b : UInt8} (h : c ∈ triple b) : isEncoded c = true := by
  have hhigh : b.toNat / 16 < 16 := by
    have := b.toNat_lt
    omega
  have hlow : b.toNat % 16 < 16 := Nat.mod_lt _ (by decide)
  simp only [triple, List.mem_cons, List.not_mem_nil, or_false] at h
  rcases h with rfl | rfl | rfl
  · rfl
  · rw [isEncoded, isUnreserved_upperDigit _ hhigh, Bool.true_or]
  · rw [isEncoded, isUnreserved_upperDigit _ hlow, Bool.true_or]

theorem isEncoded_of_mem_encodeChars (h : c ∈ encodeChars s) : isEncoded c = true := by
  obtain ⟨x, -, hc⟩ := List.mem_flatMap.1 h
  unfold encodeChar at hc
  split at hc
  · rename_i hx
    rw [List.mem_singleton.1 hc, isEncoded, hx, Bool.true_or]
  · obtain ⟨b, -, hb⟩ := List.mem_flatMap.1 hc
    exact isEncoded_of_mem_triple hb

theorem encodeChar_of_isUnreserved (h : isUnreserved c = true) : encodeChar c = [c] :=
  if_pos h

theorem encodeChar_of_not_isUnreserved (h : isUnreserved c = false) :
    encodeChar c = (String.utf8EncodeChar c).flatMap triple :=
  if_neg (Bool.eq_false_iff.1 h)

theorem encodeChars_eq_self (h : ∀ c ∈ s, isUnreserved c = true) : encodeChars s = s := by
  induction s with
  | nil => rfl
  | cons c s ih =>
    rw [encodeChars_cons, encodeChar_of_isUnreserved (h c List.mem_cons_self),
      ih fun x hx => h x (List.mem_cons_of_mem c hx), List.singleton_append]

/-! ## Reading back -/

theorem octet?_triple (b : UInt8) : octet? (upperDigit (b.toNat / 16)) (upperDigit (b.toNat % 16)) = some b := by
  have hhigh : b.toNat / 16 < 16 := by
    have := b.toNat_lt
    omega
  have hlow : b.toNat % 16 < 16 := Nat.mod_lt _ (by decide)
  rw [octet?, Hex.digitValue?_upperDigit _ hhigh, Hex.digitValue?_upperDigit _ hlow]
  dsimp only
  rw [Nat.div_add_mod, UInt8.ofNat_toNat]

/-- Triples go to the run of octets. -/
theorem decodeFrom_flatMap_triple (run bs : List UInt8) (rest : List Char) :
    decodeFrom run (bs.flatMap triple ++ rest) = decodeFrom (run ++ bs) rest := by
  induction bs generalizing run with
  | nil => rw [List.flatMap_nil, List.nil_append, List.append_nil]
  | cons b bs ih =>
    rw [List.flatMap_cons, List.append_assoc, triple, List.cons_append, List.cons_append, List.cons_append,
      List.nil_append, decodeFrom, octet?_triple]
    dsimp only
    rw [ih, List.append_assoc, List.singleton_append]

/-- Any other character ends the run. -/
theorem decodeFrom_cons_of_ne (run : List UInt8) (hc : c ≠ '%') (rest : List Char) :
    decodeFrom run (c :: rest) = Utf8.decode run ++ c :: decodeFrom [] rest := by
  rw [decodeFrom]
  rintro h l rest' rfl
  exact absurd rfl hc

/-- An encoded text is read as the text. What stands before it as triples may be part of a text too. -/
theorem decodeFrom_encodeChars (t s : List Char) :
    decodeFrom (Utf8.encode t) (encodeChars s) = t ++ s := by
  induction s generalizing t with
  | nil => rw [encodeChars_nil, decodeFrom, Utf8.decode_encode, List.append_nil]
  | cons c s ih =>
    rw [encodeChars_cons]
    cases hc : isUnreserved c with
    | true =>
      have hne : c ≠ '%' := by
        rintro rfl
        rw [isUnreserved_percent] at hc
        cases hc
      rw [encodeChar_of_isUnreserved hc, List.singleton_append, decodeFrom_cons_of_ne _ hne, Utf8.decode_encode]
      exact congrArg (t ++ c :: ·) (ih [])
    | false =>
      have hrun : Utf8.encode t ++ String.utf8EncodeChar c = Utf8.encode (t ++ [c]) := by simp
      rw [encodeChar_of_not_isUnreserved hc, decodeFrom_flatMap_triple, hrun, ih, List.append_assoc,
        List.singleton_append]

/-- **An encoded text is read as the text.** -/
theorem decodeChars_encodeChars (s : List Char) : decodeChars (encodeChars s) = s :=
  decodeFrom_encodeChars [] s

theorem decode_encode (s : String) : decode (encode s) = s := by
  rw [← String.toList_inj, toList_decode, toList_encode, decodeChars_encodeChars]

theorem encodeChars_injective (h : encodeChars s = encodeChars t) : s = t := by
  rw [← decodeChars_encodeChars s, h, decodeChars_encodeChars]

end CallAtlas.Text.Percent
