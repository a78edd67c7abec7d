import CallAtlas.Text.Utf8
import Mathlib.Data.List.Basic

/-!
# UTF-8 reads back what it writes

* `lead_two`, `lead_three`, `lead_four`: the first octets of the longer forms, with the bounds for the octet
  after them.
* `foldl_step_utf8EncodeChar`: between two characters, the octets of a character are read as that character.
* `decode_encode`: the octets of a text are read as that text.
-/

namespace CallAtlas.Text.Utf8

/-! ## First octets -/

theorem lead_one {b : Nat} (h : b ≤ 0x7F) : lead b = .whole (Char.ofNat b) :=
  if_pos h

theorem lead_two : ∀ k < 32, 2 ≤ k → lead (k + 192) = .first ⟨k, 0, 0x80, 0xBF⟩ := by
  decide

theorem lead_three : ∀ k < 16, lead (k + 224) =
    .first ⟨k, 1, if k = 0 then 0xA0 else 0x80, if k = 0xD then 0x9F else 0xBF⟩ := by
  decide

theorem lead_four : ∀ k < 5, lead (k + 240) =
    .first ⟨k, 2, if k = 0 then 0x90 else 0x80, if k = 4 then 0x8F else 0xBF⟩ := by
  decide

/-! ## Steps -/

section

variable {p : Begun} {n b : Nat}

private theorem toNat_ofNat (h : b < 256) : (UInt8.ofNat b).toNat = b :=
  UInt8.toNat_ofNat_of_lt' h

theorem step_whole (text : List Char) (h : b ≤ 0x7F) :
    Reader.step ⟨none, text⟩ (UInt8.ofNat b) = ⟨none, Char.ofNat b :: text⟩ := by
  rw [Reader.step, toNat_ofNat (by omega)]
  simp only [Reader.start, lead_one h, Reader.emit]

theorem step_first (text : List Char) (hb : b < 256) (h : lead b = .first p) :
    Reader.step ⟨none, text⟩ (UInt8.ofNat b) = ⟨some p, text⟩ := by
  rw [Reader.step, toNat_ofNat hb]
  simp only [Reader.start, h]

theorem step_last (text : List Char) (hb : b < 256) (hleast : p.least ≤ b) (hgreatest : b ≤ p.greatest)
    (hlater : p.later = 0) :
    Reader.step ⟨some p, text⟩ (UInt8.ofNat b) = ⟨none, Char.ofNat (p.extend b) :: text⟩ := by
  rw [Reader.step, toNat_ofNat hb]
  simp [Begun.allows, hleast, hgreatest, hlater, Reader.emit]

theorem step_later (text : List Char) (hb : b < 256) (hleast : p.least ≤ b) (hgreatest : b ≤ p.greatest)
    (hlater : p.later = n + 1) : Reader.step ⟨some p, text⟩ (UInt8.ofNat b) =
      ⟨some ⟨p.extend b, n, 0x80, 0xBF⟩, text⟩ := by
  rw [Reader.step, toNat_ofNat hb]
  simp [Begun.allows, hleast, hgreatest, hlater]

end

/-! ## Characters and texts -/

section

variable {text : List Char} {k n t u w : Nat}

theorem extend_eq (p : Begun) (t : Nat) : p.extend (t + 128) = p.bits * 64 + t :=
  congrArg (p.bits * 64 + ·) (Nat.add_sub_cancel t 128)

/-- The last octet of a character, where its bounds are those of any later octet. -/
private theorem step_tail_last (ht : t < 64) :
    Reader.step ⟨some ⟨k, 0, 0x80, 0xBF⟩, text⟩ (UInt8.ofNat (t + 128)) =
      ⟨none, Char.ofNat (k * 64 + t) :: text⟩ := by
  have h := step_last text (p := ⟨k, 0, 0x80, 0xBF⟩) (b := t + 128) (by omega) (by dsimp only; omega)
    (by dsimp only; omega) rfl
  rwa [extend_eq] at h

/-- An octet before the last one, where its bounds are those of any later octet. -/
private theorem step_tail_later (ht : t < 64) :
    Reader.step ⟨some ⟨k, n + 1, 0x80, 0xBF⟩, text⟩ (UInt8.ofNat (t + 128)) =
      ⟨some ⟨k * 64 + t, n, 0x80, 0xBF⟩, text⟩ := by
  have h := step_later text (p := ⟨k, n + 1, 0x80, 0xBF⟩) (b := t + 128) (by omega)
    (by dsimp only; omega) (by dsimp only; omega) rfl
  rwa [extend_eq] at h

theorem step_two (hk : 2 ≤ k) (hk' : k < 32) (ht : t < 64) :
    [UInt8.ofNat (k + 192), UInt8.ofNat (t + 128)].foldl Reader.step ⟨none, text⟩ =
      ⟨none, Char.ofNat (k * 64 + t) :: text⟩ := by
  have hfirst := step_first text (by omega) (lead_two k hk' hk)
  rw [List.foldl_cons, hfirst, List.foldl_cons, step_tail_last ht, List.foldl_nil]

theorem step_three (hk : k < 16) (hleast : k = 0 → 32 ≤ t) (hgreatest : k = 0xD → t < 32) (ht : t < 64)
    (hu : u < 64) :
    [UInt8.ofNat (k + 224), UInt8.ofNat (t + 128), UInt8.ofNat (u + 128)].foldl Reader.step ⟨none, text⟩ =
      ⟨none, Char.ofNat ((k * 64 + t) * 64 + u) :: text⟩ := by
  have hfirst := step_first text (by omega) (lead_three k hk)
  have hlater := step_later text (b := t + 128) (n := 0)
    (p := ⟨k, 1, if k = 0 then 0xA0 else 0x80, if k = 0xD then 0x9F else 0xBF⟩) (by omega)
    (by dsimp only; split <;> omega) (by dsimp only; split <;> omega) rfl
  rw [extend_eq] at hlater
  rw [List.foldl_cons, hfirst, List.foldl_cons, hlater, List.foldl_cons, step_tail_last hu, List.foldl_nil]

theorem step_four (hk : k < 5) (hleast : k = 0 → 16 ≤ t) (hgreatest : k = 4 → t < 16) (ht : t < 64)
    (hu : u < 64) (hw : w < 64) :
    [UInt8.ofNat (k + 240), UInt8.ofNat (t + 128), UInt8.ofNat (u + 128), UInt8.ofNat (w + 128)].foldl
        Reader.step ⟨none, text⟩ = ⟨none, Char.ofNat (((k * 64 + t) * 64 + u) * 64 + w) :: text⟩ := by
  have hfirst := step_first text (by omega) (lead_four k hk)
  have hlater := step_later text (b := t + 128) (n := 1)
    (p := ⟨k, 2, if k = 0 then 0x90 else 0x80, if k = 4 then 0x8F else 0xBF⟩) (by omega)
    (by dsimp only; split <;> omega) (by dsimp only; split <;> omega) rfl
  rw [extend_eq] at hlater
  rw [List.foldl_cons, hfirst, List.foldl_cons, hlater, List.foldl_cons, step_tail_later hu, List.foldl_cons,
    step_tail_last hw, List.foldl_nil]

end

/-- Between two characters, the octets of a character are read as that character. -/
theorem foldl_step_utf8EncodeChar (text : List Char) (c : Char) :
    (String.utf8EncodeChar c).foldl Reader.step ⟨none, text⟩ = ⟨none, c :: text⟩ := by
  obtain ⟨v, hv⟩ : ∃ v, v = c.val.toNat := ⟨_, rfl⟩
  have hc : Char.ofNat v = c := by
    rw [hv]
    exact Char.ofNat_toNat c
  have hvalid : v < 0xD800 ∨ 0xDFFF < v ∧ v < 0x110000 := by
    rw [hv]
    exact c.valid
  unfold String.utf8EncodeChar
  dsimp only
  rw [← hv]
  by_cases h1 : v ≤ 127
  · rw [if_pos h1, List.foldl_cons, List.foldl_nil, step_whole text h1, hc]
  rw [if_neg h1]
  by_cases h2 : v ≤ 2047
  · have hbits : v / 64 % 32 * 64 + v % 64 = v := by omega
    rw [if_pos h2, step_two (by omega) (by omega) (by omega), hbits, hc]
  rw [if_neg h2]
  by_cases h3 : v ≤ 65535
  · have hbits : (v / 4096 % 16 * 64 + v / 64 % 64) * 64 + v % 64 = v := by omega
    rw [if_pos h3, step_three (by omega) (by omega) (by omega) (by omega) (by omega), hbits, hc]
  · have hbits : ((v / 262144 % 8 * 64 + v / 4096 % 64) * 64 + v / 64 % 64) * 64 + v % 64 = v := by omega
    rw [if_neg h3, step_four (by omega) (by omega) (by omega) (by omega) (by omega) (by omega), hbits, hc]

theorem foldl_step_encode (text s : List Char) :
    (encode s).foldl Reader.step ⟨none, text⟩ = ⟨none, s.reverse ++ text⟩ := by
  induction s generalizing text with
  | nil => rfl
  | cons c s ih =>
    rw [encode_cons, List.foldl_append, foldl_step_utf8EncodeChar, ih, List.reverse_cons, List.append_assoc,
      List.singleton_append]

/-- **The octets of a text are read as that text.** -/
theorem decode_encode (s : List Char) : decode (encode s) = s := by
  have hread : (encode s).foldl Reader.step {} = ⟨none, s.reverse ++ []⟩ := foldl_step_encode [] s
  rw [decode, hread, List.append_nil, Reader.finish, List.reverse_reverse]

end CallAtlas.Text.Utf8
