import CallAtlas.Json.Printer
import CallAtlas.Proofs.Json.Reader
import Mathlib.Algebra.GroupWithZero.Nat
import Mathlib.Data.List.TakeWhile

/-!
# The text of a value is read back

The text of a JSON value on one line tells the value: no other value has that text, and reading it gives the value
again.

* `chars`, `toList_compact`: the text, character by character.
* `readUnits_escapedChar`, `readText_chars`: a text in quotes is read back, by way of its UTF-16 units.
* `readValue_chars`: so is a value, whatever follows it, as long as this does not go on with a digit.
* `read?_compact_append`, `compact_injective`: the text and the value belong to each other.
-/

namespace CallAtlas.Json

open Text.Hex (digitValue?_lowerDigit hexDigits lowerDigit)

/-! ## The characters of a text -/

/-- The characters of a string with its quotes. -/
def textChars (s : String) : List Char :=
  '"' :: (s.toList.flatMap escapedChar ++ ['"'])

mutual

/-- The characters of a value on one line. -/
def chars : Json → List Char
  | .null => ['n', 'u', 'l', 'l']
  | .bool true => ['t', 'r', 'u', 'e']
  | .bool false => ['f', 'a', 'l', 's', 'e']
  | .int i => (toString i).toList
  | .str s => textChars s
  | .arr items => '[' :: (itemChars [] items ++ [']'])
  | .obj members => '\x7b' :: (memberChars [] members ++ ['\x7d'])

/-- The characters of items, with `sep` before the first. -/
def itemChars (sep : List Char) : List Json → List Char
  | [] => []
  | v :: rest => sep ++ chars v ++ itemChars [',', ' '] rest

/-- The characters of members, with `sep` before the first. -/
def memberChars (sep : List Char) : List (String × Json) → List Char
  | [] => []
  | (name, v) :: rest => sep ++ textChars name ++ [':', ' '] ++ chars v ++ memberChars [',', ' '] rest

end

theorem toList_escapedString (s : String) : (escapedString s).toList = textChars s := by
  rw [escapedString, String.toList_ofList]
  rfl

mutual

theorem toList_writeCompact (out : String) : ∀ v : Json, (writeCompact out v).toList = out.toList ++ chars v
  | .null => by simp [writeCompact, chars]
  | .bool true => by simp [writeCompact, chars]
  | .bool false => by simp [writeCompact, chars]
  | .int i => by simp [writeCompact, chars]
  | .str s => by simp [writeCompact, chars, toList_escapedString]
  | .arr items => by simp [writeCompact, chars, toList_writeItems _ _ items]
  | .obj members => by simp [writeCompact, chars, toList_writeMembers _ _ members]

theorem toList_writeItems (out sep : String) :
    ∀ items : List Json, (writeItems out sep items).toList = out.toList ++ itemChars sep.toList items
  | [] => by simp [writeItems, itemChars]
  | v :: rest => by
    rw [writeItems, toList_writeItems _ _ rest, toList_writeCompact _ v]
    simp [itemChars]

theorem toList_writeMembers (out sep : String) : ∀ members : List (String × Json),
    (writeMembers out sep members).toList = out.toList ++ memberChars sep.toList members
  | [] => by simp [writeMembers, memberChars]
  | (name, v) :: rest => by
    rw [writeMembers, toList_writeMembers _ _ rest, toList_writeCompact _ v]
    simp [memberChars, toList_escapedString]

end

theorem toList_compact (v : Json) : v.compact.toList = chars v := by
  rw [compact, toList_writeCompact]
  rfl

/-! ## Texts -/

theorem hexValue?_hexDigits (width n : Nat) : hexValue? (hexDigits width n) = some (n % 16 ^ width) := by
  induction width generalizing n with
  | zero => rw [Nat.pow_zero, Nat.mod_one]; rfl
  | succ width ih =>
    have hdigit := digitValue?_lowerDigit (n % 16) (Nat.mod_lt _ (by decide))
    have hfirst := ih (n / 16)
    unfold hexValue? at hfirst ⊢
    rw [hexDigits, List.foldlM_append, hfirst, Nat.pow_succ, Nat.mul_comm, Nat.mod_mul]
    simp [hdigit, Nat.add_comm]

/-- The escape of a unit is read as the unit. -/
theorem readUnits_escapedUnit {n : Nat} (hn : n < 0x10000) (r : List Char) :
    readUnits (escapedUnit n ++ r) = (readUnits r).map fun p => (n :: p.1, p.2) := by
  obtain ⟨d₁, d₂, d₃, d₄, hdigits⟩ : ∃ d₁ d₂ d₃ d₄, hexDigits 4 n = [d₁, d₂, d₃, d₄] := ⟨_, _, _, _, rfl⟩
  have hvalue : hexValue? [d₁, d₂, d₃, d₄] = some n := by
    have hmod : n % 16 ^ 4 = n := Nat.mod_eq_of_lt hn
    rw [← hdigits, hexValue?_hexDigits, hmod]
  rw [escapedUnit, hdigits]
  simp only [List.cons_append, List.nil_append, readUnits, hvalue]
  cases readUnits r <;> rfl

theorem readUnits_shortEscape {e : Char} {u : Nat} (he : e ≠ 'u') (hu : shortEscape? e = some u) (r : List Char) :
    readUnits ('\\' :: e :: r) = (readUnits r).map fun p => (u :: p.1, p.2) := by
  rw [readUnits.eq_def]
  simp [he, hu]
  cases readUnits r <;> rfl

theorem units_of_lt {c : Char} (h : c.toNat < 0x10000) : units c = [c.toNat] :=
  if_pos h

theorem toNat_lt (c : Char) : c.toNat < 0x110000 := by
  have hvalid := c.valid
  have hval : c.toNat = c.val.toNat := rfl
  unfold UInt32.isValidChar Nat.isValidChar at hvalid
  omega

/-- A character is read as its units, however it is written. -/
theorem readUnits_escapedChar (c : Char) (r : List Char) :
    readUnits (escapedChar c ++ r) = (readUnits r).map fun p => (units c ++ p.1, p.2) := by
  -- The cases are those of `escapedChar`: seven short escapes, the character itself, one unit, and two.
  unfold escapedChar
  split
  · subst c
    exact readUnits_shortEscape (by decide) rfl r
  split
  · subst c
    exact readUnits_shortEscape (by decide) rfl r
  split
  · subst c
    exact readUnits_shortEscape (by decide) rfl r
  split
  · subst c
    exact readUnits_shortEscape (by decide) rfl r
  split
  · subst c
    exact readUnits_shortEscape (by decide) rfl r
  split
  next h =>
    rw [units_of_lt (by omega), h]
    exact readUnits_shortEscape (by decide) rfl r
  split
  next h =>
    rw [units_of_lt (by omega), h]
    exact readUnits_shortEscape (by decide) rfl r
  split
  next hquote hslash _ _ _ _ _ h =>
    rw [List.singleton_append, readUnits.eq_def]
    simp [hquote, hslash]
  split
  next h =>
    rw [units_of_lt h]
    exact readUnits_escapedUnit h r
  next h =>
    have hlt := toNat_lt c
    rw [List.append_assoc, readUnits_escapedUnit (by omega), readUnits_escapedUnit (by omega), units, if_neg h,
      Option.map_map]
    rfl

/-- The units of a character are read as the character. -/
theorem ofUnits?_units (c : Char) (us : List Nat) : ofUnits? (units c ++ us) = (ofUnits? us).map (c :: ·) := by
  by_cases h : c.toNat < 0x10000
  · have hvalid : c.toNat < 0xD800 ∨ 0xDFFF < c.toNat := by
      have hvalid := c.valid
      have hval : c.toNat = c.val.toNat := rfl
      unfold UInt32.isValidChar Nat.isValidChar at hvalid
      omega
    rw [units_of_lt h, List.singleton_append, ofUnits?.eq_def]
    dsimp only
    rw [if_neg (by omega), if_neg (by omega), Char.ofNat_toNat]
  · have hlt := toNat_lt c
    have hpair : 0x10000 + (0xD800 + (c.toNat - 0x10000) / 0x400 - 0xD800) * 0x400 +
        (0xDC00 + (c.toNat - 0x10000) % 0x400 - 0xDC00) = c.toNat := by omega
    rw [units, if_neg h, List.cons_append, List.singleton_append, ofUnits?.eq_def]
    dsimp only
    rw [if_pos (by omega), if_pos (by omega), hpair, Char.ofNat_toNat]

/-- A text is read up to its quote. -/
theorem readText_chars (s : String) (r : List Char) :
    readText (s.toList.flatMap escapedChar ++ '"' :: r) = some (s, r) := by
  have hunits : ∀ cs : List Char,
      readUnits (cs.flatMap escapedChar ++ '"' :: r) = some (cs.flatMap units, r) := by
    intro cs
    induction cs with
    | nil => rw [List.flatMap_nil, List.nil_append, readUnits.eq_def]; simp
    | cons c cs ih => rw [List.flatMap_cons, List.append_assoc, readUnits_escapedChar, ih]; rfl
  have hchars : ∀ cs : List Char, ofUnits? (cs.flatMap units) = some cs := by
    intro cs
    induction cs with
    | nil => rfl
    | cons c cs ih => rw [List.flatMap_cons, ofUnits?_units, ih]; rfl
  rw [readText, hunits]
  simp [hchars]

/-! ## Numbers -/

/-- The text does not go on with a digit. -/
def Ends (r : List Char) : Prop :=
  ∀ c ∈ r.head?, c.isDigit = false

theorem ends_cons {c : Char} {r : List Char} (h : c.isDigit = false) : Ends (c :: r) := by
  intro d hd
  obtain rfl : c = d := Option.some.inj hd
  exact h

theorem readDigits_repr (n : Nat) {r : List Char} (hr : Ends r) : readDigits (n.repr.toList ++ r) = some (n, r) := by
  have hall : ∀ c ∈ Nat.toDigits 10 n, c.isDigit = true :=
    fun _ => Nat.isDigit_of_mem_toDigits (by decide) (by decide)
  have htake : r.takeWhile Char.isDigit = [] := by
    cases r with
    | nil => rfl
    | cons c r => exact List.takeWhile_cons_of_neg (by simp [hr c rfl])
  have hdrop : r.dropWhile Char.isDigit = r := by
    cases r with
    | nil => rfl
    | cons c r => exact List.dropWhile_cons_of_neg (by simp [hr c rfl])
  have hne : Nat.toDigits 10 n ≠ [] := Nat.toDigits_ne_nil
  rw [Nat.repr_eq_ofList_toDigits, String.toList_ofList, readDigits, List.takeWhile_append_of_pos hall,
    List.dropWhile_append_of_pos hall, htake, hdrop, List.append_nil]
  split
  next h => exact absurd h hne
  next => rw [Nat.ofDigitChars_toDigits (by decide) (by decide)]

theorem toList_negSucc (n : Nat) : (toString (Int.negSucc n)).toList = '-' :: (n + 1).repr.toList := by
  show ("-" ++ (n + 1).repr).toList = _
  rw [String.toList_append]
  rfl

theorem exists_repr (n : Nat) : ∃ c s, n.repr.toList = c :: s ∧ c.isDigit = true := by
  rw [Nat.repr_eq_ofList_toDigits, String.toList_ofList]
  cases h : Nat.toDigits 10 n with
  | nil => exact absurd h Nat.toDigits_ne_nil
  | cons c s =>
    have hc : c ∈ Nat.toDigits 10 n := by rw [h]; exact List.mem_cons_self
    exact ⟨c, s, rfl, Nat.isDigit_of_mem_toDigits (by decide) (by decide) hc⟩

theorem readInt_of_isDigit {c : Char} (hc : c.isDigit = true) (s : List Char) :
    readInt (c :: s) = (readDigits (c :: s)).map fun p => (.int p.1, p.2) := by
  rw [readInt]
  intro rest h
  obtain ⟨rfl, -⟩ := List.cons.inj h
  exact absurd hc (by decide)

/-- The text of an integer starts with a digit or a minus sign. -/
theorem exists_toString (i : Int) : ∃ c s, (toString i).toList = c :: s ∧ (c.isDigit = true ∨ c = '-') := by
  cases i with
  | ofNat n =>
    obtain ⟨c, s, hs, hc⟩ := exists_repr n
    exact ⟨c, s, hs, .inl hc⟩
  | negSucc n => exact ⟨_, _, toList_negSucc n, .inr rfl⟩

theorem readInt_toString (i : Int) {r : List Char} (hr : Ends r) :
    readInt ((toString i).toList ++ r) = some (.int i, r) := by
  cases i with
  | ofNat n =>
    obtain ⟨c, s, hs, hc⟩ := exists_repr n
    have hread := readDigits_repr n hr
    show readInt (n.repr.toList ++ r) = _
    rw [hs, List.cons_append] at hread ⊢
    rw [readInt_of_isDigit hc, hread]
    rfl
  | negSucc n =>
    rw [toList_negSucc, List.cons_append, readInt, readDigits_repr _ hr]
    rfl

/-! ## Values -/

theorem skipBlanks_cons {c : Char} (h : isBlank c = false) (s : List Char) : skipBlanks (c :: s) = c :: s :=
  List.dropWhile_cons_of_neg (by simp [h])

theorem readValue_blank (fuel : Nat) (s : List Char) : readValue fuel (' ' :: s) = readValue fuel s := by
  cases fuel <;> rfl

theorem readItems_blank (fuel : Nat) (s : List Char) : readItems fuel (' ' :: s) = readItems fuel s := by
  cases fuel with
  | zero => rfl
  | succ fuel => rw [readItems, readItems, readValue_blank]

theorem readMembers_blank (fuel : Nat) (s : List Char) : readMembers fuel (' ' :: s) = readMembers fuel s := by
  cases fuel <;> rfl

/-- The text of a value starts neither with a blank nor with a bracket that ends an array. -/
theorem exists_chars (v : Json) : ∃ c s, chars v = c :: s ∧ isBlank c = false ∧ c ≠ ']' := by
  cases v with
  | null => exact ⟨_, _, rfl, by decide, by decide⟩
  | bool b => cases b <;> exact ⟨_, _, rfl, by decide, by decide⟩
  | int i =>
    obtain ⟨c, s, hs, hc⟩ := exists_toString i
    refine ⟨c, s, hs, ?_, ?_⟩
    · simp only [isBlank, Bool.or_eq_false_iff, beq_eq_false_iff_ne]
      refine ⟨⟨⟨?_, ?_⟩, ?_⟩, ?_⟩ <;> rintro rfl <;> exact absurd hc (by decide)
    · rintro rfl
      exact absurd hc (by decide)
  | str s => exact ⟨_, _, rfl, by decide, by decide⟩
  | arr items => exact ⟨_, _, rfl, by decide, by decide⟩
  | obj members => exact ⟨_, _, rfl, by decide, by decide⟩

theorem readValue_toString {fuel : Nat} (i : Int) {r : List Char} (hr : Ends r) :
    readValue (fuel + 1) ((toString i).toList ++ r) = some (.int i, r) := by
  have hread := readInt_toString i hr
  obtain ⟨c, s, hs, hc⟩ := exists_toString i
  obtain ⟨d, t, ht, hblank, -⟩ := exists_chars (.int i)
  obtain ⟨rfl, rfl⟩ : c = d ∧ s = t := List.cons.inj (hs.symm.trans ht)
  have hne : ∀ {d : Char}, ¬ (d.isDigit = true ∨ d = '-') → c ≠ d := fun hd h => hd (h ▸ hc)
  rw [hs, List.cons_append] at hread ⊢
  rw [readValue, skipBlanks_cons hblank]
  dsimp only
  rw [if_neg (hne (by decide)), if_neg (hne (by decide)), if_neg (hne (by decide)), if_neg (hne (by decide)),
    if_neg (hne (by decide)), if_neg (hne (by decide)), hread]

/-- An item is read, and the items after it if there are any. -/
theorem readItems_last {fuel : Nat} {s r : List Char} {v : Json} (h : readValue fuel s = some (v, ']' :: r)) :
    readItems (fuel + 1) s = some ([v], r) := by
  rw [readItems, h]
  rfl

theorem readItems_comma {fuel : Nat} {s t r : List Char} {v : Json} {vs : List Json}
    (h : readValue fuel s = some (v, ',' :: t)) (ht : readItems fuel t = some (vs, r)) :
    readItems (fuel + 1) s = some (v :: vs, r) := by
  rw [readItems, h]
  show (readItems fuel t).bind _ = _
  rw [ht]
  rfl

/-- The name of a member is read, and what follows the colon is left to its value. -/
theorem readMembers_text (fuel : Nat) (name : String) (s : List Char) :
    readMembers (fuel + 1) (textChars name ++ ':' :: s) =
      (readValue fuel s).bind fun p =>
        match skipBlanks p.2 with
        | [] => none
        | c :: rest =>
          if c = '\x7d' then some ([(name, p.1)], rest)
          else if c = ',' then (readMembers fuel rest).bind fun q => some ((name, p.1) :: q.1, q.2)
          else none := by
  have hcolon : isBlank ':' = false := by decide
  rw [textChars, List.cons_append, List.append_assoc, List.singleton_append, readMembers,
    skipBlanks_cons (by decide)]
  simp only [readText_chars, skipBlanks_cons hcolon, Option.bind_eq_bind, Option.bind_some]
  rfl

/-- A member is read, and the members after it if there are any. -/
theorem readMembers_last {fuel : Nat} {s r : List Char} {v : Json} (name : String)
    (h : readValue fuel s = some (v, '\x7d' :: r)) :
    readMembers (fuel + 1) (textChars name ++ ':' :: s) = some ([(name, v)], r) := by
  rw [readMembers_text, h]
  rfl

theorem readMembers_comma {fuel : Nat} {s t r : List Char} {v : Json} {ms : List (String × Json)} (name : String)
    (h : readValue fuel s = some (v, ',' :: t)) (ht : readMembers fuel t = some (ms, r)) :
    readMembers (fuel + 1) (textChars name ++ ':' :: s) = some ((name, v) :: ms, r) := by
  rw [readMembers_text, h]
  show (readMembers fuel t).bind _ = _
  rw [ht]
  rfl

theorem readValue_items {fuel : Nat} {v : Json} {rest items : List Json} {r : List Char}
    (h : readItems fuel (itemChars [] (v :: rest) ++ ']' :: r) = some (items, r)) :
    readValue (fuel + 1) (chars (.arr (v :: rest)) ++ r) = some (.arr items, r) := by
  obtain ⟨c, s, hs, hblank, hc⟩ := exists_chars v
  have hhead : (skipBlanks (itemChars [] (v :: rest) ++ ']' :: r)).head? ≠ some ']' := by
    rw [itemChars, hs, List.nil_append, List.cons_append, List.cons_append, skipBlanks_cons hblank]
    exact fun h => hc (Option.some.inj h)
  rw [chars, List.cons_append, List.append_assoc, List.singleton_append, readValue, skipBlanks_cons (by decide)]
  dsimp only
  rw [if_neg (by decide), if_pos rfl, if_neg hhead, h]
  rfl

theorem readValue_members {fuel : Nat} {m : String × Json} {rest members : List (String × Json)} {r : List Char}
    (h : readMembers fuel (memberChars [] (m :: rest) ++ '\x7d' :: r) = some (members, r)) :
    readValue (fuel + 1) (chars (.obj (m :: rest)) ++ r) = some (.obj members, r) := by
  have hhead : (skipBlanks (memberChars [] (m :: rest) ++ '\x7d' :: r)).head? ≠ some '\x7d' := by
    have hfirst : (skipBlanks (memberChars [] (m :: rest) ++ '\x7d' :: r)).head? = some '"' := rfl
    rw [hfirst]
    decide
  rw [chars, List.cons_append, List.append_assoc, List.singleton_append, readValue, skipBlanks_cons (by decide)]
  dsimp only
  rw [if_neg (by decide), if_neg (by decide), if_pos rfl, if_neg hhead, h]
  rfl

theorem itemChars_comma (v w : Json) (rest : List Json) :
    itemChars [] (v :: w :: rest) = chars v ++ ',' :: ' ' :: itemChars [] (w :: rest) := by
  simp [itemChars]

theorem memberChars_comma (name : String) (v : Json) (m : String × Json) (rest : List (String × Json)) :
    memberChars [] ((name, v) :: m :: rest) =
      textChars name ++ ':' :: ' ' :: (chars v ++ ',' :: ' ' :: memberChars [] (m :: rest)) := by
  obtain ⟨other, w⟩ := m
  simp [memberChars]

theorem memberChars_singleton (name : String) (v : Json) :
    memberChars [] [(name, v)] = textChars name ++ ':' :: ' ' :: chars v := by
  simp [memberChars]

mutual

/-- A value is read, and what follows it is left. Each part is shorter than the whole, so there is fuel enough. -/
theorem readValue_chars : ∀ (v : Json) {fuel : Nat} {r : List Char}, (chars v).length < fuel → Ends r →
    readValue fuel (chars v ++ r) = some (v, r)
  | _, 0, _, hfuel, _ => absurd hfuel (Nat.not_lt_zero _)
  | .null, _ + 1, _, _, _ => rfl
  | .bool true, _ + 1, _, _, _ => rfl
  | .bool false, _ + 1, _, _, _ => rfl
  | .int i, _ + 1, _, _, hr => readValue_toString i hr
  | .str s, fuel + 1, r, _, _ => by
    show (readText (s.toList.flatMap escapedChar ++ ['"'] ++ r)).map _ = _
    rw [List.append_assoc, List.singleton_append, readText_chars]
    rfl
  | .arr [], _ + 1, _, _, _ => rfl
  | .arr (v :: rest), fuel + 1, r, hfuel, _ => by
    refine readValue_items (readItems_chars v rest ?_)
    simp only [chars, List.length_cons, List.length_append, List.length_nil] at hfuel
    omega
  | .obj [], _ + 1, _, _, _ => rfl
  | .obj ((name, v) :: rest), fuel + 1, r, hfuel, _ => by
    refine readValue_members (readMembers_chars name v rest ?_)
    simp only [chars, List.length_cons, List.length_append, List.length_nil] at hfuel
    omega

theorem readItems_chars : ∀ (v : Json) (rest : List Json) {fuel : Nat} {r : List Char},
    (itemChars [] (v :: rest)).length + 1 < fuel →
    readItems fuel (itemChars [] (v :: rest) ++ ']' :: r) = some (v :: rest, r)
  | _, _, 0, _, hfuel => absurd hfuel (Nat.not_lt_zero _)
  | v, [], fuel + 1, r, hfuel => by
    simp only [itemChars, List.nil_append, List.append_nil] at hfuel ⊢
    exact readItems_last (readValue_chars v (by omega) (ends_cons (by decide)))
  | v, w :: rest, fuel + 1, r, hfuel => by
    simp only [itemChars_comma, List.length_append, List.length_cons, List.append_assoc, List.cons_append] at hfuel ⊢
    refine readItems_comma (readValue_chars v (by omega) (ends_cons (by decide))) ?_
    -- The blank after the comma is skipped.
    rw [readItems_blank]
    exact readItems_chars w rest (by omega)

theorem readMembers_chars : ∀ (name : String) (v : Json) (rest : List (String × Json)) {fuel : Nat} {r : List Char},
    (memberChars [] ((name, v) :: rest)).length + 1 < fuel →
    readMembers fuel (memberChars [] ((name, v) :: rest) ++ '\x7d' :: r) = some ((name, v) :: rest, r)
  | _, _, _, 0, _, hfuel => absurd hfuel (Nat.not_lt_zero _)
  | name, v, [], fuel + 1, r, hfuel => by
    simp only [memberChars_singleton, List.length_append, List.length_cons, List.append_assoc, List.cons_append]
      at hfuel ⊢
    refine readMembers_last name ?_
    rw [readValue_blank]
    exact readValue_chars v (by omega) (ends_cons (by decide))
  | name, v, (other, w) :: rest, fuel + 1, r, hfuel => by
    simp only [memberChars_comma, List.length_append, List.length_cons, List.append_assoc, List.cons_append]
      at hfuel ⊢
    refine readMembers_comma name ?_ ?_ (t := ' ' :: (memberChars [] ((other, w) :: rest) ++ '\x7d' :: r))
    · rw [readValue_blank]
      exact readValue_chars v (by omega) (ends_cons (by decide))
    · rw [readMembers_blank]
      exact readMembers_chars other w rest (by omega)

end

/-! ## Whole texts -/

/-- **What is written is read back**, also with blanks after it. -/
theorem read?_compact_append (v : Json) (blanks : String) (h : blanks.toList.all isBlank = true) :
    read? (v.compact ++ blanks) = some v := by
  have hends : Ends blanks.toList := by
    intro c hc
    have hblank := List.all_eq_true.1 h c (List.mem_of_mem_head? hc)
    simp only [isBlank, Bool.or_eq_true, beq_iff_eq] at hblank
    rcases hblank with ((rfl | rfl) | rfl) | rfl <;> decide
  have hskip : skipBlanks blanks.toList = [] := List.dropWhile_eq_nil_iff.2 (List.all_eq_true.1 h)
  have hlength : (chars v).length < (v.compact ++ blanks).length + 1 := by
    rw [← toList_compact, String.length_toList, String.length_append]
    omega
  rw [read?, String.toList_append, toList_compact, readValue_chars v hlength hends]
  simp [hskip]

theorem read?_compact (v : Json) : read? v.compact = some v := by
  have hread := read?_compact_append v "" rfl
  rwa [String.append_empty] at hread

/-- Values with the same text are the same. -/
theorem compact_injective {v w : Json} (h : v.compact = w.compact) : v = w := by
  have hread := read?_compact v
  rw [h, read?_compact] at hread
  exact (Option.some.inj hread).symm

/-- A text with other blanks and escapes than those that are written. -/
example : (read? " [null, \x7b\"a\":-7,\"b\" : [ ]\x7d,\"\\n\\u00E9\\u000a\\/\\ud83d\\ude00\" ]").map compact =
    some "[null, \x7b\"a\": -7, \"b\": []\x7d, \"\\n\\u00e9\\n/\\ud83d\\ude00\"]" := by
  decide +kernel

end CallAtlas.Json
