import CallAtlas.Trace.Line

/-!
# The grammar of trace lines

Which parts a trace line may have, said apart from how a line is read.

* `IsCallType`, `IsClassName`, `IsSignature`: what the three names of a line may be.
* `Fields.text` puts the parts of a line together; `Fields.WellFormed` holds of the parts that a line
  may have.
* `Fields.ofLine_text` / `Fields.wellFormed_of_ofLine`: a line without line end is read as `f` exactly
  if it is the text of well-formed parts `f`; so these are unique (`Fields.text_injective`).
* `parseLine_accepts_grammar`: the same for a line with its line end, with the record that it gives and
  the refusal of any other line.
-/

namespace CallAtlas.Trace

open Text

/-! ## Names -/

/-- A call type starts with an ASCII character other than a blank, and has no point. -/
def IsCallType (t : List Char) : Prop :=
  (∃ c cs, t = c :: cs ∧ c ≠ ' ' ∧ c.toNat < 0x80) ∧ '.' ∉ t

/-- A class name has no opening bracket, and no blank before its first point. -/
def IsClassName (c : List Char) : Prop :=
  '(' ∉ c ∧ ' ' ∉ c.takeWhile (· ≠ '.')

/-- A signature has an opening bracket, no point before the first one, and no colon after it. -/
def IsSignature (s : List Char) : Prop :=
  ∃ name parameters, s = name ++ '(' :: parameters ∧ '(' ∉ name ∧ '.' ∉ name ∧ ':' ∉ parameters

instance : (t : List Char) → Decidable (IsCallType t)
  | [] => isFalse (by simp [IsCallType])
  | c :: cs =>
    decidable_of_iff ((c ≠ ' ' ∧ c.toNat < 0x80) ∧ '.' ∉ c :: cs) (by simp [IsCallType])

instance (c : List Char) : Decidable (IsClassName c) :=
  inferInstanceAs (Decidable (_ ∧ _))

/-- A signature is split at its first opening bracket. -/
theorem isSignature_iff {s : List Char} :
    IsSignature s ↔ ∃ p ∈ cutFirst '(' s, '.' ∉ p.1 ∧ ':' ∉ p.2 := by
  constructor
  · rintro ⟨name, parameters, rfl, hopen, hpoint, hcolon⟩
    exact ⟨_, cutFirst_append hopen parameters, hpoint, hcolon⟩
  · rintro ⟨⟨name, parameters⟩, hp, hpoint, hcolon⟩
    obtain ⟨rfl, hopen⟩ := cutFirst_eq_some_iff.1 hp
    exact ⟨name, parameters, rfl, hopen, hpoint, hcolon⟩

instance (s : List Char) : Decidable (IsSignature s) :=
  decidable_of_iff ((cutFirst '(' s).any fun p => '.' ∉ p.1 ∧ ':' ∉ p.2) (by
    rw [isSignature_iff, Option.any_eq_true]
    simp)

/-! ## Lines -/

namespace Fields

/-- The line with these parts. -/
def text (f : Fields) : List Char :=
  f.margin ++ f.callType ++ ' ' :: f.className ++ '.' :: f.signature ++ ':' :: f.rest

/-- The parts that a line may have. The rest of the line is free. -/
structure WellFormed (f : Fields) : Prop where
  margin : ∀ c ∈ f.margin, c = ' ' ∨ 0x80 ≤ c.toNat
  callType : IsCallType f.callType
  className : IsClassName f.className
  signature : IsSignature f.signature

end Fields

theorem isMargin_iff {c : Char} : isMargin c = true ↔ c = ' ' ∨ 0x80 ≤ c.toNat := by
  simp [isMargin]

theorem IsCallType.exists_cons {t : List Char} (h : IsCallType t) :
    ∃ c cs, t = c :: cs ∧ isMargin c = false := by
  obtain ⟨⟨c, cs, rfl, hblank, hascii⟩, -⟩ := h
  refine ⟨c, cs, rfl, ?_⟩
  rw [Bool.eq_false_iff, ne_eq, isMargin_iff]
  exact fun hc => hc.elim hblank (by omega)

/-- The margin of a line ends where a character that is none follows. -/
theorem takeWhile_margin {margin : List Char} (hm : ∀ c ∈ margin, isMargin c = true) {x : Char}
    (hx : isMargin x = false) (xs : List Char) :
    (margin ++ x :: xs).takeWhile isMargin = margin ∧
      (margin ++ x :: xs).dropWhile isMargin = x :: xs := by
  rw [List.takeWhile_append_of_pos hm, List.dropWhile_append_of_pos hm]
  simp [hx]

private theorem point_notMem_takeWhile (c : List Char) : '.' ∉ c.takeWhile (· ≠ '.') := fun h => by
  simpa using List.all_eq_true.1 List.all_takeWhile '.' h

/-- What stands before the first point of a class name stands before the first point of the line. -/
private theorem exists_append_point (c s : List Char) :
    ∃ after, c ++ '.' :: s = c.takeWhile (· ≠ '.') ++ '.' :: after := by
  have hc := List.takeWhile_append_dropWhile (p := (· ≠ '.')) (l := c)
  cases hd : c.dropWhile (· ≠ '.') with
  | nil =>
    rw [hd, List.append_nil] at hc
    exact ⟨s, by rw [hc]⟩
  | cons x tail =>
    have hx : x = '.' := by
      have := List.head?_dropWhile_not (· ≠ '.') c
      rw [hd] at this
      simpa using this
    rw [hd, hx] at hc
    refine ⟨tail ++ '.' :: s, ?_⟩
    conv => lhs; rw [← hc]
    rw [List.append_assoc, List.cons_append]

/-- Before the first point of its class name a text has no point, and what follows the text's last blank
there is the start of the class name. -/
private theorem blank_notMem_of_append {c s head after : List Char}
    (h : head ++ '.' :: after = c ++ '.' :: s) (hblank : ' ' ∉ head) (hpoint : '.' ∉ head) :
    ' ' ∉ c.takeWhile (· ≠ '.') := by
  obtain ⟨after', hafter⟩ := exists_append_point c s
  have h1 := cutFirst_append hpoint after
  rw [h, hafter, cutFirst_append (point_notMem_takeWhile c)] at h1
  cases h1
  exact hblank

/-- A line of well-formed parts is read as these parts. -/
theorem Fields.ofLine_text {f : Fields} (h : f.WellFormed) : Fields.ofLine f.text = .ok f := by
  obtain ⟨margin, callType, className, signature, rest⟩ := f
  obtain ⟨hmargin, hcall, hclass, name, parameters, hsig, hopen, hpoint, hcolon⟩ := h
  dsimp only at hmargin hcall hclass hsig
  subst hsig
  obtain ⟨x, xs, rfl, hx⟩ := hcall.exists_cons
  obtain ⟨after, hafter⟩ := exists_append_point className (name ++ '(' :: (parameters ++ ':' :: rest))
  have hline : text ⟨margin, x :: xs, className, name ++ '(' :: parameters, rest⟩ =
      margin ++ x :: (xs ++ ' ' :: (className.takeWhile (· ≠ '.') ++ '.' :: after)) := by
    rw [← hafter]
    simp [text]
  obtain ⟨htake, hdrop⟩ := takeWhile_margin (fun c hc => isMargin_iff.2 (hmargin c hc)) hx
    (xs ++ ' ' :: (className.takeWhile (· ≠ '.') ++ '.' :: after))
  have hbefore : '.' ∉ x :: xs ++ ' ' :: className.takeWhile (· ≠ '.') := fun hc => by
    rcases List.mem_append.1 hc with hc | hc
    · exact hcall.2 hc
    · exact point_notMem_takeWhile className ((List.mem_cons.1 hc).resolve_left (by decide))
  have h1 : cutFirst '.' (x :: (xs ++ ' ' :: (className.takeWhile (· ≠ '.') ++ '.' :: after))) =
      some (x :: xs ++ ' ' :: className.takeWhile (· ≠ '.'), after) := by
    rw [← cutFirst_append hbefore]
    simp
  have h3 : cutFirst '(' (className.takeWhile (· ≠ '.') ++ '.' :: after) =
      some (className ++ '.' :: name, parameters ++ ':' :: rest) := by
    have hpath : '(' ∉ className ++ '.' :: name := by simp [hclass.1, hopen]
    rw [← hafter, ← cutFirst_append hpath]
    simp
  simp only [ofLine, hline, htake, hdrop, h1, cutLast_append _ hclass.2, h3, cutLast_append _ hpoint,
    cutFirst_append hcolon]

/-- The parts of a line are well-formed, and put together they are the line. -/
theorem Fields.wellFormed_of_ofLine {line : List Char} {f : Fields}
    (h : Fields.ofLine line = .ok f) : f.WellFormed ∧ f.text = line := by
  unfold ofLine at h
  split at h <;> try contradiction
  rename_i beforePoint afterPoint h1
  split at h <;> try contradiction
  rename_i callType classStart h2
  split at h <;> try contradiction
  rename_i path parameters h3
  split at h <;> try contradiction
  rename_i className method h4
  split at h <;> try contradiction
  rename_i signatureEnd rest h5
  cases h
  obtain ⟨hline, hpoint⟩ := cutFirst_eq_some_iff.1 h1
  obtain ⟨rfl, hblank⟩ := cutLast_eq_some_iff.1 h2
  obtain ⟨hpath, hopen⟩ := cutFirst_eq_some_iff.1 h3
  obtain ⟨rfl, hmethod⟩ := cutLast_eq_some_iff.1 h4
  obtain ⟨rfl, hcolon⟩ := cutFirst_eq_some_iff.1 h5
  simp only [List.mem_append, List.mem_cons, not_or] at hpoint hopen
  refine ⟨⟨fun c hc => ?_, ⟨?_, hpoint.1⟩, ⟨hopen.1, ?_⟩, method, signatureEnd, rfl, hopen.2.2, hmethod,
    hcolon⟩, ?_⟩
  · exact isMargin_iff.1 (List.all_eq_true.1 List.all_takeWhile c hc)
  · -- The text after the margin starts with no margin character, so the call type is not empty.
    have hhead := List.head?_dropWhile_not isMargin line
    rw [hline] at hhead
    cases callType with
    | nil => simp [isMargin] at hhead
    | cons x xs =>
      refine ⟨x, xs, rfl, ?_⟩
      have hx : ¬(x = ' ' ∨ 0x80 ≤ x.toNat) := by
        rw [← isMargin_iff]
        simpa using hhead
      rw [not_or] at hx
      exact ⟨hx.1, by omega⟩
  · rw [List.append_assoc, List.cons_append] at hpath
    exact blank_notMem_of_append hpath hblank hpoint.2.2
  · rw [text]
    conv => rhs; rw [← List.takeWhile_append_dropWhile (p := isMargin) (l := line), hline]
    simp only [List.append_assoc, List.cons_append] at hpath ⊢
    rw [hpath]

/-- Only one choice of well-formed parts gives a line. -/
theorem Fields.text_injective {f g : Fields} (hf : f.WellFormed) (hg : g.WellFormed)
    (h : f.text = g.text) : f = g := by
  have hread := ofLine_text hf
  rw [h, ofLine_text hg] at hread
  cases hread
  rfl

/-! ## The reader -/

theorem isLineEnd_iff {c : Char} : isLineEnd c = true ↔ c = '\r' ∨ c = '\n' := by
  simp [isLineEnd]

/-- **The reader accepts exactly the grammar.** Of every line, the text without its line end is read if
it is the text of well-formed parts; these are then unique and give the record. Any other line is
refused, with that text and the number of the line. -/
theorem parseLine_accepts_grammar (line : String) (lineNo : Option Int) :
    ∃ text lineEnd : List Char, line.toList = text ++ lineEnd ∧
      (∀ c ∈ lineEnd, c = '\r' ∨ c = '\n') ∧
      (∀ c, text.getLast? = some c → c ≠ '\r' ∧ c ≠ '\n') ∧
      (∀ r, parseLine line lineNo = .ok r ↔ ∃ f : Fields, f.WellFormed ∧ f.text = text ∧
        r = ⟨((f.margin.length / 4 : Nat) : Int) - 1, String.ofList f.callType,
          ⟨String.ofList f.className, String.ofList f.signature⟩, lineNo⟩) ∧
      (∀ f g : Fields, f.WellFormed → g.WellFormed → f.text = text → g.text = text → f = g) ∧
      ((¬∃ f : Fields, f.WellFormed ∧ f.text = text) →
        ∃ cause, parseLine line lineNo = .error ⟨cause, lineNo, String.ofList text⟩) := by
  obtain ⟨lineEnd, hline, hend⟩ := exists_eq_dropTrailing_append isLineEnd line.toList
  refine ⟨dropTrailing isLineEnd line.toList, lineEnd, hline, fun c hc => isLineEnd_iff.1 (hend c hc),
    fun c hc => ?_, fun r => ⟨fun h => ?_, ?_⟩, fun f g hf hg h1 h2 => ?_, fun hnone => ?_⟩
  · have := not_of_getLast?_dropTrailing hc
    rw [Bool.eq_false_iff, ne_eq, isLineEnd_iff] at this
    exact not_or.1 this
  · unfold parseLine at h
    simp only at h
    split at h <;> try contradiction
    rename_i f hf
    cases h
    obtain ⟨hwf, htext⟩ := Fields.wellFormed_of_ofLine hf
    exact ⟨f, hwf, htext, rfl⟩
  · rintro ⟨f, hwf, htext, rfl⟩
    unfold parseLine
    simp only
    rw [← htext, Fields.ofLine_text hwf]
    rfl
  · exact Fields.text_injective hf hg (h1.trans h2.symm)
  · unfold parseLine
    simp only
    cases hread : Fields.ofLine (dropTrailing isLineEnd line.toList) with
    | ok f => exact absurd ⟨f, Fields.wellFormed_of_ofLine hread⟩ hnone
    | error cause => exact ⟨cause, rfl⟩

end CallAtlas.Trace
