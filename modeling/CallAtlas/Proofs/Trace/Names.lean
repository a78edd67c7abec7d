import CallAtlas.Proofs.Trace.Grammar

/-!
# Names that lines carry

* `IsMethodName`: a class and a signature that a line can carry.
* `IsMethodName.eq_of_qualified_eq`: such names are told apart by their qualified form, although class and
  signature may have points of their own.
* `isCallType_of_parseLine`, `isMethodName_of_parseLine`: the names of a record read.
-/

namespace CallAtlas.Trace

/-- A line can carry the class and the signature. -/
structure IsMethodName (m : MethodName) : Prop where
  className : IsClassName m.className.toList
  signature : IsSignature m.signature.toList

theorem IsMethodName.open_mem_signature {m : MethodName} (h : IsMethodName m) :
    '(' ∈ m.signature.toList := by
  obtain ⟨name, parameters, heq, -⟩ := h.signature
  rw [heq]
  exact List.mem_append_right _ List.mem_cons_self

/-- The parts of a line that carries the names. -/
private def fieldsOf (m : MethodName) : Fields :=
  ⟨[], ['-'], m.className.toList, m.signature.toList, []⟩

private theorem fieldsOf_wellFormed {m : MethodName} (h : IsMethodName m) : (fieldsOf m).WellFormed where
  margin := by simp [fieldsOf]
  callType := by
    show IsCallType ['-']
    decide
  className := h.className
  signature := h.signature

private theorem text_fieldsOf (m : MethodName) :
    (fieldsOf m).text = '-' :: ' ' :: m.qualified.toList ++ [':'] := by
  simp [fieldsOf, Fields.text, MethodName.qualified]

/-- A line has only one class and one signature, so a qualified name has. -/
theorem IsMethodName.eq_of_qualified_eq {m n : MethodName} (hm : IsMethodName m) (hn : IsMethodName n)
    (h : m.qualified = n.qualified) : m = n := by
  have htext : (fieldsOf m).text = (fieldsOf n).text := by rw [text_fieldsOf, text_fieldsOf, h]
  have hfields := Fields.text_injective (fieldsOf_wellFormed hm) (fieldsOf_wellFormed hn) htext
  obtain ⟨className, signature⟩ := m
  obtain ⟨className', signature'⟩ := n
  simp only [fieldsOf, Fields.mk.injEq, String.toList_inj, true_and, and_true] at hfields
  rw [hfields.1, hfields.2]

/-! ## Records read -/

section

variable {line : String} {lineNo : Option Int} {r : Record}

/-- A record read is that of well-formed parts. -/
private theorem exists_fields_of_parseLine (h : parseLine line lineNo = .ok r) :
    ∃ f : Fields, f.WellFormed ∧ r = f.record lineNo := by
  unfold parseLine at h
  simp only at h
  split at h <;> try contradiction
  rename_i f hf
  cases h
  exact ⟨f, (Fields.wellFormed_of_ofLine hf).1, rfl⟩

/-- A record read has the number of its line. -/
theorem lineNo_of_parseLine (h : parseLine line lineNo = .ok r) : r.lineNo = lineNo := by
  obtain ⟨f, -, rfl⟩ := exists_fields_of_parseLine h
  rfl

theorem isCallType_of_parseLine (h : parseLine line lineNo = .ok r) :
    IsCallType r.callType.toList := by
  obtain ⟨f, hf, rfl⟩ := exists_fields_of_parseLine h
  simpa [Fields.record] using hf.callType

theorem isMethodName_of_parseLine (h : parseLine line lineNo = .ok r) : IsMethodName r.method := by
  obtain ⟨f, hf, rfl⟩ := exists_fields_of_parseLine h
  exact ⟨by simpa [Fields.record] using hf.className, by simpa [Fields.record] using hf.signature⟩

end

end CallAtlas.Trace
