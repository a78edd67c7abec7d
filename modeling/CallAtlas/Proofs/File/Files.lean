import CallAtlas.Proofs.File.Tree
import Mathlib.Data.List.Nodup

/-!
# The files of a tree

* `Tree.Edits`: a tree comes from another one by putting entries under names; `edits_of_write`: writing a file does
  no more than that.
* `Tree.IsTable`: a tree has one entry under each of its names; `IsTable.of_edits`: that stays.
* `IsTable.mem_files_iff`, `IsTable.nodup_files`: the files of a tree are those found by name, once each.
-/

namespace CallAtlas.File.Tree

variable {t t' t'' : Tree} {names : List String} {entry : Entry} {path : Path}

/-! ## Entries put -/

/-- The second tree comes from the first one by putting entries under names. -/
inductive Edits (t : Tree) : Tree → Prop
  | refl : Edits t t
  | put {t' : Tree} (h : Edits t t') (names : List String) (name : String) (entry : Entry) :
    Edits t (t'.put (names ++ [name]) entry)

theorem Edits.trans (h : t.Edits t') (h' : t'.Edits t'') : t.Edits t'' := by
  induction h' with
  | refl => exact h
  | put _ names name entry ih => exact ih.put names name entry

theorem edits_of_makeDirectory (h : t.makeDirectory path = .ok t') : t.Edits t' := by
  rw [makeDirectory] at h
  split at h
  · cases h
  split at h
  · cases h
  · cases h
    exact .refl
  · split at h
    · cases h
    · cases h
      exact .put .refl ..

theorem edits_of_orDirectory {made : Except Failure Tree} (hmade : ∀ t₁, made = .ok t₁ → t.Edits t₁)
    (h : t.orDirectory path made = .ok t') : t.Edits t' := by
  cases made with
  | ok t₁ =>
    cases h
    exact hmade _ rfl
  | error e =>
    rw [orDirectory] at h
    split at h
    · cases h
      exact .refl
    · cases h

theorem edits_of_makeDirectoriesFrom {root : Root} {parts : List String} {above : Nat}
    (h : t.makeDirectoriesFrom root parts above = .ok t') : t.Edits t' := by
  induction above generalizing parts t' with
  | zero => exact edits_of_orDirectory (fun _ => edits_of_makeDirectory) h
  | succ above ih =>
    rw [makeDirectoriesFrom] at h
    split at h
    · rename_i hmake
      cases h
      exact edits_of_makeDirectory hmake
    · -- The way to the directory is made first.
      split at h
      · cases h
      · rename_i hrest
        exact (ih hrest).trans (edits_of_orDirectory (fun _ => edits_of_makeDirectory) h)
    · refine edits_of_orDirectory (fun t₁ hmake => ?_) h
      cases hmake

theorem edits_of_putFile {octets : List UInt8} (h : t.putFile path octets = .ok t') : t.Edits t' := by
  rw [putFile] at h
  split at h
  · cases h
  split at h
  · cases h
  · cases h
    exact .refl
  · split at h
    · cases h
    · cases h
      exact .put .refl ..

/-- Writing a file puts entries under names. -/
theorem edits_of_write {text : String} (h : t.write path text = .ok t') : t.Edits t' := by
  rw [write] at h
  split at h
  · cases h
  split at h
  · cases h
  · rename_i hmade
    exact (edits_of_makeDirectoriesFrom hmade).trans (edits_of_putFile h)

/-- So does a program that writes one, also if that fails. -/
theorem edits_run_write (t : Tree) (path : Path) (text : String) :
    t.Edits ((Files.write path text : StateM Tree (Except FileError Unit)) t).2 := by
  simp only [Files.write]
  split
  · rename_i hwrite
    exact edits_of_write hwrite
  · exact .refl

/-! ## One entry under each name -/

/-- The tree has one entry under each of its names, and none for the current directory. -/
structure IsTable (t : Tree) : Prop where
  nodup : (t.entries.map (·.1)).Nodup
  nil_notMem : [] ∉ t.entries.map (·.1)

namespace IsTable

theorem empty : ({} : Tree).IsTable :=
  ⟨List.nodup_nil, List.not_mem_nil⟩

theorem put (h : t.IsTable) (hne : names ≠ []) : (t.put names entry).IsTable := by
  constructor
  · rw [Tree.put, List.map_append, List.nodup_append]
    exact ⟨h.nodup.sublist (List.filter_sublist.map _), List.nodup_singleton _, by simp⟩
  · rw [Tree.put, List.map_append, List.mem_append, not_or]
    exact ⟨fun hmem => h.nil_notMem ((List.filter_sublist.map _).subset hmem), by simp [hne]⟩

theorem of_edits (h : t.IsTable) (hedits : t.Edits t') : t'.IsTable := by
  induction hedits with
  | refl => exact h
  | put _ names name entry ih => exact ih.put (by simp)

/-- An entry is found under its names. -/
theorem entry?_eq_some_iff (h : t.IsTable) (hne : names ≠ []) :
    t.entry? names = some entry ↔ (names, entry) ∈ t.entries := by
  rw [ entry?, if_neg hne, Option.map_eq_some_iff]
  constructor
  · rintro ⟨e, he, rfl⟩
    obtain rfl : e.1 = names := by simpa using List.find?_some he
    exact List.mem_of_find?_eq_some he
  · intro hmem
    cases hfind : t.entries.find? (·.1 == names) with
    | none => simpa using List.find?_eq_none.1 hfind _ hmem
    | some e =>
      have hkey : e.1 = names := by simpa using List.find?_some hfind
      have := List.inj_on_of_nodup_map h.nodup (List.mem_of_find?_eq_some hfind) hmem hkey
      exact ⟨e, rfl, by rw [this]⟩

/-- A file of the tree is found under its names. -/
theorem mem_files_iff (h : t.IsTable) {octets : List UInt8} :
    (names, octets) ∈ t.files ↔ t.entry? names = some (.file octets) := by
  have hfile : (names, octets) ∈ t.files ↔ (names, Entry.file octets) ∈ t.entries := by
    rw [files, List.mem_filterMap]
    constructor
    · rintro ⟨⟨names', entry⟩, hmem, heq⟩
      cases entry <;> cases heq
      exact hmem
    · exact fun hmem => ⟨_, hmem, rfl⟩
  rw [hfile]
  by_cases hnil : names = []
  · rw [hnil]
    exact iff_of_false (fun hmem => h.nil_notMem (List.mem_map_of_mem hmem)) (by simp)
  · exact (h.entry?_eq_some_iff hnil).symm

/-- No two files have the same names. -/
theorem nodup_files (h : t.IsTable) : (t.files.map (·.1)).Nodup := by
  refine List.pairwise_map.2 (List.pairwise_filterMap.2 ((List.pairwise_map.1 h.nodup).imp ?_))
  rintro ⟨names, entry⟩ ⟨names', entry'⟩ hne _ hfile _ hfile'
  cases entry <;> cases hfile
  cases entry' <;> cases hfile'
  exact hne

end IsTable

end CallAtlas.File.Tree
