import CallAtlas.Proofs.Graph.Reachable
import CallAtlas.Proofs.Graph.Names
import CallAtlas.Proofs.Site.Subjects
import CallAtlas.Proofs.Text.Percent

/-!
# Where the pages of a site go

A path may have parts that lead back or nowhere, as a class may be called `..`, `.` or nothing at all.

* `length_fileNameChars_le`, `isEncoded_of_mem_fileNameChars`: what names of files are made of;
  `fileName_eq_iff`: which of them are short and plain.
* `resolve`: where a path leads, with its parts `..` followed back; `resolve_file`: the place of a page,
  `Subject.place`.
* `pageName_ne_fileName`: the page of a method is no directory for those of a class.
* `kindAt_place`, `not_place_prefix_made`: if lines can carry the names, the place of a page tells its sort, and is
  no directory that is made for another one. `isLegible_of_content`: they can in the site of a trace.
-/

namespace CallAtlas.Site

open CallAtlas.Graph
open CallAtlas.Trace (IsClassName IsMethodName)
open Text.Hex (hexDigits lowerDigit)
open Text.Percent

/-! ## Names of files -/

section

variable {text : List Char} {c : Char}

theorem exists_lowerDigit_of_mem_hexDigits {width n : Nat} (h : c ∈ hexDigits width n) :
    ∃ k < 16, c = lowerDigit k := by
  induction width generalizing n with
  | zero => cases h
  | succ w ih =>
    rw [hexDigits, List.mem_append, List.mem_singleton] at h
    rcases h with h | rfl
    · exact ih h
    · exact ⟨n % 16, Nat.mod_lt _ (by decide), rfl⟩

theorem exists_lowerDigit_of_mem_nameHash (h : c ∈ nameHash text) : ∃ k < 16, c = lowerDigit k := by
  obtain ⟨b, -, hb⟩ := List.mem_flatMap.1 (List.mem_of_mem_take h)
  exact exists_lowerDigit_of_mem_hexDigits hb

theorem length_hexDigest (message : List UInt8) : (Hash.Sha256.hexDigest message).length = 64 := by
  have hpairs : (Hash.Sha256.digest message).map (fun b => (hexDigits 2 b.toNat).length) =
      List.replicate 32 2 := by
    rw [← Hash.Sha256.length_digest message, List.map_eq_replicate_iff]
    exact fun b _ => Text.Hex.length_hexDigits 2 b.toNat
  rw [Hash.Sha256.hexDigest, List.length_flatMap, hpairs]
  rfl

theorem length_nameHash (text : List Char) : (nameHash text).length = 16 := by
  rw [nameHash, List.length_take, length_hexDigest]
  rfl

/-- A name that is not too long is the encoded text. -/
theorem fileNameChars_of_le (h : (encodeChars text).length ≤ maxName) :
    fileNameChars text = encodeChars text :=
  if_neg (Nat.not_lt.2 h)

/-- A name that is too long has as many characters as are allowed, and ends with those of the hash. -/
theorem fileNameChars_of_lt (h : maxName < (encodeChars text).length) :
    fileNameChars text = (encodeChars text).take (maxName - hashDigits - 1) ++ '-' :: nameHash text :=
  if_pos h

theorem length_fileNameChars_of_lt (h : maxName < (encodeChars text).length) :
    (fileNameChars text).length = maxName := by
  have hmax : maxName - hashDigits - 1 ≤ (encodeChars text).length := Nat.le_trans (by decide) (Nat.le_of_lt h)
  rw [fileNameChars_of_lt h, List.length_append, List.length_take, List.length_cons, length_nameHash,
    Nat.min_eq_left hmax]
  rfl

/-- A name that is cut ends with a digit. -/
theorem getLast?_fileNameChars_of_lt (h : maxName < (encodeChars text).length) :
    ∃ k < 16, (fileNameChars text).getLast? = some (lowerDigit k) := by
  have hne : nameHash text ≠ [] := List.ne_nil_of_length_eq_add_one (length_nameHash text)
  rw [fileNameChars_of_lt h, List.append_cons, List.getLast?_append_of_ne_nil _ hne,
    List.getLast?_eq_some_getLast hne]
  obtain ⟨k, hk, heq⟩ := exists_lowerDigit_of_mem_nameHash (List.getLast_mem hne)
  exact ⟨k, hk, congrArg some heq⟩

theorem length_fileNameChars_le (text : List Char) : (fileNameChars text).length ≤ maxName := by
  by_cases h : maxName < (encodeChars text).length
  · exact Nat.le_of_eq (length_fileNameChars_of_lt h)
  · rw [fileNameChars_of_le (Nat.not_lt.1 h)]
    exact Nat.not_lt.1 h

theorem isUnreserved_lowerDigit : ∀ k < 16, isUnreserved (lowerDigit k) = true := by
  decide

theorem lowerDigit_ne : ∀ k < 16, lowerDigit k ≠ 'l' := by
  decide

theorem isEncoded_of_mem_fileNameChars (h : c ∈ fileNameChars text) : isEncoded c = true := by
  by_cases hlong : maxName < (encodeChars text).length
  · rw [fileNameChars_of_lt hlong, List.mem_append, List.mem_cons] at h
    rcases h with h | rfl | h
    · exact isEncoded_of_mem_encodeChars (List.mem_of_mem_take h)
    · rfl
    · obtain ⟨k, hk, rfl⟩ := exists_lowerDigit_of_mem_nameHash h
      rw [isEncoded, isUnreserved_lowerDigit k hk, Bool.true_or]
  · rw [fileNameChars_of_le (Nat.not_lt.1 hlong)] at h
    exact isEncoded_of_mem_encodeChars h

end

/-- A short name of plain characters is that of itself alone. -/
theorem fileName_eq_iff {text name : String} (hlength : name.toList.length < maxName)
    (hplain : name.toList.all isUnreserved = true) : fileName text = name ↔ text = name := by
  have hself : encodeChars name.toList = name.toList := encodeChars_eq_self (List.all_eq_true.1 hplain)
  rw [fileName, ← String.toList_inj, String.toList_ofList, ← String.toList_inj]
  constructor
  · intro h
    by_cases hlong : maxName < (encodeChars text.toList).length
    · have := length_fileNameChars_of_lt hlong
      rw [h] at this
      exact absurd this (Nat.ne_of_lt hlength)
    · rw [fileNameChars_of_le (Nat.not_lt.1 hlong), ← hself] at h
      exact encodeChars_injective h
  · intro h
    rw [h, fileNameChars_of_le (by rw [hself]; exact Nat.le_of_lt hlength), hself]

/-! ## Places -/

/-- Where one more part leads from a place below a directory; `none` if that is out of the directory. -/
def step? (place : List String) (part : String) : Option (List String) :=
  if part = ".." then (if place = [] then none else some place.dropLast) else some (place ++ [part])

/-- Where a path leads below a directory, if it stays there. -/
def resolve (path : List String) : Option (List String) :=
  path.foldlM step? []

/-- A part that leads to a file or a directory of its own. -/
def IsProper (part : String) : Prop :=
  part ≠ "" ∧ part ≠ "." ∧ part ≠ ".."

instance (part : String) : Decidable (IsProper part) :=
  inferInstanceAs (Decidable (_ ∧ _))

theorem step?_of_isProper {part : String} (h : IsProper part) (place : List String) :
    step? place part = some (place ++ [part]) :=
  if_neg h.2.2

theorem foldlM_step?_of_isProper {path : List String} (h : ∀ part ∈ path, IsProper part) (place : List String) :
    path.foldlM step? place = some (place ++ path) := by
  induction path generalizing place with
  | nil => rw [List.foldlM_nil, List.append_nil]; rfl
  | cons part path ih =>
    rw [List.foldlM_cons, step?_of_isProper (h part List.mem_cons_self)]
    show path.foldlM step? (place ++ [part]) = _
    rw [ih (fun p hp => h p (List.mem_cons_of_mem part hp)), List.append_assoc, List.singleton_append]

/-- A path of proper parts leads to itself. -/
theorem resolve_of_isProper {path : List String} (h : ∀ part ∈ path, IsProper part) :
    resolve path = some path :=
  foldlM_step?_of_isProper h []

namespace Subject

/-- The name of the file for the subject's page. -/
def fileName : Subject → String
  | entrypoints => "index.html"
  | classes => "classes.html"
  | ofClass name => pageName name
  | ofMethod m => pageName m.signature

/-- The directory that the subject's page stands in: the top of the site if the class of a method leads back. -/
def directory : Subject → List String
  | entrypoints | classes => []
  | ofClass _ => ["class"]
  | ofMethod m => if m.className = ".." then [] else "method" :: pathPart (Site.fileName m.className)

/-- The directories that are made on the way to the subject's page. -/
def made : Subject → List String
  | entrypoints | classes => []
  | ofClass _ => ["class"]
  | ofMethod m => "method" :: if m.className = ".." then [] else pathPart (Site.fileName m.className)

/-- The place of the subject's page. -/
def place (s : Subject) : List String :=
  s.directory ++ [s.fileName]

end Subject

section

variable (text : String)

theorem toList_pageName : (pageName text).toList = fileNameChars text.toList ++ ".html".toList := by
  rw [pageName, String.toList_append, fileName, String.toList_ofList]

theorem getLast?_pageName : (pageName text).toList.getLast? = some 'l' := by
  rw [toList_pageName, List.getLast?_append_of_ne_nil]
  all_goals decide

variable {text}

/-- A page's name ends as such. -/
theorem pageName_ne {name : String} (h : name.toList.getLast? ≠ some 'l') : pageName text ≠ name := by
  rintro rfl
  exact h (getLast?_pageName text)

theorem isProper_pageName : IsProper (pageName text) :=
  ⟨pageName_ne (by decide), pageName_ne (by decide), pageName_ne (by decide)⟩

theorem fileName_eq_nil_iff : fileName text = "" ↔ text = "" :=
  fileName_eq_iff (by decide) (by decide)

theorem fileName_eq_point_iff : fileName text = "." ↔ text = "." :=
  fileName_eq_iff (by decide) (by decide)

theorem fileName_eq_points_iff : fileName text = ".." ↔ text = ".." :=
  fileName_eq_iff (by decide) (by decide)

end

namespace Subject

theorem isProper_fileName (s : Subject) : IsProper s.fileName := by
  cases s with
  | entrypoints => decide
  | classes => decide
  | ofClass | ofMethod => exact isProper_pageName

theorem isProper_of_mem_directory (s : Subject) : ∀ part ∈ s.directory, IsProper part := by
  cases s with
  | entrypoints => simp [directory]
  | classes => simp [directory]
  | ofClass name => exact List.forall_mem_singleton.2 (by decide)
  | ofMethod m =>
    have hmethod : IsProper "method" := by decide
    rw [directory]
    split
    · simp
    · rename_i hback
      refine List.forall_mem_cons.2 ⟨hmethod, fun part hpart => ?_⟩
      rw [pathPart] at hpart
      split at hpart
      · cases hpart
      · rename_i hnone
        rw [not_or] at hnone
        rw [List.mem_singleton.1 hpart]
        exact ⟨hnone.1, hnone.2, mt fileName_eq_points_iff.1 hback⟩

theorem isProper_of_mem_place (s : Subject) : ∀ part ∈ s.place, IsProper part :=
  List.forall_mem_append.2 ⟨s.isProper_of_mem_directory, List.forall_mem_singleton.2 s.isProper_fileName⟩

theorem file_ne_nil (s : Subject) : s.file ≠ [] := by
  cases s <;> exact List.cons_ne_nil _ _

theorem place_ne_nil (s : Subject) : s.place ≠ [] := by
  simp [place]

/-- The path of a page is its place, or goes one directory down and back. -/
theorem file_cases (s : Subject) : s.file = s.place ∧ s.made = s.directory ∨
    s.file = ["method", "..", s.fileName] ∧ s.made = ["method"] ∧ s.directory = [] := by
  cases s with
  | entrypoints | classes | ofClass => exact .inl ⟨rfl, rfl⟩
  | ofMethod m =>
    rw [place, directory, made]
    by_cases hback : m.className = ".."
    · have hname : Site.fileName m.className = ".." := fileName_eq_points_iff.2 hback
      rw [if_pos hback, if_pos hback]
      refine .inr ⟨?_, rfl, rfl⟩
      rw [file, methodFile, hname]
      simp [pathPart, fileName]
    · rw [if_neg hback, if_neg hback]
      exact .inl ⟨rfl, rfl⟩

theorem place_subset_file (s : Subject) : s.place ⊆ s.file := by
  rcases s.file_cases with ⟨h, -⟩ | ⟨h, -, hdirectory⟩
  · rw [h]
    exact List.Subset.refl _
  · rw [h, place, hdirectory]
    simp

end Subject

/-- **A page stands at its place.** -/
theorem resolve_file (s : Subject) : resolve s.file = some s.place := by
  rcases s.file_cases with ⟨h, -⟩ | ⟨h, -, hdirectory⟩
  · rw [h]
    exact resolve_of_isProper s.isProper_of_mem_place
  · -- The class leads back from `method`.
    rw [h, Subject.place, hdirectory]
    simp [resolve, step?, s.isProper_fileName.2.2]

/-! ## Parts -/

/-- A part has unreserved characters and `%` only, and is short enough for any file system. -/
structure IsPart (part : String) : Prop where
  isEncoded : ∀ c ∈ part.toList, isEncoded c = true
  length_le : part.toList.length ≤ 205

theorem isPart_fileName (text : String) : IsPart (fileName text) := by
  rw [fileName]
  constructor <;> rw [String.toList_ofList]
  · exact fun c => isEncoded_of_mem_fileNameChars
  · exact Nat.le_trans (length_fileNameChars_le _) (by decide)

theorem isPart_pageName (text : String) : IsPart (pageName text) := by
  have hending : ".html".toList.all isEncoded = true := by decide
  constructor <;> rw [toList_pageName]
  · exact List.forall_mem_append.2 ⟨fun c => isEncoded_of_mem_fileNameChars, List.all_eq_true.1 hending⟩
  · have hlength : (fileNameChars text.toList).length ≤ 200 := length_fileNameChars_le _
    have hpage : ".html".toList.length = 5 := rfl
    rw [List.length_append, hpage]
    omega

theorem isPart_of_mem_file (s : Subject) : ∀ part ∈ s.file, IsPart part := by
  have hword : ∀ word ∈ ["index.html", "classes.html", "class", "method"],
      word.toList.all isEncoded = true ∧ word.toList.length ≤ 205 := by decide
  have hpart : ∀ word ∈ ["index.html", "classes.html", "class", "method"], IsPart word := fun word h =>
    ⟨List.all_eq_true.1 (hword word h).1, (hword word h).2⟩
  cases s with
  | entrypoints => exact List.forall_mem_singleton.2 (hpart _ (by simp))
  | classes => exact List.forall_mem_singleton.2 (hpart _ (by simp))
  | ofClass name =>
    exact List.forall_mem_cons.2 ⟨hpart _ (by simp), List.forall_mem_singleton.2 (isPart_pageName name)⟩
  | ofMethod m =>
    refine List.forall_mem_cons.2 ⟨hpart _ (by simp), List.forall_mem_append.2
      ⟨fun part h => ?_, List.forall_mem_singleton.2 (isPart_pageName m.signature)⟩⟩
    rw [pathPart] at h
    split at h
    · cases h
    · rw [List.mem_singleton.1 h]
      exact isPart_fileName m.className

/-! ## Places apart -/

theorem pageName_eq_iff {text name : String} (hlength : name.toList.length < maxName)
    (hplain : name.toList.all isUnreserved = true) : pageName text = name ++ ".html" ↔ text = name := by
  rw [pageName, String.append_left_inj, fileName_eq_iff hlength hplain]

/-- The page of a signature has not the name of a class: the name of the class would end as that of a page does,
so it is not cut, and has the bracket of the signature. -/
theorem pageName_ne_fileName {signature className : String} (hs : '(' ∈ signature.toList)
    (hc : '(' ∉ className.toList) : pageName signature ≠ fileName className := by
  intro h
  have hchars : fileNameChars signature.toList ++ ".html".toList = fileNameChars className.toList := by
    rw [← toList_pageName, h, fileName, String.toList_ofList]
  by_cases hlong : maxName < (encodeChars className.toList).length
  · -- A name that is cut ends with a digit.
    obtain ⟨k, hk, hlast⟩ := getLast?_fileNameChars_of_lt hlong
    have hletter : lowerDigit k = 'l' := by
      rw [← Option.some.injEq, ← hlast, ← hchars, List.getLast?_append_of_ne_nil _ (by decide)]
      rfl
    exact lowerDigit_ne k hk hletter
  · rw [fileNameChars_of_le (Nat.not_lt.1 hlong)] at hchars
    by_cases hcut : maxName < (encodeChars signature.toList).length
    · have hlength := congrArg List.length hchars
      rw [List.length_append, length_fileNameChars_of_lt hcut] at hlength
      exact hlong (by rw [← hlength]; decide)
    · rw [fileNameChars_of_le (Nat.not_lt.1 hcut)] at hchars
      have hending : encodeChars ".html".toList = ".html".toList := by decide +kernel
      rw [← hending, ← encodeChars_append] at hchars
      rw [← encodeChars_injective hchars] at hc
      exact hc (List.mem_append_left _ hs)

namespace Subject

/-- Lines can carry the names of the subject. -/
def IsLegible : Subject → Prop
  | entrypoints | classes => True
  | ofClass name => IsClassName name.toList
  | ofMethod m => IsMethodName m

/-- What sort of subject it is. -/
inductive Kind where
  | entrypoints
  | classes
  | ofClass
  | ofMethod
  deriving DecidableEq, Repr

/-- The sort of the subject. -/
def kind : Subject → Kind
  | entrypoints => .entrypoints
  | classes => .classes
  | ofClass _ => .ofClass
  | ofMethod _ => .ofMethod

/-- The sort of the page at a place. -/
def kindAt (place : List String) : Kind :=
  if place = ["index.html"] then .entrypoints
  else if place = ["classes.html"] then .classes
  else if place.head? = some "class" then .ofClass
  else .ofMethod

variable {s s' : Subject}

/-- The bracket of a signature shows in the name of its page. -/
theorem pageName_signature_ne {m : MethodName} (h : IsMethodName m) :
    pageName m.signature ≠ "index.html" ∧ pageName m.signature ≠ "classes.html" := by
  have hopen := h.open_mem_signature
  refine ⟨fun hname => ?_, fun hname => ?_⟩
  · have hindex : m.signature = "index" := (pageName_eq_iff (by decide) (by decide)).1 hname
    rw [hindex] at hopen
    revert hopen
    decide
  · have hclasses : m.signature = "classes" := (pageName_eq_iff (by decide) (by decide)).1 hname
    rw [hclasses] at hopen
    revert hopen
    decide

/-- A place tells which sort of page stands there. -/
theorem kindAt_place (h : s.IsLegible) : kindAt s.place = s.kind := by
  cases s with
  | entrypoints => decide +kernel
  | classes => decide +kernel
  | ofClass name => simp [kindAt, place, directory, kind]
  | ofMethod m =>
    obtain ⟨hindex, hclasses⟩ := pageName_signature_ne h
    have hplace : ∀ name, pageName m.signature ≠ name → (ofMethod m).place ≠ [name] := by
      intro name hne heq
      have hlast : (ofMethod m).place.getLast? = some (pageName m.signature) := List.getLast?_concat
      rw [heq] at hlast
      exact hne (Option.some.inj hlast).symm
    have hclass : (ofMethod m).place.head? ≠ some "class" := by
      have hpage : pageName m.signature ≠ "class" := pageName_ne (by decide)
      rw [place, directory]
      split <;> simp [fileName, hpage]
    rw [kindAt, if_neg (hplace _ hindex), if_neg (hplace _ hclasses), if_neg hclass, kind]

theorem getLast?_fileName (s : Subject) : s.fileName.toList.getLast? = some 'l' := by
  cases s with
  | entrypoints => decide
  | classes => decide
  | ofClass | ofMethod => exact getLast?_pageName _

theorem directory_prefix_made (s : Subject) : s.directory <+: s.made := by
  rcases s.file_cases with ⟨-, h⟩ | ⟨-, -, h⟩
  · exact h ▸ List.prefix_rfl
  · rw [h]
    exact List.nil_prefix

theorem made_cases (s : Subject) : s.made ∈ [[], ["class"], ["method"]] ∨
    ∃ m, s = ofMethod m ∧ s.made = ["method", Site.fileName m.className] := by
  cases s with
  | entrypoints | classes | ofClass => exact .inl (by simp [made])
  | ofMethod m =>
    rw [made, pathPart]
    split
    · exact .inl (by simp)
    split
    · exact .inl (by simp)
    · exact .inr ⟨m, rfl, rfl⟩

/-- No page stands where directories are made. -/
theorem not_place_prefix_made (hs : s.IsLegible) (hs' : s'.IsLegible) : ¬ s.place <+: s'.made := by
  intro h
  have hending := s.getLast?_fileName
  have hmem : s.fileName ∈ s'.made := h.subset (List.mem_append_right _ List.mem_cons_self)
  have hclass : s.fileName ≠ "class" := by
    intro hname
    rw [hname] at hending
    revert hending
    decide
  have hmethod : s.fileName ≠ "method" := by
    intro hname
    rw [hname] at hending
    revert hending
    decide
  rcases s'.made_cases with hmade | ⟨m', rfl, hmade⟩
  · simp only [List.mem_cons, List.not_mem_nil, or_false] at hmade
    rcases hmade with hmade | hmade | hmade <;> rw [hmade] at hmem <;> simp [hclass, hmethod] at hmem
  · rw [hmade] at h hmem
    simp only [List.mem_cons, hmethod, false_or, List.not_mem_nil, or_false] at hmem
    cases s with
    | ofMethod m => exact pageName_ne_fileName (IsMethodName.open_mem_signature hs) hs'.className.1 hmem
    | entrypoints | classes | ofClass => simp [place, directory, fileName] at h

/-- A page is no directory on the way to another one. -/
theorem place_eq_of_prefix (hs : s.IsLegible) (hs' : s'.IsLegible) (h : s.place <+: s'.place) :
    s.place = s'.place := by
  rcases List.prefix_concat_iff.1 h with heq | hbelow
  · exact heq
  · exact absurd (hbelow.trans s'.directory_prefix_made) (not_place_prefix_made hs hs')

end Subject

/-- Lines carry the names of all that has a page in the site of a trace. -/
theorem isLegible_of_content (lines : List String) {s : Subject}
    (h : (s.content? (load lines).graph).isSome) : s.IsLegible := by
  have hlegible := load_legible lines
  have hmethod : ∀ {i : MethodId} {m : MethodNode}, (load lines).graph.methods[i]? = some m →
      IsMethodName m.name := fun hm => hlegible.methodName (CallGraph.nameOf?_of_getElem? hm)
  cases s with
  | entrypoints | classes => trivial
  | ofClass name =>
    rw [Subject.isSome_content?_ofClass hlegible.toWellFormed, CallGraph.classList] at h
    obtain ⟨c, hc, rfl⟩ := List.mem_map.1 h
    obtain ⟨i, m, hm, hname⟩ := (load_isGraphOf lines).exists_method_of_class (Array.mem_toList_iff.1 hc)
    rw [Subject.IsLegible, ← hname]
    exact (hmethod hm).className
  | ofMethod name =>
    rw [Subject.isSome_content?_ofMethod hlegible.toWellFormed, CallGraph.mem_methodList_iff] at h
    obtain ⟨i, m, hm, rfl⟩ := h
    exact hmethod hm

end CallAtlas.Site
