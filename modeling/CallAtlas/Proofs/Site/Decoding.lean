import CallAtlas.File.Path
import CallAtlas.Proofs.Site.Links
import CallAtlas.Proofs.Text.Segments

/-!
# Links decoded

The parts of a path are encoded names, and a link has them encoded once more. Who decodes the link once has the
names on disk again, also those that were cut within an escape, which are no encodings themselves.

* `ofString_joined`: a path that is put together with slashes is read part by part, without what counts for nothing.
* `IsReadAs`, `isReadAs_href`: what a link is read as.
* `link_names_file`: the links to the pages of all classes and methods.
-/

namespace CallAtlas.Site

open Text.Percent

/-! ## Paths put together -/

theorem pieces_eq_splitOn (c : Char) (s : List Char) : Text.pieces c s = s.splitOn c := by
  induction s with
  | nil => rfl
  | cons x xs ih =>
    rw [Text.pieces, ih, List.splitOn_eq_splitOnP, List.splitOn_eq_splitOnP, List.splitOnP_cons_eq_if_modifyHead]
    by_cases hx : x = c
    · simp [hx]
    · rw [if_neg hx, if_neg (by simpa using hx)]
      cases hpieces : xs.splitOnP (· == c) with
      | nil => exact absurd hpieces (List.splitOnP_ne_nil _ _)
      | cons p ps => rfl

/-- Names without slashes are read from between the slashes. -/
theorem partsOf_joined {parts : List String} (hne : parts ≠ []) (h : ∀ part ∈ parts, '/' ∉ part.toList) :
    File.Path.partsOf (joined parts).toList = parts.filter fun part => part ≠ "" ∧ part ≠ "." := by
  have hchars : (joined parts).toList.splitOn '/' = parts.map String.toList := by
    rw [joined, String.toList_intercalate]
    exact List.splitOn_intercalate '/' (by simpa using h) (by simpa using hne)
  have hparts : (parts.map String.toList).map String.ofList = parts := by simp [Function.comp_def]
  rw [File.Path.partsOf, pieces_eq_splitOn, hchars, hparts]

/-- A path does not start at the top if its first name has a character, and that is no slash. -/
theorem rootOf_joined {first : String} {parts : List String} (hne : first ≠ "") (h : '/' ∉ first.toList) :
    File.Path.rootOf (joined (first :: parts)).toList = .current := by
  obtain ⟨rest, hrest⟩ : ∃ rest, (joined (first :: parts)).toList = first.toList ++ rest := by
    rw [joined, String.toList_intercalate, List.map_cons]
    cases parts.map String.toList with
    | nil => exact ⟨[], by simp⟩
    | cons second others => exact ⟨_, by rw [List.intercalate_cons_cons, List.append_assoc]⟩
  cases hfirst : first.toList with
  | nil => exact absurd (String.toList_eq_nil_iff.1 hfirst) hne
  | cons c cs =>
    have hc : c ≠ '/' := by
      rintro rfl
      exact h (by rw [hfirst]; exact List.mem_cons_self)
    rw [hrest, hfirst, List.cons_append]
    simp [File.Path.rootOf, hc]

/-- A path below the current directory that is put together with slashes has its parts, but for those that count for
nothing. -/
theorem ofString_joined {first : String} {parts : List String} (hne : first ≠ "")
    (h : ∀ part ∈ first :: parts, '/' ∉ part.toList) : File.Path.ofString (joined (first :: parts)) =
      ⟨.current, (first :: parts).filter fun part => part ≠ "" ∧ part ≠ "."⟩ := by
  rw [File.Path.ofString, rootOf_joined hne (h first List.mem_cons_self), partsOf_joined (List.cons_ne_nil _ _) h]

theorem slash_notMem_of_isPart {part : String} (h : IsPart part) : '/' ∉ part.toList := by
  intro hslash
  have := h.isEncoded _ hslash
  revert this
  decide

/-- The path of a class's page is read from its names. -/
theorem ofString_classFile (className : String) :
    File.Path.ofString (joined ["class", pageName className]) = ⟨.current, classFile className⟩ := by
  have hpage : IsProper (pageName className) := isProper_pageName
  have hslash : ∀ part ∈ ["class", pageName className], '/' ∉ part.toList := by
    simpa using slash_notMem_of_isPart (isPart_pageName className)
  rw [ofString_joined (by decide) hslash]
  simp [classFile, hpage.1, hpage.2.1]

/-- The path of a method's page is read from its names, and the name of the class may count for nothing. -/
theorem ofString_methodFile (m : MethodName) :
    File.Path.ofString (joined ["method", fileName m.className, pageName m.signature]) =
      ⟨.current, methodFile m⟩ := by
  have hpage : IsProper (pageName m.signature) := isProper_pageName
  have hslash : ∀ part ∈ ["method", fileName m.className, pageName m.signature], '/' ∉ part.toList := by
    simpa using And.intro (slash_notMem_of_isPart (isPart_fileName m.className))
      (slash_notMem_of_isPart (isPart_pageName m.signature))
  rw [ofString_joined (by decide) hslash, methodFile, pathPart]
  by_cases hclass : fileName m.className = "" ∨ fileName m.className = "."
  · rcases hclass with hclass | hclass <;> simp [hclass, hpage.1, hpage.2.1]
  · rw [if_neg hclass]
    simp [not_or.1 hclass, hpage.1, hpage.2.1]

/-! ## Links read -/

/-- What a link to the path has after the root: segments between slashes that are decoded to the parts of the path,
of characters that stand for themselves in a link. -/
def IsReadAs (root : String) (path : List String) : Prop :=
  ∃ rest : String, href root path = root ++ rest ∧
    ((rest.toList.splitOn '/').map fun segment => String.ofList (decodeChars segment)) = path ∧
    ∀ c ∈ rest.toList, IsPlain c ∨ c = '%' ∨ c = '/'

/-- A link is read as its path, whatever the parts are. -/
theorem isReadAs_href (root : String) {path : List String} (h : path ≠ []) : IsReadAs root path := by
  refine ⟨joined (path.map encode), rfl, ?_, fun c hc => ?_⟩
  · rw [splitOn_joined h, List.map_map]
    simp [Function.comp_def, decodeChars_encodeChars]
  · have hchar := Subject.isLinkChar_of_mem_joined hc
    simp only [isLinkChar, isEncoded, Bool.or_eq_true, beq_iff_eq, isUnreserved_iff] at hchar
    exact or_assoc.1 hchar

/-- **A link names the file on disk.** Whatever the root of a link and the names of a class and a method are: the
path of a page is that of the encoded names with slashes between them, and the link to it has, after the root, one
segment for each part of the path, in order, which decoded once is that part. All that it adds to the root are plain
characters, percent signs and slashes. -/
theorem link_names_file (root className signature : String) :
    let m : MethodName := ⟨className, signature⟩
    (File.Path.ofString (joined ["class", pageName className]) = ⟨.current, classFile className⟩ ∧
      IsReadAs root (classFile className)) ∧
    File.Path.ofString (joined ["method", fileName className, pageName signature]) = ⟨.current, methodFile m⟩ ∧
      IsReadAs root (methodFile m) :=
  ⟨⟨ofString_classFile className, isReadAs_href root (List.cons_ne_nil _ _)⟩,
    ofString_methodFile ⟨className, signature⟩, isReadAs_href root (List.cons_ne_nil _ _)⟩

/-- A name that is cut within an escape. -/
example : ((fileNameChars ('x' :: List.replicate 70 ' ')).take 184).drop 180 = ['0', '%', '2', '-'] := by
  decide +kernel

end CallAtlas.Site
