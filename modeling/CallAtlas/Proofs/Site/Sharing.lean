import CallAtlas.Proofs.File.Files
import CallAtlas.Proofs.Site.Writing
import Mathlib.Data.Finset.Card
import Mathlib.Data.List.Perm.Basic

/-!
# Pages that share a file

Names that are not cut tell their classes and methods apart, but for the classes whose names count for nothing in a
path: a method without a class and one of the class `.` share a file if their signatures are the same.

* `classFile_eq_iff`, `methodFile_eq_iff`: which classes, and which methods, have one path; `SharesFile`.
* `subjects`, `pages_perm`: a site has a page for each class and each method, and two more.
* `card_subjects`: how many places they have. `load_files`: how many files are written.
-/

namespace CallAtlas

namespace Graph

/-- The signatures of the methods of that class. -/
def CallGraph.signaturesOf (g : CallGraph) (className : String) : List String :=
  (g.methodList.filter (·.className = className)).map (·.signature)

theorem CallGraph.mem_signaturesOf_iff {g : CallGraph} {className signature : String} :
    signature ∈ g.signaturesOf className ↔ ⟨className, signature⟩ ∈ g.methodList := by
  rw [signaturesOf, List.mem_map]
  constructor
  · rintro ⟨m, hm, rfl⟩
    obtain ⟨hmem, hclass⟩ := List.mem_filter.1 hm
    obtain rfl : m.className = className := by simpa using hclass
    exact hmem
  · exact fun hmem => ⟨_, List.mem_filter.2 ⟨hmem, by simp⟩, rfl⟩

end Graph

namespace Site

open CallAtlas.Graph
open File (IsName Tree maxPathOctets)
open Text.Percent

/-! ## Names told apart -/

/-- The encoded text is short enough to be a name as it is. -/
def IsShort (text : String) : Prop :=
  (encode text).length ≤ maxName

instance (text : String) : Decidable (IsShort text) :=
  inferInstanceAs (Decidable (_ ≤ _))

/-- The name of a class that counts for nothing in a path. -/
def CountsForNothing (name : String) : Prop :=
  name = "" ∨ name = "."

/-- The methods have one signature, and have one class or are both of classes that count for nothing. -/
def SharesFile (m m' : MethodName) : Prop :=
  m.signature = m'.signature ∧
    (m.className = m'.className ∨ CountsForNothing m.className ∧ CountsForNothing m'.className)

section

variable {text text' : String}

theorem fileName_eq_encode (h : IsShort text) : fileName text = encode text := by
  rw [IsShort, encode, String.length_ofList] at h
  rw [fileName, fileNameChars_of_le h, encode]

/-- Names that are not cut tell texts apart. -/
theorem fileName_inj (h : IsShort text) (h' : IsShort text') : fileName text = fileName text' ↔ text = text' := by
  rw [fileName_eq_encode h, fileName_eq_encode h']
  constructor
  · intro heq
    rw [← decode_encode text, heq, decode_encode]
  · exact congrArg encode

theorem pageName_inj (h : IsShort text) (h' : IsShort text') : pageName text = pageName text' ↔ text = text' := by
  rw [pageName, pageName, String.append_left_inj, fileName_inj h h']

theorem pathPart_fileName_of_countsForNothing (h : CountsForNothing text) : pathPart (fileName text) = [] :=
  if_pos (h.imp fileName_eq_nil_iff.2 fileName_eq_point_iff.2)

theorem pathPart_fileName_of_not (h : ¬ CountsForNothing text) : pathPart (fileName text) = [fileName text] :=
  if_neg (mt (Or.imp fileName_eq_nil_iff.1 fileName_eq_point_iff.1) h)

/-- What names of classes are in a path tells them apart, unless they count for nothing. -/
theorem pathPart_fileName_inj (h : IsShort text) (h' : IsShort text') :
    pathPart (fileName text) = pathPart (fileName text') ↔
      text = text' ∨ CountsForNothing text ∧ CountsForNothing text' := by
  by_cases hnone : CountsForNothing text
  · by_cases hnone' : CountsForNothing text'
    · simp [pathPart_fileName_of_countsForNothing, hnone, hnone']
    · have hne : text ≠ text' := fun heq => hnone' (heq ▸ hnone)
      simp [pathPart_fileName_of_countsForNothing hnone, pathPart_fileName_of_not hnone', hnone', hne]
  · by_cases hnone' : CountsForNothing text'
    · have hne : text ≠ text' := fun heq => hnone (heq ▸ hnone')
      simp [pathPart_fileName_of_countsForNothing hnone', pathPart_fileName_of_not hnone, hnone, hne]
    · simp [pathPart_fileName_of_not hnone, pathPart_fileName_of_not hnone', fileName_inj h h', hnone]

end

/-- Each class has a page of its own. -/
theorem classFile_eq_iff {className className' : String} (h : IsShort className) (h' : IsShort className') :
    classFile className = classFile className' ↔ className = className' := by
  rw [← pageName_inj h h']
  simp [classFile]

section

variable {m m' : MethodName}

/-- Two methods have one path exactly if they have one signature, and one class or none that counts. -/
theorem methodFile_eq_iff (hclass : IsShort m.className) (hsignature : IsShort m.signature)
    (hclass' : IsShort m'.className) (hsignature' : IsShort m'.signature) :
    methodFile m = methodFile m' ↔ SharesFile m m' := by
  rw [SharesFile, ← pathPart_fileName_inj hclass hclass', ← pageName_inj hsignature hsignature', methodFile,
    methodFile, List.cons_append, List.cons_append, List.cons_inj_right, List.append_singleton_inj, and_comm]

/-- Two methods that share a file have one name, or one has no class and the other the class `.`. -/
theorem SharesFile.cases (h : SharesFile m m') : m = m' ∨
    (∃ signature, m = ⟨"", signature⟩ ∧ m' = ⟨".", signature⟩) ∨
    ∃ signature, m = ⟨".", signature⟩ ∧ m' = ⟨"", signature⟩ := by
  obtain ⟨className, signature⟩ := m
  obtain ⟨className', signature'⟩ := m'
  obtain ⟨rfl, hclass⟩ := h
  rcases hclass with rfl | ⟨rfl | rfl, rfl | rfl⟩
  · exact .inl rfl
  · exact .inl rfl
  · exact .inr (.inl ⟨_, rfl, rfl⟩)
  · exact .inr (.inr ⟨_, rfl, rfl⟩)
  · exact .inl rfl

namespace Subject

/-- The pages of two methods stand at one place exactly if they have one path. -/
theorem place_ofMethod_eq_iff : (ofMethod m).place = (ofMethod m').place ↔ methodFile m = methodFile m' := by
  -- A path that is its place has a directory.
  have hdirectory : ∀ {m : MethodName} {name : String}, (ofMethod m).file = (ofMethod m).place →
      (ofMethod m).place ≠ [name] := by
    intro m name hfile hplace
    rw [hplace, file, methodFile, List.cons_append] at hfile
    simp at hfile
  constructor
  · intro heq
    rcases (ofMethod m).file_cases with ⟨hfile, -⟩ | ⟨hfile, -, hback⟩
    · rcases (ofMethod m').file_cases with ⟨hfile', -⟩ | ⟨-, -, hback'⟩
      · exact hfile.trans (heq.trans hfile'.symm)
      · rw [place, place, hback'] at heq
        exact absurd heq (hdirectory hfile)
    · rcases (ofMethod m').file_cases with ⟨hfile', -⟩ | ⟨hfile', -, hback'⟩
      · rw [place, hback] at heq
        exact absurd heq.symm (hdirectory hfile')
      · rw [place, place, hback, hback', List.nil_append, List.nil_append, List.singleton_inj] at heq
        show (ofMethod m).file = (ofMethod m').file
        rw [hfile, hfile', heq]
  · intro heq
    have hresolve := resolve_file (ofMethod m)
    rw [file, heq] at hresolve
    exact Option.some.inj (hresolve.symm.trans (resolve_file (ofMethod m')))

/-- The names of the subject are short. -/
def IsShort : Subject → Prop
  | entrypoints | classes => True
  | ofClass name => Site.IsShort name
  | ofMethod m => Site.IsShort m.className ∧ Site.IsShort m.signature

instance : DecidablePred IsShort
  | entrypoints | classes => inferInstanceAs (Decidable True)
  | ofClass name => inferInstanceAs (Decidable (Site.IsShort name))
  | ofMethod m => inferInstanceAs (Decidable (Site.IsShort m.className ∧ Site.IsShort m.signature))

/-- Subjects whose pages stand at one place are the same, or are methods that share a file. -/
theorem eq_or_sharesFile {s s' : Subject} (hs : s.IsLegible) (hs' : s'.IsLegible) (hshort : s.IsShort)
    (hshort' : s'.IsShort) (heq : s.place = s'.place) :
    s = s' ∨ ∃ m m', s = ofMethod m ∧ s' = ofMethod m' ∧ SharesFile m m' := by
  have hkind : s.kind = s'.kind := by rw [← kindAt_place hs, ← kindAt_place hs', heq]
  cases s with
  | entrypoints | classes =>
    cases s' <;> cases hkind
    exact .inl rfl
  | ofClass name =>
    cases s' <;> cases hkind
    exact .inl (congrArg ofClass ((classFile_eq_iff hshort hshort').1 heq))
  | ofMethod m =>
    cases s' with
    | entrypoints | classes | ofClass => cases hkind
    | ofMethod m' =>
      exact .inr ⟨m, m', rfl, rfl,
        (methodFile_eq_iff hshort.1 hshort.2 hshort'.1 hshort'.2).1 (place_ofMethod_eq_iff.1 heq)⟩

end Subject

end

/-! ## The subjects of a site -/

/-- All that a site has pages about. -/
def subjects (g : CallGraph) : List Subject :=
  .entrypoints :: .classes :: (g.classList.map .ofClass ++ g.methodList.map .ofMethod)

section

variable {g : CallGraph}

theorem length_subjects (g : CallGraph) : (subjects g).length = 2 + g.numClasses + g.numMethods := by
  simp [subjects, CallGraph.classList, CallGraph.methodList, CallGraph.numClasses, CallGraph.numMethods]
  omega

theorem ofMethod_mem_subjects_iff {m : MethodName} : .ofMethod m ∈ subjects g ↔ m ∈ g.methodList := by
  simp [subjects]

theorem nodup_subjects (h : g.WellFormed) : (subjects g).Nodup := by
  have hclasses := h.nodup_classList.map fun _ _ heq => Subject.ofClass.inj heq
  have hmethods := h.nodup_methodList.map fun _ _ heq => Subject.ofMethod.inj heq
  simp [subjects, List.nodup_append, hclasses, hmethods]

theorem isSome_content?_iff (h : g.WellFormed) {s : Subject} : (s.content? g).isSome ↔ s ∈ subjects g := by
  cases s with
  | entrypoints | classes => simp [subjects, Subject.content?]
  | ofClass name => simp [subjects, Subject.isSome_content?_ofClass h]
  | ofMethod m => simp [subjects, Subject.isSome_content?_ofMethod h]

/-- The pages of a class go where its own goes and those of its methods. -/
theorem map_path_pagesOfClass (h : g.WellFormed) {info : ClassInfo} (hinfo : info ∈ g.classInfos) :
    (pagesOfClass g info).map (·.path) = classFile info.name :: info.entries.map fun x => methodFile x.1 := by
  rw [h.classInfos_perm.mem_iff, List.mem_map] at hinfo
  obtain ⟨c, hc, rfl⟩ := hinfo
  obtain ⟨k, hk⟩ := Array.mem_iff_getElem?.1 (Array.mem_toList_iff.1 hc)
  rw [pagesOfClass, List.map_cons, ClassInfo.entries, List.map_map, List.map_filterMap, ← List.filterMap_eq_map]
  congr 1
  refine List.filterMap_congr fun s hs => ?_
  -- The class lists methods of the graph, which have pages.
  obtain ⟨i, m, hm, hname, -⟩ := (h.mem_classMethods_iff hk).1 hs
  rw [h.methodInfo?_eq_some_iff.2 ⟨i, m, hm, hname, rfl⟩]
  rfl

/-- **A site has a page for each class and each method, and two more.** -/
theorem pages_perm (h : g.WellFormed) : ((pages g).map (·.path)).Perm ((subjects g).map Subject.file) := by
  have hclasses : (g.classInfos.map fun info => classFile info.name).Perm (g.classList.map classFile) := by
    have hperm := h.classInfos_perm.map fun info => classFile info.name
    rw [List.map_map] at hperm
    rwa [CallGraph.classList, List.map_map]
  have hmethods : (g.classInfos.flatMap fun info => info.entries.map fun x => methodFile x.1).Perm
      (g.methodList.map methodFile) := by
    have hperm := h.entries_perm.map fun x => methodFile x.1
    rw [CallGraph.entries, List.map_flatMap, List.map_map] at hperm
    rwa [CallGraph.methodList, List.map_map]
  have hpages : (g.classInfos.flatMap (pagesOfClass g)).map (·.path) =
      g.classInfos.flatMap fun info => classFile info.name :: info.entries.map fun x => methodFile x.1 := by
    rw [List.map_flatMap]
    exact List.flatMap_congr fun info hinfo => map_path_pagesOfClass h hinfo
  show (indexFile :: classesFile :: (g.classInfos.flatMap (pagesOfClass g)).map (·.path)).Perm _
  rw [hpages, subjects, List.map_cons, List.map_cons, List.map_append, List.map_map, List.map_map]
  exact .cons _ (.cons _ ((List.map_append_flatMap_perm ..).symm.trans (hclasses.append hmethods)))

/-- The pages lead to the places of the subjects. -/
theorem places_perm (h : g.WellFormed) :
    ((pages g).filterMap fun page => resolve page.path).Perm ((subjects g).map Subject.place) := by
  have hplaces := (pages_perm h).filterMap resolve
  have hresolve : resolve ∘ Subject.file = some ∘ Subject.place := funext resolve_file
  rwa [List.filterMap_map, List.filterMap_map, hresolve, List.filterMap_eq_map] at hplaces

theorem length_pages (h : g.WellFormed) : (pages g).length = 2 + g.numClasses + g.numMethods := by
  have hlength := (pages_perm h).length_eq
  rwa [List.length_map, List.length_map, length_subjects] at hlength

/-! ## How many files there are -/

/-- If the spare items of a list go where others go, and these go apart, there are as many places as other items. -/
theorem card_places_add {α β : Type} [DecidableEq β] {place : α → β} {spare : α → Bool} {items : List α}
    (hnodup : items.Nodup)
    (hapart : ∀ x ∈ items, ∀ y ∈ items, ¬ spare x → ¬ spare y → place x = place y → x = y)
    (hspare : ∀ x ∈ items, spare x → ∃ y ∈ items, ¬ spare y ∧ place y = place x) :
    (items.map place).toFinset.card + (items.filter spare).length = items.length := by
  have hplaces : (items.map place).toFinset = ((items.filter fun x => !spare x).map place).toFinset := by
    ext p
    simp only [List.mem_toFinset, List.mem_map, List.mem_filter]
    constructor
    · rintro ⟨x, hx, rfl⟩
      by_cases hs : spare x
      · obtain ⟨y, hy, hother, heq⟩ := hspare x hx hs
        exact ⟨y, ⟨hy, by simp [hother]⟩, heq⟩
      · exact ⟨x, ⟨hx, by simp [hs]⟩, rfl⟩
    · rintro ⟨x, ⟨hx, -⟩, rfl⟩
      exact ⟨x, hx, rfl⟩
  have hothers : ((items.filter fun x => !spare x).map place).Nodup := by
    refine (hnodup.filter _).map_on fun x hx y hy heq => ?_
    obtain ⟨hx, hsx⟩ := List.mem_filter.1 hx
    obtain ⟨hy, hsy⟩ := List.mem_filter.1 hy
    exact hapart x hx y hy (by simpa using hsx) (by simpa using hsy) heq
  calc (items.map place).toFinset.card + (items.filter spare).length
      = ((items.filter fun x => !spare x).map place).toFinset.card + (items.filter spare).length := by rw [hplaces]
    _ = (items.filter spare).length + (items.filter fun x => !spare x).length := by
      rw [List.toFinset_card_of_nodup hothers, List.length_map, Nat.add_comm]
    _ = items.length := (List.length_eq_length_filter_add spare).symm

/-- The signatures of methods without a class that methods of the class `.` have too. -/
def sharedSignatures (g : CallGraph) : Finset String :=
  (g.signaturesOf "").toFinset ∩ (g.signaturesOf ".").toFinset

theorem mem_sharedSignatures_iff {signature : String} : signature ∈ sharedSignatures g ↔
    ⟨"", signature⟩ ∈ g.methodList ∧ ⟨".", signature⟩ ∈ g.methodList := by
  simp [sharedSignatures, CallGraph.mem_signaturesOf_iff]

/-- A method of the class `.` whose page goes where that of a method without a class goes. -/
def isSpare (g : CallGraph) : Subject → Bool
  | .ofMethod m => m.className == "." && g.methodList.contains ⟨"", m.signature⟩
  | _ => false

theorem isSpare_iff {s : Subject} : isSpare g s ↔
    ∃ signature, s = .ofMethod ⟨".", signature⟩ ∧ ⟨"", signature⟩ ∈ g.methodList := by
  cases s with
  | entrypoints | classes | ofClass => simp [isSpare]
  | ofMethod m =>
    obtain ⟨className, signature⟩ := m
    simp [isSpare]

theorem length_filter_isSpare (h : g.WellFormed) :
    ((subjects g).filter (isSpare g)).length = (sharedSignatures g).card := by
  have hspare : ((subjects g).filter (isSpare g)).toFinset =
      (sharedSignatures g).image fun signature => Subject.ofMethod ⟨".", signature⟩ := by
    ext s
    simp only [List.mem_toFinset, List.mem_filter, isSpare_iff, Finset.mem_image, mem_sharedSignatures_iff]
    constructor
    · rintro ⟨hs, signature, rfl, hnone⟩
      exact ⟨signature, ⟨hnone, ofMethod_mem_subjects_iff.1 hs⟩, rfl⟩
    · rintro ⟨signature, ⟨hnone, hpoint⟩, rfl⟩
      exact ⟨ofMethod_mem_subjects_iff.2 hpoint, signature, rfl, hnone⟩
  calc ((subjects g).filter (isSpare g)).length
      = ((subjects g).filter (isSpare g)).toFinset.card :=
        (List.toFinset_card_of_nodup ((nodup_subjects h).filter _)).symm
    _ = ((sharedSignatures g).image fun signature => Subject.ofMethod ⟨".", signature⟩).card := by rw [hspare]
    _ = (sharedSignatures g).card := Finset.card_image_of_injective _ fun _ _ heq =>
        (MethodName.mk.inj (Subject.ofMethod.inj heq)).2

/-- **The subjects of a site have one place each, but for the signatures shared.** -/
theorem card_subjects (h : g.WellFormed) (hlegible : ∀ s ∈ subjects g, s.IsLegible)
    (hshort : ∀ s ∈ subjects g, s.IsShort) {β : Type} [DecidableEq β] {f : Subject → β}
    (hf : ∀ s s', f s = f s' ↔ s.place = s'.place) :
    ((subjects g).map f).toFinset.card + (sharedSignatures g).card = 2 + g.numClasses + g.numMethods := by
  rw [← length_filter_isSpare h, ← length_subjects]
  refine card_places_add (nodup_subjects h) (fun s hs s' hs' hother hother' heq => ?_) fun s hs hspare => ?_
  · rcases Subject.eq_or_sharesFile (hlegible s hs) (hlegible s' hs') (hshort s hs) (hshort s' hs')
      ((hf s s').1 heq) with rfl | ⟨m, m', rfl, rfl, hshares⟩
    · rfl
    · -- Two methods that share a file are a spare one and the other.
      rcases hshares.cases with rfl | ⟨signature, rfl, rfl⟩ | ⟨signature, rfl, rfl⟩
      · rfl
      · exact absurd (isSpare_iff.2 ⟨signature, rfl, ofMethod_mem_subjects_iff.1 hs⟩) hother'
      · exact absurd (isSpare_iff.2 ⟨signature, rfl, ofMethod_mem_subjects_iff.1 hs'⟩) hother
  · obtain ⟨signature, rfl, hnone⟩ := isSpare_iff.1 hspare
    have hnone := ofMethod_mem_subjects_iff.2 hnone
    refine ⟨_, hnone, by simp [isSpare], (hf _ _).2 (Subject.place_ofMethod_eq_iff.2 ?_)⟩
    have hpoint := hshort _ hs
    have hempty := hshort _ hnone
    exact (methodFile_eq_iff hempty.1 hempty.2 hpoint.1 hpoint.2).2 ⟨rfl, .inr ⟨.inl rfl, .inr rfl⟩⟩

theorem isSome_lastAt_iff {written : List Page} {place : List String} :
    (lastAt written place).isSome ↔ ∃ page ∈ written, resolve page.path = some place := by
  simp [lastAt]

/-- Something stands at the places of the subjects. -/
theorem isSome_lastAt_pages_iff (h : g.WellFormed) {place : List String} :
    (lastAt (pages g) place).isSome ↔ ∃ s ∈ subjects g, s.place = place := by
  rw [isSome_lastAt_iff, ← List.mem_filterMap, (places_perm h).mem_iff, List.mem_map]

/-- The files of a tree that holds the pages of a site stand at the places of its subjects. -/
theorem Holds.toFinset_files {d : List String} {t : Tree} (ht : Holds d (pages g) t) (h : g.WellFormed)
    (htable : t.IsTable) : (t.files.map (·.1)).toFinset = ((subjects g).map fun s => d ++ s.place).toFinset := by
  ext names
  simp only [List.mem_toFinset, List.mem_map, Prod.exists, exists_and_right, exists_eq_right, htable.mem_files_iff,
    ht.file]
  constructor
  · rintro ⟨octets, place, page, rfl, hlast, -⟩
    obtain ⟨s, hs, rfl⟩ := (isSome_lastAt_pages_iff h).1 (by rw [hlast, Option.isSome_some])
    exact ⟨s, hs, rfl⟩
  · rintro ⟨s, hs, rfl⟩
    obtain ⟨page, hlast⟩ := Option.isSome_iff_exists.1 ((isSome_lastAt_pages_iff h).2 ⟨s, hs, rfl⟩)
    exact ⟨_, s.place, page, rfl, hlast, rfl⟩

end

/-- Writing pages puts entries under names, also if that fails. -/
theorem edits_writePages (directory : File.Path) (pages : List Page) (t : Tree) :
    t.Edits ((Cli.writePages directory pages : StateM Tree (Except File.FileError Unit)) t).2 := by
  induction pages generalizing t with
  | nil => exact .refl
  | cons page pages ih =>
    rw [Cli.writePages, Cli.bind_apply]
    have hpage := Tree.edits_run_write t (directory.append page.path) (render page.content)
    cases ((File.Files.write (directory.append page.path) (render page.content) : StateM Tree _) t).1 with
    | ok _ => exact hpage.trans (ih _)
    | error _ => exact hpage

/-- A program that writes a site to an empty tree leaves one file under each name. -/
theorem isTable_writeSite (g : CallGraph) (directory : File.Path) :
    ((Cli.writeSite g directory : StateM Tree (Except File.FileError Nat)) {}).2.IsTable := by
  rw [Cli.writeSite, Cli.bind_apply]
  exact Tree.IsTable.empty.of_edits (edits_writePages directory (pages g) {})

/-- **Which pages share a file.** Classes whose encoded names have at most 200 characters have a file each. Methods
with such names share a file exactly if they have one signature, and have one class or are both of classes that count
for nothing, which are the one without a name and the one called `.`. The site of a trace has a page for each class
and each method, and two more. If all names are short, there are as many places, and as many files are left below any
directory of an empty tree, less one for each signature that both of these classes have. -/
theorem load_files :
    (∀ className className' : String, IsShort className → IsShort className' →
      (classFile className = classFile className' ↔ className = className')) ∧
    (∀ m m' : MethodName, (Subject.ofMethod m).IsShort → (Subject.ofMethod m').IsShort →
      (methodFile m = methodFile m' ↔ SharesFile m m')) ∧
    ∀ lines : List String,
      let g := (load lines).graph
      (pages g).length = 2 + g.numClasses + g.numMethods ∧
      ((∀ s ∈ subjects g, s.IsShort) →
        ((pages g).filterMap fun page => resolve page.path).toFinset.card + (sharedSignatures g).card =
          (pages g).length ∧
        ∀ d : List String, (∀ name ∈ d, IsName name) →
          (File.Path.mk .current d).toString.utf8ByteSize + 618 ≤ maxPathOctets →
          ∃ t, (Cli.writeSite g ⟨.current, d⟩ : StateM Tree (Except File.FileError Nat)) {} =
              (.ok (2 + g.numClasses + g.numMethods), t) ∧
            (t.files.map (·.1)).Nodup ∧
            t.files.length + (sharedSignatures g).card = 2 + g.numClasses + g.numMethods) := by
  refine ⟨fun className className' => classFile_eq_iff, fun m m' h h' => methodFile_eq_iff h.1 h.2 h'.1 h'.2,
    fun lines => ?_⟩
  intro g
  have h : g.WellFormed := (load_legible lines).toWellFormed
  have hlegible : ∀ s : Subject, (s.content? g).isSome → s.IsLegible := fun s hs => isLegible_of_content lines hs
  have hlegible' : ∀ s ∈ subjects g, s.IsLegible := fun s hs => hlegible s ((isSome_content?_iff h).2 hs)
  refine ⟨length_pages h, fun hshort => ⟨?_, fun d hd hroom => ?_⟩⟩
  · rw [List.toFinset_eq_of_perm _ _ (places_perm h), length_pages h]
    exact card_subjects h hlegible' hshort fun s s' => .rfl
  · obtain ⟨t, hrun, ht⟩ := writeSite_run h hlegible hd hroom
    have htable : t.IsTable := by
      have := isTable_writeSite g ⟨.current, d⟩
      rwa [hrun] at this
    refine ⟨t, by rw [hrun, length_pages h], htable.nodup_files, ?_⟩
    have hcard := card_subjects h hlegible' hshort fun s s' => List.append_right_inj d
    rwa [← ht.toFinset_files h htable, List.toFinset_card_of_nodup htable.nodup_files, List.length_map] at hcard

/-- A method without a class and one of the class `.` share a file. -/
theorem load_files_points :
    let lines := ["trace", "    entry .run():", "    entry ..run():"]
    let g := (load lines).graph
    let bare : MethodName := ⟨"", "run()"⟩
    let dotted : MethodName := ⟨".", "run()"⟩
    IsShort "" ∧ IsShort "." ∧ classFile "" ≠ classFile "." ∧
    (Subject.ofMethod bare).IsShort ∧ (Subject.ofMethod dotted).IsShort ∧ methodFile bare = methodFile dotted ∧
    (∀ s ∈ subjects g, s.IsShort) ∧
    IsName "out" ∧ (File.Path.mk .current ["out"]).toString.utf8ByteSize + 618 ≤ maxPathOctets ∧
      ∃ t, (Cli.writeSite g ⟨.current, ["out"]⟩ : StateM Tree (Except File.FileError Nat)) {} = (.ok 6, t) ∧
        (t.files.map (·.1)).Nodup ∧ t.files.length = 5 := by
  intro lines g bare dotted
  have hempty : IsShort "" := by decide +kernel
  have hdot : IsShort "." := by decide +kernel
  have hbare : (Subject.ofMethod bare).IsShort := by decide +kernel
  have hdotted : (Subject.ofMethod dotted).IsShort := by decide +kernel
  have hshares : SharesFile bare dotted := ⟨rfl, .inr ⟨.inl rfl, .inr rfl⟩⟩
  have hshort : ∀ s ∈ subjects g, s.IsShort := by decide +kernel
  have hname : IsName "out" := ⟨by decide, by decide, by decide⟩
  have hroom : (File.Path.mk .current ["out"]).toString.utf8ByteSize + 618 ≤ maxPathOctets := by decide +kernel
  have hcounts : 2 + g.numClasses + g.numMethods = 6 := by decide +kernel
  have hshared : (sharedSignatures g).card = 1 := by decide +kernel
  obtain ⟨hclasses, hmethods, htraces⟩ := load_files
  obtain ⟨t, hwrite, hnodup, hfiles⟩ := ((htraces lines).2 hshort).2 ["out"] (List.forall_mem_singleton.2 hname) hroom
  refine ⟨hempty, hdot, mt (hclasses _ _ hempty hdot).1 (by decide), hbare, hdotted,
    (hmethods bare dotted hbare hdotted).2 hshares, hshort, hname, hroom, t, ?_, hnodup, ?_⟩
  · rw [← hcounts]
    exact hwrite
  · rw [hshared, hcounts] at hfiles
    exact Nat.succ.inj hfiles

end Site

end CallAtlas
