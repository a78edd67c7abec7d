import CallAtlas.Proofs.Graph.Totals
import CallAtlas.Site.Export

/-!
# What the pages of a site are about

A page is that of its subject: one of the two listings, a class or a method.

* `Subject.file`, `Subject.content?`: where the page of a subject goes, and what it holds if the graph has
  the subject.
* `content?_ofClass_eq_some_iff`, `content?_ofMethod_eq_some_iff`: it has those of its classes and methods.
* `mem_pages_iff`: the pages of a site are those of all subjects that the graph has.
* `Subject.targets`, `links_content`: the subjects that a page leads to, and its links, one to each of them.
-/

namespace CallAtlas.Site

open CallAtlas.Graph

/-- What a page is about. -/
inductive Subject where
  | entrypoints
  | classes
  | ofClass (name : String)
  | ofMethod (m : MethodName)
  deriving DecidableEq, Repr

namespace Subject

/-- The path of the subject's page. -/
def file : Subject → List String
  | entrypoints => indexFile
  | classes => classesFile
  | ofClass name => classFile name
  | ofMethod m => methodFile m

/-- The subject's page, if the graph has the subject. -/
def content? (g : CallGraph) : Subject → Option (List Piece)
  | entrypoints => some (entrypointsPage g)
  | classes => some (classesPage g)
  | ofClass name => (g.classInfo? name).map classPage
  | ofMethod m => (g.methodInfo? m).map methodPage

/-- The subject's page with its place, if the graph has the subject. -/
def page? (g : CallGraph) (s : Subject) : Option Page :=
  (s.content? g).map (Page.mk s.file)

variable {g : CallGraph} {content : List Piece}

/-! ## Classes and methods that have a page -/

theorem content?_ofClass_eq_some_iff (h : g.WellFormed) {name : String} :
    (ofClass name).content? g = some content ↔
      ∃ c ∈ g.classes, c.name = name ∧ content = classPage ⟨name, g.classMethods c⟩ := by
  rw [content?, Option.map_eq_some_iff]
  constructor
  · rintro ⟨info, hinfo, rfl⟩
    obtain ⟨c, hc, rfl⟩ := Option.map_eq_some_iff.1 hinfo
    obtain ⟨hmem, rfl⟩ := h.class?_eq_some_iff_mem.1 hc
    exact ⟨c, hmem, rfl, rfl⟩
  · rintro ⟨c, hc, rfl, rfl⟩
    exact ⟨_, h.classInfo?_of_mem hc, rfl⟩

theorem content?_ofMethod_eq_some_iff (h : g.WellFormed) {name : MethodName} :
    (ofMethod name).content? g = some content ↔ ∃ (i : MethodId) (m : MethodNode),
      g.methods[i]? = some m ∧ m.name = name ∧
        content = methodPage ⟨name, g.forwardRefs m, g.reverseRefs m⟩ := by
  rw [content?, Option.map_eq_some_iff]
  constructor
  · rintro ⟨info, hinfo, rfl⟩
    obtain ⟨i, m, hm, hname, rfl⟩ := h.methodInfo?_eq_some_iff.1 hinfo
    exact ⟨i, m, hm, hname, rfl⟩
  · rintro ⟨i, m, hm, hname, rfl⟩
    exact ⟨_, h.methodInfo?_eq_some_iff.2 ⟨i, m, hm, hname, rfl⟩, rfl⟩

theorem isSome_content?_ofClass (h : g.WellFormed) {name : String} :
    ((ofClass name).content? g).isSome ↔ name ∈ g.classList := by
  rw [Option.isSome_iff_exists, CallGraph.classList, List.mem_map]
  simp only [content?_ofClass_eq_some_iff h, Array.mem_toList_iff]
  constructor
  · rintro ⟨_, c, hc, hname, -⟩
    exact ⟨c, hc, hname⟩
  · rintro ⟨c, hc, hname⟩
    exact ⟨_, c, hc, hname, rfl⟩

theorem isSome_content?_ofMethod (h : g.WellFormed) {name : MethodName} :
    ((ofMethod name).content? g).isSome ↔ name ∈ g.methodList := by
  rw [Option.isSome_iff_exists, CallGraph.mem_methodList_iff]
  simp only [content?_ofMethod_eq_some_iff h]
  constructor
  · rintro ⟨_, i, m, hm, hname, -⟩
    exact ⟨i, m, hm, hname⟩
  · rintro ⟨i, m, hm, hname⟩
    exact ⟨_, i, m, hm, hname, rfl⟩

end Subject

/-! ## The pages of a site -/

section

variable {g : CallGraph} {page : Page}

/-- The pages written for a class are its own and those of its methods. -/
theorem mem_pagesOfClass_iff {info : ClassInfo} : page ∈ pagesOfClass g info ↔
    page = ⟨classFile info.name, classPage info⟩ ∨
      ∃ s ∈ info.methods, (Subject.ofMethod ⟨info.name, s.signature⟩).page? g = some page := by
  rw [pagesOfClass, List.mem_cons, List.mem_filterMap]
  simp only [Subject.page?, Subject.content?, Subject.file, Option.map_map]
  rfl

/-- **The pages of a site are those of the subjects that the graph has.** -/
theorem mem_pages_iff (h : g.WellFormed) : page ∈ pages g ↔ ∃ s : Subject, s.page? g = some page := by
  have hpages : page ∈ pages g ↔ page = ⟨indexFile, entrypointsPage g⟩ ∨
      page = ⟨classesFile, classesPage g⟩ ∨ ∃ c ∈ g.classes, page ∈ pagesOfClass g ⟨c.name, g.classMethods c⟩ := by
    rw [pages, List.mem_cons, List.mem_cons]
    show _ ∨ _ ∨ page ∈ g.classInfos.flatMap (pagesOfClass g) ↔ _
    rw [(h.classInfos_perm.flatMap_right _).mem_iff, List.flatMap_map, List.mem_flatMap]
    simp only [Array.mem_toList_iff]
  rw [hpages]
  constructor
  · rintro (rfl | rfl | ⟨c, hc, hpage⟩)
    · exact ⟨.entrypoints, rfl⟩
    · exact ⟨.classes, rfl⟩
    · rcases mem_pagesOfClass_iff.1 hpage with rfl | ⟨s, -, hs⟩
      · refine ⟨.ofClass c.name, ?_⟩
        rw [Subject.page?, (Subject.content?_ofClass_eq_some_iff h).2 ⟨c, hc, rfl, rfl⟩]
        rfl
      · exact ⟨_, hs⟩
  · rintro ⟨s, hs⟩
    cases s with
    | entrypoints => exact .inl (Option.some.inj hs).symm
    | classes => exact .inr (.inl (Option.some.inj hs).symm)
    | ofClass name =>
      obtain ⟨content, hcontent, rfl⟩ := Option.map_eq_some_iff.1 hs
      obtain ⟨c, hc, rfl, rfl⟩ := (Subject.content?_ofClass_eq_some_iff h).1 hcontent
      exact .inr (.inr ⟨c, hc, mem_pagesOfClass_iff.2 (.inl rfl)⟩)
    | ofMethod name =>
      obtain ⟨content, hcontent, -⟩ := Option.map_eq_some_iff.1 hs
      obtain ⟨i, m, hm, rfl, -⟩ := (Subject.content?_ofMethod_eq_some_iff h).1 hcontent
      -- The class of the method lists it.
      obtain ⟨c, hc, hname⟩ := h.owner hm
      have hfull : m.name = ⟨c.name, m.name.signature⟩ := by rw [hname]
      refine .inr (.inr ⟨c, Array.mem_of_getElem? hc, mem_pagesOfClass_iff.2 (.inr
        ⟨⟨m.name.signature, _, _⟩, (h.mem_classMethods_iff hc).2 ⟨i, m, hm, hfull, rfl, rfl⟩, ?_⟩)⟩)
      rwa [← hfull]

end

/-! ## Links -/

/-- The tag, if the piece is one. -/
def Piece.tag? : Piece → Option Tag
  | .tag t => some t
  | .text _ => none

/-- The link, if the tag starts one. -/
def Tag.href? : Tag → Option String
  | .plain _ => none
  | .link h => some h

/-- The links of a page, in order. -/
def links (pieces : List Piece) : List String :=
  (pieces.filterMap Piece.tag?).filterMap Tag.href?

section

variable {xs ys : List Piece}

@[simp] theorem links_nil : links [] = [] := rfl

@[simp] theorem links_cons_text (s : String) : links (.text s :: xs) = links xs := rfl

@[simp] theorem links_cons_plain (s : String) : links (.tag (.plain s) :: xs) = links xs := rfl

@[simp] theorem links_cons_link (h : String) : links (.tag (.link h) :: xs) = h :: links xs := rfl

@[simp] theorem links_append : links (xs ++ ys) = links xs ++ links ys := by
  simp [links]

@[simp] theorem links_flatMap {α : Type} (items : List α) (f : α → List Piece) :
    links (items.flatMap f) = items.flatMap fun x => links (f x) := by
  rw [links, List.filterMap_flatMap, List.filterMap_flatMap]
  rfl

@[simp] theorem links_anchor (h label : String) : links (anchor h label) = [h] := rfl

@[simp] theorem links_lineBreak : links lineBreak = [] := rfl

@[simp] theorem links_element (name : String) : links (element name xs) = links xs := by
  simp [element]

@[simp] theorem links_title (text : String) : links (title text) = [] := rfl

@[simp] theorem links_countColumn (label : String) (n : Nat) : links (countColumn label n) = [] := rfl

theorem href_indexFile (root : String) : href root indexFile = root ++ "index.html" :=
  congrArg (root ++ ·) (by decide +kernel)

theorem href_classesFile (root : String) : href root classesFile = root ++ "classes.html" :=
  congrArg (root ++ ·) (by decide +kernel)

/-- A page leads to the two listings first. -/
theorem links_page (root : String) (body : List Piece) :
    links (page root body) = href root indexFile :: href root classesFile :: links body := by
  rw [href_indexFile, href_classesFile]
  simp [page, navigation]

end

namespace Subject

/-- The way to the top of the site from the subject's page. -/
def root : Subject → String
  | entrypoints | classes => ""
  | ofClass _ => "../"
  | ofMethod _ => "../../"

/-- The subjects of the items that the page lists. -/
def items (g : CallGraph) : Subject → List Subject
  | entrypoints => g.entrypointNames.map ofMethod
  | classes => g.classNames.map ofClass
  | ofClass name =>
    (g.classInfo? name).elim [] fun info => info.methods.map fun s => ofMethod ⟨name, s.signature⟩
  | ofMethod m => (g.methodInfo? m).elim [] fun info =>
    ofClass m.className :: (info.forward ++ info.reverse).map fun call => ofMethod call.method

/-- The subjects that the page leads to: the two listings, and those of its items. -/
def targets (g : CallGraph) (s : Subject) : List Subject :=
  entrypoints :: classes :: s.items g

/-- **A page has one link to each subject that it leads to.** -/
theorem links_content {g : CallGraph} {s : Subject} {content : List Piece} (h : g.WellFormed)
    (hcontent : s.content? g = some content) :
    links content = (s.targets g).map fun t => href s.root t.file := by
  rw [targets, List.map_cons, List.map_cons]
  cases s with
  | entrypoints =>
    cases hcontent
    rw [entrypointsPage, links_page]
    simp [methodLink, items, root, file, List.map_eq_flatMap, List.flatMap_assoc]
  | classes =>
    cases hcontent
    rw [classesPage, links_page]
    simp [items, root, file, List.map_eq_flatMap, List.flatMap_assoc]
  | ofClass name =>
    obtain ⟨c, hc, rfl, rfl⟩ := (content?_ofClass_eq_some_iff h).1 hcontent
    rw [classPage, links_page, items, h.classInfo?_of_mem hc]
    simp [root, file, List.map_eq_flatMap, List.flatMap_assoc]
  | ofMethod name =>
    obtain ⟨i, m, hm, hname, rfl⟩ := (content?_ofMethod_eq_some_iff h).1 hcontent
    rw [methodPage, links_page, items, h.methodInfo?_eq_some_iff.2 ⟨i, m, hm, hname, rfl⟩]
    simp [callLine, methodLink, root, file, List.map_eq_flatMap, List.flatMap_assoc]

end Subject

end CallAtlas.Site
