import CallAtlas.Proofs.Site.Places
import CallAtlas.Proofs.Site.Source

/-!
# Where the links of a site lead

* `follow?`: where a link leads from the place of a page.
* `follow?_href`: a link goes up by its `../` and then the way of its path, since its parts are read as those
  of the path.
* `Subject.IsMisplaced`: a method whose class is called by points or by nothing, so that its page stands less
  deep than its links go up; `follow?_target`: from any other page, each link leads to the page that it is for.
* `load_links`: all links of the site of a trace.
-/

namespace CallAtlas.Site

open CallAtlas.Graph
open Text.Percent

/-! ## Links followed -/

/-- Where one segment of a link leads from a place: two points lead back, anything else is read as a name. -/
def followSegment? (place : List String) (segment : List Char) : Option (List String) :=
  if segment = ['.', '.'] then (if place = [] then none else some place.dropLast)
  else some (place ++ [String.ofList (decodeChars segment)])

/-- Where a link leads from the place of its page; `none` if that is out of the directory of the site. -/
def follow? (place : List String) (link : String) : Option (List String) :=
  (link.toList.splitOn '/').foldlM followSegment? place.dropLast

/-- A part of a path is read back from its segment. -/
theorem followSegment?_encodeChars (place : List String) (part : String) :
    followSegment? place (encodeChars part.toList) = step? place part := by
  have hpoints : encodeChars part.toList = ['.', '.'] ↔ part = ".." := by
    have hself : encodeChars "..".toList = ['.', '.'] := by decide +kernel
    rw [← hself, ← String.toList_inj]
    exact ⟨encodeChars_injective, congrArg encodeChars⟩
  rw [followSegment?, step?, decodeChars_encodeChars, String.ofList_toList]
  simp only [hpoints]

/-- The segments of a path are its parts, encoded, as an encoded part has no slash. -/
theorem splitOn_joined {path : List String} (h : path ≠ []) :
    (joined (path.map encode)).toList.splitOn '/' = path.map fun part => encodeChars part.toList := by
  have hslash : ∀ segment ∈ path.map fun part => encodeChars part.toList, '/' ∉ segment := by
    intro segment hsegment hmem
    obtain ⟨part, -, rfl⟩ := List.mem_map.1 hsegment
    have := isEncoded_of_mem_encodeChars hmem
    revert this
    decide
  have hchars : (joined (path.map encode)).toList =
      ['/'].intercalate (path.map fun part => encodeChars part.toList) := by
    rw [joined, String.toList_intercalate, List.map_map]
    congr 2
    funext part
    exact toList_encode part
  rw [hchars, List.splitOn_intercalate '/' hslash (by simpa using h)]

theorem splitOn_up (n : Nat) (rest : List Char) :
    ((List.replicate n ['.', '.', '/']).flatten ++ rest).splitOn '/' =
      List.replicate n ['.', '.'] ++ rest.splitOn '/' := by
  induction n with
  | zero => rfl
  | succ n ih =>
    rw [List.replicate_succ, List.flatten_cons, List.append_assoc, List.replicate_succ,
      List.cons_append (a := ['.', '.']), ← ih]
    exact List.splitOnP_append_cons ['.', '.'] _ rfl

/-- Going up leads out of the directory from a place that is not deep enough. -/
theorem foldlM_followSegment?_up (n : Nat) (place : List String) :
    (List.replicate n ['.', '.']).foldlM followSegment? place =
      if n ≤ place.length then some (place.take (place.length - n)) else none := by
  induction n generalizing place with
  | zero => simp
  | succ n ih =>
    rw [List.replicate_succ, List.foldlM_cons, followSegment?, if_pos rfl]
    by_cases hnil : place = []
    · rw [if_pos hnil, hnil]
      rfl
    · rw [if_neg hnil]
      show List.foldlM followSegment? place.dropLast _ = _
      have hlength := List.length_pos_iff.2 hnil
      have hle : n ≤ place.length - 1 ↔ n + 1 ≤ place.length := by omega
      have htake : min (place.length - 1 - n) (place.length - 1) = place.length - (n + 1) := by omega
      rw [ih, List.length_dropLast, List.dropLast_eq_take, List.take_take, htake]
      simp only [hle]

theorem foldlM_followSegment?_path (path : List String) (place : List String) :
    (path.map fun part => encodeChars part.toList).foldlM followSegment? place = path.foldlM step? place := by
  rw [List.foldlM_map]
  simp only [followSegment?_encodeChars]

/-- The way up from a page of the site. -/
def up (n : Nat) : String :=
  String.ofList (List.replicate n ['.', '.', '/']).flatten

/-- **A link goes up and then the way of its path.** -/
theorem follow?_href (n : Nat) {path : List String} (h : path ≠ []) (place : List String) :
    follow? place (href (up n) path) =
      if n ≤ place.dropLast.length then
        path.foldlM step? (place.dropLast.take (place.dropLast.length - n))
      else none := by
  rw [follow?, href, String.toList_append, up, String.toList_ofList, splitOn_up, splitOn_joined h,
    List.foldlM_append, foldlM_followSegment?_up]
  split
  · exact foldlM_followSegment?_path path _
  · rfl

namespace Subject

/-- How far the links of the subject's page go up. -/
def depth : Subject → Nat
  | entrypoints | classes => 0
  | ofClass _ => 1
  | ofMethod _ => 2

theorem root_eq_up (s : Subject) : s.root = up s.depth := by
  have hup : up 0 = "" ∧ up 1 = "../" ∧ up 2 = "../../" := by decide +kernel
  cases s <;> simp [root, depth, hup]

/-- A method whose class is called by points or by nothing. -/
def IsMisplaced : Subject → Prop
  | entrypoints | classes | ofClass _ => False
  | ofMethod m => m.className = "" ∨ m.className = "." ∨ m.className = ".."

instance : (s : Subject) → Decidable s.IsMisplaced
  | entrypoints | classes | ofClass _ => isFalse id
  | ofMethod _ => inferInstanceAs (Decidable (_ ∨ _))

/-- A page stands as deep as its links go up, unless it is misplaced. -/
theorem length_directory (s : Subject) :
    if s.IsMisplaced then s.directory.length < s.depth else s.directory.length = s.depth := by
  cases s with
  | entrypoints | classes | ofClass => rfl
  | ofMethod m =>
    rw [directory, pathPart]
    simp only [IsMisplaced, depth, fileName_eq_nil_iff, fileName_eq_point_iff]
    grind

section

variable {g : CallGraph} {s t : Subject}

/-- What a page leads to has a page. -/
theorem isSome_content?_of_mem_targets (h : g.WellFormed) (hs : (s.content? g).isSome)
    (ht : t ∈ s.targets g) : (t.content? g).isSome := by
  have hmethod : ∀ {m : MethodName}, m ∈ g.methodList → ((ofMethod m).content? g).isSome := fun hm =>
    (isSome_content?_ofMethod h).2 hm
  rw [targets, List.mem_cons, List.mem_cons] at ht
  rcases ht with rfl | rfl | ht
  · rfl
  · rfl
  cases s with
  | entrypoints =>
    obtain ⟨m, hm, rfl⟩ := List.mem_map.1 ht
    exact hmethod (CallGraph.mem_methodList_of_mem_entrypointNames hm)
  | classes =>
    obtain ⟨name, hname, rfl⟩ := List.mem_map.1 ht
    exact (isSome_content?_ofClass h).2 (h.classNames_perm.mem_iff.1 hname)
  | ofClass name =>
    obtain ⟨c, hc, rfl⟩ := List.mem_map.1 ((isSome_content?_ofClass h).1 hs)
    obtain ⟨k, hk⟩ := Array.mem_iff_getElem?.1 (Array.mem_toList_iff.1 hc)
    rw [items, h.classInfo?_of_mem (Array.mem_toList_iff.1 hc)] at ht
    obtain ⟨x, hx, rfl⟩ := List.mem_map.1 ht
    obtain ⟨i, m, hm, hname, -⟩ := (h.mem_classMethods_iff hk).1 hx
    exact hmethod (CallGraph.mem_methodList_iff.2 ⟨i, m, hm, hname⟩)
  | ofMethod name =>
    obtain ⟨i, m, hm, rfl⟩ := CallGraph.mem_methodList_iff.1 ((isSome_content?_ofMethod h).1 hs)
    rw [items, h.methodInfo?_eq_some_iff.2 ⟨i, m, hm, rfl, rfl⟩, Option.elim_some, List.mem_cons] at ht
    rcases ht with rfl | ht
    · obtain ⟨c, hc, hname⟩ := h.owner hm
      rw [isSome_content?_ofClass h, ← hname]
      exact List.mem_map_of_mem (Array.mem_toList_iff.2 (Array.mem_of_getElem? hc))
    · obtain ⟨call, hcall, rfl⟩ := List.mem_map.1 ht
      rcases List.mem_append.1 hcall with hcall | hcall
      · exact hmethod (CallGraph.mem_methodList_of_mem_refs (g.forwardRefs_eq_refs m ▸ hcall))
      · exact hmethod (CallGraph.mem_methodList_of_mem_refs (g.reverseRefs_eq_refs m ▸ hcall))

end

/-- **A link leads to the page that it is for**, and out of the directory from a page that is misplaced. -/
theorem follow?_target (s t : Subject) :
    follow? s.place (href s.root t.file) = if s.IsMisplaced then none else some t.place := by
  have hdepth := s.length_directory
  rw [root_eq_up, follow?_href _ t.file_ne_nil, place, List.dropLast_concat]
  by_cases hs : s.IsMisplaced
  · rw [if_pos hs] at hdepth ⊢
    exact if_neg (Nat.not_le.2 hdepth)
  · rw [if_neg hs] at hdepth ⊢
    rw [hdepth, if_pos (Nat.le_refl _), Nat.sub_self, List.take_zero]
    exact resolve_file t

/-- The links that stand in the source of a page. -/
theorem links_source {g : CallGraph} (h : g.WellFormed) {s : Subject} {content : List Piece}
    (hcontent : s.content? g = some content) : ∃ cut, Cut.ofChars? (render content).toList = some cut ∧
      cut.links = (s.targets g).map fun t => href s.root t.file := by
  have hown : ∀ t, Piece.tag t ∈ content → t.IsOwn := fun t ht => isOwn_of_mem_content h hcontent ht
  refine ⟨Cut.ofPieces content, ?_, ?_⟩
  · rw [← chars_ofPieces, Cut.ofChars?_chars (isClean_ofPieces hown)]
  · rw [← links_content h hcontent, Cut.links, tags_ofPieces hown, links]

end Subject

/-- **Links lead to the pages that they are for, on all pages but those that are misplaced.** The pages of the
site of a trace are those of its subjects. From the place of a page, each link in its source leads to the place
of the page for the subject that it stands for: the listings at the top of every page, and the items of the
page in their order. From the page of a method whose class is called by points or by nothing, every link leads
out of the directory of the site. -/
theorem load_links (lines : List String) :
    let g := (load lines).graph
    (∀ page, page ∈ pages g ↔ ∃ s : Subject, s.page? g = some page) ∧
    ∀ (s : Subject) (page : Page), s.page? g = some page →
      ∃ place cut, resolve page.path = some place ∧ Cut.ofChars? (render page.content).toList = some cut ∧
        if s.IsMisplaced then cut.links ≠ [] ∧ ∀ link ∈ cut.links, follow? place link = none
        else List.Forall₂ (fun link t => ∃ target ∈ pages g, t.page? g = some target ∧
          ∃ place', resolve target.path = some place' ∧ follow? place link = some place') cut.links (s.targets g) := by
  intro g
  have h : g.WellFormed := (load_isGraphOf lines).wellFormed
  refine ⟨fun page => mem_pages_iff h, fun s page hpage => ?_⟩
  obtain ⟨content, hcontent, rfl⟩ := Option.map_eq_some_iff.1 hpage
  obtain ⟨cut, hcut, hlinks⟩ := Subject.links_source h hcontent
  refine ⟨s.place, cut, resolve_file s, hcut, ?_⟩
  rw [hlinks]
  split
  · rename_i hs
    refine ⟨List.cons_ne_nil _ _, fun link hlink => ?_⟩
    obtain ⟨t, -, rfl⟩ := List.mem_map.1 hlink
    rw [Subject.follow?_target, if_pos hs]
  · rename_i hs
    rw [List.forall₂_map_left_iff, List.forall₂_same]
    intro t ht
    have hsome : (t.content? g).isSome :=
      Subject.isSome_content?_of_mem_targets h (by rw [hcontent, Option.isSome_some]) ht
    obtain ⟨target, htarget⟩ := Option.isSome_iff_exists.1 hsome
    have hpage' : t.page? g = some ⟨t.file, target⟩ := by rw [Subject.page?, htarget, Option.map_some]
    exact ⟨_, (mem_pages_iff h).2 ⟨t, hpage'⟩, hpage', t.place, resolve_file t, by
      rw [Subject.follow?_target, if_neg hs]⟩

/-- A link to the page of a method at the top of the site, as its class leads back. -/
theorem load_links_back :
    let g := (load ["trace", "    entry a%2Fb.run():", "        calls ...go():"]).graph
    let s := Subject.ofMethod ⟨"a%2Fb", "run()"⟩
    ∃ page place cut, s.page? g = some page ∧ resolve page.path = some place ∧
      Cut.ofChars? (render page.content).toList = some cut ∧
      s.targets g = [.entrypoints, .classes, .ofClass "a%2Fb", .ofMethod ⟨"..", "go()"⟩] ∧
      List.Forall₂ (fun link t => ∃ target ∈ pages g, t.page? g = some target ∧
        ∃ place', resolve target.path = some place' ∧ follow? place link = some place') cut.links (s.targets g) := by
  intro g s
  have hsome : (s.page? g).isSome := by decide +kernel
  have htargets : s.targets g = [.entrypoints, .classes, .ofClass "a%2Fb", .ofMethod ⟨"..", "go()"⟩] := by
    decide +kernel
  obtain ⟨page, hpage⟩ := Option.isSome_iff_exists.1 hsome
  obtain ⟨place, cut, hplace, hcut, hlinks⟩ := (load_links _).2 s page hpage
  rw [if_neg (show ¬ s.IsMisplaced by decide)] at hlinks
  exact ⟨page, place, cut, hpage, hplace, hcut, htargets, hlinks⟩

/-- A method of the class without a name has a page whose links lead nowhere in the site. -/
theorem exists_broken_link :
    let g := (load ["header", "    entry .run():"]).graph
    ¬ ∀ page ∈ pages g, ∃ place cut, resolve page.path = some place ∧
      Cut.ofChars? (render page.content).toList = some cut ∧
      ∀ link ∈ cut.links, ∃ target ∈ pages g, ∃ place', resolve target.path = some place' ∧
        follow? place link = some place' := by
  intro g hall
  have h : g.WellFormed := (load_isGraphOf _).wellFormed
  let s := Subject.ofMethod ⟨"", "run()"⟩
  have hsome : (s.content? g).isSome := by decide +kernel
  obtain ⟨content, hcontent⟩ := Option.isSome_iff_exists.1 hsome
  have hpage : s.page? g = some ⟨s.file, content⟩ := by rw [Subject.page?, hcontent, Option.map_some]
  obtain ⟨place, cut, hplace, hcut, hlinks⟩ := hall _ ((mem_pages_iff h).2 ⟨s, hpage⟩)
  obtain ⟨cut', hcut', hcontent'⟩ := Subject.links_source h hcontent
  rw [hcut] at hcut'
  cases hcut'
  rw [resolve_file] at hplace
  cases hplace
  have hmem : href s.root Subject.entrypoints.file ∈ cut.links := by
    rw [hcontent']
    exact List.mem_cons_self
  obtain ⟨target, -, place', -, hfollow⟩ := hlinks _ hmem
  rw [Subject.follow?_target, if_pos (by decide)] at hfollow
  cases hfollow

end CallAtlas.Site
