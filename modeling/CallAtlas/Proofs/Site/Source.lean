import CallAtlas.Proofs.Graph.Runs
import CallAtlas.Proofs.Site.Subjects
import CallAtlas.Proofs.Text.Percent
import CallAtlas.Text.Cut

/-!
# The source of a page

A page is written as one string, and a reader of it finds the tags again by their brackets alone.

* `Cut`: a source cut at its tags; `Cut.ofChars?_chars`: the parts of a source are found if no bracket stands
  in them.
* `Cut.ofPieces`: the parts of a page; `chars_ofPieces`, `tags_ofPieces`: they are those of its source, and the
  tags among them are those of the page.
* `Shape`: how many items a page has, with the tags of the template for as many; `outline_content`: the page of
  a subject has these tags.
* `after_source`: so whatever the names in a graph are, they come to no tag.
-/

namespace CallAtlas.Site

open CallAtlas.Graph
open Text (cutFirst)
open Text.Percent (encode encodeChars isEncoded isEncoded_of_mem_encodeChars)

/-! ## A source and its tags -/

/-- A source, cut at its tags: the text before the first one, then what stands between the brackets of each,
with the text after it. -/
structure Cut where
  head : List Char
  rest : List (List Char × List Char)
  deriving DecidableEq, Repr

namespace Cut

/-- The source. -/
def chars (c : Cut) : List Char :=
  c.head ++ c.rest.flatMap fun p => '<' :: (p.1 ++ '>' :: p.2)

/-- The texts between the tags. -/
def texts (c : Cut) : List (List Char) :=
  c.head :: c.rest.map (·.2)

/-- A source cut where a tag opens and where it closes, unless one does not close. -/
def ofChars? (s : List Char) : Option Cut :=
  match s.splitOn '<' with
  | [] => none
  | head :: parts => (parts.mapM (cutFirst '>')).map (Cut.mk head)

/-- The only brackets are those of the tags. -/
structure IsClean (c : Cut) : Prop where
  inner : ∀ p ∈ c.rest, '<' ∉ p.1 ∧ '>' ∉ p.1
  text : ∀ t ∈ c.texts, '<' ∉ t ∧ '>' ∉ t

theorem intercalate_cons {α : Type} (x : α) (head : List α) (parts : List (List α)) :
    [x].intercalate (head :: parts) = head ++ parts.flatMap (x :: ·) := by
  induction parts generalizing head with
  | nil => simp
  | cons p parts ih => rw [List.intercalate_cons_cons, ih, List.flatMap_cons, List.append_assoc]; rfl

theorem mapM_cutFirst {rest : List (List Char × List Char)} (h : ∀ p ∈ rest, '>' ∉ p.1) :
    (rest.map fun p => p.1 ++ '>' :: p.2).mapM (cutFirst '>') = some rest := by
  induction rest with
  | nil => rfl
  | cons p rest ih =>
    rw [List.map_cons, List.mapM_cons, Text.cutFirst_append (h p List.mem_cons_self),
      ih fun q hq => h q (List.mem_cons_of_mem p hq)]
    rfl

/-- The parts of a source are found by its brackets. -/
theorem ofChars?_chars {c : Cut} (h : c.IsClean) : ofChars? c.chars = some c := by
  have hchars : c.chars = ['<'].intercalate (c.head :: c.rest.map fun p => p.1 ++ '>' :: p.2) := by
    rw [intercalate_cons, List.flatMap_map]
    rfl
  have hparts : ∀ part ∈ c.head :: c.rest.map (fun p => p.1 ++ '>' :: p.2), '<' ∉ part := by
    intro part hpart
    rcases List.mem_cons.1 hpart with rfl | hpart
    · exact (h.text _ List.mem_cons_self).1
    · obtain ⟨p, hp, rfl⟩ := List.mem_map.1 hpart
      have hinner := (h.inner p hp).1
      have htext := (h.text p.2 (List.mem_cons_of_mem _ (List.mem_map_of_mem hp))).1
      simp [hinner, htext]
  rw [ofChars?, hchars, List.splitOn_intercalate '<' hparts (List.cons_ne_nil _ _)]
  dsimp only
  rw [mapM_cutFirst fun p hp => (h.inner p hp).2]
  rfl

end Cut

/-- A tag, from what stands between its brackets: a link if that is one attribute and nothing after it. -/
def Tag.ofInner (inner : List Char) : Tag :=
  match inner with
  | 'a' :: ' ' :: 'h' :: 'r' :: 'e' :: 'f' :: '=' :: '"' :: rest =>
    match cutFirst '"' rest with
    | some (h, []) => .link (String.ofList h)
    | _ => .plain (String.ofList inner)
  | _ => .plain (String.ofList inner)

/-- The tags of the source. -/
def Cut.tags (c : Cut) : List Tag :=
  c.rest.map fun p => Tag.ofInner p.1

/-- The links of the source. -/
def Cut.links (c : Cut) : List String :=
  c.tags.filterMap Tag.href?

/-- The tag with its link, if it starts one, left out. -/
def Tag.blank : Tag → Tag
  | .plain s => .plain s
  | .link _ => .link ""

/-! ## Pages -/

/-- The tags of the templates that start no link, without their brackets. -/
def plainTags : List String :=
  ["html", "/html", "head", "/head", "meta charset=\"utf-8\"", "style", "/style", "body", "/body", "h1", "/h1",
    "h2", "/h2", "/a", "br", "span style=\"float: left; width: 80px\"", "/span"]

/-- A character that a link may have: those of encoded names, and the slash between them. -/
def isLinkChar (c : Char) : Bool :=
  isEncoded c || c == '/'

/-- A tag of the templates. -/
def Tag.IsOwn : Tag → Prop
  | .plain s => s ∈ plainTags
  | .link h => ∀ c ∈ h.toList, isLinkChar c = true

instance (t : Tag) : Decidable t.IsOwn :=
  match t with
  | .plain s => inferInstanceAs (Decidable (s ∈ plainTags))
  | .link h => decidable_of_iff (h.toList.all isLinkChar = true) List.all_eq_true

theorem ofInner_plain : ∀ s ∈ plainTags,
    Tag.ofInner s.toList = .plain s ∧ '<' ∉ s.toList ∧ '>' ∉ s.toList := by
  decide +kernel

theorem not_mem_of_isLinkChar {s : List Char} (h : ∀ c ∈ s, isLinkChar c = true) :
    '"' ∉ s ∧ '<' ∉ s ∧ '>' ∉ s := by
  refine ⟨fun hc => ?_, fun hc => ?_, fun hc => ?_⟩ <;>
  · have := h _ hc
    revert this
    decide

theorem toList_inner_link (h : String) :
    (Tag.link h).inner.toList =
      'a' :: ' ' :: 'h' :: 'r' :: 'e' :: 'f' :: '=' :: '"' :: (h.toList ++ ['"']) := by
  rw [Tag.inner, String.toList_append, String.toList_append]
  rfl

namespace Tag.IsOwn

variable {t : Tag}

theorem ofInner_inner (h : t.IsOwn) : Tag.ofInner t.inner.toList = t := by
  cases t with
  | plain s => exact (ofInner_plain s h).1
  | link s =>
    rw [toList_inner_link, Tag.ofInner, Text.cutFirst_append (not_mem_of_isLinkChar h).1]
    dsimp only
    rw [String.ofList_toList]

theorem not_mem_inner (h : t.IsOwn) : '<' ∉ t.inner.toList ∧ '>' ∉ t.inner.toList := by
  cases t with
  | plain s => exact (ofInner_plain s h).2
  | link s =>
    obtain ⟨-, hopen, hclose⟩ := not_mem_of_isLinkChar h
    rw [toList_inner_link]
    simp [hopen, hclose]

end Tag.IsOwn

theorem not_mem_escape (s : String) : '<' ∉ (escape s).toList ∧ '>' ∉ (escape s).toList := by
  have hchar : ∀ c, '<' ∉ escapeChar c ∧ '>' ∉ escapeChar c := by
    intro c
    unfold escapeChar
    split
    · decide
    split
    · decide
    · rename_i hopen hclose
      simp [Ne.symm hopen, Ne.symm hclose]
  rw [escape, String.toList_ofList]
  constructor <;> intro hmem <;> obtain ⟨c, -, hc⟩ := List.mem_flatMap.1 hmem
  exacts [(hchar c).1 hc, (hchar c).2 hc]

/-- The parts of a page. -/
def Cut.ofPieces : List Piece → Cut
  | [] => ⟨[], []⟩
  | .text s :: pieces =>
    let c := ofPieces pieces
    ⟨(escape s).toList ++ c.head, c.rest⟩
  | .tag t :: pieces =>
    let c := ofPieces pieces
    ⟨[], (t.inner.toList, c.head) :: c.rest⟩

section

variable {pieces : List Piece}

theorem toList_render (pieces : List Piece) :
    (render pieces).toList = pieces.flatMap fun p => p.render.toList := by
  rw [render, String.toList_join, List.flatMap_map]

/-- The parts of a page make its source. -/
theorem chars_ofPieces (pieces : List Piece) : (Cut.ofPieces pieces).chars = (render pieces).toList := by
  rw [toList_render]
  induction pieces with
  | nil => rfl
  | cons p pieces ih =>
    rw [List.flatMap_cons, ← ih]
    cases p <;> simp [Cut.ofPieces, Cut.chars, Piece.render]

/-- The only brackets of a page are those of its tags. -/
theorem isClean_ofPieces (h : ∀ t, Piece.tag t ∈ pieces → t.IsOwn) : (Cut.ofPieces pieces).IsClean := by
  induction pieces with
  | nil => constructor <;> simp [Cut.ofPieces, Cut.texts]
  | cons p pieces ih =>
    obtain ⟨hinner, htext⟩ := ih fun t ht => h t (List.mem_cons_of_mem p ht)
    obtain ⟨hhead, hrest⟩ := List.forall_mem_cons.1 htext
    cases p with
    | text s =>
      refine ⟨hinner, List.forall_mem_cons.2 ⟨?_, hrest⟩⟩
      obtain ⟨hopen, hclose⟩ := not_mem_escape s
      simp [Cut.ofPieces, hopen, hclose, hhead]
    | tag t =>
      refine ⟨List.forall_mem_cons.2 ⟨(h t List.mem_cons_self).not_mem_inner, hinner⟩,
        List.forall_mem_cons.2 ⟨by simp [Cut.ofPieces], htext⟩⟩

/-- The tags of the source are those of the page. -/
theorem tags_ofPieces (h : ∀ t, Piece.tag t ∈ pieces → t.IsOwn) :
    (Cut.ofPieces pieces).tags = pieces.filterMap Piece.tag? := by
  induction pieces with
  | nil => rfl
  | cons p pieces ih =>
    have hrest := ih fun t ht => h t (List.mem_cons_of_mem p ht)
    cases p with
    | text s => exact hrest
    | tag t => exact congrArg₂ List.cons (h t List.mem_cons_self).ofInner_inner hrest

end

/-! ## Templates -/

/-- The tags of a page, in order, with its links left out. -/
def outline (pieces : List Piece) : List Tag :=
  (pieces.filterMap Piece.tag?).map Tag.blank

section

variable {xs ys : List Piece}

@[simp] theorem outline_nil : outline [] = [] := rfl

@[simp] theorem outline_cons_text (s : String) : outline (.text s :: xs) = outline xs := rfl

@[simp] theorem outline_cons_tag (t : Tag) : outline (.tag t :: xs) = t.blank :: outline xs := rfl

@[simp] theorem outline_append : outline (xs ++ ys) = outline xs ++ outline ys := by
  simp [outline]

/-- Items with the same tags give these as often as there are items. -/
theorem outline_flatMap {α : Type} {f : α → List Piece} (tags : List Tag) (h : ∀ x, outline (f x) = tags)
    (items : List α) : outline (items.flatMap f) = (List.replicate items.length tags).flatten := by
  induction items with
  | nil => rfl
  | cons x items ih =>
    rw [List.flatMap_cons, outline_append, h, ih, List.length_cons, List.replicate_succ, List.flatten_cons]

end

/-- How many items a page has. -/
inductive Shape where
  /-- One of the listings. -/
  | listing (items : Nat)
  /-- The page of a class. -/
  | ofClass (methods : Nat)
  /-- The page of a method. -/
  | ofMethod (made received : Nat)
  deriving DecidableEq, Repr

namespace Shape

/-- A link. -/
def linkTags : List Tag :=
  [.link "", .plain "/a"]

/-- A link on a line of its own. -/
def lineTags : List Tag :=
  linkTags ++ [.plain "br"]

/-- Two columns and a link on a line of its own. -/
def rowTags : List Tag :=
  let column : List Tag := [.plain "span style=\"float: left; width: 80px\"", .plain "/span"]
  column ++ column ++ lineTags

/-- A heading of that level. -/
def headingTags (level : String) : List Tag :=
  [.plain level, .plain ("/" ++ level)]

/-- The tags of the template, after the head of the page. -/
def bodyTags : Shape → List Tag
  | listing n => headingTags "h1" ++ (List.replicate n lineTags).flatten
  | ofClass n => headingTags "h1" ++ (List.replicate n rowTags).flatten
  | ofMethod n m => headingTags "h1" ++ linkTags ++ headingTags "h2" ++ (List.replicate n lineTags).flatten ++
      headingTags "h2" ++ (List.replicate m lineTags).flatten

/-- The tags of the template. -/
def tags (s : Shape) : List Tag :=
  [.plain "html", .plain "head", .plain "meta charset=\"utf-8\"", .plain "style", .plain "/style", .plain "/head",
      .plain "body"] ++
    linkTags ++ linkTags ++ s.bodyTags ++ [.plain "/body", .plain "/html"]

theorem isOwn_of_mem_bodyTags {shape : Shape} : ∀ t ∈ shape.bodyTags, t.IsOwn := by
  have hline : ∀ t ∈ lineTags, t.IsOwn := by decide +kernel
  have hrow : ∀ t ∈ rowTags, t.IsOwn := by decide +kernel
  have hheading : ∀ t ∈ headingTags "h1" ++ linkTags ++ headingTags "h2", t.IsOwn := by decide +kernel
  have hrepeated : ∀ (n : Nat) (tags : List Tag), (∀ t ∈ tags, t.IsOwn) →
      ∀ t ∈ (List.replicate n tags).flatten, t.IsOwn := by
    intro n tags htags t ht
    obtain ⟨_, hmem, ht⟩ := List.mem_flatten.1 ht
    rw [List.eq_of_mem_replicate hmem] at ht
    exact htags t ht
  rw [List.forall_mem_append, List.forall_mem_append] at hheading
  obtain ⟨⟨h1, hlink⟩, h2⟩ := hheading
  cases shape with
  | listing n => exact List.forall_mem_append.2 ⟨h1, hrepeated n _ hline⟩
  | ofClass n => exact List.forall_mem_append.2 ⟨h1, hrepeated n _ hrow⟩
  | ofMethod n m =>
    simp only [bodyTags, List.forall_mem_append]
    exact ⟨⟨⟨⟨⟨h1, hlink⟩, h2⟩, hrepeated n _ hline⟩, h2⟩, hrepeated m _ hline⟩

/-- A template has tags of its own only. -/
theorem isOwn_of_mem_tags {shape : Shape} : ∀ t ∈ shape.tags, t.IsOwn := by
  simp only [tags, List.forall_mem_append]
  refine ⟨⟨⟨⟨?_, ?_⟩, ?_⟩, isOwn_of_mem_bodyTags⟩, ?_⟩ <;> decide +kernel

end Shape

/-- The tags of the frame that all pages have. -/
theorem outline_page (root : String) (body : List Piece) {shape : Shape} (h : outline body = shape.bodyTags) :
    outline (page root body) = shape.tags := by
  simp [page, navigation, element, anchor, Shape.tags, Shape.linkTags, Tag.blank, h]

namespace Subject

/-- How many items the page has, if the graph has the subject. -/
def shape? (g : CallGraph) : Subject → Option Shape
  | entrypoints => some (.listing g.entrypoints.size)
  | classes => some (.listing g.classes.size)
  | ofClass name => (g.class? name).map fun c => .ofClass c.members.length
  | ofMethod m => (g.method? m).map fun node => .ofMethod node.forward.length node.reverse.length

end Subject

/-! ## The pages of a graph -/

section

variable {g : CallGraph}

theorem length_classMethods (h : g.WellFormed) {c : ClassNode} (hc : c ∈ g.classes) :
    (g.classMethods c).length = c.members.length := by
  obtain ⟨k, hk⟩ := Array.mem_iff_getElem?.1 hc
  have hall : g.classMethods c = c.sortedMembers.map fun x => (g.summary? x.id).getD default := by
    rw [CallGraph.classMethods, ← List.filterMap_eq_map]
    refine List.filterMap_congr fun x hx => ?_
    obtain ⟨m, hm, -⟩ := (h.mem_members_iff hk).1 (Text.mem_ascending.1 hx)
    simp [CallGraph.summary?, hm]
  rw [hall, List.length_map, ClassNode.sortedMembers, Text.length_ascending]

namespace Subject

/-- **The page of a subject has the tags of its template, for as many items as the graph has.** -/
theorem outline_content (h : g.WellFormed) (s : Subject) :
    (s.content? g).map outline = (s.shape? g).map Shape.tags := by
  cases s with
  | entrypoints =>
    refine congrArg some (outline_page _ _ ?_)
    rw [outline_append, outline_flatMap Shape.lineTags fun m => rfl, h.length_entrypointNames]
    rfl
  | classes =>
    refine congrArg some (outline_page _ _ ?_)
    rw [outline_append, outline_flatMap Shape.lineTags fun name => rfl, h.length_classNames]
    rfl
  | ofClass name =>
    rw [content?, shape?, CallGraph.classInfo?, Option.map_map, Option.map_map, Option.map_map]
    refine Option.map_congr fun c hc => outline_page _ _ ?_
    have hlength := length_classMethods h (h.class?_eq_some_iff_mem.1 hc).1
    rw [outline_append, outline_flatMap Shape.rowTags fun m => rfl, Shape.bodyTags, ← hlength]
    rfl
  | ofMethod name =>
    rw [content?, shape?, CallGraph.methodInfo?, Option.map_map, Option.map_map, Option.map_map]
    refine Option.map_congr fun m hm => outline_page _ _ ?_
    obtain ⟨i, -, hi⟩ := Option.bind_eq_some_iff.1 hm
    have hline : ∀ root call, outline (callLine root call) = Shape.lineTags := fun _ _ => rfl
    simp only [outline_append, outline_flatMap _ (hline _), h.length_forwardRefs hi, h.length_reverseRefs hi]
    rfl

/-! ## Links -/

theorem isLinkChar_of_mem_joined {parts : List String} {c : Char}
    (h : c ∈ (joined (parts.map encode)).toList) : isLinkChar c = true := by
  rw [joined, String.toList_intercalate] at h
  cases parts with
  | nil => simp at h
  | cons part parts =>
    have hpart : ∀ p, c ∈ (encode p).toList → isLinkChar c = true := by
      intro p hc
      rw [Text.Percent.toList_encode] at hc
      rw [isLinkChar, isEncoded_of_mem_encodeChars hc, Bool.true_or]
    have hslash : "/".toList = ['/'] := rfl
    rw [List.map_cons, List.map_cons, hslash, Cut.intercalate_cons, List.mem_append, List.mem_flatMap] at h
    rcases h with hc | ⟨chars, hchars, hc⟩
    · exact hpart part hc
    · rcases List.mem_cons.1 hc with rfl | hc
      · rfl
      · rw [List.map_map] at hchars
        obtain ⟨p, -, rfl⟩ := List.mem_map.1 hchars
        exact hpart p hc

/-- Links are made of encoded names and slashes. -/
theorem isLinkChar_of_mem_href (s t : Subject) : ∀ c ∈ (href s.root t.file).toList, isLinkChar c = true := by
  have hroots : ∀ r ∈ ["", "../", "../../"], r.toList.all isLinkChar = true := by decide +kernel
  have hroot : s.root ∈ ["", "../", "../../"] := by cases s <;> simp [root]
  rw [href, String.toList_append]
  exact List.forall_mem_append.2 ⟨List.all_eq_true.1 (hroots _ hroot), fun c hc => isLinkChar_of_mem_joined hc⟩

/-- The tags of a page are those of the templates. -/
theorem isOwn_of_mem_content (h : g.WellFormed) {s : Subject} {content : List Piece}
    (hcontent : s.content? g = some content) {t : Tag} (ht : Piece.tag t ∈ content) : t.IsOwn := by
  have hmem : t ∈ content.filterMap Piece.tag? := List.mem_filterMap.2 ⟨_, ht, rfl⟩
  cases t with
  | plain inner =>
    obtain ⟨shape, -, htags⟩ : ∃ shape, s.shape? g = some shape ∧ shape.tags = outline content := by
      rw [← Option.map_eq_some_iff, ← s.outline_content h, hcontent, Option.map_some]
    have hshape : Tag.plain inner ∈ shape.tags := by
      rw [htags]
      exact List.mem_map_of_mem (f := Tag.blank) hmem
    exact Shape.isOwn_of_mem_tags _ hshape
  | link target =>
    have hlink : target ∈ links content := List.mem_filterMap.2 ⟨_, hmem, rfl⟩
    rw [links_content h hcontent] at hlink
    obtain ⟨t, -, rfl⟩ := List.mem_map.1 hlink
    exact isLinkChar_of_mem_href s t

end Subject

end

/-- The tags of a source, with its links left out. -/
def skeleton (source : String) : Option (List Tag) :=
  (Cut.ofChars? source.toList).map fun cut => cut.tags.map Tag.blank

theorem skeleton_render {content : List Piece} (h : ∀ t, Piece.tag t ∈ content → t.IsOwn) :
    skeleton (render content) = some (outline content) := by
  rw [skeleton, ← chars_ofPieces, Cut.ofChars?_chars (isClean_ofPieces h), Option.map_some, tags_ofPieces h]
  rfl

/-- The tags of the source are those of the template. -/
theorem Subject.map_skeleton {g : CallGraph} (h : g.WellFormed) (s : Subject) :
    (s.content? g).map (fun content => skeleton (render content)) =
      (s.shape? g).map fun shape => some shape.tags := by
  have hsource : (s.content? g).map (fun content => skeleton (render content)) =
      (s.content? g).map fun content => some (outline content) :=
    Option.map_congr fun content hcontent => skeleton_render fun t ht => s.isOwn_of_mem_content h hcontent ht
  have houtline := congrArg (Option.map some) (s.outline_content h)
  rw [Option.map_map, Option.map_map] at houtline
  exact hsource.trans houtline

/-- **Names come to no tag.** After every run of changes, whatever strings the names and call types of the
graph are: the page of each class and of each method, and the two listings, are written with no other
brackets than those of their tags. Cut there, the source of a page has the tags of its template for as
many items as the graph has; each link in them is made of encoded names and slashes; and no text between
them has a bracket. So the pages of two graphs that have as many items have the same tags up to their
links. -/
theorem after_source (changes : List Change) (s : Subject) :
    let g := ({} : CallGraph).after changes
    ((s.content? g).isSome = (s.shape? g).isSome) ∧
    (∀ content shape, s.content? g = some content → s.shape? g = some shape →
      ∃ cut, Cut.ofChars? (render content).toList = some cut ∧ cut.chars = (render content).toList ∧
        cut.IsClean ∧ cut.tags.map Tag.blank = shape.tags ∧
        ∀ target, Tag.link target ∈ cut.tags → ∀ c ∈ target.toList, isLinkChar c = true) ∧
    ∀ (others : List Change) (s' : Subject), s.shape? g = s'.shape? (({} : CallGraph).after others) →
      (s.content? g).map (fun content => skeleton (render content)) =
        (s'.content? (({} : CallGraph).after others)).map fun content => skeleton (render content) := by
  have hwf : ∀ changes, (({} : CallGraph).after changes).WellFormed := fun changes =>
    (CallGraph.Tracks.empty.after changes).wellFormed
  refine ⟨?_, fun content shape hcontent hshape => ?_, fun others s' hshape => ?_⟩
  · have houtline := s.outline_content (hwf changes)
    rw [← Option.isSome_map (f := outline), houtline, Option.isSome_map]
  · have hown : ∀ t, Piece.tag t ∈ content → t.IsOwn := fun t ht =>
      s.isOwn_of_mem_content (hwf changes) hcontent ht
    have houtline := s.outline_content (hwf changes)
    rw [hcontent, hshape] at houtline
    have htags := tags_ofPieces hown
    refine ⟨Cut.ofPieces content, ?_, chars_ofPieces content, isClean_ofPieces hown, ?_, fun target htarget => ?_⟩
    · rw [← chars_ofPieces, Cut.ofChars?_chars (isClean_ofPieces hown)]
    · rw [htags]
      exact Option.some.inj houtline
    · rw [htags] at htarget
      obtain ⟨p, hp, hlink⟩ := List.mem_filterMap.1 htarget
      cases p with
      | text => cases hlink
      | tag t =>
        cases hlink
        exact hown _ hp
  · rw [s.map_skeleton (hwf changes), s'.map_skeleton (hwf others), hshape]

/-- Names that look like markup, against plain ones. -/
theorem after_source_brackets :
    let changes (className signature callType : String) : List Change :=
      [.addClass className, .addMethod 0 signature, .addEdge ⟨callType, 0, 0⟩]
    let hostile := changes "</a><script>" "\"><img src=\"x\">(&lt;\u0000/../" "<b onclick='run()'>"
    let plain := changes "app.Main" "run()" "calls"
    let g := ({} : CallGraph).after hostile
    let g' := ({} : CallGraph).after plain
    let s := Subject.ofMethod ⟨"</a><script>", "\"><img src=\"x\">(&lt;\u0000/../"⟩
    let s' := Subject.ofMethod ⟨"app.Main", "run()"⟩
    s.shape? g = some (.ofMethod 1 1) ∧
    (∃ content cut, s.content? g = some content ∧ Cut.ofChars? (render content).toList = some cut ∧
      cut.IsClean ∧ cut.tags.map Tag.blank = (Shape.ofMethod 1 1).tags) ∧
    s.shape? g = s'.shape? g' ∧
    (s.content? g).map (fun content => skeleton (render content)) =
      (s'.content? g').map fun content => skeleton (render content) := by
  intro changes hostile plain g g' s s'
  have hshape : s.shape? g = some (.ofMethod 1 1) := by decide +kernel
  have hshape' : s'.shape? g' = some (.ofMethod 1 1) := by decide +kernel
  obtain ⟨hsome, hpage, hsame⟩ := after_source hostile s
  rw [show s.shape? _ = _ from hshape, Option.isSome_some, Option.isSome_iff_exists] at hsome
  obtain ⟨content, hcontent⟩ := hsome
  obtain ⟨cut, hcut, -, hclean, htags, -⟩ := hpage content _ hcontent hshape
  exact ⟨hshape, ⟨content, cut, hcontent, hcut, hclean, htags⟩, hshape.trans hshape'.symm,
    hsame plain s' (hshape.trans hshape'.symm)⟩

end CallAtlas.Site
