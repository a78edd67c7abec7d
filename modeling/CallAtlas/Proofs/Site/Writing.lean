import CallAtlas.Proofs.Cli.Agreement
import CallAtlas.Proofs.File.Tree
import CallAtlas.Proofs.Site.Places
import CallAtlas.Proofs.Text.Segments

/-!
# Writing a site

* `isName_of_isPart`, `isLongPath_below`: the operating system takes the paths of a site.
* `Holds`: the files of a tree are the pages written, each the last one for its place; `Holds.write`: one page
  more, if lines can carry the names of all; `writePages_run`: all pages of a list.
* `load_places`: the site of a trace stays in its directory and can be written there.
-/

namespace CallAtlas.Site

open CallAtlas.Graph
open File (Entry IsName Tree isLongName isLongPath maxPathOctets)
open Text.Percent

/-! ## Paths that the operating system takes -/

theorem val_le_of_isAlphanum {c : Char} (h : c.isAlphanum = true) : c.val ≤ 127 := by
  rcases isAlphanum_iff.1 h with h | h | h
  all_goals exact UInt32.le_trans h.2 (by decide)

theorem val_le_of_isEncoded {c : Char} (h : isEncoded c = true) : c.val ≤ 127 := by
  simp only [isEncoded, isUnreserved, Bool.or_eq_true, beq_iff_eq] at h
  rcases h with ((((h | rfl) | rfl) | rfl) | rfl) | rfl
  · exact val_le_of_isAlphanum h
  all_goals decide

theorem utf8ByteSize_of_isEncoded {s : String} (h : ∀ c ∈ s.toList, isEncoded c = true) :
    s.utf8ByteSize = s.toList.length := by
  obtain ⟨chars, rfl⟩ : ∃ chars, s = String.ofList chars := ⟨s.toList, String.ofList_toList.symm⟩
  rw [String.toList_ofList] at h ⊢
  induction chars with
  | nil => rfl
  | cons c chars ih =>
    obtain ⟨hc, hrest⟩ := List.forall_mem_cons.1 h
    rw [String.ofList_cons, String.utf8ByteSize_append, String.utf8ByteSize_singleton, ih hrest,
      Char.utf8Size_eq_one_iff.2 (val_le_of_isEncoded hc), List.length_cons, Nat.add_comm]

theorem IsPart.utf8ByteSize_le {part : String} (h : IsPart part) : part.utf8ByteSize ≤ 205 := by
  rw [utf8ByteSize_of_isEncoded h.isEncoded]
  exact h.length_le

/-- A part that leads to no other directory is a name that a file may have. -/
theorem isName_of_isPart {part : String} (h : IsPart part) (hproper : IsProper part) : IsName part := by
  refine ⟨hproper.2.2, ?_, fun hnull => ?_⟩
  · rw [isLongName, decide_eq_false_iff_not, Nat.not_lt]
    exact Nat.le_trans h.utf8ByteSize_le (by decide)
  · have := h.isEncoded _ hnull
    revert this
    decide

/-- The size of a path grows by little with each part. -/
theorem utf8ByteSize_intercalate_append_le (names : List String) {parts : List String}
    (h : ∀ part ∈ parts, IsPart part) : (String.intercalate "/" (names ++ parts)).utf8ByteSize ≤
      (String.intercalate "/" names).utf8ByteSize + 206 * parts.length := by
  induction parts generalizing names with
  | nil => rw [List.append_nil]; exact Nat.le_add_right _ _
  | cons part parts ih =>
    obtain ⟨hpart, hrest⟩ := List.forall_mem_cons.1 h
    have hpart := hpart.utf8ByteSize_le
    have hparts := ih (names ++ [part]) hrest
    rw [List.append_assoc, List.singleton_append] at hparts
    have hsize : (String.intercalate "/" (names ++ [part])).utf8ByteSize ≤
        (String.intercalate "/" names).utf8ByteSize + 206 := by
      have hslash : "/".utf8ByteSize = 1 := rfl
      by_cases hnil : names = []
      · rw [hnil, List.nil_append, String.intercalate_singleton]
        omega
      · rw [File.utf8ByteSize_intercalate_concat hnil]
        omega
    rw [List.length_cons]
    omega

theorem Subject.length_file_le (s : Subject) : s.file.length ≤ 3 := by
  cases s with
  | entrypoints | classes | ofClass => simp [file, indexFile, classesFile, classFile]
  | ofMethod m =>
    rw [file, methodFile, pathPart]
    split <;> simp

/-- Below a directory whose path is not too long, the operating system takes the paths of a site: each has at most
three parts of 205 octets, with a separator before each. -/
theorem isLongPath_below {d : List String}
    (h : (File.Path.mk .current d).toString.utf8ByteSize + 618 ≤ maxPathOctets) (s : Subject) :
    isLongPath ⟨.current, d ++ s.file⟩ = false := by
  have hfile := utf8ByteSize_intercalate_append_le d (isPart_of_mem_file s)
  have hlength := s.length_file_le
  have hd : (String.intercalate "/" d).utf8ByteSize ≤ (File.Path.mk .current d).toString.utf8ByteSize := by
    by_cases hnil : d = []
    · rw [hnil]
      decide
    · exact Nat.le_of_eq (congrArg String.utf8ByteSize (File.toString_of_ne_nil hnil).symm)
  rw [isLongPath, decide_eq_false_iff_not, Nat.not_lt, File.toString_of_ne_nil (by simp [s.file_ne_nil])]
  omega

/-- A path of the site leads, below a directory, to the place of its page. -/
theorem leads_below {d : List String} (hd : ∀ name ∈ d, IsName name) (s : Subject) :
    ∃ way, s.file = way ++ [s.fileName] ∧ Tree.Leads (d ++ way) (d ++ s.directory) (d ++ s.made) := by
  rcases s.file_cases with ⟨hfile, hmade⟩ | ⟨hfile, hmade, hdirectory⟩
  · refine ⟨s.directory, hfile, ?_⟩
    rw [hmade]
    refine .straight (List.forall_mem_append.2 ⟨hd, fun part hpart => ?_⟩)
    exact isName_of_isPart
      (isPart_of_mem_file s part (s.place_subset_file (List.mem_append_left _ hpart)))
      (s.isProper_of_mem_directory part hpart)
  · refine ⟨["method", ".."], hfile, ?_⟩
    have hmethod : IsName "method" := ⟨by decide, by decide, by decide⟩
    have hback : d ++ ["method", ".."] = d ++ ["method"] ++ [".."] := by simp
    rw [hmade, hdirectory, List.append_nil, hback]
    exact .back (List.forall_mem_append.2 ⟨hd, List.forall_mem_singleton.2 hmethod⟩)

/-! ## Pages written -/

/-- The page that stands at a place after the pages have been written in order. -/
def lastAt (written : List Page) (place : List String) : Option Page :=
  written.reverse.find? fun page => resolve page.path = some place

theorem lastAt_concat (written : List Page) (page : Page) (place : List String) :
    lastAt (written ++ [page]) place =
      if resolve page.path = some place then some page else lastAt written place := by
  rw [lastAt, List.reverse_append, List.reverse_singleton, List.singleton_append, List.find?_cons]
  split <;> simp_all [lastAt]

/-- The page goes where that of a subject goes whose names lines can carry. -/
def IsOfSite (page : Page) : Prop :=
  ∃ s : Subject, s.IsLegible ∧ page.path = s.file

/-- Below the directory `d` of the tree stand the pages written, each the last one for its place, and the
directories made for them. -/
structure Holds (d : List String) (written : List Page) (t : Tree) : Prop where
  closed : t.Closed
  file : ∀ names octets, t.entry? names = some (.file octets) ↔ ∃ place page, names = d ++ place ∧
    lastAt written place = some page ∧ octets = Text.Utf8.encode (render page.content).toList
  directory : ∀ names, t.entry? names = some .directory → ∃ s : Subject, s.IsLegible ∧ names <+: d ++ s.made

section

variable {d : List String} {written : List Page} {t : Tree}

theorem Holds.empty (d : List String) : Holds d [] {} := by
  have hnone : ∀ names, names ≠ [] → Tree.entry? {} names = none := fun names h => if_neg h
  refine ⟨fun names name h => ?_, fun names octets => ?_, fun names h => ?_⟩
  · rw [hnone _ (by simp)] at h
    cases h
  · constructor
    · intro h
      by_cases hnil : names = []
      · rw [hnil] at h
        cases h
      · rw [hnone _ hnil] at h
        cases h
    · rintro ⟨place, page, -, h, -⟩
      cases h
  · by_cases hnil : names = []
    · rw [hnil]
      exact ⟨.entrypoints, trivial, List.nil_prefix⟩
    · rw [hnone _ hnil] at h
      cases h

/-- What stands at a place is the page of a subject. -/
theorem place_of_lastAt (hw : ∀ page ∈ written, IsOfSite page) {place : List String} {page : Page}
    (h : lastAt written place = some page) : ∃ s : Subject, s.IsLegible ∧ place = s.place := by
  obtain ⟨s, hs, hpath⟩ := hw page (List.mem_reverse.1 (List.mem_of_find?_eq_some h))
  have hresolve : resolve page.path = some place := by simpa using List.find?_some h
  rw [hpath, resolve_file] at hresolve
  exact ⟨s, hs, (Option.some.inj hresolve).symm⟩

/-- One page more is written, whatever stands at its place. -/
theorem Holds.write (h : Holds d written t) (hw : ∀ page ∈ written, IsOfSite page)
    (hd : ∀ name ∈ d, IsName name) (hroom : (File.Path.mk .current d).toString.utf8ByteSize + 618 ≤ maxPathOctets)
    {page : Page} (hpage : IsOfSite page) :
    ∃ t', t.write ((File.Path.mk .current d).append page.path) (render page.content) = .ok t' ∧
      Holds d (written ++ [page]) t' := by
  obtain ⟨s, hs, hpath⟩ := hpage
  obtain ⟨way, hway, hleads⟩ := leads_below hd s
  have hplace : d ++ s.directory ++ [s.fileName] = d ++ s.place := by rw [List.append_assoc, Subject.place]
  have hfile : d ++ way ++ [s.fileName] = d ++ page.path := by rw [List.append_assoc, ← hway, hpath]
  -- Places of pages are apart from directories that are made.
  have hapart : ∀ {s₁ s₂ : Subject}, s₁.IsLegible → s₂.IsLegible → ¬ d ++ s₁.place <+: d ++ s₂.made := by
    intro s₁ s₂ h₁ h₂ hbelow
    exact Subject.not_place_prefix_made h₁ h₂ ((List.prefix_append_right_inj d).1 hbelow)
  have hfree : t.IsFree (d ++ s.made) := by
    intro names hnames octets hentry
    obtain ⟨place, page', rfl, hlast, -⟩ := (h.file names octets).1 hentry
    obtain ⟨s', hs', rfl⟩ := place_of_lastAt hw hlast
    exact hapart hs' hs hnames
  have hentry : t.entry? (d ++ s.place) ≠ some .directory := by
    intro hdirectory
    obtain ⟨s', hs', hbelow⟩ := h.directory _ hdirectory
    exact hapart hs hs' hbelow
  have hname : IsName s.fileName := isName_of_isPart
    (isPart_of_mem_file s _ (by rw [hway]; exact List.mem_append_right _ List.mem_cons_self)) s.isProper_fileName
  have hlong : isLongPath ⟨.current, d ++ way ++ [s.fileName]⟩ = false := by
    rw [hfile, hpath]
    exact isLongPath_below hroom s
  obtain ⟨t', hwrite, hclosed, hentries⟩ := Tree.exists_written hleads h.closed hfree hlong hname
    (by rw [hplace]; exact hapart hs hs) (by rw [hplace]; exact hentry) (render page.content)
  rw [hfile] at hwrite
  rw [hplace] at hentries
  have hresolve : resolve page.path = some s.place := by rw [hpath, resolve_file]
  refine ⟨t', hwrite, hclosed, fun names octets => ?_, fun names hnames => ?_⟩
  · rw [hentries]
    by_cases hnames : names = d ++ s.place
    · rw [if_pos hnames, Option.some.injEq, Entry.file.injEq]
      constructor
      · rintro rfl
        exact ⟨s.place, page, hnames, by rw [lastAt_concat, if_pos hresolve], rfl⟩
      · rintro ⟨place, page', heq, hlast, rfl⟩
        obtain rfl : s.place = place := List.append_cancel_left (hnames.symm.trans heq)
        rw [lastAt_concat, if_pos hresolve, Option.some.injEq] at hlast
        rw [hlast]
    · have hother : ∀ place, names = d ++ place → lastAt (written ++ [page]) place = lastAt written place := by
        intro place heq
        rw [lastAt_concat, if_neg]
        intro hpage
        rw [hresolve, Option.some.injEq] at hpage
        exact hnames (by rw [heq, hpage])
      rw [if_neg hnames]
      by_cases hbelow : names <+: d ++ s.made
      · rw [if_pos hbelow]
        constructor
        · intro hdirectory
          cases hdirectory
        · rintro ⟨place, page', heq, hlast, -⟩
          rw [hother place heq] at hlast
          obtain ⟨s', hs', rfl⟩ := place_of_lastAt hw hlast
          rw [heq] at hbelow
          exact absurd hbelow (hapart hs' hs)
      · rw [if_neg hbelow, h.file]
        refine exists_congr fun place => exists_congr fun page' => and_congr_right fun heq => ?_
        rw [hother place heq]
  · rw [hentries] at hnames
    split at hnames
    · cases hnames
    · split at hnames
      · rename_i hbelow
        exact ⟨s, hs, hbelow⟩
      · exact h.directory names hnames

/-- All pages of a list are written. -/
theorem writePages_run (h : Holds d written t) (hw : ∀ page ∈ written, IsOfSite page)
    (hd : ∀ name ∈ d, IsName name) (hroom : (File.Path.mk .current d).toString.utf8ByteSize + 618 ≤ maxPathOctets)
    {rest : List Page} (hrest : ∀ page ∈ rest, IsOfSite page) :
    ∃ t', (Cli.writePages ⟨.current, d⟩ rest : StateM Tree (Except File.FileError Unit)) t = (.ok (), t') ∧
      Holds d (written ++ rest) t' := by
  induction rest generalizing written t with
  | nil => exact ⟨t, rfl, by rwa [List.append_nil]⟩
  | cons page rest ih =>
    obtain ⟨hpage, hrest⟩ := List.forall_mem_cons.1 hrest
    obtain ⟨t₁, hwrite, h₁⟩ := h.write hw hd hroom hpage
    obtain ⟨t', hrun, h'⟩ := ih h₁ (List.forall_mem_append.2 ⟨hw, List.forall_mem_singleton.2 hpage⟩) hrest
    have hfirst : (File.Files.write ((File.Path.mk .current d).append page.path) (render page.content) :
        StateM Tree (Except File.FileError Unit)) t = (.ok (), t₁) := by
      simp only [File.Files.write, hwrite]
    refine ⟨t', ?_, by rwa [List.append_assoc, List.singleton_append] at h'⟩
    rw [Cli.writePages, Cli.bind_apply, hfirst]
    exact hrun

/-- **A site whose names lines can carry is written without fail**, below a directory of an empty tree. -/
theorem writeSite_run {g : CallGraph} (h : g.WellFormed)
    (hlegible : ∀ s : Subject, (s.content? g).isSome → s.IsLegible) (hd : ∀ name ∈ d, IsName name)
    (hroom : (File.Path.mk .current d).toString.utf8ByteSize + 618 ≤ maxPathOctets) :
    ∃ t, (Cli.writeSite g ⟨.current, d⟩ : StateM Tree (Except File.FileError Nat)) {} = (.ok (pages g).length, t) ∧
      Holds d (pages g) t := by
  have hpages : ∀ page ∈ pages g, IsOfSite page := by
    intro page hpage
    obtain ⟨s, hs⟩ := (mem_pages_iff h).1 hpage
    obtain ⟨content, hcontent, rfl⟩ := Option.map_eq_some_iff.1 hs
    exact ⟨s, hlegible s (by rw [hcontent, Option.isSome_some]), rfl⟩
  obtain ⟨t, hrun, ht⟩ := writePages_run (.empty d) (fun page h => nomatch h) hd hroom hpages
  refine ⟨t, ?_, ht⟩
  rw [Cli.writeSite, Cli.bind_apply, hrun]
  rfl

end

/-- **The site stays in its directory, and its pages do not stand in each other's way.** Whatever the names of a
class and a method are, the paths of their pages have parts of unreserved characters and `%` only, none longer
than 205 characters, and lead below the directory of the site, by parts that are names of their own. In the
site of a trace, moreover, pages of two sorts never stand at one place, and no page stands where another one
needs a directory. So it is written without fail below any directory of an empty tree, and the files are the
pages at their places, of two at one place the later one. -/
theorem load_places (lines : List String) :
    (∀ (className signature : String), ∀ path ∈ [classFile className, methodFile ⟨className, signature⟩],
      (∀ part ∈ path, IsPart part) ∧
      ∃ place, resolve path = some place ∧ place ≠ [] ∧ ∀ part ∈ place, part ∈ path ∧ IsProper part) ∧
    let g := (load lines).graph
    (∀ s s' : Subject, (s.content? g).isSome → (s'.content? g).isSome →
      ∃ place place', resolve s.file = some place ∧ resolve s'.file = some place' ∧
        (place = place' → s.kind = s'.kind) ∧ (place <+: place' → place = place')) ∧
    ∀ d : List String, (∀ name ∈ d, IsName name) →
      (File.Path.mk .current d).toString.utf8ByteSize + 618 ≤ maxPathOctets →
      ∃ t, (Cli.writeSite g ⟨.current, d⟩ : StateM Tree (Except File.FileError Nat)) {} =
          (.ok (pages g).length, t) ∧
        ∀ names octets, t.entry? names = some (.file octets) ↔ ∃ place page, names = d ++ place ∧
          lastAt (pages g) place = some page ∧ octets = Text.Utf8.encode (render page.content).toList := by
  have hfile : ∀ s : Subject, (∀ part ∈ s.file, IsPart part) ∧
      ∃ place, resolve s.file = some place ∧ place ≠ [] ∧ ∀ part ∈ place, part ∈ s.file ∧ IsProper part :=
    fun s => ⟨isPart_of_mem_file s, s.place, resolve_file s, s.place_ne_nil, fun part hpart =>
      ⟨s.place_subset_file hpart, s.isProper_of_mem_place part hpart⟩⟩
  have hlegible : ∀ s : Subject, (s.content? (load lines).graph).isSome → s.IsLegible := fun s hs =>
    isLegible_of_content lines hs
  refine ⟨fun className signature => ?_, fun s s' hs hs' => ?_, fun d hd hroom => ?_⟩
  · exact List.forall_mem_cons.2 ⟨hfile (.ofClass className),
      List.forall_mem_singleton.2 (hfile (.ofMethod ⟨className, signature⟩))⟩
  · refine ⟨s.place, s'.place, resolve_file s, resolve_file s', fun heq => ?_,
      Subject.place_eq_of_prefix (hlegible s hs) (hlegible s' hs')⟩
    rw [← Subject.kindAt_place (hlegible s hs), ← Subject.kindAt_place (hlegible s' hs'), heq]
  · obtain ⟨t, hrun, ht⟩ := writeSite_run (load_legible lines).toWellFormed hlegible hd hroom
    exact ⟨t, hrun, ht.file⟩

/-- A class that leads back: the page of its method stands at the top of the site. -/
theorem load_places_points :
    let lines := ["trace", "    entry ...run():"]
    let g := (load lines).graph
    let run : MethodName := ⟨"..", "run()"⟩
    (methodFile run ∈ [classFile "..", methodFile run] ∧ (∀ part ∈ methodFile run, IsPart part) ∧
      ∃ place, resolve (methodFile run) = some place ∧ place ≠ [] ∧
        ∀ part ∈ place, part ∈ methodFile run ∧ IsProper part) ∧
    (((Subject.ofMethod run).content? g).isSome ∧ ((Subject.ofClass "..").content? g).isSome ∧
      ∃ place place', resolve (Subject.ofMethod run).file = some place ∧
        resolve (Subject.ofClass "..").file = some place' ∧
        (place = place' → (Subject.ofMethod run).kind = (Subject.ofClass "..").kind) ∧
        (place <+: place' → place = place')) ∧
    IsName "out" ∧ (File.Path.mk .current ["out"]).toString.utf8ByteSize + 618 ≤ maxPathOctets ∧
      ∃ t page, (Cli.writeSite g ⟨.current, ["out"]⟩ : StateM Tree (Except File.FileError Nat)) {} = (.ok 4, t) ∧
        (Subject.ofMethod run).page? g = some page ∧
        t.entry? ["out", "run%28%29.html"] = some (.file (Text.Utf8.encode (render page.content).toList)) := by
  intro lines g run
  have hmethod : ((Subject.ofMethod run).content? g).isSome := by decide +kernel
  have hclass : ((Subject.ofClass "..").content? g).isSome := by decide +kernel
  have hpath : methodFile run ∈ [classFile "..", methodFile run] := List.mem_cons_of_mem _ List.mem_cons_self
  have hname : IsName "out" := ⟨by decide, by decide, by decide⟩
  have hroom : (File.Path.mk .current ["out"]).toString.utf8ByteSize + 618 ≤ maxPathOctets := by decide +kernel
  have hlength : (pages g).length = 4 := by decide +kernel
  obtain ⟨hpaths, hpages, hwritten⟩ := load_places lines
  obtain ⟨t, hrun, hfiles⟩ := hwritten ["out"] (List.forall_mem_singleton.2 hname) hroom
  have hlast : (Subject.ofMethod run).page? g = lastAt (pages g) ["run%28%29.html"] := by decide +kernel
  have hsome : ((Subject.ofMethod run).page? g).isSome := by decide +kernel
  obtain ⟨page, hpage⟩ := Option.isSome_iff_exists.1 hsome
  refine ⟨⟨hpath, hpaths _ _ _ hpath⟩, ⟨hmethod, hclass, hpages _ _ hmethod hclass⟩, hname, hroom, t, page, ?_,
    hpage, ?_⟩
  · rw [← hlength]
    exact hrun
  · exact (hfiles _ _).2 ⟨["run%28%29.html"], page, rfl, hlast.symm.trans hpage, rfl⟩

end CallAtlas.Site
