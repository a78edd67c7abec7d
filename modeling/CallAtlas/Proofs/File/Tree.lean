import CallAtlas.File.Tree
import Mathlib.Data.List.Basic
import Mathlib.Data.List.Induction

/-!
# Writing to a file tree

* `Tree.Closed`: what is in a tree stands in directories.
* `Tree.walk_of_isSome`, `Tree.walk_of_none`: where names lead from the current directory, found or not.
* `Leads`: a path of names that leads to a directory, also one that goes a directory down and back.
* `Tree.exists_made`: the directories on the way to a place are made, if no file stands there.
* `Tree.exists_written`: a file is written where its path leads, and all else stays.
-/

namespace CallAtlas.File

/-- A name that a file or directory of its own may have. -/
structure IsName (name : String) : Prop where
  ne_points : name ≠ ".."
  isShort : isLongName name = false
  noNull : '\x00' ∉ name.toList

/-! ## Paths as they are written -/

theorem toString_of_ne_nil {names : List String} (h : names ≠ []) :
    (Path.mk .current names).toString = String.intercalate "/" names := by
  rw [Path.toString, if_neg fun hnil => h hnil.2]
  exact String.empty_append

theorem utf8ByteSize_intercalate_concat {separator : String} {names : List String} (h : names ≠ []) (name : String) :
    (separator.intercalate (names ++ [name])).utf8ByteSize =
      (separator.intercalate names).utf8ByteSize + separator.utf8ByteSize + name.utf8ByteSize := by
  rw [String.intercalate_append_of_ne_nil h (List.cons_ne_nil _ _), String.intercalate_singleton,
    String.utf8ByteSize_append, String.utf8ByteSize_append]

/-- A path on the way to one that is not too long is not too long either. -/
theorem isLongPath_of_append {names : List String} {name : String}
    (h : isLongPath ⟨.current, names ++ [name]⟩ = false) : isLongPath ⟨.current, names⟩ = false := by
  rw [isLongPath, decide_eq_false_iff_not, Nat.not_lt, toString_of_ne_nil (by simp)] at h
  rw [isLongPath, decide_eq_false_iff_not, Nat.not_lt]
  by_cases hnil : names = []
  · rw [hnil]
    decide
  · rw [toString_of_ne_nil hnil]
    rw [utf8ByteSize_intercalate_concat hnil] at h
    omega

/-- A path has no null character if its names have none. -/
theorem hasNull_eq_false {names : List String} (h : ∀ name ∈ names, '\x00' ∉ name.toList) :
    (Path.mk .current names).hasNull = false := by
  have hchars : ∀ names : List String, (∀ name ∈ names, '\x00' ∉ name.toList) →
      '\x00' ∉ (String.intercalate "/" names).toList := by
    intro names h
    induction names with
    | nil => simp
    | cons first names ih =>
      obtain ⟨hfirst, hrest⟩ := List.forall_mem_cons.1 h
      cases names with
      | nil => rwa [String.intercalate_singleton]
      | cons second names =>
        rw [String.intercalate_cons_of_ne_nil (List.cons_ne_nil _ _), String.toList_append, String.toList_append,
          List.mem_append, List.mem_append]
        exact not_or.2 ⟨not_or.2 ⟨hfirst, by decide⟩, ih hrest⟩
  by_cases hnil : names = []
  · rw [hnil]
    decide
  · rw [Path.hasNull, toString_of_ne_nil hnil, Bool.eq_false_iff, ne_eq, List.contains_iff_mem]
    exact hchars names h

namespace Tree

variable {t t' : Tree} {names place : List String} {name : String} {entry : Entry}

/-! ## Entries -/

@[simp] theorem entry?_nil : t.entry? [] = some .directory := rfl

/-- What is put under some names is under them, and all else stays. -/
theorem entry?_put (h : names ≠ []) (q : List String) :
    entry? (t.put names entry) q = if q = names then some entry else t.entry? q := by
  by_cases hnil : q = []
  · rw [hnil, if_neg (Ne.symm h)]
    rfl
  rw [ entry?, if_neg hnil, put, List.find?_append, List.find?_filter, entry?, if_neg hnil]
  by_cases hq : q = names
  · have hnone : t.entries.find? (fun e => decide (((e.1 != names) = true) ∧ ((e.1 == q) = true))) = none := by
      rw [List.find?_eq_none]
      simp [hq]
    rw [hnone, if_pos hq, hq]
    simp
  · have hkeep : (fun e : List String × Entry => decide (((e.1 != names) = true) ∧ ((e.1 == q) = true))) =
        fun e => e.1 == q := by
      funext e
      rw [Bool.eq_iff_iff]
      simp only [decide_eq_true_eq, bne_iff_ne, beq_iff_eq]
      exact ⟨And.right, fun he => ⟨he ▸ hq, he⟩⟩
    rw [hkeep, if_neg hq]
    simp [Ne.symm hq]

/-! ## Where names lead -/

/-- What is in a tree stands in directories. -/
def Closed (t : Tree) : Prop :=
  ∀ names name, (t.entry? (names ++ [name])).isSome → t.entry? names = some .directory

/-- No file stands on the way to the names, nor under them. -/
def IsFree (t : Tree) (names : List String) : Prop :=
  ∀ q, q <+: names → ∀ octets, t.entry? q ≠ some (.file octets)

theorem IsFree.of_append (h : t.IsFree (names ++ [name])) : t.IsFree names :=
  fun q hq => h q (hq.trans (List.prefix_append _ _))

theorem locate_eq (h : isLongPath ⟨.current, names⟩ = false) :
    t.locate ⟨.current, names⟩ = names.foldlM t.step (.inside []) := by
  rw [locate, h]
  rfl

/-- Below a directory, a name leads to what it stands for. -/
theorem step_of_directory (h : t.entry? names = some .directory) (hname : IsName name) :
    t.step (.inside names) name =
      if (t.entry? (names ++ [name])).isSome then .ok (.inside (names ++ [name])) else .error .noEntry := by
  rw [step, h]
  dsimp only
  rw [if_neg hname.ne_points, hname.isShort]
  rfl

/-- Two points lead back from a directory. -/
theorem step_back (h : t.entry? (names ++ [name]) = some .directory) :
    t.step (.inside (names ++ [name])) ".." = .ok (.inside names) := by
  rw [step, h]
  dsimp only
  rw [if_pos rfl, if_neg (by simp), List.dropLast_concat]

theorem walk_concat (start : Place) (names : List String) (name : String) :
    (names ++ [name]).foldlM t.step start = (names.foldlM t.step start).bind (t.step · name) := by
  rw [List.foldlM_append]
  cases names.foldlM t.step start with
  | error e => rfl
  | ok place =>
    show (t.step place name).bind pure = t.step place name
    cases t.step place name <;> rfl

/-- Names under which something stands lead there. -/
theorem walk_of_isSome (hc : t.Closed) (hn : ∀ name ∈ names, IsName name) (h : (t.entry? names).isSome) :
    names.foldlM t.step (.inside []) = .ok (.inside names) := by
  induction names using List.reverseRecOn with
  | nil => rfl
  | append_singleton names name ih =>
    have hdir := hc names name h
    rw [walk_concat, ih (fun n hn' => hn n (List.mem_append_left _ hn')) (by rw [hdir]; rfl)]
    show t.step (.inside names) name = _
    rw [step_of_directory hdir (hn name (by simp)), if_pos h]

/-- Names under which nothing stands lead nowhere. -/
theorem walk_of_none (hn : ∀ name ∈ names, IsName name) (hfree : t.IsFree names) (hc : t.Closed)
    (h : t.entry? names = none) : names.foldlM t.step (.inside []) = .error .noEntry := by
  induction names using List.reverseRecOn with
  | nil => cases h
  | append_singleton names name ih =>
    have hn' : ∀ name ∈ names, IsName name := fun n hmem => hn n (List.mem_append_left _ hmem)
    rw [walk_concat]
    cases hentry : t.entry? names with
    | none =>
      rw [ih hn' hfree.of_append hentry]
      rfl
    | some entry =>
      cases entry with
      | file octets => exact absurd hentry (hfree.of_append _ List.prefix_rfl octets)
      | directory =>
        rw [walk_of_isSome hc hn' (by rw [hentry]; rfl)]
        show t.step (.inside names) name = _
        rw [step_of_directory hentry (hn name (by simp)), h]
        rfl

/-! ## Directories made -/

theorem makeDirectory_of_ok {path : List String} (hlong : isLongPath ⟨.current, path ++ [name]⟩ = false)
    (hshort : isLongName name = false) (hwalk : path.foldlM t.step (.inside []) = .ok (.inside place))
    (hdir : t.entry? place = some .directory) :
    t.makeDirectory ⟨.current, path ++ [name]⟩ =
      if name = ".." ∨ (t.entry? (place ++ [name])).isSome then .error .entryExists
      else .ok (t.put (place ++ [name]) .directory) := by
  have hlocate : t.locateNew ⟨.current, path ++ [name]⟩ name = .ok (.inside place) := by
    rw [locateNew, hlong, Path.parent, List.dropLast_concat, locate_eq (isLongPath_of_append hlong), hwalk]
    simp [at?, hdir, hshort]
  rw [makeDirectory, List.getLast?_concat]
  dsimp only
  rw [hlocate]

theorem makeDirectory_of_error {path : List String} (hlong : isLongPath ⟨.current, path ++ [name]⟩ = false)
    (hwalk : path.foldlM t.step (.inside []) = .error .noEntry) :
    t.makeDirectory ⟨.current, path ++ [name]⟩ = .error .noEntry := by
  have hlocate : t.locateNew ⟨.current, path ++ [name]⟩ name = .error .noEntry := by
    rw [locateNew, hlong, Path.parent, List.dropLast_concat, locate_eq (isLongPath_of_append hlong), hwalk]
    rfl
  rw [makeDirectory, List.getLast?_concat]
  dsimp only
  rw [hlocate]

theorem orDirectory_of_walk {path : List String} (hlong : isLongPath ⟨.current, path⟩ = false)
    (hwalk : path.foldlM t.step (.inside []) = .ok (.inside place)) (hdir : t.entry? place = some .directory)
    (e : Failure) : t.orDirectory ⟨.current, path⟩ (.error e) = .ok t := by
  have hdirectory : t.isDirectory ⟨.current, path⟩ = true := by
    rw [isDirectory, locate_eq hlong, hwalk]
    simp [at?, hdir]
  rw [orDirectory, hdirectory]
  rfl

/-- The tree `t'` is `t` with the directories on the way to the names and under them. -/
def Made (t : Tree) (names : List String) (t' : Tree) : Prop :=
  ∀ q, t'.entry? q = if q <+: names then some .directory else t.entry? q

/-- A directory made in a directory that is there. -/
theorem Made.put (h : t.Made names t') : t.Made (names ++ [name]) (t'.put (names ++ [name]) .directory) := by
  intro q
  rw [entry?_put (by simp), h]
  by_cases hq : q = names ++ [name]
  · rw [if_pos hq, if_pos (hq ▸ List.prefix_rfl)]
  · have hbelow : q <+: names ++ [name] ↔ q <+: names := by
      rw [List.prefix_concat_iff]
      exact or_iff_right hq
    rw [if_neg hq]
    simp only [hbelow]

theorem Made.closed (h : t.Made names t') (hc : t.Closed) : t'.Closed := by
  intro q n hq
  rw [h] at hq ⊢
  by_cases hbelow : q ++ [n] <+: names
  · rw [if_pos ((List.prefix_append _ _).trans hbelow)]
  · rw [if_neg hbelow] at hq
    rw [hc q n hq, ite_self]

theorem Closed.directory_of_prefix (hc : t.Closed) (h : t.entry? names = some .directory) {q : List String}
    (hq : q <+: names) : t.entry? q = some .directory := by
  induction names using List.reverseRecOn with
  | nil => rw [List.prefix_nil.1 hq, entry?_nil]
  | append_singleton names name ih =>
    rcases List.prefix_concat_iff.1 hq with rfl | hq
    · exact h
    · exact ih (hc names name (by rw [h]; rfl)) hq

/-- Directories that are there are as if made. -/
theorem Closed.made (hc : t.Closed) (h : t.entry? names = some .directory) : t.Made names t := by
  intro q
  by_cases hq : q <+: names
  · rw [if_pos hq, hc.directory_of_prefix h hq]
  · rw [if_neg hq]

section

variable {path : List String} {above : Nat}

theorem makeDirectoriesFrom_of_ok (h : t.makeDirectory ⟨.current, path⟩ = .ok t') :
    t.makeDirectoriesFrom .current path (above + 1) = .ok t' := by
  rw [makeDirectoriesFrom, h]

theorem makeDirectoriesFrom_of_entryExists (hmake : t.makeDirectory ⟨.current, path⟩ = .error .entryExists)
    (hlong : isLongPath ⟨.current, path⟩ = false) (hwalk : path.foldlM t.step (.inside []) = .ok (.inside place))
    (hdir : t.entry? place = some .directory) : t.makeDirectoriesFrom .current path above = .ok t := by
  cases above with
  | zero =>
    rw [makeDirectoriesFrom, hmake]
    exact orDirectory_of_walk hlong hwalk hdir _
  | succ above =>
    rw [makeDirectoriesFrom, hmake]
    exact orDirectory_of_walk hlong hwalk hdir _

theorem makeDirectoriesFrom_of_noEntry (hmake : t.makeDirectory ⟨.current, path⟩ = .error .noEntry)
    (hrest : t.makeDirectoriesFrom .current path.dropLast above = .ok t') :
    t.makeDirectoriesFrom .current path (above + 1) =
      t'.orDirectory ⟨.current, path⟩ (t'.makeDirectory ⟨.current, path⟩) := by
  rw [makeDirectoriesFrom, hmake]
  dsimp only
  rw [hrest]

end

/-- The directories on the way to some names, and under them, can be made if no file stands there. -/
theorem exists_made (hc : t.Closed) (hn : ∀ name ∈ names, IsName name) (hfree : t.IsFree names)
    (hlong : isLongPath ⟨.current, names⟩ = false) {above : Nat} (habove : names.length ≤ above) :
    ∃ t', t.makeDirectoriesFrom .current names above = .ok t' ∧ t.Made names t' := by
  induction names using List.reverseRecOn generalizing above with
  | nil => exact ⟨t, makeDirectoriesFrom_of_entryExists rfl hlong rfl rfl, hc.made rfl⟩
  | append_singleton names name ih =>
    have hn' : ∀ name ∈ names, IsName name := fun n hmem => hn n (List.mem_append_left _ hmem)
    have hname : IsName name := hn name (by simp)
    rw [List.length_append, List.length_singleton] at habove
    obtain ⟨above, rfl⟩ : ∃ k, above = k + 1 := Nat.exists_eq_add_one.2 (by omega)
    cases hentry : t.entry? names with
    | some entry =>
      cases entry with
      | file octets => exact absurd hentry (hfree.of_append _ List.prefix_rfl octets)
      | directory =>
        have hwalk := walk_of_isSome hc hn' (by rw [hentry]; rfl)
        have hmake := makeDirectory_of_ok hlong hname.isShort hwalk hentry
        by_cases hsome : (t.entry? (names ++ [name])).isSome
        · -- What stands there is a directory, as no file does.
          have hdir : t.entry? (names ++ [name]) = some .directory := by
            obtain ⟨entry, he⟩ := Option.isSome_iff_exists.1 hsome
            cases entry with
            | file octets => exact absurd he (hfree _ List.prefix_rfl octets)
            | directory => exact he
          rw [if_pos (.inr hsome)] at hmake
          exact ⟨t, makeDirectoriesFrom_of_entryExists hmake hlong (walk_of_isSome hc hn hsome) hdir, hc.made hdir⟩
        · rw [if_neg (not_or.2 ⟨hname.ne_points, hsome⟩)] at hmake
          exact ⟨_, makeDirectoriesFrom_of_ok hmake, (hc.made hentry).put⟩
    | none =>
      have hmake := makeDirectory_of_error hlong (walk_of_none hn' hfree.of_append hc hentry)
      obtain ⟨t', ht', hmade⟩ := ih hn' hfree.of_append (isLongPath_of_append hlong) (Nat.le_of_succ_le_succ habove)
      have hdir : t'.entry? names = some .directory := by rw [hmade, if_pos List.prefix_rfl]
      have hnone : ¬ (t'.entry? (names ++ [name])).isSome := by
        intro hsome
        rw [hmade, if_neg fun hbelow => absurd hbelow.length_le (by simp)] at hsome
        rw [hc names name hsome] at hentry
        cases hentry
      have hmake' := makeDirectory_of_ok hlong hname.isShort
        (walk_of_isSome (hmade.closed hc) hn' (by rw [hdir]; rfl)) hdir
      rw [if_neg (not_or.2 ⟨hname.ne_points, hnone⟩)] at hmake'
      refine ⟨_, ?_, hmade.put⟩
      rw [makeDirectoriesFrom_of_noEntry hmake (by rw [List.dropLast_concat]; exact ht'), hmake']
      rfl

/-! ## Files written -/

/-- A path to a directory: where it leads, and what is made on the way. It is made of names, or goes one directory
down and back. -/
inductive Leads : List String → List String → List String → Prop
  | straight {names : List String} (hn : ∀ name ∈ names, IsName name) : Leads names names names
  | back {names : List String} {name : String} (hn : ∀ name' ∈ names ++ [name], IsName name') :
    Leads (names ++ [name] ++ [".."]) names (names ++ [name])

theorem Leads.noNull {path made : List String} (h : Leads path place made) :
    ∀ name ∈ path, '\x00' ∉ name.toList := by
  cases h with
  | straight hn => exact fun name hname => (hn name hname).noNull
  | back hn =>
    exact List.forall_mem_append.2 ⟨fun name hname => (hn name hname).noNull,
      List.forall_mem_singleton.2 (by decide)⟩

/-- A directory down and back leads back. -/
theorem walk_back (hc : t.Closed) (hn : ∀ name' ∈ names ++ [name], IsName name')
    (hdir : t.entry? (names ++ [name]) = some .directory) :
    (names ++ [name] ++ [".."]).foldlM t.step (.inside []) = .ok (.inside names) := by
  rw [walk_concat, walk_of_isSome hc hn (by rw [hdir]; rfl)]
  exact step_back hdir

theorem makeDirectory_back (hc : t.Closed) (hn : ∀ name' ∈ names ++ [name], IsName name')
    (hdir : t.entry? (names ++ [name]) = some .directory)
    (hlong : isLongPath ⟨.current, names ++ [name] ++ [".."]⟩ = false) :
    t.makeDirectory ⟨.current, names ++ [name] ++ [".."]⟩ = .error .entryExists := by
  rw [makeDirectory_of_ok hlong (by decide) (walk_of_isSome hc hn (by rw [hdir]; rfl)) hdir, if_pos (.inl rfl)]

/-- A path to a directory can be made, and then leads there. -/
theorem exists_made_of_leads {path made : List String} (h : Leads path place made) (hc : t.Closed)
    (hfree : t.IsFree made) (hlong : isLongPath ⟨.current, path⟩ = false) :
    ∃ t', t.makeDirectories ⟨.current, path⟩ = .ok t' ∧ t.Made made t' ∧
      path.foldlM t'.step (.inside []) = .ok (.inside place) ∧ t'.entry? place = some .directory := by
  cases h with
  | straight hn =>
    obtain ⟨t', ht', hmade⟩ := exists_made hc hn hfree hlong (Nat.le_refl _)
    have hdir : t'.entry? place = some .directory := by rw [hmade, if_pos List.prefix_rfl]
    exact ⟨t', ht', hmade, walk_of_isSome (hmade.closed hc) hn (by rw [hdir]; rfl), hdir⟩
  | @back _ name hn =>
    cases hentry : t.entry? (place ++ [name]) with
    | some entry =>
      cases entry with
      | file octets => exact absurd hentry (hfree _ List.prefix_rfl octets)
      | directory =>
        have hdir : t.entry? place = some .directory := hc place name (by rw [hentry]; rfl)
        have hwalk := walk_back hc hn hentry
        exact ⟨t, makeDirectoriesFrom_of_entryExists (makeDirectory_back hc hn hentry hlong) hlong hwalk hdir,
          hc.made hentry, hwalk, hdir⟩
    | none =>
      obtain ⟨t', ht', hmade⟩ := exists_made hc hn hfree (isLongPath_of_append hlong) (Nat.le_refl _)
      have hc' := hmade.closed hc
      have hdown : t'.entry? (place ++ [name]) = some .directory := by rw [hmade, if_pos List.prefix_rfl]
      have hdir : t'.entry? place = some .directory := hc' place name (by rw [hdown]; rfl)
      have hwalk := walk_back hc' hn hdown
      have hmake := makeDirectory_of_error hlong (walk_of_none hn hfree hc hentry)
      have hrest : t.makeDirectoriesFrom .current (place ++ [name] ++ [".."]).dropLast (place ++ [name]).length =
          .ok t' := by
        rw [List.dropLast_concat]
        exact ht'
      refine ⟨t', ?_, hmade, hwalk, hdir⟩
      rw [makeDirectories, List.length_append, List.length_singleton, makeDirectoriesFrom_of_noEntry hmake hrest,
        makeDirectory_back hc' hn hdown hlong]
      exact orDirectory_of_walk hlong hwalk hdir _

/-- A file in a directory that is there, in place of no directory. -/
theorem Closed.put_file (hc : t.Closed) (hdir : t.entry? place = some .directory)
    (hfile : t.entry? (place ++ [name]) ≠ some .directory) (octets : List UInt8) :
    (t.put (place ++ [name]) (.file octets)).Closed := by
  intro q n hq
  rw [entry?_put (by simp)] at hq ⊢
  by_cases heq : q ++ [n] = place ++ [name]
  · obtain ⟨rfl, -⟩ := List.append_inj' heq rfl
    rw [if_neg (by simp), hdir]
  · rw [if_neg heq] at hq
    have hq' := hc q n hq
    rw [if_neg (by rintro rfl; exact hfile hq'), hq']

/-- **A file is written where its path leads.** The directories on the way are made, and all else stays. -/
theorem exists_written {path made : List String} (h : Leads path place made) (hc : t.Closed)
    (hfree : t.IsFree made) (hlong : isLongPath ⟨.current, path ++ [name]⟩ = false)
    (hname : IsName name) (hmade : ¬ place ++ [name] <+: made)
    (hfile : t.entry? (place ++ [name]) ≠ some .directory) (text : String) :
    ∃ t', t.write ⟨.current, path ++ [name]⟩ text = .ok t' ∧ t'.Closed ∧
      ∀ q, t'.entry? q = if q = place ++ [name] then some (.file (Text.Utf8.encode text.toList))
        else if q <+: made then some .directory else t.entry? q := by
  obtain ⟨t₁, ht₁, hmade₁, hwalk, hdir⟩ := exists_made_of_leads h hc hfree (isLongPath_of_append hlong)
  have hnull : (Path.mk .current (path ++ [name])).hasNull = false :=
    hasNull_eq_false (List.forall_mem_append.2 ⟨h.noNull, List.forall_mem_singleton.2 hname.noNull⟩)
  have hfile₁ : t₁.entry? (place ++ [name]) ≠ some .directory := by
    rw [hmade₁, if_neg hmade]
    exact hfile
  have hlocate : t₁.locateNew ⟨.current, path ++ [name]⟩ name = .ok (.inside place) := by
    rw [locateNew, hlong, Path.parent, List.dropLast_concat, locate_eq (isLongPath_of_append hlong), hwalk]
    simp [at?, hdir, hname.isShort]
  have hput : t₁.putFile ⟨.current, path ++ [name]⟩ (Text.Utf8.encode text.toList) =
      .ok (t₁.put (place ++ [name]) (.file (Text.Utf8.encode text.toList))) := by
    rw [putFile, List.getLast?_concat]
    dsimp only
    rw [hlocate]
    dsimp only
    rw [if_neg (not_or.2 ⟨hname.ne_points, hfile₁⟩)]
  refine ⟨t₁.put (place ++ [name]) (.file (Text.Utf8.encode text.toList)), ?_,
    (hmade₁.closed hc).put_file hdir hfile₁ _, fun q => ?_⟩
  · rw [write, hnull, Path.parent, List.dropLast_concat, ht₁]
    exact hput
  · rw [entry?_put (by simp), hmade₁]

end Tree

end CallAtlas.File
