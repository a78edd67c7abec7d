import CallAtlas.Proofs.Graph.Building

/-!
# Refused records

What stays of a record that is refused. Frames, graph and counts are as before; but the first record of all
fixes the level at which the records begin, and it does so even if it is refused.

* `Builder.account`: what can be told of a run, which is its answers and what it leaves; `Builder.Inert`: the
  account of every further run is as if the record had not come.
* `addRecord_of_refused`: a refused record leaves all but that level; `addRecord_of_refused_cons`: it leaves all
  if a record came before it.
* `first_refused_record_tells`: a refused record that is the first of all is not inert.
* `refused_record_inert`: every other one is, and the first one too, unless the next record stands above the
  level that it has fixed.
-/

namespace CallAtlas.Graph.Builder

open Trace

/-- What adding the records one after the other answers. -/
def outcomes (b : Builder) : List Record → List (Except AddError Unit)
  | [] => []
  | r :: rs => (b.addRecord r).2 :: (b.addRecord r).1.outcomes rs

/-- What can be told of a run: its answers, and the open calls, the counts and the graph after it. -/
structure Account where
  outcomes : List (Except AddError Unit)
  depth : Nat
  stats : LoadStats
  graph : CallGraph

/-- What can be told of a run over the records. -/
def account (b : Builder) (rs : List Record) : Account where
  outcomes := b.outcomes rs
  depth := (b.addRecords rs).depth
  stats := (b.addRecords rs).stats
  graph := (b.addRecords rs).graph

/-- Whatever records come next, all goes as if this one had not come. -/
def Inert (b : Builder) (r : Record) : Prop :=
  ∀ later, (b.addRecord r).1.account later = b.account later

variable {b c : Builder} {r s : Record} {m : Malformed}

/-! ## The level at which the records begin -/

/-- A record counts from the level that is fixed, or from the one that it fixes. -/
theorem addRecord_withOrigin (b : Builder) (r : Record) :
    ({ b with origin := some (b.origin.getD (min r.depth 0)) } : Builder).addRecord r = b.addRecord r := by
  have hmin : min r.depth 0 = if r.depth < 0 then r.depth else 0 := by omega
  rw [addRecord, addRecord, hmin]
  rfl

/-- The first record of a run fixes the level, be it taken or refused. -/
theorem origin_addRecords (b : Builder) (r : Record) (rs : List Record) :
    (b.addRecords (r :: rs)).origin = some (b.origin.getD (min r.depth 0)) := by
  induction rs generalizing b r with
  | nil => exact b.origin_addRecord r
  | cons s rs ih =>
    show ((b.addRecord r).1.addRecords (s :: rs)).origin = _
    rw [ih, origin_addRecord, Option.getD_some]

/-- Two builders that do the same with the first record go on alike. -/
theorem account_cons_congr (h : b.addRecord r = c.addRecord r) (rs : List Record) :
    b.account (r :: rs) = c.account (r :: rs) := by
  simp only [account, outcomes, addRecords, List.foldl_cons, h]

/-! ## A record refused -/

/-- A builder that records have filled keeps all but that level when it refuses a record. -/
theorem addRecord_of_refused (earlier : List Record)
    (h : ((addRecords {} earlier).addRecord r).2 = .error (.malformed m)) :
    ((addRecords {} earlier).addRecord r).1 = { addRecords {} earlier with
      origin := some ((addRecords {} earlier).origin.getD (min r.depth 0)) } := by
  obtain ⟨hfollows, htop⟩ := (Follows.empty _).addRecords earlier [r] rfl
  rw [startLevel_cons] at htop
  rw [htop]
  by_cases hr : Fits (startLevel (earlier ++ [r])) (accepted (startLevel (earlier ++ [r])) earlier) r
  · obtain ⟨b', heq, -⟩ := hfollows.addRecord_of_fits htop hr
    rw [heq] at h
    cases h
  · obtain ⟨m', heq⟩ := hfollows.addRecord_of_not_fits htop hr
    rw [heq]

/-- If records came before, the level is fixed, and nothing is left of the record refused. -/
theorem addRecord_of_refused_cons (s : Record) (earlier : List Record)
    (h : ((addRecords {} (s :: earlier)).addRecord r).2 = .error (.malformed m)) :
    ((addRecords {} (s :: earlier)).addRecord r).1 = addRecords {} (s :: earlier) := by
  have horigin := origin_addRecords {} s earlier
  rw [addRecord_of_refused _ h, horigin]
  rw [Option.getD_some, ← horigin]

/-- The first record of all is refused if it stands below the top, which it fixes so at 0. -/
theorem addRecord_of_refused_nil (h : (({} : Builder).addRecord r).2 = .error (.malformed m)) :
    (({} : Builder).addRecord r).1 = { origin := some 0 } := by
  have hdepth : ¬r.depth ≤ 0 := by
    rw [← addRecord_empty_iff, h]
    simp
  have hmin : min r.depth 0 = 0 := by omega
  have heq := addRecord_of_refused [] h
  rw [show addRecords {} [] = ({} : Builder) from rfl] at heq
  rw [heq, Option.getD_none, hmin]

/-- A builder that has the level 0 already tells the same of a run that begins there or below it, and not of
one that begins above it. -/
theorem account_origin_zero_iff (later : List Record) :
    ({ origin := some 0 } : Builder).account later = ({} : Builder).account later ↔
      ∀ s ∈ later.head?, 0 ≤ s.depth := by
  cases later with
  | nil => exact iff_of_true rfl (by simp)
  | cons s rest =>
    have hhead : (∀ x ∈ (s :: rest).head?, 0 ≤ x.depth) ↔ 0 ≤ s.depth := by simp
    rw [hhead]
    constructor
    · intro heq
      by_contra hdepth
      -- Without the level the record is taken; with it, the record stands above the top.
      have htaken : (({} : Builder).addRecord s).2 = .ok () := by
        rw [addRecord_empty_iff]
        omega
      have hcases := addRecord_cases { origin := some 0 } s
      rw [Option.getD_some] at hcases
      rcases hcases with ⟨-, m, hrefused⟩ | ⟨hle, -⟩
      · have hout := List.head_eq_of_cons_eq (congrArg Account.outcomes heq)
        rw [hrefused, htaken] at hout
        cases hout
      · omega
    · intro hdepth
      have hmin : min s.depth 0 = 0 := by omega
      have heq := addRecord_withOrigin {} s
      rw [Option.getD_none, hmin] at heq
      exact account_cons_congr heq rest

/-- A first record below the top is refused, and an entry point at column zero is refused after it, which is
taken otherwise. -/
theorem first_refused_record_tells :
    let nested : Record := ⟨1, "directly calls", ⟨"app.Main", "run()"⟩, none⟩
    let entry : Record := ⟨-1, "entry", ⟨"app.Main", "main()"⟩, none⟩
    (({} : Builder).addRecord nested).2 = .error (.malformed ⟨.skipsLevel 1 0, none, "app.Main.run()"⟩) ∧
    (({} : Builder).addRecord nested).1.outcomes [entry] =
      [.error (.malformed ⟨.aboveTop (-1), none, "app.Main.main()"⟩)] ∧
    ({} : Builder).outcomes [entry] = [.ok ()] ∧
    ¬Inert {} nested := by
  intro nested entry
  have hwith : (({} : Builder).addRecord nested).1.outcomes [entry] =
      [.error (.malformed ⟨.aboveTop (-1), none, "app.Main.main()"⟩)] := by rfl
  have hwithout : ({} : Builder).outcomes [entry] = [.ok ()] := by
    rw [outcomes, outcomes, (addRecord_empty_iff entry).2 (by decide)]
  refine ⟨by rfl, hwith, hwithout, fun hinert => ?_⟩
  have hout := congrArg Account.outcomes (hinert [entry])
  rw [account, account, hwith, hwithout] at hout
  cases hout

/-- **A refused record is inert, but for the level that the first record fixes.** After any run of records, a
record refused leaves the open calls, the counts and the graph, and every further run goes as if it had not
come, its answers included; only if it is the first record of all, and the next one stands above level 0, does
that one meet another fate. -/
theorem refused_record_inert (earlier later : List Record) (r : Record) (m : Malformed)
    (h : ((addRecords {} earlier).addRecord r).2 = .error (.malformed m)) :
    let b := addRecords {} earlier
    (earlier ≠ [] → b.Inert r) ∧
    (earlier = [] → ((b.addRecord r).1.account later = b.account later ↔
      ∀ s ∈ later.head?, 0 ≤ s.depth)) := by
  intro b
  constructor
  · intro hne
    obtain ⟨s, rest, rfl⟩ := List.exists_cons_of_ne_nil hne
    intro later
    rw [addRecord_of_refused_cons s rest h]
  · rintro rfl
    have hfirst : (b.addRecord r).1 = { origin := some 0 } := addRecord_of_refused_nil h
    rw [hfirst]
    exact account_origin_zero_iff later

/-- A record two levels too deep after an entry point at column zero, and a record below the top that is the
first of all. The latter does not tell on an entry point at the top. -/
theorem refused_record_inert_gap :
    let main : Record := ⟨-1, "entry", ⟨"app.Main", "main()"⟩, none⟩
    let gap : Record := ⟨2, "directly calls", ⟨"app.Main", "run()"⟩, none⟩
    let top : Record := ⟨0, "entry", ⟨"app.Main", "main()"⟩, none⟩
    ((addRecords {} [main]).addRecord gap).2 =
      .error (.malformed ⟨.skipsLevel 3 1, none, "app.Main.run()"⟩) ∧
    (addRecords {} [main]).Inert gap ∧
    ((addRecords {} []).addRecord gap).2 =
      .error (.malformed ⟨.skipsLevel 2 0, none, "app.Main.run()"⟩) ∧
    ((addRecords {} []).addRecord gap).1.account [top] = (addRecords {} []).account [top] := by
  intro main gap top
  have hlater : ((addRecords {} [main]).addRecord gap).2 =
      .error (.malformed ⟨.skipsLevel 3 1, none, "app.Main.run()"⟩) := by decide +kernel
  have hfirst : ((addRecords {} []).addRecord gap).2 =
      .error (.malformed ⟨.skipsLevel 2 0, none, "app.Main.run()"⟩) := by decide +kernel
  refine ⟨hlater, ?_, hfirst, ?_⟩
  · exact (refused_record_inert [main] [] gap _ hlater).1 (List.cons_ne_nil main [])
  · exact ((refused_record_inert [] [top] gap _ hfirst).2 rfl).2 (by simp [top])

end CallAtlas.Graph.Builder
