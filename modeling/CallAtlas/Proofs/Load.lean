import CallAtlas.File.Tree
import CallAtlas.Load
import CallAtlas.Proofs.Graph.Reading
import CallAtlas.Proofs.Text.Lines
import CallAtlas.Proofs.Text.Utf8
import CallAtlas.Proofs.Trace.Grammar

/-!
# Traces in files

A trace comes to the same whether it is given as lines or as a file of them, and whatever ends the lines.

* `Trace.parseLine_of_isEnded`, `Text.allBlank_of_isEnded`: what ends a line shows neither when it is read nor when it
  is told from a blank one, so a run over lines does not show it either (`Builder.addLinesFrom_of_isEnded`).
* `loadOctets_ended`: the lines of a file are told apart for every end that they may have.
* `load_ended`: both, for the trace in a file.
-/

namespace CallAtlas

open File (Path Tree)
open Log (Event)

/-! ## Lines with their ends -/

namespace Text

theorem dropTrailing_append_of_all {p : Char → Bool} {run : List Char} (h : ∀ c ∈ run, p c = true)
    (s : List Char) : dropTrailing p (s ++ run) = dropTrailing p s := by
  have hrun : ∀ c ∈ run.reverse, p c = true := fun c hc => h c (List.mem_reverse.1 hc)
  rw [dropTrailing, List.reverse_append, List.dropWhile_append_of_pos hrun, dropTrailing]

/-- The second line is the first one with carriage returns and line feeds after it. -/
def IsEnded (line ended : String) : Prop :=
  ∃ run : List Char, (∀ c ∈ run, c = '\r' ∨ c = '\n') ∧ ended.toList = line.toList ++ run

variable {line ended : String}

theorem allBlank_of_isEnded (h : IsEnded line ended) : allBlank ended = allBlank line := by
  obtain ⟨run, hrun, heq⟩ := h
  have hblank : run.all isBlank = true := by
    rw [List.all_eq_true]
    intro c hc
    rcases hrun c hc with rfl | rfl <;> decide
  rw [allBlank, heq, List.all_append, hblank, Bool.and_true, allBlank]

end Text

open Text (IsEnded IsInner)

theorem Trace.parseLine_of_isEnded {line ended : String} (h : IsEnded line ended) (lineNo : Option Int) :
    parseLine ended lineNo = parseLine line lineNo := by
  obtain ⟨run, hrun, heq⟩ := h
  have hends : ∀ c ∈ run, isLineEnd c = true := fun c hc => isLineEnd_iff.2 (hrun c hc)
  unfold parseLine
  rw [heq, Text.dropTrailing_append_of_all hends]

namespace Graph

theorem Builder.addLinesFrom_of_isEnded {lines ended : List String} (h : List.Forall₂ IsEnded lines ended)
    (b : Builder) (isTold : Trace.Malformed → Bool) (hasHeader : Bool) (lineNo : Nat) :
    b.addLinesFrom isTold hasHeader lineNo ended = b.addLinesFrom isTold hasHeader lineNo lines := by
  induction h generalizing b lineNo with
  | nil => rfl
  | cons hline _ ih =>
    rw [addLinesFrom, addLinesFrom, Text.allBlank_of_isEnded hline]
    simp only [addLine, Trace.parseLine_of_isEnded hline, ih]

theorem load_of_isEnded {lines ended : List String} (h : List.Forall₂ IsEnded lines ended) :
    load ended = load lines := by
  rw [load, Builder.addLinesFrom_of_isEnded h, load]

end Graph

/-! ## Files -/

theorem loadOctets_ended {ending : List Char} (hending : ending ∈ Text.endings) {lines : List String}
    (hlines : ∀ line ∈ lines, IsInner line) :
    loadOctets (Text.Utf8.encode (Text.ended ending lines)) = Graph.load lines := by
  rw [loadOctets, Text.Utf8.decode_encode, Text.lines_ended hending hlines]

/-- The run that loads a file, from the content of the file. -/
theorem loadFile_tree {files : Tree} {path : Path} {octets : List UInt8} (h : files.read path = .ok octets) :
    (loadFile path : StateM Tree _) files = (loadContent path (.ok octets), files) := by
  show (loadContent path (files.read path), files) = _
  rw [h]

/-- **A trace in a file is that of its lines.** Carriage returns and line feeds after the lines of a trace do not
show in its graph and its counts. A file in UTF-8 whose lines all end with a line feed, with a carriage return,
or with both, is loaded as its lines are, and the same is reported. -/
theorem load_ended (lines : List String) :
    (∀ ended, List.Forall₂ IsEnded lines ended → Graph.load ended = Graph.load lines) ∧
    ∀ ending ∈ Text.endings, (∀ line ∈ lines, IsInner line) → ∀ (files : Tree) (path : Path),
      files.read path = .ok (Text.Utf8.encode (Text.ended ending lines)) →
      let loaded := Graph.load lines
      let events := Event.loading path.toString :: loaded.stats.notices.toList.map Event.notice ++
        [loadedEvent loaded path]
      (loadFile path : StateM Tree _) files = ((events, .ok loaded), files) := by
  refine ⟨fun ended h => Graph.load_of_isEnded h, fun ending hending hlines files path hread => ?_⟩
  rw [loadFile_tree hread, loadContent]
  dsimp only
  rw [loadOctets_ended hending hlines]

/-- Lines with separators that end none, an empty line, and a character of four octets, in a file and with
different ends. -/
theorem load_ended_separators :
    let lines := ["trace", "    entry app.Main.\u2028run(\u0085):", "", "        directly calls 𝕏.\u001cstop():"]
    let ended := ["trace\r\n", "    entry app.Main.\u2028run(\u0085):\n", "\n", "        directly calls 𝕏.\u001cstop():\n\r"]
    let files : Tree := ⟨[(["trace"], .file (Text.Utf8.encode (Text.ended ['\r'] lines)))]⟩
    let path : Path := ⟨.current, ["trace"]⟩
    List.Forall₂ IsEnded lines ended ∧ (∀ line ∈ lines, IsInner line) ∧
    files.read path = .ok (Text.Utf8.encode (Text.ended ['\r'] lines)) ∧
    Graph.load ended = Graph.load lines ∧ (Graph.load lines).stats.lines = 4 ∧
    (Graph.load lines).stats.edges = 1 ∧
    ∃ events, (loadFile path : StateM Tree _) files = ((events, .ok (Graph.load lines)), files) := by
  intro lines ended files path
  have hended : List.Forall₂ IsEnded lines ended := by
    refine .cons ⟨['\r', '\n'], by simp, by decide⟩ <| .cons ⟨['\n'], by simp, by decide⟩ <|
      .cons ⟨['\n'], by simp, by decide⟩ <| .cons ⟨['\n', '\r'], by simp, by decide⟩ .nil
  have hinner : ∀ line ∈ lines, IsInner line := by decide
  have hfile (octets : List UInt8) :
      (⟨[(["trace"], .file octets)]⟩ : Tree).read ⟨.current, ["trace"]⟩ = .ok octets := by rfl
  have hread : files.read path = .ok (Text.Utf8.encode (Text.ended ['\r'] lines)) := hfile _
  obtain ⟨hload, hfiles⟩ := load_ended lines
  exact ⟨hended, hinner, hread, hload ended hended, by decide +kernel, by decide +kernel, _,
    hfiles ['\r'] (by simp [Text.endings]) hinner files path hread⟩

end CallAtlas
