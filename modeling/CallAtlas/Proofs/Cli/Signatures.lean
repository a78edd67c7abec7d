import CallAtlas.Proofs.Cli.Agreement
import CallAtlas.Proofs.Graph.Names
import CallAtlas.Proofs.Load
import CallAtlas.Proofs.Text.Percent
import CallAtlas.Proofs.Tools.Answers

/-!
# Signatures as they are and percent-encoded

A method of a trace may be asked for by its signature, or by its signature percent-encoded. Which of the two is
meant is never in doubt: a signature that a line carries has an opening bracket, and an encoded text has none.

* `MethodName.encoded`: a name with its signature encoded. `lookup_encoded`: it means the method of that name.
* `Tools.IsAnsweredAs`: what the tools and the commands answer; `exists_isAnsweredAs`: they give one answer to both.
* `Cli.run_encoded`: two runs that ask for the method in either form are one.
* `load_answers_encoded`: all this, for the trace of any lines.
-/

namespace CallAtlas

open File (Path Tree)
open Log (Setup)

/-- The name, with its signature percent-encoded. -/
def MethodName.encoded (n : MethodName) : MethodName :=
  { n with signature := Text.Percent.encode n.signature }

theorem MethodName.className_encoded (n : MethodName) : n.encoded.className = n.className := by
  rw [MethodName.encoded]

namespace Tools

open CallAtlas.Graph

variable {g : CallGraph} {n : MethodName}

theorem open_notMem_encode (s : String) : '(' ∉ (Text.Percent.encode s).toList := by
  rw [Text.Percent.toList_encode]
  intro hmem
  have hencoded := Text.Percent.isEncoded_of_mem_encodeChars hmem
  revert hencoded
  decide

/-- Lines carry no encoded signature. -/
theorem method?_encoded (h : g.Legible) (n : MethodName) : g.method? n.encoded = none := by
  have hid : g.methodId? n.encoded = none := by
    cases hid : g.methodId? n.encoded with
    | none => rfl
    | some i =>
      have hname := h.methodName (h.methodId?_eq_some_iff.1 hid)
      exact absurd hname.open_mem_signature (open_notMem_encode n.signature)
  rw [CallGraph.method?, hid, Option.bind_none]

/-- A method is meant by its encoded signature. -/
theorem lookup_encoded (h : g.Legible) (hn : n ∈ g.methodList) :
    lookup g n.encoded.className n.encoded.signature = n.signature := by
  rw [MethodName.className_encoded]
  obtain ⟨m, hm, -⟩ := h.method?_of_mem hn
  have hnone : g.method? ⟨n.className, n.encoded.signature⟩ = none := method?_encoded h n
  have hdecoded : Text.Percent.decode n.encoded.signature = n.signature := Text.Percent.decode_encode n.signature
  unfold lookup
  rw [hnone]
  dsimp only
  rw [hdecoded, hm]

end Tools

/-! ## Tools and commands -/

namespace Cli

open CallAtlas.Graph

variable {g : CallGraph} {m : MethodNode} {asked : MethodName}

/-- The method that is meant is found. -/
theorem findMethod_of_resolve (hresolve : resolve g asked = m.name) (hm : g.method? m.name = some m) :
    findMethod g asked = .ok ⟨m.name, g.forwardRefs m, g.reverseRefs m⟩ := by
  have hname : asked.className = m.name.className := by rw [← hresolve, resolve_eq]
  have hclass : (g.class? asked.className).isNone = false := hname ▸ CallGraph.isNone_class?_of_method? hm
  rw [findMethod, hclass, if_neg Bool.false_ne_true]
  dsimp only
  rw [hresolve, CallGraph.methodInfo?, hm]
  rfl

theorem findTrace_of_resolve (hresolve : resolve g asked = m.name) (hm : g.method? m.name = some m)
    (maxDepth : Int) :
    findTrace g asked maxDepth =
      .ok ⟨m.name, g.tree? .callers m.id maxDepth, g.tree? .callees m.id maxDepth⟩ := by
  unfold findTrace
  dsimp only
  rw [hresolve, hm]

end Cli

namespace Tools

open CallAtlas.Graph Browse

variable {l : Loaded} {m : MethodNode} {asked : MethodName}

/-- Whoever asks for that name, with the tools or on a command line, has the answer for the method, whatever
stands for the limit of depth. -/
structure IsAnsweredAs (l : Loaded) (m : MethodNode) (asked : MethodName) : Prop where
  lookup : lookup l.graph asked.className asked.signature = m.name.signature
  resolve : Cli.resolve l.graph asked = m.name
  method : dispatch l "calltree_method" (nameArguments asked) =
    .ok (encodeMethod ⟨m.name, l.graph.forwardRefs m, l.graph.reverseRefs m⟩)
  trace : ∀ limit : Option Json,
    dispatch l "calltree_trace" (nameArguments asked ++ limit.toList.map (("max_depth", ·))) =
      (limitIn (limit.getD (.int defaultDepth))).map (traceObject l.graph m)
  methodJson : Cli.answer l (.method asked true) =
    (0, (encodeMethod ⟨m.name, l.graph.forwardRefs m, l.graph.reverseRefs m⟩).compact ++ "\n")
  methodLines : Cli.answer l (.method asked false) =
    (0, Cli.screen (Cli.methodInfoLines ⟨m.name, l.graph.forwardRefs m, l.graph.reverseRefs m⟩))
  traceJson : ∀ maxDepth, Cli.answer l (.trace asked maxDepth true) =
    (0, (traceObject l.graph m maxDepth).compact ++ "\n")
  traceLines : ∀ maxDepth, Cli.answer l (.trace asked maxDepth false) =
    (0, Cli.screen (Cli.traceLines
      ⟨m.name, l.graph.tree? .callers m.id maxDepth, l.graph.tree? .callees m.id maxDepth⟩))

/-- Where a method is found, only what stands for the limit of depth can be wrong. -/
theorem dispatch_trace
    (hm : l.graph.method? ⟨asked.className, lookup l.graph asked.className asked.signature⟩ = some m)
    (limit : Option Json) :
    dispatch l "calltree_trace" (nameArguments asked ++ limit.toList.map (("max_depth", ·))) =
      (limitIn (limit.getD (.int defaultDepth))).map (traceObject l.graph m) := by
  have hcall : dispatch l "calltree_trace" (nameArguments asked ++ limit.toList.map (("max_depth", ·))) =
      answerTrace l.graph (.str asked.className) (.str asked.signature) (limit.getD (.int defaultDepth)) := by
    cases limit <;> rfl
  rw [hcall]
  cases hlimit : limitIn (limit.getD (.int defaultDepth)) with
  | error e =>
    simp only [answerTrace, nameIn, hlimit, hm, Except.map, Option.isNone_some, Bool.false_eq_true, if_false]
  | ok maxDepth => simp only [answerTrace, nameIn, hlimit, traceAnswer_of_found hm, Except.map]

/-- The answers are those for the method that is meant. -/
theorem IsAnsweredAs.of_lookup (hm : l.graph.method? m.name = some m) (hclass : asked.className = m.name.className)
    (hlookup : Tools.lookup l.graph asked.className asked.signature = m.name.signature) :
    IsAnsweredAs l m asked := by
  have hresolve : Cli.resolve l.graph asked = m.name := by rw [Cli.resolve_eq, hlookup, hclass]
  have hfound : l.graph.method? ⟨asked.className, Tools.lookup l.graph asked.className asked.signature⟩ = some m := by
    rw [hlookup, hclass]
    exact hm
  have hmethod := Cli.findMethod_of_resolve hresolve hm
  have htrace := Cli.findTrace_of_resolve hresolve hm
  exact {
    lookup := hlookup
    resolve := hresolve
    method := (dispatch_question l (.method asked)).trans (congrArg Except.ok (methodAnswer_of_found hfound))
    trace := dispatch_trace hfound
    methodJson := by rw [Cli.answer, hmethod, Cli.shown, if_pos rfl, Cli.unlines_singleton]
    methodLines := by rw [Cli.answer, hmethod, Cli.shown, if_neg Bool.false_ne_true]
    traceJson maxDepth := by
      rw [Cli.answer, htrace, Cli.shown, if_pos rfl, Cli.unlines_singleton, Cli.encodeTrace_eq]
    traceLines maxDepth := by rw [Cli.answer, htrace, Cli.shown, if_neg Bool.false_ne_true] }

theorem exists_isAnsweredAs (h : l.graph.Legible) {n : MethodName} (hn : n ∈ l.graph.methodList) :
    ∃ m, l.graph.methods[m.id]? = some m ∧ m.name = n ∧ IsAnsweredAs l m n ∧ IsAnsweredAs l m n.encoded := by
  obtain ⟨m, hm, hid, rfl⟩ := h.method?_of_mem hn
  have hraw : IsAnsweredAs l m m.name := .of_lookup hm rfl (lookup_of_mem h.toWellFormed hn)
  have hencoded : IsAnsweredAs l m m.name.encoded :=
    .of_lookup hm m.name.className_encoded (lookup_encoded h hn)
  exact ⟨m, hid, rfl, hraw, hencoded⟩

end Tools

/-! ## Runs -/

namespace Cli

open CallAtlas.Graph

/-- The method that a command asks for. -/
def Command.method? : Command → Option MethodName
  | .method name _ | .trace name _ _ => some name
  | .classes _ | .classMethods _ _ | .entrypoints _ | .stats _ | .exportSite _ => none

/-- The command, with the signature that it names percent-encoded. -/
def Command.encoded : Command → Command
  | .method name asJson => .method name.encoded asJson
  | .trace name maxDepth asJson => .trace name.encoded maxDepth asJson
  | command => command

variable {l : Loaded} {n : MethodName} {command : Command}

/-- A command that asks for a method only reads. -/
theorem runLoaded_of_method (hcommand : command.method? = some n) (l : Loaded) (files : Tree) :
    (runLoaded l command : StateM Tree _) files =
      ({ exitCode := (answer l command).1, stdout := (answer l command).2 }, files) := by
  cases command with
  | method | trace => rfl
  | classes | classMethods | entrypoints | stats | exportSite => cases hcommand

theorem answer_encoded (h : l.graph.Legible) (hcommand : command.method? = some n)
    (hn : n ∈ l.graph.methodList) : answer l command.encoded = answer l command ∧ (answer l command).1 = 0 := by
  obtain ⟨m, -, -, hraw, hencoded⟩ := Tools.exists_isAnsweredAs h hn
  cases command with
  | method name asJson =>
    obtain rfl : name = n := Option.some.inj hcommand
    cases asJson with
    | true => exact ⟨hencoded.methodJson.trans hraw.methodJson.symm, congrArg Prod.fst hraw.methodJson⟩
    | false => exact ⟨hencoded.methodLines.trans hraw.methodLines.symm, congrArg Prod.fst hraw.methodLines⟩
  | trace name maxDepth asJson =>
    obtain rfl : name = n := Option.some.inj hcommand
    cases asJson with
    | true =>
      exact ⟨(hencoded.traceJson maxDepth).trans (hraw.traceJson maxDepth).symm,
        congrArg Prod.fst (hraw.traceJson maxDepth)⟩
    | false =>
      exact ⟨(hencoded.traceLines maxDepth).trans (hraw.traceLines maxDepth).symm,
        congrArg Prod.fst (hraw.traceLines maxDepth)⟩
  | classes | classMethods | entrypoints | stats | exportSite => cases hcommand

/-- Two runs that ask for a method, the one by its signature and the other one by its signature encoded, are the
same, and show what the command shows of the trace. -/
theorem run_encoded {r : Reader} {env : Environment} {args args' : List String} {file : Option Path} {setup : Setup}
    {path : Path} {files : Tree} {octets : List UInt8} (h : Asks r env args file setup command)
    (h' : Asks r env args' file setup command.encoded) (hcommand : command.method? = some n)
    (hpath : traceFile env file = .ok path) (hread : files.read path = .ok octets)
    (hlegible : (loadOctets octets).graph.Legible) (hn : n ∈ (loadOctets octets).graph.methodList) :
    ∃ outcome, (runWith r env args : StateM Tree Outcome) files = (outcome, files) ∧
      (runWith r env args' : StateM Tree Outcome) files = (outcome, files) ∧
      (outcome.exitCode, outcome.stdout) = answer (loadOctets octets) command ∧ outcome.exitCode = 0 ∧
      outcome.fault = none ∧ outcome.usage = none := by
  obtain ⟨events, hopen⟩ := openTrace_tree hpath hread
  have hencoded : command.encoded.method? = some n.encoded := by
    cases command <;> cases hcommand <;> rfl
  obtain ⟨hanswer, hcode⟩ := answer_encoded hlegible hcommand hn
  have hloaded := runLoaded_of_method hcommand (loadOctets octets) files
  have hloaded' := runLoaded_of_method hencoded (loadOctets octets) files
  rw [hanswer] at hloaded'
  exact ⟨_, run_of_opened h hopen hloaded, run_of_opened h' hopen hloaded', rfl, hcode, rfl, rfl⟩

/-- **A signature may be given as it is or percent-encoded.** A method of a trace is meant by either, and the
tools and the commands answer for it alike, whatever other signatures its class has. So two runs of the program
that ask for it in the two ways are the same, whatever way command lines are read. -/
theorem load_answers_encoded (lines : List String) {n : MethodName} (hn : n ∈ (load lines).graph.methodList) :
    let l := load lines
    (∃ m, l.graph.methods[m.id]? = some m ∧ m.name = n ∧
      Tools.IsAnsweredAs l m n ∧ Tools.IsAnsweredAs l m n.encoded) ∧
    ∀ {r env args args' file setup command path octets} {files : Tree},
      Asks r env args file setup command → Asks r env args' file setup command.encoded →
      command.method? = some n → traceFile env file = .ok path → files.read path = .ok octets →
      loadOctets octets = l →
      ∃ outcome, (runWith r env args : StateM Tree Outcome) files = (outcome, files) ∧
        (runWith r env args' : StateM Tree Outcome) files = (outcome, files) ∧
        (outcome.exitCode, outcome.stdout) = answer l command ∧ outcome.exitCode = 0 ∧
        outcome.fault = none ∧ outcome.usage = none := by
  intro l
  have hlegible : l.graph.Legible := load_legible lines
  have hmem : n ∈ l.graph.methodList := hn
  clear_value l
  refine ⟨Tools.exists_isAnsweredAs hlegible hmem, ?_⟩
  rintro r env args args' file setup command path octets files h h' hcommand hpath hread rfl
  exact run_encoded h h' hcommand hpath hread hlegible hmem

/-- A signature with an escape in it, in a class that has a method of the signature decoded. It means itself if it
is given as it is, and is told from the other one if it is given encoded. -/
theorem load_answers_encoded_escape :
    let lines := ["trace", "    entry app.Main.f(%28):", "        directly calls app.Main.f(():"]
    let n : MethodName := ⟨"app.Main", "f(%28)"⟩
    let other : MethodName := ⟨"app.Main", Text.Percent.decode n.signature⟩
    let octets := Text.Utf8.encode (Text.ended ['\n'] lines)
    let files : Tree := ⟨[(["trace"], .file octets)]⟩
    let path : Path := ⟨.current, ["trace"]⟩
    let args := ["-f", "trace", "method", "--json", "--", "app.Main", "f(%28)"]
    let args' := ["-f", "trace", "method", "--json", "--", "app.Main", "f%28%2528%29"]
    n ∈ (load lines).graph.methodList ∧ other ∈ (load lines).graph.methodList ∧ other ≠ n ∧
    (∃ setup, Asks reader {} args (some path) setup (.method n true) ∧
      Asks reader {} args' (some path) setup (.method n.encoded true)) ∧
    (Command.method n true).method? = some n ∧
    traceFile {} (some path) = .ok path ∧ files.read path = .ok octets ∧ loadOctets octets = load lines ∧
    resolve (load lines).graph n = n ∧ resolve (load lines).graph n.encoded = n ∧
    Tools.lookup (load lines).graph n.className n.signature = n.signature ∧
    Tools.lookup (load lines).graph n.className n.encoded.signature = n.signature ∧
    ∃ outcome, (run {} args : StateM Tree Outcome) files = (outcome, files) ∧
      (run {} args' : StateM Tree Outcome) files = (outcome, files) ∧ outcome.exitCode = 0 ∧
      outcome.stdout = "\x7b\"class_name\": \"app.Main\", \"signature\": \"f(%28)\", " ++
        "\"forward\": [\x7b\"call_type\": \"directly calls\", \"class_name\": \"app.Main\", " ++
        "\"signature\": \"f(()\"\x7d], \"reverse\": []\x7d\n" := by
  intro lines n other octets files path args args'
  have hn : n ∈ (load lines).graph.methodList := by decide +kernel
  obtain ⟨asJson, hsetup⟩ : ∃ asJson, Setup.choose {} (some "WARNING") none = .ok ⟨30, asJson⟩ :=
    exists_setup (by decide +kernel)
  have hraw : Asks reader {} args (some path) ⟨30, asJson⟩ (.method n true) :=
    ⟨⟨some path, "WARNING", "method", ["--json", "--", "app.Main", "f(%28)"]⟩, by rfl, rfl, hsetup, by rfl⟩
  have hsignature : n.encoded = ⟨"app.Main", "f%28%2528%29"⟩ := by decide +kernel
  have hencoded : Asks reader {} args' (some path) ⟨30, asJson⟩ (.method n.encoded true) := by
    rw [hsignature]
    exact ⟨⟨some path, "WARNING", "method", ["--json", "--", "app.Main", "f%28%2528%29"]⟩, by rfl, rfl, hsetup,
      by rfl⟩
  have hpath : traceFile {} (some path) = .ok path := by rfl
  have hfile (octets : List UInt8) :
      (⟨[(["trace"], .file octets)]⟩ : Tree).read ⟨.current, ["trace"]⟩ = .ok octets := by rfl
  have hread : files.read path = .ok octets := hfile octets
  have hinner : ∀ line ∈ lines, Text.IsInner line := by decide
  have hload : loadOctets octets = load lines := loadOctets_ended (by simp [Text.endings]) hinner
  obtain ⟨⟨m, -, hname, hanswer, hanswer'⟩, hruns⟩ := load_answers_encoded lines hn
  obtain ⟨outcome, hrun, hrun', hshown, hcode, -⟩ := hruns hraw hencoded rfl hpath hread hload
  have hmeant : m.name.signature = n.signature := congrArg MethodName.signature hname
  have htext : (answer (load lines) (.method n true)).2 = outcome.stdout := (congrArg Prod.snd hshown).symm
  refine ⟨hn, by decide +kernel, by decide +kernel, ⟨_, hraw, hencoded⟩, rfl, hpath, hread, hload,
    hanswer.resolve.trans hname, hanswer'.resolve.trans hname, hanswer.lookup.trans hmeant,
    hanswer'.lookup.trans hmeant, outcome, hrun, hrun', hcode, ?_⟩
  rw [← htext]
  decide +kernel

end Cli

end CallAtlas
