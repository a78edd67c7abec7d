import CallAtlas.Cli.Run
import CallAtlas.File.Tree
import CallAtlas.Proofs.Json.Reading
import CallAtlas.Proofs.Tools.Questions

/-!
# Commands and tools answer alike

What can be asked of the tools can be asked on a command line. The answer is the same, and the exit code tells
whether it is an error.

* `Question.command`: the command that asks a question; `Command.parse_words`: every question can be put on a
  command line, whatever its names look like.
* `resolve_eq`, `encodeTree_eq`: commands and tools take a signature for the same one, and make the same of a tree.
  `classAnswer_eq`, `methodAnswer_eq`, `traceAnswer_eq`: so they find the same, and refuse the same.
* `answer_command`: the exit code and the text of the command, from the tool's answer.
* `Asks`: what a command line asks for. `run_of_opened`: a run on a trace that has been read; `run_command`: the run
  that asks a question.
* `command_agrees_with_tool`: the two answers are one.
-/

namespace CallAtlas.Tools.Question

/-- The command that asks the question and wants JSON. -/
def command : Question → Cli.Command
  | classes => .classes true
  | entrypoints => .entrypoints true
  | classMethods name => .classMethods name true
  | method name => .method name true
  | trace name maxDepth => .trace name (maxDepth.getD Cli.defaultDepth) true
  | stats => .stats true

/-- What the command shows of the tool's answer: a list stands alone. -/
def shownPart? (answer : Json) : Question → Option Json
  | classes | entrypoints => answer.member? "results"
  | classMethods _ | method _ | trace .. | stats => some answer

/-- The limit of depth that the question names. -/
def limit? : Question → Option Int
  | trace _ maxDepth => maxDepth
  | classes | entrypoints | classMethods _ | method _ | stats => none

/-- The name of the command. -/
def commandName : Question → String
  | classes => "classes"
  | entrypoints => "entrypoints"
  | classMethods _ => "class"
  | method _ => "method"
  | trace .. => "trace"
  | stats => "stats"

/-- What follows the name of the command, with `numeral` for the limit of depth. -/
def words (numeral : String) : Question → List String
  | classes | entrypoints | stats => ["--json", "--"]
  | classMethods name => ["--json", "--", name]
  | method name => ["--json", "--", name.className, name.signature]
  | trace name none => ["--json", "--", name.className, name.signature]
  | trace name (some _) => ["--json", "--depth", numeral, "--", name.className, name.signature]

end CallAtlas.Tools.Question

namespace CallAtlas.Cli

open CallAtlas.Graph Browse
open File (Path Tree)
open Log (Setup)
open Tools (Question)

/-! ## Command lines -/

theorem depthOf_of_value {s : Scanned} {numeral : String} {d : Int}
    (hvalue : s.value? depthOption.long = some numeral) (hd : Text.integer? numeral = some d) :
    depthOf s = .ok d := by
  unfold depthOf
  rw [hvalue]
  dsimp only
  rw [hd]

theorem Command.ofScanned_trace {s : Scanned} {name : MethodName} {d : Int} (hdepth : depthOf s = .ok d)
    (hname : nameArguments s.arguments = .ok name) :
    Command.ofScanned "trace" s = .ok (.trace name d (s.has jsonOption.long)) := by
  simp only [Command.ofScanned, hdepth, hname]
  rfl

/-- Every question can be put on a command line, since after two dashes a name may look like an option. -/
theorem Command.parse_words (q : Question) {numeral : String}
    (h : ∀ d ∈ q.limit?, Text.integer? numeral = some d) :
    Command.parse q.commandName (q.words numeral) = .ok (.run q.command) := by
  cases q with
  | classes => rfl
  | entrypoints => rfl
  | classMethods name => rfl
  | method name => rfl
  | trace name maxDepth =>
    cases maxDepth with
    | none => rfl
    | some d =>
      let s : Scanned :=
        ⟨[⟨"--json", none⟩, ⟨"--depth", some numeral⟩], [name.className, name.signature]⟩
      have hdepth : depthOf s = .ok d := depthOf_of_value rfl (h d rfl)
      have hname : nameArguments s.arguments = .ok name := rfl
      show (Command.ofScanned "trace" s).map Request.run = _
      rw [Command.ofScanned_trace hdepth hname]
      rfl
  | stats => rfl

/-! ## The same is found -/

/-- A command takes a name for the one that a tool looks up. -/
theorem resolve_eq (g : CallGraph) (name : MethodName) :
    resolve g name = ⟨name.className, Tools.lookup g name.className name.signature⟩ := by
  unfold resolve Tools.lookup
  dsimp only
  cases g.method? name with
  | some m => rfl
  | none => cases g.method? ⟨name.className, Text.Percent.decode name.signature⟩ <;> rfl

/-- A type that a command shows is a type that a tool shows. -/
theorem str?_callLabel? (d : Direction) (v : Visit) :
    Json.str? (callLabel? d v) = Tools.encodeCallType (d == .callers) v.edge := by
  rw [callLabel?]
  cases v.edge with
  | none => rfl
  | some e => cases d <;> rfl

mutual

theorem encodeTree_eq (d : Direction) : ∀ t : CallTree, encodeTree d t = Tools.encodeTree (d == .callers) t
  | .node v cs => by rw [encodeTree, Tools.encodeTree, str?_callLabel?, encodeForest_eq d cs]

theorem encodeForest_eq (d : Direction) :
    ∀ ts : List CallTree, encodeForest d ts = Tools.encodeTrees (d == .callers) ts
  | [] => rfl
  | t :: ts => by rw [encodeForest, Tools.encodeTrees, encodeTree_eq d t, encodeForest_eq d ts]

end

theorem encodeTree?_eq (d : Direction) (t : Option CallTree) :
    (t.map (encodeTree d)).getD .null = Tools.encodeTree? (d == .callers) t := by
  cases t with
  | none => rfl
  | some t => exact encodeTree_eq d t

/-- The trees around a method, as a tool shows them. -/
theorem encodeTrace_eq (g : CallGraph) (m : MethodNode) (maxDepth : Int) :
    encodeTrace ⟨m.name, g.tree? .callers m.id maxDepth, g.tree? .callees m.id maxDepth⟩ =
      Tools.traceObject g m maxDepth := by
  rw [Tools.traceObject, encodeTrace]
  dsimp only
  rw [encodeTree?_eq, encodeTree?_eq]
  rfl

/-- What is found, or what is not found, as JSON. -/
def reply {α : Type} (encode : α → Json) : Except NotFound α → Json
  | .ok a => encode a
  | .error e => e.encode

theorem classAnswer_eq (g : CallGraph) (name : String) :
    Tools.classAnswer g name = reply encodeClass (findClass g name) := by
  unfold Tools.classAnswer findClass
  cases g.classInfo? name <;> rfl

theorem methodAnswer_eq (g : CallGraph) (name : MethodName) :
    Tools.methodAnswer g name.className name.signature = reply encodeMethod (findMethod g name) := by
  unfold Tools.methodAnswer findMethod
  dsimp only
  rw [resolve_eq]
  cases g.class? name.className with
  | none => rfl
  | some c => cases g.methodInfo? ⟨name.className, Tools.lookup g name.className name.signature⟩ <;> rfl

theorem noStart_message (className signature : String) :
    "Method " ++ className ++ "." ++ signature ++ " not found" =
      (NotFound.noStart ⟨className, signature⟩).message := by
  rw [NotFound.message, MethodName.qualified]
  simp only [String.append_assoc]

theorem traceAnswer_eq (g : CallGraph) (name : MethodName) (maxDepth : Int) :
    Tools.traceAnswer g name.className name.signature maxDepth = reply encodeTrace (findTrace g name maxDepth) := by
  unfold Tools.traceAnswer findTrace
  dsimp only
  rw [resolve_eq]
  cases g.method? ⟨name.className, Tools.lookup g name.className name.signature⟩ with
  | none => exact congrArg Tools.errorObject (noStart_message _ _)
  | some m => exact (encodeTrace_eq g m maxDepth).symm

/-! ## Answers -/

theorem unlines_singleton (line : String) : unlines [line] = line ++ "\n" := by
  rw [unlines, List.map_singleton, String.join, List.foldl_cons, List.foldl_nil, String.empty_append]

/-- The exit code tells whether the JSON is that of an error, and the text is the JSON on a line. -/
theorem shown_json {α : Type} {encode : α → Json} (hplain : ∀ a, (encode a).member? "error" = none)
    (report : α → List String) (result : Except NotFound α) :
    shown true encode report result =
      (if ((reply encode result).member? "error").isSome then failedCode else 0,
        (reply encode result).compact ++ "\n") := by
  cases result with
  | ok a =>
    rw [shown, if_pos rfl, unlines_singleton, reply, hplain]
    rfl
  | error e =>
    rw [shown, if_pos rfl, unlines_singleton]
    rfl

/-- The exit code and the text of the command, from the tool's answer. -/
theorem answer_command (l : Loaded) (q : Question) : ∃ part, q.shownPart? (q.answer l) = some part ∧
    (((q.answer l).member? "error").isSome → part = q.answer l) ∧
    answer l q.command =
      (if ((q.answer l).member? "error").isSome then failedCode else 0, part.compact ++ "\n") := by
  cases q with
  | classes => exact ⟨_, rfl, nofun, shown_json (fun _ => rfl) classLines (.ok l.graph)⟩
  | entrypoints => exact ⟨_, rfl, nofun, shown_json (fun _ => rfl) entrypointLines (.ok l.graph)⟩
  | classMethods name =>
    refine ⟨_, rfl, fun _ => rfl, ?_⟩
    rw [Question.answer, classAnswer_eq]
    exact shown_json (fun _ => rfl) _ _
  | method name =>
    refine ⟨_, rfl, fun _ => rfl, ?_⟩
    rw [Question.answer, methodAnswer_eq]
    exact shown_json (fun _ => rfl) _ _
  | trace name maxDepth =>
    refine ⟨_, rfl, fun _ => rfl, ?_⟩
    rw [Question.answer, traceAnswer_eq]
    exact shown_json (fun _ => rfl) _ _
  | stats =>
    have hplain : ∀ l : Loaded, (encodeStats l.graph l.stats).member? "error" = none := fun _ => rfl
    refine ⟨encodeStats l.graph l.stats, rfl, fun _ => rfl, ?_⟩
    exact shown_json hplain (fun l => statsLines l.graph l.stats) (.ok l)

/-! ## Runs -/

/-- The command line, as `r` reads it, asks for the command, on the trace in that file and with that log. -/
def Asks (r : Reader) (env : Environment) (args : List String) (file : Option Path) (setup : Setup)
    (command : Command) : Prop :=
  ∃ i, r.invocation env args = .ok (.run i) ∧ i.file = file ∧
    Setup.choose env (some i.logLevel) none = .ok setup ∧ r.command i.command i.arguments = .ok (.run command)

section

variable {r : Reader} {env : Environment} {args : List String} {file : Option Path} {setup : Setup} {path : Path}
  {files : Tree} {octets : List UInt8} {command : Command}

/-- The second step starts with what the first one leaves. -/
theorem bind_apply {α β : Type} (first : StateM Tree α) (next : α → StateM Tree β) :
    (first >>= next) files = next (first files).1 (first files).2 :=
  rfl

theorem openTrace_tree (hpath : traceFile env file = .ok path) (hread : files.read path = .ok octets) : ∃ events,
    (openTrace env file : StateM Tree _) files = ((events, .ok (loadOctets octets)), files) := by
  have hload : (loadFile path : StateM Tree _) files = (loadContent path (.ok octets), files) := by
    show (loadContent path (files.read path), files) = _
    rw [hread]
  refine ⟨(loadContent path (.ok octets)).1, ?_⟩
  rw [openTrace, hpath]
  dsimp only
  rw [bind_apply, hload]
  rfl

/-- The run of a command that a command line asks for. -/
theorem runWith_of_asks (h : Asks r env args file setup command) :
    (runWith r env args : StateM Tree Outcome) = runCommand env file setup command := by
  obtain ⟨i, hinvocation, rfl, hsetup, hcommand⟩ := h
  unfold runWith
  rw [hinvocation]
  dsimp only
  rw [hsetup]
  dsimp only
  rw [hcommand]

/-- The run of a command on a trace that has been read, from what the command does with the trace. -/
theorem run_of_opened {l : Loaded} {events : List Log.Event} {code : Nat} {text : String}
    (h : Asks r env args file setup command)
    (hopen : (openTrace env file : StateM Tree _) files = ((events, .ok l), files))
    (hloaded : (runLoaded l command : StateM Tree _) files = ({ exitCode := code, stdout := text }, files)) :
    (runWith r env args : StateM Tree Outcome) files =
      ({ exitCode := code, stdout := text, setup := some setup, events := setup.admit (events ++ []) }, files) := by
  rw [runWith_of_asks h, runCommand, bind_apply, hopen]
  dsimp only
  rw [bind_apply, hloaded]
  rfl

/-- A command that asks a question only reads. -/
theorem runLoaded_command (l : Loaded) (q : Question) (files : Tree) :
    (runLoaded l q.command : StateM Tree _) files =
      ({ exitCode := (answer l q.command).1, stdout := (answer l q.command).2 }, files) := by
  cases q <;> rfl

/-- The run of a command that asks a question shows what the command shows of the trace, and leaves the
files. -/
theorem run_command {q : Question} (h : Asks r env args file setup q.command)
    (hpath : traceFile env file = .ok path) (hread : files.read path = .ok octets) :
    ∃ outcome, (runWith r env args : StateM Tree Outcome) files = (outcome, files) ∧
      (outcome.exitCode, outcome.stdout) = answer (loadOctets octets) q.command ∧
      outcome.fault = none ∧ outcome.usage = none := by
  obtain ⟨events, hopen⟩ := openTrace_tree hpath hread
  exact ⟨_, run_of_opened h hopen (runLoaded_command (loadOctets octets) q files), rfl, rfl, rfl⟩

end

/-- **Commands and tools give one answer.** Let a command line ask a question, with the answer as JSON, whatever
way command lines are read, on a trace that can be read. The run prints one JSON value on a line, which is what the
tool of that question answers on the same trace, or the list in it where that is a list. The exit code is 1 if the
tool's answer is an error, which is then printed whole, and 0 if it is not. -/
theorem command_agrees_with_tool {r : Reader} {env : Environment} {args : List String} {file : Option Path}
    {setup : Setup} {path : Path} {files : Tree} {octets : List UInt8} {q : Question}
    (h : Asks r env args file setup q.command) (hpath : traceFile env file = .ok path)
    (hread : files.read path = .ok octets) :
    ∃ outcome reply part, (runWith r env args : StateM Tree Outcome) files = (outcome, files) ∧
      Tools.dispatch (loadOctets octets) q.tool q.arguments = .ok reply ∧
      q.shownPart? reply = some part ∧
      outcome.stdout = part.compact ++ "\n" ∧ Json.read? outcome.stdout = some part ∧
      outcome.exitCode = (if (reply.member? "error").isSome then 1 else 0) ∧
      ((reply.member? "error").isSome → part = reply) ∧
      outcome.fault = none ∧ outcome.usage = none := by
  obtain ⟨outcome, hrun, hanswer, hfault, husage⟩ := run_command h hpath hread
  obtain ⟨part, hpart, hwhole, hshown⟩ := answer_command (loadOctets octets) q
  rw [hshown, Prod.mk.injEq] at hanswer
  have hvalue : Json.read? outcome.stdout = some part := by
    rw [hanswer.2]
    exact Json.read?_compact_append part "\n" (by decide +kernel)
  exact ⟨outcome, _, part, hrun, Tools.dispatch_question _ q, hpart, hanswer.2, hvalue, hanswer.1, hwhole, hfault,
    husage⟩

/-- The log is set up if the level has a name that is known. -/
theorem exists_setup {env : Environment} {level format : Option String} {n : Nat}
    (h : Log.threshold? ((Log.nonempty? level).getD (env.logLevel.getD "INFO")) = some n) :
    ∃ asJson, Setup.choose env level format = .ok ⟨n, asJson⟩ := by
  unfold Setup.choose
  dsimp only
  rw [h]
  exact ⟨_, rfl⟩

/-- The trees around a method that is asked for by its encoded signature, in a trace where it calls a method that
wakes it. -/
theorem command_agrees_with_tool_encoded :
    let octets := Text.Utf8.encode ("trace\n    entry app.Main.main():\n" ++
      "        directly calls app.Main.run(int):\n            wakes app.Main.main():\n").toList
    let files : Tree := ⟨[(["trace"], .file octets)]⟩
    let path : Path := ⟨.current, ["trace"]⟩
    let args := ["-f", "trace", "trace", "--json", "--depth", "1", "--", "app.Main", "main%28%29"]
    let q : Question := .trace ⟨"app.Main", "main%28%29"⟩ (some 1)
    (∃ setup, Asks reader {} args (some path) setup q.command) ∧
    traceFile {} (some path) = .ok path ∧ files.read path = .ok octets ∧
    ∃ outcome reply, (run {} args : StateM Tree Outcome) files = (outcome, files) ∧
      Tools.dispatch (loadOctets octets) q.tool q.arguments = .ok reply ∧
      Json.read? outcome.stdout = some reply ∧ outcome.exitCode = 0 ∧
      outcome.stdout = "\x7b\"start\": \"app.Main.main()\", " ++
        "\"callers\": \x7b\"class_name\": \"app.Main\", \"signature\": \"main()\", \"call_type\": null, " ++
          "\"depth\": 0, \"children\": [\x7b\"class_name\": \"app.Main\", \"signature\": \"run(int)\", " ++
          "\"call_type\": \"REV(wakes)\", \"depth\": 1, \"children\": []\x7d]\x7d, " ++
        "\"callees\": \x7b\"class_name\": \"app.Main\", \"signature\": \"main()\", \"call_type\": null, " ++
          "\"depth\": 0, \"children\": [\x7b\"class_name\": \"app.Main\", \"signature\": \"run(int)\", " ++
          "\"call_type\": \"directly calls\", \"depth\": 1, \"children\": []\x7d]\x7d\x7d\n" := by
  intro octets files path args q
  have hinvocation : Invocation.parse {} args =
      .ok (.run ⟨some path, "WARNING", q.commandName, q.words "1"⟩) := by rfl
  obtain ⟨asJson, hsetup⟩ : ∃ asJson, Setup.choose {} (some "WARNING") none = .ok ⟨30, asJson⟩ :=
    exists_setup (by decide +kernel)
  have hlimit : ∀ d ∈ q.limit?, Text.integer? "1" = some d := by
    intro d hd
    obtain rfl : 1 = d := Option.some.inj hd
    decide +kernel
  have hasks : Asks reader {} args (some path) ⟨30, asJson⟩ q.command :=
    ⟨_, hinvocation, rfl, hsetup, Command.parse_words q hlimit⟩
  have hpath : traceFile {} (some path) = .ok path := by rfl
  have hfile (octets : List UInt8) :
      (⟨[(["trace"], .file octets)]⟩ : Tree).read ⟨.current, ["trace"]⟩ = .ok octets := by rfl
  have hread : files.read path = .ok octets := hfile octets
  refine ⟨⟨_, hasks⟩, hpath, hread, ?_⟩
  obtain ⟨outcome, reply, part, hrun, hreply, hpart, hstdout, hvalue, hcode, -⟩ :=
    command_agrees_with_tool hasks hpath hread
  obtain rfl : reply = part := Option.some.inj hpart
  have hanswer := hreply
  rw [Tools.dispatch_question, Except.ok.injEq] at hanswer
  have hfound : (reply.member? "error").isSome = false := by
    rw [← hanswer]
    decide +kernel
  refine ⟨outcome, reply, hrun, hreply, hvalue, ?_, ?_⟩
  · rw [hcode, hfound]
    rfl
  · rw [hstdout, ← hanswer]
    decide +kernel

end CallAtlas.Cli
