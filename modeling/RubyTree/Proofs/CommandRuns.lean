import Mathlib
import RubyTree.Program
import RubyTree.Proofs.Results
import RubyTree.Proofs.RuleBooks
import RubyTree.Proofs.SettingChange

/-!
Runs of the program that render a document. The config, the input, the document and its rendering follow
one another, the first of them that fails puts an end to the run, and the text is printed only if none
does. Of the verbatim node types it matters which there are, not where or how often they are named.
-/

namespace RubyTree

namespace Request

section Parts

variable (world : World) (request : Request)

/-- The config that a request starts from: the default one, or that of the file it names. -/
inductive StartsFrom : Config → Prop where
  | default (unnamed : request.config = none) : StartsFrom {}
  | file {path text : String} {bytes : ByteArray} {config : Config} (named : request.config = some path)
    (read : world.file path = .ok bytes) (decoded : String.fromUTF8? bytes = some text)
    (valid : Config.ofYaml? text = some config) : StartsFrom config

/-- What the options of a request make of a config: a policy takes precedence, a fallback may be switched
off, and verbatim node types are added. -/
structure Changes (before after : Config) : Prop where
  policy : after.beginPolicy = request.beginPolicy.getD before.beginPolicy
  fallback : after.sourceFallback = if request.noSourceFallback then false else before.sourceFallback
  verbatim : after.verbatimTags = before.verbatimTags ++ request.verbatim

def Configures (config : Config) : Prop :=
  ∃ base, request.StartsFrom world base ∧ request.Changes base config

/-- A dash stands for standard input, and so does no input at all. -/
def ReadsStdin : Prop := request.input = none ∨ request.input = some "-"

def inputBytes : Except ReadFault ByteArray :=
  match request.input with
  | none | some "-" => world.stdin
  | some path => world.file path

/-- The text of the document, if the input is one. -/
def Reads (text : String) : Prop :=
  ∃ bytes, request.inputBytes world = .ok bytes ∧ String.fromUTF8? bytes = some text

/-- All goes well, and a text comes out. -/
inductive Yields : String → Prop where
  | mk {config : Config} {text rendered : String} {document : Document}
    (configured : request.Configures world config) (read : request.Reads world text)
    (loaded : Document.load text = .ok document)
    (written : document.root.renderWith (.ofConfig config) = .ok rendered) : Yields rendered

/-- The first part of a run that fails, by what the program was about to do; all parts before it went
well. -/
inductive FailsTo : String → Prop where
  | config {path : String} (named : request.config = some path)
    (failed : ∀ config, ¬request.Configures world config) :
    FailsTo ("Failed to load config from " ++ path)
  | stdin {config : Config} (configured : request.Configures world config)
    (stdin : request.ReadsStdin) (failed : ∀ text, ¬request.Reads world text) :
    FailsTo "Failed to read stdin"
  | input {config : Config} {path : String} (configured : request.Configures world config)
    (file : ¬request.ReadsStdin) (named : request.input = some path)
    (failed : ∀ text, ¬request.Reads world text) :
    FailsTo ("Failed to read " ++ path)
  | document {config : Config} {text : String} (configured : request.Configures world config)
    (read : request.Reads world text) (failed : ∀ document, Document.load text ≠ .ok document) :
    FailsTo "Failed to load AST document"
  | render {config : Config} {text : String} {document : Document}
    (configured : request.Configures world config) (read : request.Reads world text)
    (loaded : Document.load text = .ok document)
    (failed : ∀ rendered, document.root.renderWith (.ofConfig config) ≠ .ok rendered) :
    FailsTo "Failed to render AST"

variable {world request}

theorem textOfBytes_eq_ok {bytes : ByteArray} {text : String} :
    textOfBytes bytes = .ok text ↔ String.fromUTF8? bytes = some text := by
  unfold textOfBytes
  cases String.fromUTF8? bytes <;> simp

theorem baseConfig_eq_ok {base : Config} :
    request.baseConfig world = .ok base ↔ request.StartsFrom world base := by
  have valid (text : String) : Config.ofYaml text = .ok base ↔ Config.ofYaml? text = some base := by
    unfold Config.ofYaml
    cases Config.ofYaml? text <;> simp
  unfold baseConfig
  cases named : request.config with
  | none =>
    constructor
    · rintro ⟨⟩
      exact .default named
    · rintro (_ | ⟨given, _, _, _⟩)
      · rfl
      · simp [named] at given
  | some path =>
    simp only [mapError_eq_ok, Config.ofFile, World.fileText, bind_eq_ok, textOfBytes_eq_ok, valid]
    constructor
    · rintro ⟨text, ⟨bytes, read, decoded⟩, parsed⟩
      exact .file named read decoded parsed
    · rintro (unnamed | ⟨given, read, decoded, parsed⟩)
      · simp [named] at unnamed
      · obtain rfl := Option.some.inj (named.symm.trans given)
        exact ⟨_, ⟨_, read, decoded⟩, parsed⟩

theorem baseConfig_error {failure : Failure} (failed : request.baseConfig world = .error failure) :
    ∃ path, request.config = some path ∧ failure.context = "Failed to load config from " ++ path := by
  unfold baseConfig at failed
  split at failed
  · cases failed
  · next path named =>
    obtain ⟨error, _, rfl⟩ := mapError_eq_error.mp failed
    exact ⟨path, named, rfl⟩

theorem changes_iff {before after : Config} :
    request.Changes before after ↔ after = request.adjust before := by
  obtain ⟨policy, fallback, verbatim⟩ := after
  constructor
  · rintro ⟨rfl, rfl, rfl⟩
    cases off : request.noSourceFallback <;> simp [adjust, off]
  · intro same
    cases same
    refine ⟨rfl, ?_, rfl⟩
    cases off : request.noSourceFallback <;> simp

theorem configures_iff {config : Config} :
    request.Configures world config ↔
      ∃ base, request.baseConfig world = .ok base ∧ config = request.adjust base := by
  simp only [Configures, baseConfig_eq_ok, changes_iff]

def inputFailure (request : Request) (fault : ReadFault) : Failure :=
  match request.input with
  | none | some "-" => .stdin fault
  | some path => .input path fault

theorem inputText_eq (world : World) (request : Request) :
    request.inputText world =
      (request.inputBytes world >>= textOfBytes).mapError request.inputFailure := by
  unfold inputText inputBytes inputFailure
  cases request.input with
  | none => rfl
  | some path =>
    by_cases dash : path = "-"
    · subst dash
      rfl
    · simp only [World.fileText]

theorem inputText_eq_ok {text : String} :
    request.inputText world = .ok text ↔ request.Reads world text := by
  simp only [inputText_eq, mapError_eq_ok, bind_eq_ok, textOfBytes_eq_ok, Reads]

theorem inputFailure_context (request : Request) (fault : ReadFault) :
    request.ReadsStdin ∧ (request.inputFailure fault).context = "Failed to read stdin" ∨
    ¬request.ReadsStdin ∧ ∃ path, request.input = some path ∧
      (request.inputFailure fault).context = "Failed to read " ++ path := by
  unfold inputFailure
  split
  · next unnamed => exact .inl ⟨.inl unnamed, rfl⟩
  · next dash => exact .inl ⟨.inr dash, rfl⟩
  · next path noDash named =>
    refine .inr ⟨?_, path, named, rfl⟩
    rintro (unnamed | dash)
    · simp [named] at unnamed
    · exact noDash (Option.some.inj (named.symm.trans dash))

end Parts

section Runs

variable {world : World} {request : Request}

theorem run_eq_ok {rendered : String} :
    request.run world = .ok rendered ↔ request.Yields world rendered := by
  simp only [run, bind_eq_ok, mapError_eq_ok, inputText_eq_ok]
  constructor
  · rintro ⟨base, started, text, read, document, loaded, written⟩
    exact .mk (configures_iff.mpr ⟨base, started, rfl⟩) read loaded written
  · rintro ⟨configured, read, loaded, written⟩
    obtain ⟨base, started, rfl⟩ := configures_iff.mp configured
    exact ⟨base, started, _, read, _, loaded, written⟩

/-- A run that fails does so for the first of its parts that fails. -/
theorem run_error {failure : Failure} (failed : request.run world = .error failure) :
    request.FailsTo world failure.context := by
  rcases bind_eq_error.mp failed with base | ⟨base, started, failed⟩
  · obtain ⟨path, named, context⟩ := baseConfig_error base
    rw [context]
    refine .config named fun config configured => ?_
    obtain ⟨_, started, _⟩ := configures_iff.mp configured
    simp [base] at started
  have configured : request.Configures world (request.adjust base) :=
    configures_iff.mpr ⟨base, started, rfl⟩
  rcases bind_eq_error.mp failed with input | ⟨text, supplied, failed⟩
  · have noText : ∀ text, ¬request.Reads world text := by
      intro text read
      simp [inputText_eq_ok.mpr read] at input
    rw [inputText_eq] at input
    obtain ⟨fault, _, rfl⟩ := mapError_eq_error.mp input
    rcases request.inputFailure_context fault with ⟨stdin, context⟩ | ⟨file, path, named, context⟩
    · rw [context]
      exact .stdin configured stdin noText
    · rw [context]
      exact .input configured file named noText
  have read := inputText_eq_ok.mp supplied
  rcases bind_eq_error.mp failed with loading | ⟨document, loading, failed⟩
  · obtain ⟨error, refused, rfl⟩ := mapError_eq_error.mp loading
    exact .document configured read fun document => by simp [refused]
  · obtain ⟨error, unwritten, rfl⟩ := mapError_eq_error.mp failed
    exact .render configured read (mapError_eq_ok.mp loading) fun rendered => by simp [unwritten]

end Runs

section Naming

/-- Two requests, each in its own world, that take the same document from the same place and come to the
same policy and fallback. The files and the options name the same verbatim node types, all in all. -/
inductive SameButNaming (world world' : World) (request request' : Request) : Prop where
  | mk {base base' config config' : Config}
    (input : request'.input = request.input)
    (bytes : request'.inputBytes world' = request.inputBytes world)
    (started : request.StartsFrom world base) (changed : request.Changes base config)
    (started' : request'.StartsFrom world' base') (changed' : request'.Changes base' config')
    (policy : config'.beginPolicy = config.beginPolicy)
    (fallback : config'.sourceFallback = config.sourceFallback)
    (verbatim : ∀ name, name ∈ base'.verbatimTags ∨ name ∈ request'.verbatim ↔
      name ∈ base.verbatimTags ∨ name ∈ request.verbatim)

/-- A tree is rendered by the set of verbatim node types. -/
theorem renderWith_ofConfig_congr {config config' : Config}
    (policy : config'.beginPolicy = config.beginPolicy)
    (fallback : config'.sourceFallback = config.sourceFallback)
    (verbatim : ∀ name, name ∈ config'.verbatimTags ↔ name ∈ config.verbatimTags) (node : Node) :
    node.renderWith (.ofConfig config') = node.renderWith (.ofConfig config) := by
  have lookup : RuleBook.Alike (.ofConfig config) (.ofConfig config') :=
    RuleBook.alike_relisted .builtin .source verbatim
  have same (tag : Tag) (span : Option Span) : (Setting.ofConfig config').resolve? tag span =
      (Setting.ofConfig config).resolve? tag span := by
    simp [Setting.resolve?, Setting.ofConfig, lookup tag, fallback]
  exact congrArg Outcome.result (Node.visit_of_resolve same policy)

theorem SameButNaming.run_eq {world world' : World} {request request' : Request}
    (same : SameButNaming world world' request request') : request'.run world' = request.run world := by
  obtain @⟨base, base', _, _, input, bytes, started, changed, started', changed', policy, fallback,
    verbatim⟩ := same
  obtain rfl := changes_iff.mp changed
  obtain rfl := changes_iff.mp changed'
  have names (name : String) :
      name ∈ (request'.adjust base').verbatimTags ↔ name ∈ (request.adjust base).verbatimTags := by
    simpa only [adjust, List.mem_append] using verbatim name
  have texts : request'.inputText world' = request.inputText world := by
    have failure : request'.inputFailure = request.inputFailure := by
      funext fault
      simp only [inputFailure, input]
    rw [inputText_eq, inputText_eq, bytes, failure]
  simp only [run, baseConfig_eq_ok.mpr started, baseConfig_eq_ok.mpr started', texts, bind, Except.bind,
    renderWith_ofConfig_congr policy fallback names]

end Naming

end Request

section Endings

variable {world : World} {arguments : List String} {request : Request}

theorem Program.run_rendered (parsed : CommandLine.parse arguments = .render request) {text : String}
    (succeeded : request.run world = .ok text) : Program.run world arguments = .rendered text := by
  simp only [Program.run, parsed, succeeded]

theorem Program.run_failed (parsed : CommandLine.parse arguments = .render request) {failure : Failure}
    (failed : request.run world = .error failure) : Program.run world arguments = .failed failure := by
  simp only [Program.run, parsed, failed]

end Endings

/-- A run that the arguments ask for ends well exactly if the config, the input, the document and the
rendering all do, and then it prints the text and a line break. Otherwise it prints nothing, and tells
which of them was the first to fail. Two runs that differ only in where, in which order and how often
verbatim node types are named end alike. -/
theorem command_line_is_the_pipeline (world : World) (arguments : List String) (request : Request)
    (parsed : CommandLine.parse arguments = .render request) :
    let ending := Program.run world arguments
    (ending.exitCode = 0 ↔ ∃ rendered, request.Yields world rendered) ∧
    (∀ rendered, request.Yields world rendered → ending.stdout = rendered ++ "\n") ∧
    (ending.exitCode ≠ 0 → ending.exitCode = 1 ∧ ending.stdout = "" ∧
      ∃ failure, ending = .failed failure ∧ request.FailsTo world failure.context) ∧
    ∀ world' arguments' request', CommandLine.parse arguments' = .render request' →
      Request.SameButNaming world world' request request' → Program.run world' arguments' = ending := by
  intro ending
  cases result : request.run world with
  | ok text =>
    have ended : ending = .rendered text := Program.run_rendered parsed result
    have yields := Request.run_eq_ok.mp result
    refine ⟨?_, ?_, ?_, ?_⟩
    · rw [ended]
      exact iff_of_true rfl ⟨text, yields⟩
    · intro rendered other
      obtain rfl := Except.ok.inj (result.symm.trans (Request.run_eq_ok.mpr other))
      rw [ended]
      rfl
    · intro failed
      rw [ended] at failed
      exact absurd rfl failed
    · intro world' arguments' request' parsed' same
      rw [ended]
      exact Program.run_rendered parsed' (same.run_eq.trans result)
  | error failure =>
    have ended : ending = .failed failure := Program.run_failed parsed result
    have fruitless (rendered : String) : ¬request.Yields world rendered := by
      intro yields
      simp [Request.run_eq_ok.mpr yields] at result
    refine ⟨?_, ?_, ?_, ?_⟩
    · rw [ended]
      exact iff_of_false (by simp [Ending.exitCode]) fun ⟨rendered, yields⟩ => fruitless rendered yields
    · exact fun rendered yields => absurd yields (fruitless rendered)
    · intro _
      rw [ended]
      exact ⟨rfl, rfl, failure, rfl, Request.run_error result⟩
    · intro world' arguments' request' parsed' same
      rw [ended]
      exact Program.run_failed parsed' (same.run_eq.trans result)

def verbatimWorld : World where
  file path := if path = "c.yml" then .ok "verbatim_tags: [int]".toUTF8 else .error .missing
  stdin := .ok "[\"7\",null,[\"int\",[],[0,1]]]".toUTF8

theorem named_in_a_file_or_repeatedly_ends_alike :
    let request : Request := { config := some "c.yml", verbatim := ["send"] }
    let request' : Request := { verbatim := ["send", "int", "send"] }
    let arguments := ["-c", "c.yml", "--verbatim", "send"]
    let arguments' := ["--verbatim", "send", "--verbatim=int", "--verbatim", "send"]
    CommandLine.parse arguments = .render request ∧ CommandLine.parse arguments' = .render request' ∧
    Request.SameButNaming verbatimWorld verbatimWorld request request' ∧
    (Program.run verbatimWorld arguments).exitCode = 0 ∧
    (Program.run verbatimWorld arguments).stdout = "7\n" ∧
    Program.run verbatimWorld arguments' = Program.run verbatimWorld arguments := by
  intro request request' arguments arguments'
  have parsed : CommandLine.parse arguments = .render request := by rfl
  have parsed' : CommandLine.parse arguments' = .render request' := by rfl
  have decoded (text : String) : String.fromUTF8? text.toUTF8 = some text := by
    simp [String.fromUTF8?, String.isValidUTF8, String.fromUTF8]
  have valid : Config.ofYaml? "verbatim_tags: [int]" = some { verbatimTags := ["int"] } := by
    set_option maxRecDepth 2000 in
    cbv
  have loaded : Document.load "[\"7\",null,[\"int\",[],[0,1]]]" =
      .ok ⟨some ⟨"(string)", "7"⟩, ⟨.known .int, [], some ⟨⟨"(string)", "7"⟩, 0, 1⟩⟩⟩ := by
    set_option maxRecDepth 2000 in
    cbv
  have started : request.StartsFrom verbatimWorld { verbatimTags := ["int"] } :=
    .file rfl rfl (decoded _) valid
  have changed : request.Changes { verbatimTags := ["int"] } { verbatimTags := ["int", "send"] } :=
    ⟨rfl, rfl, rfl⟩
  have changed' : request'.Changes {} { verbatimTags := ["send", "int", "send"] } := ⟨rfl, rfl, rfl⟩
  have same : Request.SameButNaming verbatimWorld verbatimWorld request request' := by
    refine .mk rfl rfl started changed (.default rfl) changed' rfl rfl fun name => ?_
    simp [request, request', or_comm, or_left_comm]
  have read : request.Reads verbatimWorld "[\"7\",null,[\"int\",[],[0,1]]]" := ⟨_, rfl, decoded _⟩
  have yields : request.Yields verbatimWorld "7" := .mk ⟨_, started, changed⟩ read loaded rfl
  obtain ⟨ends, printed, _, alike⟩ := command_line_is_the_pipeline verbatimWorld arguments request parsed
  exact ⟨parsed, parsed', same, ends.mpr ⟨_, yields⟩, printed _ yields, alike _ _ _ parsed' same⟩

end RubyTree
