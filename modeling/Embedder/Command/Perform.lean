import Embedder.Arguments
import Embedder.Command.Line
import Embedder.Command.Log
import Embedder.Library.Standard
import Embedder.Instance
import Embedder.Report

/-!
# Performing a request

A request is performed step by step: the configuration is resolved, an engine created, the module loaded,
and then it is reported about, or instantiated and called. Each step leaves events in the log. **The
first step that fails ends the request**, and its error is the last line of the diagnostics; what was
written until then stays written.

The world of the host functions is the state of one drac library, whose streams are those of the process. What
the process prints itself goes to the same output, whose writer may refuse it. That failure is the only one that
is no `RuntimeError`.
-/

namespace Embedder.Command

/-! ## 1. Steps -/

/-- Why a request fails. -/
inductive Failure where
  /-- An operation of the embedder has failed. -/
  | runtime (error : RuntimeError)
  /-- Anything else, such as an output that could not be written, known by its text. -/
  | other (text : String)
  deriving DecidableEq, Repr, Inhabited

namespace Failure

/-- The line that reports a failure. -/
def diagnostic : Failure → String
  | .runtime e => "error[" ++ e.category ++ "]: " ++ e.message
  | .other text => "error: " ++ text

/-- The status of a process that ends with a failure. -/
def status : Failure → Nat
  | .runtime e => e.exitCode
  | .other _ => 1

end Failure

/-- What steps leave behind: events, and the state of the host. -/
structure Trail where
  events : List Event := []
  host : Drac := {}
  deriving Inhabited

/-- A step: it may fail, and leaves something behind in any case. -/
abbrev Step (α : Type) := ExceptT Failure (StateM Trail) α

/-- A result of the embedder as one of a step. -/
def ofRuntime {α : Type} (r : Except RuntimeError α) : Except Failure α := r.mapError .runtime

/-- Notes events. -/
def note (es : List Event) : Step Unit := modify fun t => { t with events := t.events ++ es }

/-- A result that was found without leaving anything behind. -/
def settled {α : Type} (r : Except RuntimeError α) : Step α := liftExcept (ofRuntime r)

/-- Writes text to the output. -/
def print (s : String) : Step Unit := do
  let (result, output) := (← get).host.output.write s.toUTF8.toList
  modify fun t => { t with host := { t.host with output } }
  liftExcept (result.mapError Failure.other)

/-! ## 2. Configuration and module -/

/-- Resolves the configuration. -/
def configure (env : Environment) (flags : ConfigFlags) : Step EngineConfig := do
  let c ← settled (EngineConfig.resolve env flags)
  note (env.warnings.map fun w => ⟨.warn, "wathost_runtime::config", w⟩)
  return c

/-- Creates an engine. -/
def createEngine (c : EngineConfig) : Step Engine := do
  let e ← settled (Engine.create 0 c)
  note [⟨.info, "wathost_runtime::engine", "Engine created with " ++ c.backend.title ++ " backend"⟩]
  return e

/-- The event of a loaded module. -/
def loadedEvent (m : Module) : Event :=
  ⟨.info, "wathost_runtime::module",
    "Loaded module " ++ m.title ++ " (" ++ toString m.imports.length ++ " imports, " ++
      toString m.exports.length ++ " exports, start routine: " ++
      (if m.start.isSome then "true" else "false") ++ ")"⟩

/-- Loads the module in a file. -/
def loadModule (env : Environment) (e : Engine) (path : String) : Step Module := do
  let bytes ← settled ((env.file path).mapError (.sourceUnavailable path))
  note [⟨.debug, "wathost_runtime::module",
    "Read " ++ toString bytes.length ++ " bytes from " ++ path⟩]
  let m ← settled (Module.ofBytes e path bytes)
  note [loadedEvent m]
  return m

/-! ## 3. Instance -/

/-- The registry of a run. -/
def registerLibraries (noStdlib : Bool) : Step (Registry Drac) := do
  if noStdlib then return Registry.empty
  else
    let (r, result) := Standard.register Drac.View.whole 0 Registry.empty
    settled result
    note (r.entries.map fun e =>
      ⟨.debug, "wathost_runtime::registry",
        "Registered host function " ++ e.space ++ "." ++ e.name ++ " " ++ e.function.signature.text⟩)
    return r

/-- The events of binding imports, up to the first that fails. -/
def bindingEvents {σ : Type} (r : Registry σ) : List ImportDeclaration → List Event
  | [] => []
  | d :: ds =>
    match resolveImport r d with
    | .ok b =>
      ⟨.debug, "wathost_runtime::instance",
        "Resolved import " ++ b.qualified ++ " " ++ b.function.signature.text⟩ :: bindingEvents r ds
    | .error _ =>
      if r.contains d.module d.name then []
      else [⟨.warn, "wathost_runtime::instance", "Unresolved import " ++ d.module ++ "." ++ d.name⟩]

/-- The events of an attempt to make an instance of a module whose imports are bound. -/
def creationEvents {σ : Type} (m : Module) (made : Except RuntimeError (Instance σ)) : List Event :=
  let start : List Event :=
    if m.start.isSome then [⟨.debug, "wathost_runtime::instance", "Running start routine"⟩] else []
  start ++
    match made with
    | .ok i =>
      [⟨.info, "wathost_runtime::instance",
        "Instantiated module " ++ m.title ++ " with " ++ toString i.bindings.length ++ " bound imports"⟩]
    | .error (.startRoutineTrap source) =>
      [⟨.warn, "wathost_runtime::instance", "Start routine trapped: " ++ source.message⟩]
    | .error _ => []

/-- Instantiates a module. -/
def instantiateModule (m : Module) (r : Registry Drac) : Step (Instance Drac) := do
  note (bindingEvents r m.imports)
  let (bindings, slots) ← settled (prepare m r)
  let (made, host) := createInstance m bindings slots (← get).host
  modify fun t => { t with host }
  note (creationEvents m made)
  settled made

/-! ## 4. Call -/

/-- The events of a call, given what came of it. -/
def callEvents (name : String) (args : List Value) : Except RuntimeError (List Value) → List Event
  | .ok _ => [⟨.debug, "wathost_runtime::invoke", "Invoking " ++ name ++ " with " ++ Value.describe args⟩]
  | .error e =>
    [⟨.debug, "wathost_runtime::invoke", "Invoking " ++ name ++ " with " ++ Value.describe args⟩,
      ⟨.warn, "wathost_runtime::invoke", e.message⟩]

/-- Calls an export. -/
def callExport (i : Instance Drac) (name : String) (args : List Value) : Step (List Value) := do
  let (s, f) ← settled (i.admitCall name args)
  let (result, _, host) := i.callFunction name s f args (← get).host
  modify fun t => { t with host }
  note (callEvents name args result)
  settled result

/-! ## 5. Tasks -/

/-- Prints values, each on a line of its own. -/
def printValues (vs : List Value) : Step Unit := vs.forM fun v => print (v.text ++ "\n")

/-- Runs an export and gives the exit status. -/
def runTask (env : Environment) (c : EngineConfig) (t : RunTask) : Step ExitStatus := do
  let e ← createEngine c
  let m ← loadModule env e t.file
  let r ← registerLibraries t.noStdlib
  let i ← instantiateModule m r
  let signature ← settled (i.exportSignature t.entry)
  let args ← settled (parseArguments t.entry signature t.args)
  let results ← callExport i t.entry args
  if t.main then
    let status ← settled (ExitStatus.ofResults t.entry results)
    note [⟨.info, "wathost_tools::cli::run",
      t.entry ++ " exited with status " ++ toString status.code.toInt⟩]
    return status
  else
    printValues results
    return ⟨0⟩

/-- Reports about a module. -/
def inspectTask (env : Environment) (c : EngineConfig) (t : InspectTask) : Step ExitStatus := do
  let e ← createEngine c
  let m ← loadModule env e t.file
  print (if t.json then m.report.toJson.pretty ++ "\n" else m.report.text)
  return ⟨0⟩

/-- Does what a request asks for. -/
def Request.steps (r : Request) (env : Environment) : Step ExitStatus := do
  let c ← configure env r.flags
  match r.task with
  | .run t => runTask env c t
  | .inspect t => inspectTask env c t

/-! ## 6. The process -/

/-- What is seen of a process from outside. -/
structure Outcome where
  status : Nat
  output : List UInt8
  diagnostics : List String
  deriving DecidableEq, Repr, Inhabited

/-- The status that a process can hand on: its lowest eight bits. -/
def processStatus (s : ExitStatus) : Nat := (s.code.toInt % 256).toNat

/-- What comes of a request with some input and a writer for its output, and what its steps leave behind. -/
def Request.attempt (r : Request) (env : Environment) (input : List UInt8) (out : Writer) :
    Except Failure ExitStatus × Trail :=
  (r.steps env).run.run { host := { input, output := { writer := out } } }

/-- How a process ends that shows the events that a filter lets through. -/
def Outcome.ofAttempt (filter : Filter) (result : Except Failure ExitStatus) (trail : Trail) : Outcome :=
  let log := filter.lines trail.events
  let output := trail.host.output.written
  match result with
  | .ok s => ⟨processStatus s, output, log⟩
  | .error e => ⟨e.status, output, log ++ [e.diagnostic]⟩

/-- Performs a request with some input and a writer for its output. -/
def Request.perform (r : Request) (env : Environment) (input : List UInt8) (out : Writer) : Outcome :=
  let (result, trail) := r.attempt env input out
  Outcome.ofAttempt (.ofEnvironment env r.verbose) result trail

/-- The files that a request may read. -/
def Request.paths (r : Request) (env : Environment) : List String :=
  let source := match r.task with
    | .run t => t.file
    | .inspect t => t.file
  (EngineConfig.filePath? env r.flags).toList ++ [source]

/-- Does a request run a module that imports a function that reads input? -/
def Request.readsInput (r : Request) (env : Environment) : Bool :=
  match r.task with
  | .inspect _ => false
  | .run t =>
    match Module.ofFile { id := 0, config := {} } env t.file with
    | .error _ => false
    | .ok m => m.imports.any fun d =>
      d.module == Drac.space && (d.name == Drac.Op.name .readi || d.name == Drac.Op.name .reads)

/-- The text that says how the command is used. -/
def usage : String :=
  "wathost - Host runtime for WebAssembly text modules\n\n" ++
  "Usage: wathost [OPTIONS] <COMMAND>\n\n" ++
  "Commands:\n" ++
  "  run [--invoke NAME] [--main] [--no-stdlib] FILE [ARGS]...\n" ++
  "           Load a module and invoke one of its exports\n" ++
  "  inspect [--json] FILE\n" ++
  "           Describe the imports, exports and start routine of a module\n" ++
  "  help     Print this message\n\n" ++
  "Options:\n" ++
  "      --config <FILE>          TOML engine configuration file (defaults to $WATHOST_CONFIG)\n" ++
  "      --backend <BACKEND>      Code generation backend: cranelift or winch\n" ++
  "      --opt-level <OPT_LEVEL>  Optimization level: none, speed or speed_and_size\n" ++
  "  -v, --verbose                Enable debug logging (overridden by RUST_LOG)\n" ++
  "  -h, --help                   Print help\n" ++
  "  -V, --version                Print version\n"

/-- The outcome of a command line that asks for no task. -/
def Stop.outcome : Stop → Outcome
  | .help => ⟨0, usage.toUTF8.toList, []⟩
  | .version => ⟨0, "wathost 0.1.0\n".toUTF8.toList, []⟩
  | .misuse => ⟨2, [], [usage]⟩

/-- Performs what the words of a command line ask for. -/
def perform (ws : List String) (env : Environment) (input : List UInt8) (out : Writer) : Outcome :=
  match Request.ofWords ws with
  | .error s => s.outcome
  | .ok r => r.perform env input out

end Embedder.Command
