import Embedder.Proofs.Activity
import Embedder.Proofs.Boundary
import Embedder.Proofs.Command.Steps
import Embedder.Proofs.Loading
import Embedder.Proofs.Number.Literals
import Embedder.Proofs.Registry

/-!
# The stages of a run

A run goes through eleven stages. `Job` is what a run has to do with, and `Job.fault?` says of each stage whether
it fails. Stages that need nothing of each other can both fail: the file can be missing and the configuration
be wrong, or an import be unknown and an argument no number. `Job.FailsFirst` is the stage that counts then.

* `Job.passed_of_module`, `Job.fails_of_module` -- the stages of loading;
* `Job.FailsFirst.unique` -- one stage at most is the first to fail;
* **`Job.exitCode_of_call`** -- a call of a new instance with arguments that were read can only trap;
* **`Job.status_of_fault`** -- the errors of a stage have its exit statuses;
* **`Job.writer_of_called`**, `Job.printed_of_willing` -- a run keeps the writer of its output, so no run fails to
  print its results if that takes everything.
-/

namespace Embedder.Command

open Wasm

/-! ## 1. Stages -/

/-- What a run of a module has to do with. -/
structure Job where
  env : Environment
  flags : ConfigFlags
  task : RunTask
  input : List UInt8
  /-- Where the output goes. -/
  out : Writer

/-- The stages of a run. -/
inductive Stage where
  /-- The configuration is resolved and an engine created. -/
  | engine
  /-- The file is read; it is binary code or a text. -/
  | source
  /-- The text is read. -/
  | text
  /-- The module is checked. -/
  | validation
  /-- The imports are bound. -/
  | imports
  /-- The instance is made, and the start routine run. -/
  | creation
  /-- The export is looked up. -/
  | lookup
  /-- The arguments are read. -/
  | arguments
  /-- The export is called. -/
  | execution
  /-- The results are taken as a status, if they are to be one. -/
  | status
  /-- The results are printed, if they are not. -/
  | output
  deriving DecidableEq

/-- The place of a stage in their order. -/
def Stage.rank : Stage → Nat
  | .engine => 0
  | .source => 1
  | .text => 2
  | .validation => 3
  | .imports => 4
  | .creation => 5
  | .lookup => 6
  | .arguments => 7
  | .execution => 8
  | .status => 9
  | .output => 10

/-- The exit statuses for the errors of a stage. -/
def Stage.codes : Stage → List Nat
  | .engine => [64]
  | .source => [65]
  | .text => [66]
  | .validation => [67]
  | .imports => [69, 70]
  | .creation => [71, 72]
  | .lookup => [73, 74]
  | .arguments => [75]
  | .execution => [76]
  | .status => [75]
  | .output => [1]

theorem Stage.eq_of_rank {s s' : Stage} (h : s.rank = s'.rank) : s = s' := by
  cases s <;> cases s' <;> cases h <;> rfl

/-- The signature of the function that a module exports under a name. -/
def signatureIn (m : Module) (name : String) : Except RuntimeError Signature :=
  match m.export? name with
  | none => .error (.exportNotFound name)
  | some d =>
    match d.kind with
    | .function s => .ok s
    | k => .error (.exportKindMismatch name "function" k.name)

theorem exportSignature_eq {σ : Type} (i : Instance σ) (name : String) :
    i.exportSignature name = signatureIn i.module name := by
  unfold signatureIn
  cases h : i.module.export? name with
  | none => exact Instance.exportSignature_of_missing h
  | some d => exact Instance.exportSignature_of_export h

namespace Job

variable (j : Job)

/-- The host before anything has run. -/
def fresh : Drac := { input := j.input, output := { writer := j.out } }

/-- The engine. -/
def engine : Except RuntimeError Engine := EngineConfig.resolve j.env j.flags >>= Engine.create 0

/-- What the file holds. -/
def source : Except RuntimeError Source :=
  (j.env.file j.task.file).mapError (.sourceUnavailable j.task.file) >>= Source.ofBytes j.task.file

/-- What was read from it. -/
def draft : Except RuntimeError Draft := j.source >>= Source.read

/-- The module that passed every check. -/
def module : Except RuntimeError Module := do
  let e ← j.engine
  let d ← j.draft
  d.check e

/-- The functions that its imports are bound to. -/
def bindings : Except RuntimeError (List (Binding Drac)) := do
  let m ← j.module
  resolveImports m (offered j.task.noStdlib)

/-- The instance, and the host after it was made or not. -/
def made : Except RuntimeError (Instance Drac) × Drac :=
  match j.module with
  | .ok m => instantiate m (offered j.task.noStdlib) j.fresh
  | .error e => (.error e, j.fresh)

/-- The signature of the export, which the module alone decides. -/
def signature : Except RuntimeError Signature := do
  let m ← j.module
  signatureIn m j.task.entry

/-- The arguments, read for that signature. -/
def arguments : Except RuntimeError (List Value) := do
  let s ← j.signature
  parseArguments j.task.entry s j.task.args

/-- The results of the call, and the host after it was made or not. -/
def called : Except RuntimeError (List Value) × Drac :=
  match j.made, j.arguments with
  | (.ok i, host), .ok args => ((i.invoke j.task.entry args host).1, (i.invoke j.task.entry args host).2.2)
  | (.ok _, host), .error e => (.error e, host)
  | (.error e, host), _ => (.error e, host)

/-- The status that the results give. -/
def exit (results : List Value) : Except RuntimeError ExitStatus :=
  if j.task.main then ExitStatus.ofResults j.task.entry results else .ok ⟨0⟩

/-- What comes of printing the results, if they are not a status, and the host afterwards. -/
def printed (results : List Value) : Except Failure Unit × Drac :=
  if j.task.main then (.ok (), j.called.2)
  else
    let (result, output) := writeEach j.called.2.output (linesOf results)
    (result.mapError .other, { j.called.2 with output })

/-- The error of a stage. A stage that needs what another did not give has none. -/
def fault? : Stage → Option Failure
  | .engine => errorIn (ofRuntime j.engine)
  | .source => errorIn (ofRuntime j.source)
  | .text => j.source.toOption.bind fun _ => errorIn (ofRuntime j.draft)
  | .validation => j.engine.toOption.bind fun _ => j.draft.toOption.bind fun _ => errorIn (ofRuntime j.module)
  | .imports => j.module.toOption.bind fun _ => errorIn (ofRuntime j.bindings)
  | .creation => j.bindings.toOption.bind fun _ => errorIn (ofRuntime j.made.1)
  | .lookup => j.module.toOption.bind fun _ => errorIn (ofRuntime j.signature)
  | .arguments => j.signature.toOption.bind fun _ => errorIn (ofRuntime j.arguments)
  | .execution =>
    j.made.1.toOption.bind fun _ => j.arguments.toOption.bind fun _ => errorIn (ofRuntime j.called.1)
  | .status => j.called.1.toOption.bind fun results => errorIn (ofRuntime (j.exit results))
  | .output => j.called.1.toOption.bind fun results => errorIn (j.printed results).1

/-- The host when a stage is over. -/
def hostAfter : Stage → Drac
  | .engine | .source | .text | .validation | .imports => j.fresh
  | .creation | .lookup | .arguments => j.made.2
  | .execution | .status => j.called.2
  | .output =>
    match j.called.1 with
    | .ok results => (j.printed results).2
    | .error _ => j.called.2

/-- A stage fails, and no stage before it does. -/
structure FailsFirst (stage : Stage) (e : Failure) : Prop where
  fails : j.fault? stage = some e
  first : ∀ s : Stage, s.rank < stage.rank → j.fault? s = none

/-! ## 2. The order of the stages -/

/-- No stage before a place fails. -/
def Passed (n : Nat) : Prop := ∀ stage : Stage, stage.rank < n → j.fault? stage = none

section Order

variable {j : Job} {e : RuntimeError} {m : Module}

theorem passed_zero : j.Passed 0 := fun _ h => absurd h (Nat.not_lt_zero _)

theorem Passed.next (stage : Stage) (h : j.Passed stage.rank) (hpass : j.fault? stage = none) :
    j.Passed (stage.rank + 1) := by
  intro s hs
  rcases Nat.lt_or_eq_of_le (Nat.le_of_lt_succ hs) with hlt | heq
  · exact h s hlt
  · rw [Stage.eq_of_rank heq]
    exact hpass

/-- Reading and checking the file is what the three stages of loading are. -/
theorem load_eq (j : Job) (g : Engine) :
    ((j.env.file j.task.file).mapError (.sourceUnavailable j.task.file) >>= Module.ofBytes g j.task.file) =
      j.draft >>= fun d => d.check g := by
  unfold draft source
  cases (j.env.file j.task.file).mapError (RuntimeError.sourceUnavailable j.task.file) with
  | error f => rfl
  | ok bytes =>
    show Module.ofBytes g j.task.file bytes = (Source.ofBytes j.task.file bytes >>= Source.read) >>= _
    rw [Module.ofBytes_eq]
    cases Source.ofBytes j.task.file bytes with
    | error f => rfl
    | ok s => rfl

/-- A module that was loaded has passed the stages of loading. -/
theorem passed_of_module (h : j.module = .ok m) : j.Passed 4 := by
  obtain ⟨g, hengine, h'⟩ := ok_of_bind h
  obtain ⟨d, hdraft, -⟩ := ok_of_bind h'
  obtain ⟨s, hsource, -⟩ := ok_of_bind hdraft
  have h₁ : j.Passed 1 := passed_zero.next .engine (by rw [fault?, hengine]; rfl)
  have h₂ : j.Passed 2 := h₁.next .source (by rw [fault?, hsource]; rfl)
  have h₃ : j.Passed 3 := h₂.next .text (by rw [fault?, hsource, hdraft]; rfl)
  exact h₃.next .validation (by rw [fault?, hengine, hdraft, h]; rfl)

/-- One that was not has failed at one of them, before anything has run. -/
theorem fails_of_module (h : j.module = .error e) :
    ∃ stage, j.FailsFirst stage (.runtime e) ∧ j.hostAfter stage = j.fresh := by
  cases hengine : j.engine with
  | error f =>
    rw [module, hengine] at h
    cases h
    exact ⟨.engine, ⟨by rw [fault?, hengine]; rfl, passed_zero⟩, rfl⟩
  | ok g =>
    have h₁ : j.Passed 1 := passed_zero.next .engine (by rw [fault?, hengine]; rfl)
    cases hsource : j.source with
    | error f =>
      rw [module, hengine, draft, hsource] at h
      cases h
      exact ⟨.source, ⟨by rw [fault?, hsource]; rfl, h₁⟩, rfl⟩
    | ok s =>
      have h₂ : j.Passed 2 := h₁.next .source (by rw [fault?, hsource]; rfl)
      cases hdraft : j.draft with
      | error f =>
        rw [module, hengine, hdraft] at h
        cases h
        exact ⟨.text, ⟨by rw [fault?, hsource, hdraft]; rfl, h₂⟩, rfl⟩
      | ok d =>
        have h₃ : j.Passed 3 := h₂.next .text (by rw [fault?, hsource, hdraft]; rfl)
        exact ⟨.validation, ⟨by rw [fault?, hengine, hdraft, h]; rfl, h₃⟩, rfl⟩

end Order

/-! ## 3. The errors of the stages -/

theorem errorIn_eq_some {ε α : Type} {r : Except ε α} {e : ε} (h : errorIn r = some e) : r = .error e := by
  cases r with
  | error f =>
    cases h
    rfl
  | ok a => cases h

/-- The error of an operation of the embedder. -/
theorem runtime_of_errorIn {α : Type} {r : Except RuntimeError α} {e : Failure}
    (h : errorIn (ofRuntime r) = some e) : ∃ err, r = .error err ∧ e = .runtime err := by
  cases r with
  | error err =>
    cases h
    exact ⟨err, rfl, rfl⟩
  | ok a => cases h

/-- A stage that needs something and fails had it. -/
theorem given_of_bind {α : Type} {r : Except RuntimeError α} {f : α → Option Failure} {e : Failure}
    (h : r.toOption.bind f = some e) : ∃ a, r = .ok a ∧ f a = some e := by
  cases r with
  | error f => cases h
  | ok a => exact ⟨a, rfl, h⟩

section Codes

variable {j : Job} {e : RuntimeError}

theorem exitCode_of_config {env : Environment} {path : String} (h : EngineConfig.ofFile env path = .error e) :
    e.exitCode = 64 := by
  unfold EngineConfig.ofFile at h
  split at h
  · cases h
    rfl
  · split at h
    · cases h
      rfl
    · cases h

theorem exitCode_of_configure {env : Environment} {flags : ConfigFlags}
    (h : EngineConfig.resolve env flags = .error e) : e.exitCode = 64 := by
  unfold EngineConfig.resolve at h
  cases hpath : EngineConfig.filePath? env flags with
  | none =>
    rw [hpath] at h
    cases h
  | some path =>
    rw [hpath] at h
    dsimp only at h
    cases hfile : EngineConfig.ofFile env path with
    | error f =>
      rw [hfile] at h
      cases h
      exact exitCode_of_config hfile
    | ok c =>
      rw [hfile] at h
      cases h

theorem exitCode_of_engine (h : j.engine = .error e) : e.exitCode = 64 := by
  unfold engine at h
  cases hc : EngineConfig.resolve j.env j.flags with
  | error f =>
    rw [hc] at h
    cases h
    exact exitCode_of_configure hc
  | ok c =>
    rw [hc] at h
    have hcreate : Engine.create 0 c = .error e := h
    unfold Engine.create at hcreate
    split at hcreate
    · cases hcreate
      rfl
    · cases hcreate

theorem exitCode_of_source (h : j.source = .error e) : e.exitCode = 65 := by
  unfold source at h
  cases hfile : j.env.file j.task.file with
  | error f =>
    rw [hfile] at h
    cases h
    rfl
  | ok bytes =>
    rw [hfile] at h
    exact Source.exitCode_of_error h

theorem exitCode_of_resolve {σ : Type} {m : Module} {r : Registry σ} (h : resolveImports m r = .error e) :
    e.exitCode ∈ [69, 70] := by
  obtain ⟨_, d, _, -, -, -, rfl⟩ := (resolveAll_error_iff r m.imports e).mp h
  unfold importFault
  split <;> simp [RuntimeError.exitCode]

theorem exitCode_of_create {σ : Type} {m : Module} {bs : List (Binding σ)} {slots : List (Slot σ)} {w w' : σ}
    (h : createInstance m bs slots w = (.error e, w')) : e.exitCode ∈ [71, 72] := by
  have hcreation : ∀ f, (creationError m f).exitCode ∈ [71, 72] := by
    intro f
    unfold creationError
    split <;> simp [RuntimeError.exitCode]
  unfold createInstance at h
  split at h
  · cases h
    exact hcreation _
  · dsimp only at h
    split at h
    · cases h
      exact hcreation _
    · cases h

theorem exitCode_of_lookup {m : Module} {name : String} (h : signatureIn m name = .error e) :
    e.exitCode ∈ [73, 74] := by
  unfold signatureIn at h
  split at h
  · cases h
    simp [RuntimeError.exitCode]
  · split at h
    · cases h
    · cases h
      simp [RuntimeError.exitCode]

theorem exitCode_of_arguments {entry : String} {s : Signature} {raw : List String}
    (h : parseArguments entry s raw = .error e) : e.exitCode = 75 := by
  unfold parseArguments at h
  split at h
  · cases hargs : readLiterals s.params raw with
    | error f =>
      rw [hargs] at h
      cases h
      rfl
    | ok vs =>
      rw [hargs] at h
      cases h
  · cases h
    rfl

/-- **A call of a new instance with arguments that were read can only trap.** -/
theorem exitCode_of_call {i : Instance Drac} {name : String} {s : Signature} {raw : List String}
    {args : List Value} {host : Drac} (hready : i.lifecycle = .ready) (hs : i.exportSignature name = .ok s)
    (hargs : parseArguments name s raw = .ok args) (h : (i.invoke name args host).1 = .error e) :
    e.exitCode = 76 := by
  obtain ⟨f, hallowed⟩ := Instance.admitCall_of_types hready hs (types_of_parseArguments hargs)
  unfold Instance.invoke at h
  rw [hallowed] at h
  dsimp only [Instance.callFunction] at h
  split at h
  · cases h
    rfl
  · cases h

theorem exitCode_of_status {entry : String} {results : List Value}
    (h : ExitStatus.ofResults entry results = .error e) : e.exitCode = 75 := by
  unfold ExitStatus.ofResults at h
  split at h
  · cases h
  · cases h
  · split at h
    · cases h
    · cases h
      rfl
  · cases h
    rfl

/-- Only results that are no status can fail to be printed, and the error is none of the embedder. -/
theorem other_of_fault {f : Failure} (h : j.fault? .output = some f) :
    j.task.main = false ∧ ∃ text, f = .other text := by
  obtain ⟨results, -, h⟩ := given_of_bind h
  have hprinted := errorIn_eq_some h
  unfold printed at hprinted
  split at hprinted
  · cases hprinted
  · rename_i hmain
    refine ⟨Bool.eq_false_iff.mpr hmain, ?_⟩
    dsimp only at hprinted
    cases hresult : (writeEach j.called.2.output (linesOf results)).1 with
    | ok u =>
      rw [hresult] at hprinted
      cases hprinted
    | error text =>
      rw [hresult] at hprinted
      cases hprinted
      exact ⟨text, rfl⟩

/-- Every other stage fails with an error of the embedder. -/
theorem runtime_of_fault {stage : Stage} {f : Failure} (h : j.fault? stage = some f) (hstage : stage ≠ .output) :
    ∃ err, f = .runtime err := by
  have hruntime : ∀ {α : Type} {r : Except RuntimeError α}, errorIn (ofRuntime r) = some f →
      ∃ err, f = .runtime err := fun h => (runtime_of_errorIn h).imp fun _ => And.right
  cases stage with
  | engine | source => exact hruntime h
  | text | imports | creation | lookup | arguments | status =>
    obtain ⟨_, -, h⟩ := given_of_bind h
    exact hruntime h
  | validation | execution =>
    obtain ⟨_, -, h⟩ := given_of_bind h
    obtain ⟨_, -, h⟩ := given_of_bind h
    exact hruntime h
  | output => exact absurd rfl hstage

/-- **The errors of a stage have its exit statuses.** -/
theorem status_of_fault {stage : Stage} {f : Failure} (h : j.fault? stage = some f) :
    f.status ∈ stage.codes := by
  cases stage with
  | engine =>
    obtain ⟨e, he, rfl⟩ := runtime_of_errorIn h
    rw [Failure.status, exitCode_of_engine he]
    decide
  | source =>
    obtain ⟨e, he, rfl⟩ := runtime_of_errorIn h
    rw [Failure.status, exitCode_of_source he]
    decide
  | text =>
    obtain ⟨s, hs, h⟩ := given_of_bind h
    obtain ⟨e, hdraft, rfl⟩ := runtime_of_errorIn h
    have hread : s.read = .error e := by
      rw [draft, hs] at hdraft
      exact hdraft
    rw [Failure.status, Source.exitCode_of_read hread]
    decide
  | validation =>
    obtain ⟨g, hg, h⟩ := given_of_bind h
    obtain ⟨d, hd, h⟩ := given_of_bind h
    obtain ⟨e, hmodule, rfl⟩ := runtime_of_errorIn h
    have hcheck : d.check g = .error e := by
      rw [module, hg, hd] at hmodule
      exact hmodule
    rw [Failure.status, Draft.exitCode_of_check hcheck]
    decide
  | imports =>
    obtain ⟨m, hm, h⟩ := given_of_bind h
    obtain ⟨e, hresolve, rfl⟩ := runtime_of_errorIn h
    rw [bindings, hm] at hresolve
    exact exitCode_of_resolve hresolve
  | creation =>
    obtain ⟨bs, hbs, h⟩ := given_of_bind h
    obtain ⟨m, hm, hresolve⟩ := ok_of_bind hbs
    obtain ⟨e, hinstance, rfl⟩ := runtime_of_errorIn h
    have hmade : (createInstance m bs (bs.map Binding.slot) j.fresh).1 = .error e := by
      rw [made, hm] at hinstance
      dsimp only [instantiate] at hinstance
      rw [prepare_eq, hresolve] at hinstance
      exact hinstance
    exact exitCode_of_create (Prod.ext hmade rfl)
  | lookup =>
    obtain ⟨m, hm, h⟩ := given_of_bind h
    obtain ⟨e, hlookup, rfl⟩ := runtime_of_errorIn h
    rw [signature, hm] at hlookup
    exact exitCode_of_lookup hlookup
  | arguments =>
    obtain ⟨s, hs, h⟩ := given_of_bind h
    obtain ⟨e, hargs, rfl⟩ := runtime_of_errorIn h
    rw [arguments, hs] at hargs
    rw [Failure.status, exitCode_of_arguments hargs]
    decide
  | execution =>
    obtain ⟨i, hi, h⟩ := given_of_bind h
    obtain ⟨args, hargs, h⟩ := given_of_bind h
    obtain ⟨e, hcalled, rfl⟩ := runtime_of_errorIn h
    obtain ⟨s, hs, hparse⟩ := ok_of_bind hargs
    obtain ⟨m, hm, hlookup⟩ := ok_of_bind hs
    have hmade : instantiate m (offered j.task.noStdlib) j.fresh = (.ok i, j.made.2) := by
      rw [made, hm] at hi ⊢
      exact Prod.ext hi rfl
    have hsignature : i.exportSignature j.task.entry = .ok s := by
      rw [exportSignature_eq, (instantiate_sound hmade).module]
      exact hlookup
    have hcall : (i.invoke j.task.entry args j.made.2).1 = .error e := by
      rw [called, show j.made = (.ok i, j.made.2) from Prod.ext hi rfl, hargs] at hcalled
      exact hcalled
    rw [Failure.status, exitCode_of_call (instantiate_new hmade).1 hsignature hparse hcall]
    decide
  | status =>
    obtain ⟨results, -, h⟩ := given_of_bind h
    obtain ⟨e, hstatus, rfl⟩ := runtime_of_errorIn h
    unfold exit at hstatus
    split at hstatus
    · rw [Failure.status, exitCode_of_status hstatus]
      decide
    · cases hstatus
  | output =>
    obtain ⟨-, text, rfl⟩ := other_of_fault h
    exact List.mem_singleton_self 1

end Codes

/-! ## 4. The output -/

/-- No function that a run offers replaces the writer of the output. -/
theorem keeps_writer {noStdlib : Bool} {space name : String} {f : HostFunction Drac}
    (h : (offered noStdlib).lookup space name = some f) (out : Writer) :
    f.Keeps fun d => d.output.writer = out := by
  unfold offered at h
  split at h
  · cases h
  · have hat : (Standard.register Drac.View.whole 0 .empty).1.at? (space, name) = some f := h
    rcases Registry.exists_of_at?_registerAll hat with hempty | ⟨e, he, rfl⟩
    · cases hempty
    intro label args d hd
    rcases List.mem_append.mp he with hmath | hdrac
    · obtain rfl := List.mem_singleton.mp hmath
      rw [Math.call_powFunction_world]
      exact hd
    · obtain ⟨op, -, rfl⟩ := List.mem_map.mp hdrac
      rw [← hd]
      have lawful : Drac.View.whole.Lawful := fun _ _ => rfl
      exact (congrArg (·.output.writer) (Drac.call_eq_ask lawful _ label op.1 args d).2).trans
        (d.ask_writer label op.1 args)

theorem writer_of_made (j : Job) : j.made.2.output.writer = j.out := by
  unfold made
  cases j.module with
  | error e => rfl
  | ok m => exact instantiate_keeps (fun _ _ _ hf => keeps_writer hf j.out) m rfl

theorem slots_keep_writer {j : Job} {i : Instance Drac} {host : Drac} (h : j.made = (.ok i, host)) :
    ∀ s ∈ i.slots, s.function.Keeps fun d => d.output.writer = j.out := by
  intro s hs
  cases hm : j.module with
  | error e =>
    rw [made, hm] at h
    cases h
  | ok m =>
    rw [made, hm] at h
    have hsound := instantiate_sound h
    rw [hsound.slots] at hs
    obtain ⟨b, hb, rfl⟩ := List.mem_map.mp hs
    obtain ⟨d, hserves⟩ := Serves.of_mem hsound.serves hb
    exact keeps_writer hserves.registered j.out

/-- **A run keeps the writer of its output.** -/
theorem writer_of_called (j : Job) : j.called.2.output.writer = j.out := by
  have hmade := j.writer_of_made
  unfold called
  cases h : j.made with
  | mk result host =>
    rw [h] at hmade
    cases result with
    | error e => exact hmade
    | ok i =>
      cases j.arguments with
      | error e => exact hmade
      | ok args => exact Instance.invoke_keeps (slots_keep_writer h) j.task.entry args hmade

/-- If the output takes everything, the results are printed. -/
theorem printed_of_willing {j : Job} (h : j.out.Willing) : j.fault? .output = none := by
  cases hcalled : j.called.1 with
  | error e =>
    rw [fault?, hcalled]
    rfl
  | ok results =>
    have hwilling : j.called.2.output.writer.Willing := by
      rw [writer_of_called]
      exact h
    rw [fault?, hcalled]
    show errorIn (j.printed results).1 = none
    unfold printed
    split
    · rfl
    · dsimp only
      rw [(writeEach_of_willing _ hwilling).1]
      rfl

end Job

/-! ## 5. The first stage that fails -/

theorem Stage.rank_lt (stage : Stage) : stage.rank < 11 := by cases stage <;> decide

/-- One stage at most is the first to fail, and has one error. -/
theorem Job.FailsFirst.unique {j : Job} {s s' : Stage} {e e' : Failure} (h : j.FailsFirst s e)
    (h' : j.FailsFirst s' e') : s = s' ∧ e = e' := by
  have hs : s = s' := by
    rcases Nat.lt_trichotomy s.rank s'.rank with hlt | heq | hgt
    · have hnone := h'.first s hlt
      rw [h.fails] at hnone
      cases hnone
    · exact Stage.eq_of_rank heq
    · have hnone := h.first s' hgt
      rw [h'.fails] at hnone
      cases hnone
  subst hs
  have he := h.fails
  rw [h'.fails] at he
  cases he
  exact ⟨rfl, rfl⟩

theorem Job.Passed.not_failsFirst {j : Job} (h : j.Passed 11) {stage : Stage} {e : Failure} :
    ¬ j.FailsFirst stage e := by
  intro hfails
  have hnone := h stage stage.rank_lt
  rw [hfails.fails] at hnone
  cases hnone

/-- The errors that no stage has. -/
theorem Stage.unreported {stage : Stage} {n : Nat} (h : n ∈ stage.codes) : n ∉ [68, 77, 78] := by
  cases stage <;> simp [Stage.codes] at h ⊢ <;> omega

end Embedder.Command
