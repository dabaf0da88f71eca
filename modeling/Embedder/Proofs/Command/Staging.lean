import Embedder.Proofs.Command.Stages

/-!
# A run takes its stages in order

The steps of a run are compared with the stages that it goes through.

* `Job.Ends` -- steps end with the error of the first stage that fails, or with success if none does;
* `Job.ends_exit`, `Job.ends_call`, `Job.ends_instance`, **`Job.ends`** -- so do the steps after the call, those
  after the instance was made, those after the module was loaded, and all of them;
* **`runStaged`** -- what is seen of the process follows.
-/

namespace Embedder.Command

/-! ## 1. Steps and stages -/

namespace Job

variable (j : Job)

/-- Steps end as they should: with the error of the first stage that fails and the host as that stage leaves
    it, or with success if no stage fails. -/
def Ends (x : Step ExitStatus) (host : Drac) : Prop :=
  (∃ stage e, j.FailsFirst stage e ∧ Yields x host (.error e) (j.hostAfter stage)) ∨
    ∃ status after, j.Passed 11 ∧ Yields x host (.ok status) after

section Run

variable {j : Job} {α : Type} {x : Step α} {f : α → Step ExitStatus} {host host' : Drac}

theorem Ends.after {a : α} (hx : Yields x host (.ok a) host') (h : j.Ends (f a) host') : j.Ends (x >>= f) host := by
  rcases h with ⟨stage, e, hfails, hf⟩ | ⟨status, after, hpassed, hf⟩
  · exact .inl ⟨stage, e, hfails, hx.bind hf⟩
  · exact .inr ⟨status, after, hpassed, hx.bind hf⟩

/-- A step that is the first stage to fail. -/
theorem ends_of_failure (stage : Stage) {e : Failure} (hx : Yields x host (.error e) host')
    (hhost : j.hostAfter stage = host') (hfails : j.fault? stage = some e) (hpassed : j.Passed stage.rank) :
    j.Ends (x >>= f) host := by
  subst hhost
  exact .inl ⟨stage, e, ⟨hfails, hpassed⟩, hx.stop⟩

/-- The steps after the call. -/
def exitSteps (j : Job) (results : List Value) : Step ExitStatus := do
  if j.task.main then
    let status ← settled (ExitStatus.ofResults j.task.entry results)
    note [⟨.info, "wathost_tools::cli::run",
      j.task.entry ++ " exited with status " ++ toString status.code.toInt⟩]
    return status
  else
    printValues results
    return ⟨0⟩

/-- The steps after the instance was made. -/
def callSteps (j : Job) (i : Instance Drac) : Step ExitStatus := do
  let signature ← settled (i.exportSignature j.task.entry)
  let args ← settled (parseArguments j.task.entry signature j.task.args)
  let results ← callExport i j.task.entry args
  j.exitSteps results

/-- The steps after the module was loaded. -/
def instanceSteps (j : Job) (m : Module) : Step ExitStatus := do
  let r ← registerLibraries j.task.noStdlib
  let i ← instantiateModule m r
  j.callSteps i

/-- The steps up to the module. -/
def moduleSteps (j : Job) : Step Module :=
  configure j.env j.flags >>= createEngine >>= fun g => loadModule j.env g j.task.file

/-- The steps of a run. -/
def steps (j : Job) : Step ExitStatus := j.moduleSteps >>= j.instanceSteps

/-- Loading comes to the module, and nothing has run by then. -/
theorem yields_module (j : Job) (host : Drac) : Yields j.moduleSteps host (ofRuntime j.module) host := by
  refine Yields.andThen ?_ fun g => ?_
  · exact (yields_configure _ _ host).andThen fun c => yields_createEngine c host
  · have hload := yields_loadModule j.env g j.task.file host
    rw [load_eq] at hload
    exact hload

/-- From the call on: the status, or the results that are printed. -/
theorem ends_exit {results : List Value} (hcalled : j.called = (.ok results, host)) (hpassed : j.Passed 9) :
    j.Ends (j.exitSteps results) host := by
  have hfault : j.fault? .status = errorIn (ofRuntime (j.exit results)) := by
    rw [fault?, hcalled]
    rfl
  have hfault' : j.fault? .output = errorIn (j.printed results).1 := by
    rw [fault?, hcalled]
    rfl
  have hhost : j.hostAfter .status = host := by rw [hostAfter, hcalled]
  have hhost' : j.hostAfter .output = (j.printed results).2 := by rw [hostAfter, hcalled]
  unfold exitSteps
  unfold exit at hfault
  unfold printed at hfault' hhost'
  cases hmain : j.task.main with
  | false =>
    rw [hmain] at hfault hfault' hhost'
    have h₁₀ : j.Passed 10 := hpassed.next .status hfault
    have hprint := yields_printValues results host
    rw [hcalled] at hfault' hhost'
    dsimp only at hfault' hhost'
    cases hwrite : (writeEach host.output (linesOf results)).1 with
    | error text =>
      rw [hwrite] at hprint hfault'
      exact ends_of_failure .output hprint hhost' hfault' h₁₀
    | ok u =>
      rw [hwrite] at hprint hfault'
      exact .inr ⟨_, _, h₁₀.next .output hfault', hprint.bind (yields_pure _ _)⟩
  | true =>
    rw [hmain, if_pos rfl] at hfault hfault'
    rw [if_pos rfl]
    have hstatus := yields_settled (ExitStatus.ofResults j.task.entry results) host
    cases hs : ExitStatus.ofResults j.task.entry results with
    | error e =>
      rw [hs] at hstatus hfault
      exact ends_of_failure .status hstatus hhost hfault hpassed
    | ok status =>
      rw [hs] at hstatus hfault
      have h₁₀ : j.Passed 10 := hpassed.next .status hfault
      refine .inr ⟨status, host, h₁₀.next .output hfault', hstatus.bind ?_⟩
      exact (yields_note _ host).bind (yields_pure status host)

/-- From the instance on: the export, the arguments, the call and all after it. -/
theorem ends_call {i : Instance Drac} (hmade : j.made = (.ok i, host)) (hmodule : j.module = .ok i.module)
    (hpassed : j.Passed 6) : j.Ends (j.callSteps i) host := by
  have hhost : j.made.2 = host := by rw [hmade]
  have hsignature : i.exportSignature j.task.entry = j.signature := by
    rw [exportSignature_eq, signature, hmodule]
    rfl
  unfold callSteps
  rw [hsignature]
  cases hs : j.signature with
  | error e =>
    exact ends_of_failure .lookup (yields_settled _ host) hhost (by rw [fault?, hmodule, hs]; rfl) hpassed
  | ok s =>
    have h₇ : j.Passed 7 := hpassed.next .lookup (by rw [fault?, hmodule, hs]; rfl)
    have hread : parseArguments j.task.entry s j.task.args = j.arguments := by
      rw [arguments, hs]
      rfl
    refine .after (yields_settled _ host) ?_
    rw [hread]
    cases ha : j.arguments with
    | error e =>
      exact ends_of_failure .arguments (yields_settled _ host) hhost (by rw [fault?, hs, ha]; rfl) h₇
    | ok args =>
      have h₈ : j.Passed 8 := h₇.next .arguments (by rw [fault?, hs, ha]; rfl)
      have hcall := yields_callExport i j.task.entry args host
      have hcalled : j.called = ((i.invoke j.task.entry args host).1, (i.invoke j.task.entry args host).2.2) := by
        rw [called, hmade, ha]
      refine .after (yields_settled _ host) ?_
      revert hcall hcalled
      rcases i.invoke j.task.entry args host with ⟨result, _, after⟩
      intro hcall hcalled
      cases result with
      | error e =>
        exact ends_of_failure .execution hcall (by rw [hostAfter, hcalled])
          (by rw [fault?, hmade, ha, hcalled]; rfl) h₈
      | ok results =>
        have h₉ : j.Passed 9 := h₈.next .execution (by rw [fault?, hmade, ha, hcalled]; rfl)
        exact .after hcall (ends_exit hcalled h₉)

/-- From the module on: the imports, the instance, and all after it. -/
theorem ends_instance {m : Module} (hm : j.module = .ok m) : j.Ends (j.instanceSteps m) j.fresh := by
  have h₄ := passed_of_module hm
  have hbindings : j.bindings = resolveImports m (offered j.task.noStdlib) := by
    rw [bindings, hm]
    rfl
  have hmade : j.made = instantiate m (offered j.task.noStdlib) j.fresh := by rw [made, hm]
  refine .after (yields_registerLibraries j.task.noStdlib j.fresh) ?_
  have hmake := yields_instantiateModule m (offered j.task.noStdlib) j.fresh
  cases hb : j.bindings with
  | error e =>
    rw [(instantiate_of_resolve_error (hbindings.symm.trans hb) j.fresh).1] at hmake
    exact ends_of_failure .imports hmake rfl (by rw [fault?, hm, hb]; rfl) h₄
  | ok bs =>
    have h₅ : j.Passed 5 := h₄.next .imports (by rw [fault?, hm, hb]; rfl)
    rw [← hmade] at hmake
    cases hresult : j.made with
    | mk result host =>
      rw [hresult] at hmake
      cases result with
      | error e =>
        exact ends_of_failure .creation hmake (by rw [hostAfter, hresult]) (by rw [fault?, hb, hresult]; rfl) h₅
      | ok i =>
        have h₆ : j.Passed 6 := h₅.next .creation (by rw [fault?, hb, hresult]; rfl)
        have hmodule : i.module = m := (instantiate_sound (hmade.symm.trans hresult)).module
        exact .after hmake (ends_call hresult (hmodule ▸ hm) h₆)

/-- **How a run ends**: with the error of the first stage that fails, or with success if none does. -/
theorem ends (j : Job) : j.Ends j.steps j.fresh := by
  have hmodule := j.yields_module j.fresh
  cases hm : j.module with
  | error e =>
    rw [hm] at hmodule
    obtain ⟨stage, hfails, hhost⟩ := fails_of_module hm
    exact ends_of_failure stage hmodule hhost hfails.fails hfails.first
  | ok m =>
    rw [hm] at hmodule
    exact .after hmodule (ends_instance hm)

end Run

end Job

/-! ## 2. The process -/

/-- What is seen of a process whose run takes its stages in order. -/
structure Staged (j : Job) (result : Except Failure ExitStatus) (host : Drac) (o : Outcome) : Prop where
  /-- The run fails iff a stage does, and with the error of the first one. -/
  error : ∀ e, result = .error e ↔ ∃ stage, j.FailsFirst stage e
  /-- The errors of each stage are of its own kinds. -/
  codes : ∀ stage e, j.fault? stage = some e → e.status ∈ stage.codes
  /-- The error gives the exit status and the last line of the diagnostics. -/
  reported : ∀ e, result = .error e →
    o.status = e.status ∧ o.diagnostics.getLast? = some e.diagnostic ∧ o.output = host.output.written
  /-- Some kinds of errors are never reported, the libraries being registered without one. -/
  unreported : (Standard.register Drac.View.whole 0 Registry.empty).2 = .ok () ∧
    ∀ e, result = .error e → e.status ∉ [68, 77, 78]
  /-- Results that are no status can fail to be printed, which is a failure of the output and not one of the
      embedder. -/
  printing : ∀ e, j.fault? .output = some e → j.task.main = false ∧ ∃ text, e = .other text
  /-- If the output takes everything, no run fails there, so all errors are those of the embedder at the stages
      before. -/
  willing : j.out.Willing → ∀ e, result = .error e ↔
    ∃ stage err, stage ≠ .output ∧ j.FailsFirst stage (.runtime err) ∧ e = .runtime err
  /-- A failure before the instance is made leaves the host untouched. -/
  untouched : ∀ stage e, j.FailsFirst stage e → stage.rank < Stage.creation.rank →
    host = { input := j.input, output := { writer := j.out } }
  /-- Any other leaves it as guest code has left it, with nothing more written than the results that could be
      printed. -/
  kept : ∀ stage e, j.FailsFirst stage e → host = j.hostAfter stage

theorem steps_eq {r : Request} {t : RunTask} (htask : r.task = .run t) (env : Environment)
    (input : List UInt8) (out : Writer) : r.steps env = Job.steps ⟨env, r.flags, t, input, out⟩ := by
  unfold Request.steps Job.steps Job.moduleSteps
  rw [htask, bind_assoc, bind_assoc]
  rfl

theorem perform_of_words {ws : List String} {r : Request} (hwords : Request.ofWords ws = .ok r) (env : Environment)
    (input : List UInt8) (out : Writer) : perform ws env input out =
      .ofAttempt (.ofEnvironment env r.verbose) (r.attempt env input out).1 (r.attempt env input out).2 := by
  unfold perform
  rw [hwords]
  rfl

/-- What the steps of a run come to is what the request comes to. -/
theorem attempt_of_yields {r : Request} {t : RunTask} (htask : r.task = .run t) {env : Environment}
    {input : List UInt8} {out : Writer} {result : Except Failure ExitStatus} {after : Drac}
    (h : Yields (Job.steps ⟨env, r.flags, t, input, out⟩) (Job.fresh ⟨env, r.flags, t, input, out⟩) result after) :
    ∃ events, r.attempt env input out = (result, ⟨events, after⟩) := by
  obtain ⟨events, hend⟩ := h []
  refine ⟨events, ?_⟩
  rw [← hend, ← steps_eq htask]
  rfl

/-- Where the output takes everything, the first stage that fails is another one. -/
theorem failsFirst_of_willing {j : Job} (hwilling : j.out.Willing) {e : Failure} :
    (∃ stage, j.FailsFirst stage e) ↔
      ∃ stage err, stage ≠ .output ∧ j.FailsFirst stage (.runtime err) ∧ e = .runtime err := by
  constructor
  · rintro ⟨stage, hfails⟩
    have hstage : stage ≠ .output := by
      rintro rfl
      cases (Job.printed_of_willing hwilling).symm.trans hfails.fails
    obtain ⟨err, rfl⟩ := Job.runtime_of_fault hfails.fails hstage
    exact ⟨stage, err, hstage, hfails, rfl⟩
  · rintro ⟨stage, err, -, hfails, rfl⟩
    exact ⟨stage, hfails⟩

theorem error_iff_of_failure {j : Job} {stage : Stage} {e : Failure} (hfails : j.FailsFirst stage e) (f : Failure) :
    (.error e : Except Failure ExitStatus) = .error f ↔ ∃ stage, j.FailsFirst stage f := by
  constructor
  · intro h
    cases h
    exact ⟨stage, hfails⟩
  · rintro ⟨stage', hfails'⟩
    rw [(hfails.unique hfails').2]

theorem staged_of_failure {j : Job} {stage : Stage} {e : Failure} (hfails : j.FailsFirst stage e)
    (filter : Filter) (events : List Event) :
    Staged j (.error e) (j.hostAfter stage) (.ofAttempt filter (.error e) ⟨events, j.hostAfter stage⟩) where
  error := error_iff_of_failure hfails
  codes _ _ := Job.status_of_fault
  reported f h := by
    cases h
    exact ⟨rfl, List.getLast?_concat, rfl⟩
  unreported := by
    refine ⟨register_standard, fun f h => ?_⟩
    cases h
    exact Stage.unreported (Job.status_of_fault hfails.fails)
  printing _ := Job.other_of_fault
  willing hwilling f := (error_iff_of_failure hfails f).trans (failsFirst_of_willing hwilling)
  untouched stage' f hfails' hrank := by
    rw [(hfails.unique hfails').1]
    cases stage' with
    | engine | source | text | validation | imports => rfl
    | _ => exact absurd hrank (by decide)
  kept stage' f hfails' := by rw [(hfails.unique hfails').1]

theorem staged_of_success {j : Job} (hpassed : j.Passed 11) (filter : Filter) (status : ExitStatus)
    (trail : Trail) : Staged j (.ok status) trail.host (.ofAttempt filter (.ok status) trail) where
  error _ := ⟨(nomatch ·), fun ⟨_, hfails⟩ => absurd hfails hpassed.not_failsFirst⟩
  codes _ _ := Job.status_of_fault
  reported _ h := nomatch h
  unreported := ⟨register_standard, fun _ h => nomatch h⟩
  printing _ := Job.other_of_fault
  willing _ _ := ⟨(nomatch ·), fun ⟨_, _, _, hfails, _⟩ => absurd hfails hpassed.not_failsFirst⟩
  untouched _ _ hfails := absurd hfails hpassed.not_failsFirst
  kept _ _ hfails := absurd hfails hpassed.not_failsFirst

/-- **A run takes its stages in order.** -/
theorem runStaged {ws : List String} {r : Request} {t : RunTask} (hwords : Request.ofWords ws = .ok r)
    (htask : r.task = .run t) (env : Environment) (input : List UInt8) (out : Writer) :
    Staged ⟨env, r.flags, t, input, out⟩ (r.attempt env input out).1 (r.attempt env input out).2.host
      (perform ws env input out) := by
  rw [perform_of_words hwords]
  rcases Job.ends ⟨env, r.flags, t, input, out⟩ with
    ⟨stage, e, hfails, hyields⟩ | ⟨status, after, hpassed, hyields⟩
  · obtain ⟨events, hattempt⟩ := attempt_of_yields htask hyields
    rw [hattempt]
    exact staged_of_failure hfails _ events
  · obtain ⟨events, hattempt⟩ := attempt_of_yields htask hyields
    rw [hattempt]
    exact staged_of_success hpassed _ status ⟨events, after⟩

/-- A module that imports `println` of the drac library, and exports a function `start` without parameters that
    calls it and then traps. -/
def doomedBytes : List UInt8 :=
  [0, 97, 115, 109, 1, 0, 0, 0,
    1, 8, 2, 96, 0, 1, 127, 96, 0, 0,
    2, 16, 1, 4, 100, 114, 97, 99, 7, 112, 114, 105, 110, 116, 108, 110, 0, 0,
    3, 2, 1, 1,
    7, 9, 1, 5, 115, 116, 97, 114, 116, 0, 1,
    10, 8, 1, 6, 0, 16, 0, 26, 0, 11]

/-- An environment in which every file is this module. -/
def doomed : Environment := ⟨fun _ => .ok doomedBytes, fun _ => none⟩

/-- A module that exports a function `main` without parameters whose body is a constant: the type of its result,
    the instruction for constants of that type and the digits of the constant. -/
def constantBytes (type op : UInt8) (digits : List UInt8) : List UInt8 :=
  let size := UInt8.ofNat digits.length
  [0, 97, 115, 109, 1, 0, 0, 0,
    1, 5, 1, 96, 0, 1, type,
    3, 2, 1, 0,
    7, 8, 1, 4, 109, 97, 105, 110, 0, 0,
    10, size + 5, 1, size + 3, 0, op] ++ digits ++ [11]

/-- An environment in which every file is that module. -/
def constant (type op : UInt8) (digits : List UInt8) : Environment :=
  ⟨fun _ => .ok (constantBytes type op digits), fun _ => none⟩

/-- A writer that takes nothing. -/
def closed : Writer where receive _ _ _ := .fails 0 "Broken pipe (os error 32)"

/-- The module cannot be linked and is called with too many arguments; is linked and so called; is called as it
    should be, and traps. Where the output takes nothing, it traps when it prints, and a module that returns a
    number fails when that is printed. -/
theorem runStaged_doomed :
    let ws := ["run", "--no-stdlib", "m.wasm", "3"]
    let t : RunTask := { file := "m.wasm", noStdlib := true, args := ["3"] }
    let r : Request := ⟨{}, false, .run t⟩
    let j : Job := ⟨doomed, r.flags, t, [55, 10], .willing⟩
    Request.ofWords ws = .ok r ∧
      Staged j (r.attempt doomed [55, 10] .willing).1 (r.attempt doomed [55, 10] .willing).2.host
        (perform ws doomed [55, 10] .willing) ∧
      j.fault? .imports = some (.runtime (.unresolvedImport "drac" "println")) ∧
      j.fault? .arguments = some (.runtime (.arityOrTypeMismatch "start" "() -> ()" "1 argument(s)")) ∧
      (perform ws doomed [55, 10] .willing).status = 69 ∧
      (perform ["run", "m.wasm", "3"] doomed [55, 10] .willing).status = 75 ∧
      (perform ["run", "m.wasm"] doomed [55, 10] .willing).status = 76 ∧
      (perform ["run", "m.wasm"] doomed [55, 10] .willing).output = [10] ∧
      (perform ["run", "m.wasm"] doomed [55, 10] closed).status = 76 ∧
      perform ["run", "--invoke", "main", "m.wasm"] (constant 126 66 [127]) [] closed =
        ⟨1, [], ["error: Broken pipe (os error 32)"]⟩ := by
  refine ⟨rfl, runStaged rfl rfl doomed [55, 10] .willing, ?_, ?_, ?_, ?_, ?_, ?_, ?_, ?_⟩ <;> decide +kernel

end Embedder.Command
