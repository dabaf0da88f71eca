import Embedder.Proofs.Binding
import Embedder.Proofs.Interface
import Embedder.Proofs.Lifecycle

/-!
# The boundary between guest and host

Guest code keeps its operands as bare slots, and host functions take and return typed values. The two agree:
arguments fit because the module was checked when it was loaded and its signatures were compared when its
imports were bound, so the check that a host function makes of its arguments never fails for guest code;
results fit because they are checked before the guest sees them.

* `Crossing` -- a call of an import: the bound function is given the operands of the guest, bit for bit, as
  values of its parameter types;
* **`crossing`** -- every call of an import is one;
* `Crossing.advance` -- what becomes of it is what the function says (`Binding.outcome`), and nothing else;
* `advance_safe`, `advance_sound` -- one step keeps guest code typed, and with it every run;
* `Instance.Sound` -- so an instance stays as it must be, whatever it is asked;
* **`boundarySafe`** -- the boundary is safe in every run of every instance.
-/

namespace Embedder

variable {σ : Type}

/-! ## 1. Calls of imports -/

/-- At a moment the guest calls the import with index `k`, and the function that is bound to it is given some
    values. -/
structure Crossing (m : Module) (bindings : List (Binding σ)) (t : Moment σ) (k : Nat) (passed : List Nat)
    (b : Binding σ) (given : List Value) : Prop where
  bound : bindings[k]? = some b
  declared : m.imports[k]? = some b.declaration
  agreed : b.declaration.kind = .function b.function.signature
  /-- The guest has the operands that it passes. -/
  operands : passed.reverse <:+: t.machine.frame.stack
  /-- They are given bit for bit. -/
  bits : given.map Value.slot = passed
  types : given.map Value.type = b.function.signature.params

/-- What becomes of a call of a bound function: its own results if they have the declared types, and
    otherwise an error, its own or one about its results. -/
def Binding.outcome (b : Binding σ) (given : List Value) (w : σ) : Except HostError (List Value) × σ :=
  match b.function.run given w with
  | (.ok results, w') =>
    if results.map Value.type = b.function.signature.results then (.ok results, w')
    else
      (.error (.invalidResults b.qualified b.function.signature.text (Value.describe results)), w')
  | (.error e, w') => (.error e, w')

theorem Binding.types_of_outcome {b : Binding σ} {given results : List Value} {w w' : σ}
    (h : b.outcome given w = (.ok results, w')) :
    results.map Value.type = b.function.signature.results := by
  unfold outcome at h
  split at h
  · split at h
    · cases h
      assumption
    · cases h
  · cases h

/-- With arguments of its types a bound function is called, and no error about arguments arises. -/
theorem Binding.call_eq_outcome {b : Binding σ} {given : List Value}
    (h : given.map Value.type = b.function.signature.params) (w : σ) :
    b.function.call b.qualified given w = b.outcome given w := by
  unfold HostFunction.call outcome
  rw [if_pos (Signature.accepts_iff.mpr h)]
  rcases b.function.run given w with ⟨result, w'⟩
  cases result with
  | error e => rfl
  | ok results =>
    dsimp only [Except.bind, HostFunction.checkResults]
    by_cases htypes : results.map Value.type = b.function.signature.results
    · rw [if_pos htypes, if_pos (Signature.returns_iff.mpr htypes)]
    · rw [if_neg htypes, if_neg fun h => htypes (Signature.returns_iff.mp h)]

theorem valuesOf_slots : ∀ vs : List Value, valuesOf (vs.map Value.type) (vs.map Value.slot) = vs
  | [] => rfl
  | v :: vs => by
      rw [List.map_cons, List.map_cons, valuesOf, v.ofSlot_slot, valuesOf_slots vs]

section Calls

variable {m : Module} {r : Registry σ} {bindings : List (Binding σ)} {t next : Moment σ} {k : Nat}
  {passed : List Nat} {b : Binding σ} {given : List Value} {waiting : Wasm.Machine} {fin : List Wasm.Kind}

/-- **What becomes of a call is what the function says.** -/
theorem Crossing.advance (h : Crossing m bindings t k passed b given)
    (hstep : t.machine.step m.program = .calling k passed waiting) :
    t.advance m.program (bindings.map Binding.slot) =
      match b.outcome given t.world with
      | (.ok results, w) => .goesOn ⟨waiting.resume (results.map Value.slot), w⟩
      | (.error e, w) => .ends ⟨.error { cause := .host e }, waiting.state, w⟩ := by
  have hslot : (bindings.map Binding.slot)[k]? = some b.slot := by
    rw [List.getElem?_map, h.bound]
    rfl
  have hvalues : valuesOf b.function.signature.params passed = given := by
    rw [← h.types, ← h.bits, valuesOf_slots]
  unfold Moment.advance
  rw [hstep]
  dsimp only [callImport]
  rw [hslot]
  dsimp only [Slot.callRaw, Binding.slot]
  rw [hvalues, Binding.call_eq_outcome h.types]
  rcases b.outcome given t.world with ⟨result, w⟩
  cases result <;> rfl

theorem Module.step_sound (ht : t.machine.Safe m.wasm.items fin []) :
    (t.machine.step m.program).Sound m.wasm.items fin t.machine.frame.stack := by
  rw [m.program_eq]
  exact Wasm.Machine.step_sound m.wasm_runnable.items_sound ht

/-- **Every call of an import gives the bound function what the guest passes**, and the guest waits for
    results of the declared types. -/
theorem crossing (hb : List.Forall₂ (Serves r) m.imports bindings)
    (ht : t.machine.Safe m.wasm.items fin [])
    (hstep : t.machine.step m.program = .calling k passed waiting) :
    ∃ b given, Crossing m bindings t k passed b given ∧
      waiting.Safe m.wasm.items fin (b.function.signature.results.map some).reverse := by
  have hsound := Module.step_sound ht
  rw [hstep] at hsound
  cases hsound with
  | @calling f _ type _ _ callee hpassed operands waits =>
    obtain ⟨i, j, hi, hj, rfl⟩ := Wasm.host_callee callee
    obtain ⟨d, hd, hdescribed⟩ := import_described hi
    obtain ⟨b, hbound, hserves⟩ := Serves.at hb hd
    obtain ⟨j', hj', hdescribes⟩ := describeImport_function hdescribed hserves.signature
    obtain rfl : j = j' := Option.some.inj (hj.symm.trans hj')
    rw [hdescribes.params] at hpassed
    refine ⟨b, valuesOf b.function.signature.params passed, ⟨hbound, ?_, ?_, operands, ?_, ?_⟩, ?_⟩
    · rw [hserves.declaration]
      exact hd
    · rw [hserves.declaration]
      exact hserves.signature
    · exact slots_valuesOf hpassed
    · exact types_valuesOf hpassed
    · rw [← hdescribes.results]
      exact waits

/-! ## 2. Runs -/

/-- The run goes on with a typed machine, or it ends in a sound state. -/
def Advance.Sound (E : Wasm.Items) (fin : List Wasm.Kind) : Advance σ → Prop
  | .goesOn next => next.machine.Safe E fin []
  | .ends run => run.state.Sound E

/-- **A step of guest and host.** -/
theorem advance_sound (hb : List.Forall₂ (Serves r) m.imports bindings)
    (ht : t.machine.Safe m.wasm.items fin []) :
    (t.advance m.program (bindings.map Binding.slot)).Sound m.wasm.items fin := by
  have hsound := Module.step_sound ht
  cases hstep : t.machine.step m.program with
  | calling k passed waiting =>
    obtain ⟨b, given, hcrossing, waits⟩ := crossing hb ht hstep
    rw [hcrossing.advance hstep]
    split
    · rename_i results w houtcome
      refine waits.resume ?_
      rw [← Binding.types_of_outcome houtcome, List.map_map]
      exact (Value.slots_fit results).reverse
    · obtain ⟨-, -, state⟩ := waits
      exact state
  | running machine =>
    rw [hstep] at hsound
    unfold Moment.advance
    rw [hstep]
    cases hsound with
    | running safe => exact safe
  | finished results s =>
    rw [hstep] at hsound
    unfold Moment.advance
    rw [hstep]
    cases hsound with
    | finished _ state => exact state
  | trapped e s =>
    rw [hstep] at hsound
    unfold Moment.advance
    rw [hstep]
    cases hsound with
    | trapped _ state => exact state

theorem advance_safe (hb : List.Forall₂ (Serves r) m.imports bindings)
    (ht : t.machine.Safe m.wasm.items fin [])
    (hnext : t.advance m.program (bindings.map Binding.slot) = .goesOn next) :
    next.machine.Safe m.wasm.items fin [] := by
  have hsound := advance_sound hb ht
  rwa [hnext] at hsound

/-- A run of typed guest code ends in a sound state. -/
theorem drive_sound (hb : List.Forall₂ (Serves r) m.imports bindings)
    (ht : t.machine.Safe m.wasm.items fin []) (budget : Nat) :
    (drive m.program (bindings.map Binding.slot) budget t.machine t.world).state.Sound m.wasm.items := by
  refine drive_invariant (I := fun t => t.machine.Safe m.wasm.items fin [])
    (R := fun run => run.state.Sound m.wasm.items) (fun t next => advance_safe hb) ?_ ?_ budget t ht
  · intro t run ht hrun
    have hsound := advance_sound hb ht
    rwa [hrun] at hsound
  · rintro t ⟨-, -, state⟩
    exact state

/-- How an operation answers to what happens at the boundary: every call of an import in its run is a
    `Crossing`. If the function returns what it declares the guest goes on with exactly that. If it fails, the
    guest never goes on, and the error is what `reports` says the operation answers. -/
def Guarded (m : Module) (bindings : List (Binding σ)) (name : String) (run : List (Moment σ))
    (reports : RuntimeError → σ → Prop) : Prop :=
  ∀ before t after k passed waiting, run = before ++ t :: after →
    t.machine.step m.program = .calling k passed waiting →
      ∃ b given, Crossing m bindings t k passed b given ∧
        match b.outcome given t.world with
        | (.ok results, w) =>
          results.map Value.type = b.function.signature.results ∧
            after = moments m.program (bindings.map Binding.slot)
              (m.engine.budget - (before.length + 1)) ⟨waiting.resume (results.map Value.slot), w⟩
        | (.error e, w) => after = [] ∧ reports (.trap name .hostFunction e.message) w

/-- **The boundary is guarded in the run of a typed machine.** -/
theorem guarded_moments (hb : List.Forall₂ (Serves r) m.imports bindings)
    (ht : t.machine.Safe m.wasm.items fin []) {name : String} {reports : RuntimeError → σ → Prop}
    (hreports : ∀ e s w, drive m.program (bindings.map Binding.slot) m.engine.budget t.machine t.world =
      ⟨.error { cause := .host e }, s, w⟩ → reports (.trap name .hostFunction e.message) w) :
    Guarded m bindings name (moments m.program (bindings.map Binding.slot) m.engine.budget t) reports := by
  intro before u after k passed waiting hrun hstep
  have hu : u ∈ moments m.program (bindings.map Binding.slot) m.engine.budget t := by
    rw [hrun]
    exact List.mem_append_right before List.mem_cons_self
  have hsafe := moments_invariant (fun t next => advance_safe hb) m.engine.budget t ht u hu
  obtain ⟨b, given, hcrossing, -⟩ := crossing hb hsafe hstep
  have hadvance := hcrossing.advance hstep
  have hafter := moments_split hrun
  refine ⟨b, given, hcrossing, ?_⟩
  rw [hadvance] at hafter
  cases houtcome : b.outcome given u.world with
  | mk result w =>
    rw [houtcome] at hadvance hafter
    cases result with
    | ok results => exact ⟨Binding.types_of_outcome houtcome, hafter⟩
    | error e => exact ⟨hafter, hreports e _ w (drive_of_ends hadvance hu)⟩

end Calls

/-! ## 3. Instances -/

section Instances

variable {m : Module} {r : Registry σ} {bindings : List (Binding σ)}

/-- A module whose imports are bound imports functions only. -/
theorem imports_functions (hb : List.Forall₂ (Serves r) m.imports bindings) {i : Wasm.Import}
    (hi : i ∈ m.wasm.imports) : ∃ t, i.kind = .func t := by
  obtain ⟨k, hk⟩ := List.mem_iff_getElem?.mp hi
  obtain ⟨d, hd, hdescribed⟩ := import_described hk
  obtain ⟨b, -, hserves⟩ := Serves.at hb hd
  obtain ⟨j, hj, -⟩ := describeImport_function hdescribed hserves.signature
  unfold Wasm.Import.func? at hj
  cases hkind : i.kind with
  | func t => exact ⟨t, rfl⟩
  | memory t | table t | global t | tag t =>
    rw [hkind] at hj
    cases hj

theorem importedGlobals_eq_nil (hb : List.Forall₂ (Serves r) m.imports bindings) :
    m.wasm.importedGlobals = [] := by
  refine List.filterMap_eq_nil_iff.mpr fun i hi => ?_
  obtain ⟨t, ht⟩ := imports_functions hb hi
  rw [ht]

/-- So its memories are its own. -/
theorem memoryTypes_eq (hb : List.Forall₂ (Serves r) m.imports bindings) :
    m.wasm.memoryTypes = m.wasm.memories := by
  unfold Wasm.Module.memoryTypes
  rw [List.filterMap_eq_nil_iff.mpr, List.nil_append]
  intro i hi
  obtain ⟨t, ht⟩ := imports_functions hb hi
  rw [ht]

theorem initialState_sound (hb : List.Forall₂ (Serves r) m.imports bindings) {s : Wasm.State}
    (hs : m.wasm.initialState = .ok s) : s.Sound m.wasm.items :=
  m.wasm_runnable.initialState_sound (importedGlobals_eq_nil hb) hs

/-- The start function runs typed. -/
theorem start_function_safe {s : Wasm.State} (hs : s.Sound m.wasm.items) {f : Nat} (hf : m.start = some f) :
    ∃ fin, (Wasm.Machine.start s f [] 0).Safe m.wasm.items fin [] := by
  obtain ⟨c, hc, hparams, hresults⟩ := m.wasm_runnable.start_callee hf
  have hargs : Wasm.Fits (c.type.params.map Wasm.ValType.number?) [] := by
    rw [hparams]
    exact .nil
  have hsafe := Wasm.start_safe (E := m.wasm.items) hc hs hargs
  rw [hresults] at hsafe
  exact ⟨_, hsafe⟩

/-- An instance as it has to be: bound as the registry says, in a sound state. -/
structure Instance.Sound (m : Module) (r : Registry σ) (i : Instance σ) : Prop where
  module : i.module = m
  bindings : resolveImports m r = .ok i.bindings
  slots : i.slots = i.bindings.map Binding.slot
  state : i.state.Sound m.wasm.items

theorem Instance.Sound.serves {i : Instance σ} (hi : i.Sound m r) :
    List.Forall₂ (Serves r) m.imports i.bindings :=
  (resolveAll_ok_iff r m.imports i.bindings).mp hi.bindings

/-- A call that is admitted runs typed. -/
theorem Instance.Sound.call_safe {i : Instance σ} (hi : i.Sound m r) {name : String} {args : List Value}
    {s : Signature} {f : Nat} (h : i.admitCall name args = .ok (s, f)) :
    ∃ fin, (Wasm.Machine.start i.state f (args.map Value.slot) s.results.length).Safe m.wasm.items fin [] := by
  obtain ⟨htypes, t, ht, hdescribes⟩ := Instance.admitCall_described h
  rw [hi.module] at ht
  obtain ⟨j, hj, ht⟩ := Option.bind_eq_some_iff.mp ht
  obtain ⟨c, hc, rfl⟩ := m.wasm_runnable.callee hj ht
  have hargs : Wasm.Fits (c.type.params.map Wasm.ValType.number?) (args.map Value.slot) := by
    rw [hdescribes.params, ← htypes, List.map_map]
    exact Value.slots_fit args
  have hresults : c.type.results.length = s.results.length := by
    have hlength := congrArg List.length hdescribes.results
    rwa [List.length_map, List.length_map] at hlength
  have hsafe := Wasm.start_safe (E := m.wasm.items) hc hi.state hargs
  rw [hresults] at hsafe
  exact ⟨_, hsafe⟩

/-- What a new instance is: the module with its imports bound, after the start function has run. -/
theorem instantiate_ok {w w' : σ} {i : Instance σ} (h : instantiate m r w = (.ok i, w')) :
    ∃ bindings s, resolveImports m r = .ok bindings ∧ m.wasm.initialState = .ok s ∧
      i = { module := m, bindings, slots := bindings.map Binding.slot,
            state := (runStart m (bindings.map Binding.slot) s w).state } := by
  unfold instantiate at h
  rw [prepare_eq] at h
  cases hb : resolveImports m r with
  | error e =>
    rw [hb] at h
    cases h
  | ok bindings =>
    rw [hb] at h
    dsimp only [Except.map, createInstance] at h
    cases hs : m.wasm.initialState with
    | error t =>
      rw [hs] at h
      cases h
    | ok s =>
      rw [hs] at h
      dsimp only at h
      split at h
      · cases h
      · cases h
        exact ⟨bindings, s, rfl, rfl, rfl⟩

/-- **A new instance is sound.** -/
theorem instantiate_sound {w w' : σ} {i : Instance σ} (h : instantiate m r w = (.ok i, w')) :
    i.Sound m r := by
  obtain ⟨bindings, s, hb, hs, rfl⟩ := instantiate_ok h
  have hserves := (resolveAll_ok_iff r m.imports bindings).mp hb
  have hstate := initialState_sound hserves hs
  refine ⟨rfl, hb, rfl, ?_⟩
  dsimp only
  unfold runStart
  split
  · exact hstate
  · rename_i f hf
    obtain ⟨fin, hsafe⟩ := start_function_safe hstate hf
    exact drive_sound (t := ⟨_, w⟩) hserves hsafe _

/-- The run of a call leaves a sound state. -/
theorem Instance.Sound.run_state {i : Instance σ} (hi : i.Sound m r) {o : Operation} {w : σ} {run : Run σ}
    (h : i.engineRun? o w = some run) : run.state.Sound m.wasm.items := by
  obtain ⟨name, args, s, f, hallowed, rfl⟩ := Instance.engineRun?_eq_some h
  obtain ⟨fin, hsafe⟩ := hi.call_safe hallowed
  unfold runFunction
  rw [hi.module, hi.slots]
  exact drive_sound (t := ⟨_, w⟩) hi.serves hsafe _

/-- **Whatever it is asked, an instance stays sound.** -/
theorem Instance.Sound.performAll (os : List Operation) {i : Instance σ} (hi : i.Sound m r) (w : σ) :
    (i.performAll os w).2.1.Sound m r := by
  refine Instance.performAll_invariant (fun {i o w run} hi hrun => ?_) os hi w
  have hstate := hi.run_state hrun
  exact ⟨⟨hi.module, hi.bindings, hi.slots, hstate⟩, fun _ => ⟨hi.module, hi.bindings, hi.slots, hstate⟩⟩

/-! ## 4. The law -/

theorem guarded_nil {name : String} {reports : RuntimeError → σ → Prop} :
    Guarded m bindings name [] reports := by
  intro before t after k passed waiting hrun
  cases before <;> cases hrun

/-- The start function's run is guarded, and a failure of the host is that of the start routine. -/
theorem guarded_instantiation (hb : resolveImports m r = .ok bindings) (w : σ) :
    Guarded m bindings startRoutine (instantiationMoments m r w) fun e w' =>
      instantiate m r w = (.error (.startRoutineTrap e), w') := by
  have hserves := (resolveAll_ok_iff r m.imports bindings).mp hb
  unfold instantiationMoments
  rw [prepare_eq, hb]
  cases hs : m.wasm.initialState with
  | error t => exact guarded_nil
  | ok s =>
    cases hf : m.start with
    | none => exact guarded_nil
    | some f =>
      obtain ⟨fin, hsafe⟩ := start_function_safe (initialState_sound hserves hs) hf
      refine guarded_moments hserves hsafe fun e s' w' hdrive => ?_
      have hrun : runStart m (bindings.map Binding.slot) s w = ⟨.error { cause := .host e }, s', w'⟩ := by
        unfold runStart
        rw [hf]
        exact hdrive
      unfold instantiate
      rw [prepare_eq, hb]
      dsimp only [Except.map, createInstance]
      rw [hs]
      dsimp only
      rw [hrun]
      dsimp only [creationError]
      rw [hf]
      rfl

/-- The run of a call is guarded, and a failure of the host is that of the call. -/
theorem Instance.Sound.guarded_invocation {i : Instance σ} (hi : i.Sound m r) (name : String)
    (args : List Value) (w : σ) :
    Guarded m i.bindings name (i.invocationMoments name args w) fun e w' =>
      ∃ i', i.invoke name args w = (.error e, i', w') ∧ i'.lifecycle = .trapped e.message := by
  unfold Instance.invocationMoments
  cases hallowed : i.admitCall name args with
  | error e => exact guarded_nil
  | ok sf =>
    obtain ⟨s, f⟩ := sf
    obtain ⟨fin, hsafe⟩ := hi.call_safe hallowed
    dsimp only [functionMoments]
    rw [hi.module, hi.slots]
    refine guarded_moments hi.serves hsafe fun e s' w' hdrive => ?_
    have hrun : runFunction i.module i.slots i.state f (args.map Value.slot) s.results.length w =
        ⟨.error { cause := .host e }, s', w'⟩ := by
      rw [hi.module, hi.slots]
      exact hdrive
    unfold Instance.invoke Instance.callFunction
    rw [hallowed]
    dsimp only
    rw [hrun]
    exact ⟨_, rfl, rfl⟩

end Instances

/-- The boundary is safe in every run of a module with functions of a registry. -/
structure BoundarySafe (m : Module) (r : Registry σ) : Prop where
  /-- When an instance is made, the start function runs with the imports bound, or nothing runs. A failure
      of the host is the failure of the start routine. -/
  instantiating : ∀ w, match resolveImports m r with
    | .ok bindings => Guarded m bindings startRoutine (instantiationMoments m r w) fun e w' =>
        instantiate m r w = (.error (.startRoutineTrap e), w')
    | .error _ => instantiationMoments m r w = []
  /-- An instance that was made is bound in the same way, whatever it was asked since. A failure of the host
      is the failure of the call, and leaves the instance trapped with its text. -/
  invoking : ∀ w w₁ i, instantiate m r w = (.ok i, w₁) → ∀ os i' w', (i.performAll os w₁).2 = (i', w') →
    resolveImports m r = .ok i'.bindings ∧ ∀ name args,
      Guarded m i'.bindings name (i'.invocationMoments name args w') fun e w'' =>
        ∃ i'', i'.invoke name args w' = (.error e, i'', w'') ∧ i''.lifecycle = .trapped e.message

/-- **The boundary is safe**, for any functions of the host. -/
theorem boundarySafe (m : Module) (r : Registry σ) : BoundarySafe m r where
  instantiating w := by
    cases hb : resolveImports m r with
    | ok bindings => exact guarded_instantiation hb w
    | error e => exact (instantiate_of_resolve_error hb w).2
  invoking w w₁ i h os i' w' hafter := by
    have hi := Instance.Sound.performAll os (instantiate_sound h) w₁
    rw [hafter] at hi
    exact ⟨hi.bindings, fun name args => hi.guarded_invocation name args w'⟩

/-- A module with a function that passes its argument on to the host. -/
def relayWasm : Wasm.Module where
  types := [.ofFunc ⟨[.num .i32], [.num .i32]⟩]
  imports := [⟨"env", "f", .func 0⟩]
  funcs := [0]
  exports := [⟨"go", .func 1⟩]
  bodies := [⟨[], [.localGet 0, .call 0, .end_]⟩]

/-- The same, loaded. -/
def relay : Module where
  engine := { id := 0, config := {}, budget := 8 }
  wasm := relayWasm
  program := relayWasm.program
  imports := [⟨"env", "f", .function ⟨[.i32], [.i32]⟩⟩]
  exports := [⟨"go", .function ⟨[.i32], [.i32]⟩⟩]
  valid := by rfl
  runnable := by rfl
  program_eq := rfl
  imports_eq := by rfl
  exports_eq := by rfl

/-- A host function that writes down what it is given and does not return what it declares. -/
def liar : HostFunction (List (List Value)) :=
  ⟨0, ⟨[.i32], [.i32]⟩, fun args log => (.ok [.i64 5], args :: log)⟩

theorem boundarySafe_relay :
    let r := Registry.empty.insert "env" "f" liar
    BoundarySafe relay r ∧ ∃ i, instantiate relay r [] = (.ok i, []) ∧
      (∃ t waiting, (i.invocationMoments "go" [.i32 7] [])[2]? = some t ∧
        t.machine.step relay.program = .calling 0 [7] waiting) ∧
      ∃ i', i.invoke "go" [.i32 7] [] = (.error (.trap "go" .hostFunction
        "env.f returned (i64), declared (i32) -> i32"), i', [[.i32 7]]) := by
  refine ⟨boundarySafe relay _, _, rfl, ?_, ?_⟩
  · exact ⟨_, _, rfl, rfl⟩
  · exact ⟨_, rfl⟩

end Embedder
