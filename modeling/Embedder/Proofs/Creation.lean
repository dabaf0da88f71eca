import Embedder.Proofs.Boundary
import Embedder.Proofs.Causes

/-!
# How the making of an instance can fail

An engine makes an instance of a module whose functions are linked: it sets up memories and tables, writes the
segments, and runs the start function. Whatever goes wrong there comes back as one `EngineError`, and the
embedder says what it was from that error and from whether the module has a start function.

* `Maker` -- any engine, as far as that goes. `instantiateBy` is instantiation with it, and
  **`instantiate_eq`** says that `instantiate` is instantiation with the engine of this library;
* `instantiateBy_error_iff` -- with its imports bound, a module fails to be instantiated iff the engine fails;
* **`reported_creationError`** -- the report is right for every error that an engine can have;
* **`make_error_iff`** -- how this engine fails (`CreationFault`): a segment is out of range, or the start
  routine traps, calls a function of the host that fails, or does not end;
* `make_ok` -- if it does not fail, the start routine has run to its end, once;
* **`coherent_instantiateBy`**, **`coherent_invoke`** -- the errors of instantiation and of calls are traps iff they
  have a kind;
* `creationClassified` -- all of it for a module and a registry.
-/

namespace Embedder

variable {σ : Type}

/-! ## 1. Engines -/

/-- What an engine does to make an instance: given the functions that are linked and the world of the host it
    comes to a state or fails, and code of guest and host may have run in either case. -/
abbrev Maker (σ : Type) := List (Slot σ) → σ → Except EngineError Wasm.State × σ

/-- Instantiates a module with an engine. -/
def instantiateBy (make : Maker σ) (m : Module) (r : Registry σ) (w : σ) :
    Except RuntimeError (Instance σ) × σ :=
  match prepare m r with
  | .error e => (.error e, w)
  | .ok (bindings, slots) =>
    match make slots w with
    | (.error e, w') => (.error (creationError m e), w')
    | (.ok s, w') => (.ok { module := m, bindings, slots, state := s }, w')

/-- The engine of this library: the segments are written, then the start function runs. -/
def Module.make (m : Module) : Maker σ := fun slots w =>
  match m.wasm.initialState with
  | .error t => (.error { cause := .trap t }, w)
  | .ok s =>
    let run := runStart m slots s w
    (run.result.map fun _ => run.state, run.world)

/-- **Instantiation is instantiation with the engine of this library.** -/
theorem instantiate_eq (m : Module) (r : Registry σ) (w : σ) :
    instantiate m r w = instantiateBy m.make m r w := by
  unfold instantiate instantiateBy
  cases prepare m r with
  | error e => rfl
  | ok bound =>
    obtain ⟨bindings, slots⟩ := bound
    dsimp only [createInstance, Module.make]
    cases m.wasm.initialState with
    | error t => rfl
    | ok s =>
      dsimp only
      rcases runStart m slots s w with ⟨result, state, world⟩
      cases result with
      | error e => rfl
      | ok results => rfl

section Resolved

variable {m : Module} {r : Registry σ} {bs : List (Binding σ)}

/-- With its imports bound, a module is instantiated by what the engine says. -/
theorem instantiateBy_of_resolved (hb : resolveImports m r = .ok bs) (make : Maker σ) (w : σ) :
    instantiateBy make m r w =
      match make (bs.map Binding.slot) w with
      | (.error e, w') => (.error (creationError m e), w')
      | (.ok s, w') =>
        (.ok { module := m, bindings := bs, slots := bs.map Binding.slot, state := s }, w') := by
  unfold instantiateBy
  rw [prepare_eq, hb]
  rfl

/-- It fails iff the engine does, with the report about that failure. -/
theorem instantiateBy_error_iff (hb : resolveImports m r = .ok bs) {make : Maker σ} {w w' : σ}
    {err : RuntimeError} :
    instantiateBy make m r w = (.error err, w') ↔
      ∃ e, make (bs.map Binding.slot) w = (.error e, w') ∧ err = creationError m e := by
  rw [instantiateBy_of_resolved hb]
  rcases make (bs.map Binding.slot) w with ⟨e | s, w''⟩
  · constructor
    · intro h
      cases h
      exact ⟨e, rfl, rfl⟩
    · rintro ⟨_, h, rfl⟩
      cases h
      rfl
  · constructor
    · intro h
      cases h
    · rintro ⟨_, h, -⟩
      cases h

/-! ## 2. Reports -/

/-- Guest or host code has failed, and not the engine itself. -/
def EngineError.FromCode (e : EngineError) : Prop := (∃ t, e.cause = .trap t) ∨ ∃ h, e.cause = .host h

theorem EngineError.isGuestFault_iff (e : EngineError) : e.isGuestFault = true ↔ e.FromCode := by
  unfold EngineError.isGuestFault EngineError.FromCode
  rw [e.hostError?_eq, e.engineTrap?_eq]
  cases e.cause with
  | trap t => simp [Link.hostError?, Link.engineTrap?]
  | host h => simp [Link.hostError?]
  | other text => simp [Link.hostError?, Link.engineTrap?]

/-- How a failure of an engine has to be reported. -/
structure Reported (m : Module) (e : EngineError) (err : RuntimeError) : Prop where
  /-- If the module has a start function, the fault counts as one of it. -/
  startTrap : m.start.isSome = true → e.FromCode → ∃ source, err = .startRoutineTrap source ∧
    source = .trap "<start>" e.kind e.message ∧ source.trapKind = some e.kind ∧ err.trapKind = some e.kind
  /-- In every other case all that is said is that there is no instance, in the words of the engine. -/
  other : ¬ (m.start.isSome = true ∧ e.FromCode) → err = .instantiation e.fullText

/-- **Every failure of an engine is reported as it has to be.** -/
theorem reported_creationError (m : Module) (e : EngineError) : Reported m e (creationError m e) where
  startTrap hstart hcode := by
    have hfault := e.isGuestFault_iff.mpr hcode
    unfold creationError
    rw [hstart, hfault]
    exact ⟨_, rfl, rfl, rfl, rfl⟩
  other hno := by
    unfold creationError
    rw [if_neg]
    intro h
    obtain ⟨hstart, hfault⟩ := Bool.and_eq_true_iff.mp h
    exact hno ⟨hstart, e.isGuestFault_iff.mp hfault⟩

/-! ## 3. How this engine fails -/

/-- Steps that fail in some ways only, taken one after the other, fail in these ways. -/
theorem error_of_foldlM {α β ε : Type} {step : β → α → Except ε β} {P : ε → Prop}
    (hstep : ∀ b a e, step b a = .error e → P e) : ∀ (as : List α) (b : β) {e : ε},
    as.foldlM step b = .error e → P e
  | [], _, _, h => nomatch h
  | a :: as, b, e, h => by
      rw [List.foldlM_cons] at h
      cases ha : step b a with
      | error f =>
        rw [ha] at h
        cases h
        exact hstep b a _ ha
      | ok b' =>
        rw [ha] at h
        exact error_of_foldlM hstep as b' h

theorem applyElem_error {s : Wasm.State} {x : Wasm.Elem × Nat} {t : EngineTrap}
    (h : s.applyElem x = .error t) : t = .tableOutOfBounds := by
  unfold Wasm.State.applyElem at h
  split at h
  · cases h
  · cases h
  · rw [map_eq_error_iff] at h
    unfold Wasm.State.writeTable at h
    split at h
    · cases h
      rfl
    · split at h
      · cases h
      · cases h
        rfl

theorem applyData_error {s : Wasm.State} {x : Wasm.Data × Nat} {t : EngineTrap}
    (h : s.applyData x = .error t) : t = .memoryOutOfBounds := by
  unfold Wasm.State.applyData at h
  split at h
  · rw [map_eq_error_iff] at h
    unfold Wasm.State.writeMemory at h
    split at h
    · cases h
      rfl
    · split at h
      · cases h
      · cases h
        rfl
  · cases h

/-- A new state is not made only if a segment is out of range. -/
theorem initialState_error {m : Wasm.Module} {t : EngineTrap} (h : m.initialState = .error t) :
    t = .tableOutOfBounds ∨ t = .memoryOutOfBounds := by
  unfold Wasm.Module.initialState at h
  cases helems : m.elems.zipIdx.foldlM Wasm.State.applyElem m.blankState with
  | error f =>
    rw [helems] at h
    cases h
    exact .inl (error_of_foldlM (fun _ _ _ => applyElem_error) _ _ helems)
  | ok s =>
    rw [helems] at h
    exact .inr (error_of_foldlM (fun _ _ _ => applyData_error) _ s h)

/-- The ways in which an instance of a module whose imports are bound cannot be made: the error of the engine,
    and the world that is left. -/
inductive CreationFault (m : Module) (r : Registry σ) (bs : List (Binding σ)) (w : σ) : EngineError → σ → Prop
  /-- A segment is out of range; nothing has run. -/
  | segment {t : EngineTrap} (h : m.wasm.initialState = .error t)
      (range : t = .tableOutOfBounds ∨ t = .memoryOutOfBounds) :
      CreationFault m r bs w { cause := .trap t } w
  /-- The start routine traps, in whatever function it has come to. -/
  | trap {u : Moment σ} {t : EngineTrap} {s : Wasm.State} (running : u ∈ instantiationMoments m r w)
      (h : u.machine.step m.program = .trapped t s) :
      CreationFault m r bs w { cause := .trap t } u.world
  /-- A function of the host fails that the start routine calls, from whatever function it has come to. -/
  | host {u : Moment σ} {k : Nat} {passed : List Nat} {waiting : Wasm.Machine} {b : Binding σ}
      {given : List Value} {e : HostError} {w' : σ} (running : u ∈ instantiationMoments m r w)
      (calls : u.machine.step m.program = .calling k passed waiting)
      (crossing : Crossing m bs u k passed b given) (h : b.outcome given u.world = (.error e, w')) :
      CreationFault m r bs w { cause := .host e } w'
  /-- The start routine is stopped, since it goes on until its steps are used up. -/
  | endless {s : Wasm.State} {f : Nat} (hs : m.wasm.initialState = .ok s) (hf : m.start = some f)
      (h : ∀ u ∈ instantiationMoments m r w, ∃ next,
        u.advance m.program (bs.map Binding.slot) = .goesOn next) :
      CreationFault m r bs w { cause := .trap .interrupt } (runStart m (bs.map Binding.slot) s w).world

/-- The moments of an instantiation are those of the start function, on the state that the segments give. -/
theorem instantiationMoments_eq (hb : resolveImports m r = .ok bs) {s : Wasm.State}
    (hs : m.wasm.initialState = .ok s) {f : Nat} (hf : m.start = some f) (w : σ) :
    instantiationMoments m r w = functionMoments m (bs.map Binding.slot) s f [] 0 w := by
  unfold instantiationMoments
  rw [prepare_eq, hb, hs, hf]
  rfl

theorem started_of_mem {w : σ} {u : Moment σ} (h : u ∈ instantiationMoments m r w) :
    ∃ s f, m.wasm.initialState = .ok s ∧ m.start = some f := by
  unfold instantiationMoments at h
  split at h
  · exact ⟨_, _, by assumption, by assumption⟩
  · cases h

theorem runStart_eq {s : Wasm.State} {f : Nat} (hf : m.start = some f) (slots : List (Slot σ)) (w : σ) :
    runStart m slots s w = drive m.program slots m.engine.budget (.start s f [] 0) w := by
  unfold runStart
  rw [hf]
  rfl

/-- How the start routine ends: at its last moment, or because its steps are used up. -/
theorem runStart_cases (hb : resolveImports m r = .ok bs) {s : Wasm.State} (hs : m.wasm.initialState = .ok s)
    {f : Nat} (hf : m.start = some f) (w : σ) :
    (∃ before last, instantiationMoments m r w = before ++ [last] ∧
      (∀ u ∈ before, ∃ next, u.advance m.program (bs.map Binding.slot) = .goesOn next) ∧
      last.advance m.program (bs.map Binding.slot) = .ends (runStart m (bs.map Binding.slot) s w)) ∨
    (∀ u ∈ instantiationMoments m r w, ∃ next,
        u.advance m.program (bs.map Binding.slot) = .goesOn next) ∧
      (runStart m (bs.map Binding.slot) s w).result = .error { cause := .trap .interrupt } := by
  rw [instantiationMoments_eq hb hs hf, runStart_eq hf]
  exact drive_cases m.engine.budget ⟨.start s f [] 0, w⟩

theorem make_of_state {s : Wasm.State} (hs : m.wasm.initialState = .ok s) (slots : List (Slot σ)) (w : σ) :
    m.make slots w =
      ((runStart m slots s w).result.map fun _ => (runStart m slots s w).state, (runStart m slots s w).world) := by
  unfold Module.make
  rw [hs]

/-- A moment of the start routine that ends its run decides what the engine says. -/
theorem make_of_ends (hb : resolveImports m r = .ok bs) {w : σ} {u : Moment σ} {run : Run σ}
    (hu : u ∈ instantiationMoments m r w) (hend : u.advance m.program (bs.map Binding.slot) = .ends run) :
    m.make (bs.map Binding.slot) w = (run.result.map fun _ => run.state, run.world) := by
  obtain ⟨s, f, hs, hf⟩ := started_of_mem hu
  rw [instantiationMoments_eq hb hs hf] at hu
  have hrun : runStart m (bs.map Binding.slot) s w = run := by
    rw [runStart_eq hf]
    exact drive_of_ends hend hu
  rw [make_of_state hs, hrun]

/-- At every moment of the start routine guest code is typed. -/
theorem start_safe_at (hb : resolveImports m r = .ok bs) {w : σ} {u : Moment σ}
    (hu : u ∈ instantiationMoments m r w) : ∃ fin, u.machine.Safe m.wasm.items fin [] := by
  obtain ⟨s, f, hs, hf⟩ := started_of_mem hu
  have hserves := (resolveAll_ok_iff r m.imports bs).mp hb
  obtain ⟨fin, hsafe⟩ := start_function_safe (initialState_sound hserves hs) hf
  rw [instantiationMoments_eq hb hs hf] at hu
  exact ⟨fin, moments_invariant (fun t next => advance_safe hserves) m.engine.budget ⟨_, w⟩ hsafe u hu⟩

/-- A moment of the start routine that ends its run with an error is a fault of one of the kinds. -/
theorem creationFault_of_ends (hb : resolveImports m r = .ok bs) {w : σ} {u : Moment σ} {run : Run σ}
    {e : EngineError} (hu : u ∈ instantiationMoments m r w)
    (hend : u.advance m.program (bs.map Binding.slot) = .ends run) (he : run.result = .error e) :
    CreationFault m r bs w e run.world := by
  rcases Moment.advance_ends hend with ⟨rs, s, -, rfl⟩ | ⟨t, s, hstep, rfl⟩ | ⟨k, args, waiting, f, w', hstep, -, rfl⟩
  · cases he
  · cases he
    exact .trap hu hstep
  · cases he
    -- the call is one of a bound function, so its failure is what that function says
    obtain ⟨fin, hsafe⟩ := start_safe_at hb hu
    obtain ⟨b, given, hcrossing, -⟩ := crossing ((resolveAll_ok_iff r m.imports bs).mp hb) hsafe hstep
    have hadvance := hcrossing.advance hstep
    rw [hend] at hadvance
    cases houtcome : b.outcome given u.world with
    | mk result w'' =>
      rw [houtcome] at hadvance
      cases result with
      | ok results => cases hadvance
      | error h =>
        cases hadvance
        exact .host hu hstep hcrossing houtcome

/-- **How this engine fails**: exactly in the ways of `CreationFault`. -/
theorem make_error_iff (hb : resolveImports m r = .ok bs) {w w' : σ} {e : EngineError} :
    m.make (bs.map Binding.slot) w = (.error e, w') ↔ CreationFault m r bs w e w' := by
  constructor
  · intro h
    cases hs : m.wasm.initialState with
    | error t =>
      unfold Module.make at h
      rw [hs] at h
      cases h
      exact .segment hs (initialState_error hs)
    | ok s =>
      rw [make_of_state hs] at h
      have herror := map_eq_error_iff.mp (congrArg Prod.fst h)
      obtain rfl : (runStart m (bs.map Binding.slot) s w).world = w' := congrArg Prod.snd h
      cases hf : m.start with
      | none =>
        unfold runStart at herror
        rw [hf] at herror
        cases herror
      | some f =>
        rcases runStart_cases hb hs hf w with ⟨before, last, hlist, -, hend⟩ | ⟨hall, hstop⟩
        · have hlast : last ∈ instantiationMoments m r w := by simp [hlist]
          exact creationFault_of_ends hb hlast hend herror
        · rw [hstop] at herror
          cases herror
          exact .endless hs hf hall
  · intro h
    cases h with
    | segment hs _ =>
      unfold Module.make
      rw [hs]
    | @trap u t s hu hstep =>
      have hend : u.advance m.program (bs.map Binding.slot) = .ends ⟨.error { cause := .trap t }, s, u.world⟩ := by
        unfold Moment.advance
        rw [hstep]
      exact make_of_ends hb hu hend
    | host hu hstep hcrossing houtcome =>
      have hend := hcrossing.advance hstep
      rw [houtcome] at hend
      exact make_of_ends hb hu hend
    | endless hs hf hall =>
      rcases runStart_cases hb hs hf w with ⟨before, last, hlist, -, hend⟩ | ⟨-, hstop⟩
      · obtain ⟨next, hnext⟩ := hall last (by simp [hlist])
        rw [hend] at hnext
        cases hnext
      · rw [make_of_state hs, hstop]
        rfl

/-- Without a start routine only the segments can fail. -/
theorem CreationFault.range {w w' : σ} {e : EngineError} (h : CreationFault m r bs w e w')
    (hstart : m.start = none) :
    ∃ t : EngineTrap, (t = .tableOutOfBounds ∨ t = .memoryOutOfBounds) ∧ e = { cause := .trap t } := by
  have hidle : ∀ u, u ∉ instantiationMoments m r w := by
    intro u hu
    obtain ⟨_, f, -, hf⟩ := started_of_mem hu
    rw [hstart] at hf
    cases hf
  cases h with
  | segment hs range => exact ⟨_, range, rfl⟩
  | trap hu _ => exact absurd hu (hidle _)
  | host hu _ _ _ => exact absurd hu (hidle _)
  | endless _ hf _ =>
    rw [hstart] at hf
    cases hf

theorem CreationFault.fromCode {w w' : σ} {e : EngineError} (h : CreationFault m r bs w e w') : e.FromCode := by
  cases h with
  | segment _ _ => exact .inl ⟨_, rfl⟩
  | trap _ _ => exact .inl ⟨_, rfl⟩
  | host _ _ _ _ => exact .inr ⟨_, rfl⟩
  | endless _ _ _ => exact .inl ⟨_, rfl⟩

/-- With its imports bound, a module that fails to be instantiated otherwise than in a start routine has a
    segment out of range. -/
theorem range_of_instantiation (hb : resolveImports m r = .ok bs) {w w' : σ} {text : String}
    (h : instantiate m r w = (.error (.instantiation text), w')) :
    ∃ t : EngineTrap, (t = .tableOutOfBounds ∨ t = .memoryOutOfBounds) ∧ text = t.message := by
  rw [instantiate_eq, instantiateBy_error_iff hb] at h
  obtain ⟨e, hmake, herror⟩ := h
  have hfault := (make_error_iff hb).mp hmake
  have hreport := reported_creationError m e
  rw [← herror] at hreport
  cases hstart : m.start with
  | some f =>
    obtain ⟨source, hsource, -⟩ := hreport.startTrap (by rw [hstart]; rfl) hfault.fromCode
    cases hsource
  | none =>
    obtain ⟨t, ht, rfl⟩ := hfault.range hstart
    have htext := hreport.other (by simp [hstart])
    cases htext
    exact ⟨t, ht, rfl⟩

/-! ## 4. How it succeeds -/

/-- The start routine of a module, if it has one, has run to its end once, from the state that the segments
    give, and has left a state and a world. -/
def StartedOnce (m : Module) (r : Registry σ) (bs : List (Binding σ)) (w : σ) (left : Wasm.State) (w' : σ) : Prop :=
  ∃ s, m.wasm.initialState = .ok s ∧
    match m.start with
    | none => instantiationMoments m r w = [] ∧ left = s ∧ w' = w
    | some f =>
      instantiationMoments m r w = functionMoments m (bs.map Binding.slot) s f [] 0 w ∧
        ∃ before last results, instantiationMoments m r w = before ++ [last] ∧
          (∀ u ∈ before, ∃ next, u.advance m.program (bs.map Binding.slot) = .goesOn next) ∧
          last.machine.step m.program = .finished results left ∧ last.world = w'

/-- **If the engine does not fail, the start routine has run to its end, once.** -/
theorem make_ok (hb : resolveImports m r = .ok bs) {w w' : σ} {left : Wasm.State}
    (h : m.make (bs.map Binding.slot) w = (.ok left, w')) : StartedOnce m r bs w left w' := by
  cases hs : m.wasm.initialState with
  | error t =>
    unfold Module.make at h
    rw [hs] at h
    cases h
  | ok s =>
    rw [make_of_state hs] at h
    refine ⟨s, hs, ?_⟩
    cases hf : m.start with
    | none =>
      unfold runStart at h
      rw [hf] at h
      cases h
      refine ⟨?_, rfl, rfl⟩
      unfold instantiationMoments
      rw [prepare_eq, hb, hs, hf]
      rfl
    | some f =>
      refine ⟨instantiationMoments_eq hb hs hf w, ?_⟩
      rcases runStart_cases hb hs hf w with ⟨before, last, hlist, hbefore, hend⟩ | ⟨-, hstop⟩
      · rcases Moment.advance_ends hend with ⟨rs, s', hstep, hrun⟩ | ⟨t, s', -, hrun⟩ | ⟨k, args, m', e, w'', -, -, hrun⟩
        · rw [hrun] at h
          cases h
          exact ⟨before, last, rs, hlist, hbefore, hstep, rfl⟩
        · rw [hrun] at h
          cases h
        · rw [hrun] at h
          cases h
      · rw [hstop] at h
        cases h

end Resolved

/-! ## 5. Traps and their kinds -/

/-- An error is a trap iff it has a kind. -/
def RuntimeError.Coherent (e : RuntimeError) : Prop := e.isTrap = true ↔ e.trapKind.isSome = true

theorem RuntimeError.Coherent.of_no_trap {e : RuntimeError} (htrap : e.isTrap = false) (hkind : e.trapKind = none) :
    e.Coherent := by
  unfold RuntimeError.Coherent
  rw [htrap, hkind]
  decide

theorem RuntimeError.Coherent.of_kind {e : RuntimeError} {k : TrapKind} (htrap : e.isTrap = true)
    (hkind : e.trapKind = some k) : e.Coherent := by
  unfold RuntimeError.Coherent
  rw [htrap, hkind]
  exact ⟨fun _ => rfl, fun _ => rfl⟩

/-- An instance is not made because an import cannot be resolved, or because the engine fails. -/
theorem instantiateBy_error {make : Maker σ} {m : Module} {r : Registry σ} {w w' : σ} {err : RuntimeError}
    (h : instantiateBy make m r w = (.error err, w')) :
    (∃ d, err = importFault r d) ∨
      ∃ bs e, resolveImports m r = .ok bs ∧ make (bs.map Binding.slot) w = (.error e, w') ∧
        err = creationError m e := by
  cases hb : resolveImports m r with
  | error f =>
    unfold instantiateBy at h
    rw [prepare_eq, hb] at h
    cases h
    obtain ⟨_, d, _, -, -, -, hd⟩ := (resolveAll_error_iff r m.imports err).mp hb
    exact .inl ⟨d, hd⟩
  | ok bs =>
    obtain ⟨e, hmake, herror⟩ := (instantiateBy_error_iff hb).mp h
    exact .inr ⟨bs, e, rfl, hmake, herror⟩

theorem coherent_importFault (r : Registry σ) (d : ImportDeclaration) : (importFault r d).Coherent := by
  unfold importFault
  split
  · exact .of_no_trap rfl rfl
  · exact .of_no_trap rfl rfl

theorem coherent_creationError (m : Module) (e : EngineError) : (creationError m e).Coherent := by
  unfold creationError
  split
  · exact .of_kind rfl rfl
  · exact .of_no_trap rfl rfl

/-- **The errors of instantiation are traps iff they have a kind.** -/
theorem coherent_instantiateBy {make : Maker σ} {m : Module} {r : Registry σ} {w w' : σ} {err : RuntimeError}
    (h : instantiateBy make m r w = (.error err, w')) : err.Coherent := by
  rcases instantiateBy_error h with ⟨d, rfl⟩ | ⟨bs, e, -, -, rfl⟩
  · exact coherent_importFault r d
  · exact coherent_creationError m e

theorem coherent_exportSignature {i : Instance σ} {name : String} {err : RuntimeError}
    (h : i.exportSignature name = .error err) : err.Coherent := by
  rcases Instance.exportSignature_error h with rfl | ⟨actual, rfl⟩ <;> exact .of_no_trap rfl rfl

theorem coherent_admitCall {i : Instance σ} {name : String} {args : List Value} {err : RuntimeError}
    (h : i.admitCall name args = .error err) : err.Coherent := by
  cases hs : i.exportSignature name with
  | error e =>
    rw [Instance.admitCall_of_error hs] at h
    cases h
    exact coherent_exportSignature hs
  | ok s =>
    unfold Instance.admitCall at h
    rw [hs] at h
    dsimp only [bind, Except.bind] at h
    split at h
    · cases h
      exact .of_no_trap rfl rfl
    · split at h
      · split at h
        · cases h
        · cases h
          exact .of_no_trap rfl rfl
      · cases h
        exact .of_no_trap rfl rfl

/-- **The errors of calls are traps iff they have a kind.** -/
theorem coherent_invoke {i : Instance σ} {name : String} {args : List Value} {w : σ} {err : RuntimeError}
    (h : (i.invoke name args w).1 = .error err) : err.Coherent := by
  rcases Instance.invoke_error h with hrefused | ⟨fault, rfl⟩
  · exact coherent_admitCall hrefused
  · exact .of_kind rfl rfl

-- an error that no operation makes need not be
example : ¬ (RuntimeError.startRoutineTrap (.instantiation "")).Coherent := by
  unfold RuntimeError.Coherent
  decide

/-! ## 6. The law -/

/-- What becomes of attempts to make an instance of a module with functions of a registry. -/
structure CreationClassified (m : Module) (r : Registry σ) : Prop where
  /-- If the imports resolve, every fault is reported as it has to be, and there is no instance. -/
  reported : ∀ bs, resolveImports m r = .ok bs → ∀ w e w', CreationFault m r bs w e w' →
    ∃ err, instantiate m r w = (.error err, w') ∧ Reported m e err
  /-- There is no other way to fail. -/
  exhaustive : ∀ bs, resolveImports m r = .ok bs → ∀ w err w', instantiate m r w = (.error err, w') →
    ∃ e, CreationFault m r bs w e w' ∧ Reported m e err
  /-- An engine that fails in other ways, with any error at all, is reported about in the same manner. -/
  anyEngine : (∀ w, instantiate m r w = instantiateBy m.make m r w) ∧
    ∀ bs, resolveImports m r = .ok bs → ∀ (make : Maker σ) w e w',
      make (bs.map Binding.slot) w = (.error e, w') →
        ∃ err, instantiateBy make m r w = (.error err, w') ∧ Reported m e err
  /-- Without a start routine none is blamed. -/
  noStart : m.start = none → ∀ (make : Maker σ) w source w',
    instantiateBy make m r w ≠ (.error (.startRoutineTrap source), w')
  /-- Every error of instantiation, and every error of a call of any instance, is a trap iff it has a kind. -/
  coherent : (∀ (make : Maker σ) w err w', instantiateBy make m r w = (.error err, w') → err.Coherent) ∧
    ∀ (i : Instance σ) name args w err, (i.invoke name args w).1 = .error err → err.Coherent
  /-- An instance that was made is ready and has counted no call, and its start routine has run to its end once. -/
  succeeded : ∀ w i w', instantiate m r w = (.ok i, w') → i.lifecycle = .ready ∧ i.invocations = 0 ∧
    resolveImports m r = .ok i.bindings ∧ StartedOnce m r i.bindings w i.state w'

theorem reported_instantiateBy {m : Module} {r : Registry σ} {bs : List (Binding σ)}
    (hb : resolveImports m r = .ok bs) {make : Maker σ} {w w' : σ} {e : EngineError}
    (h : make (bs.map Binding.slot) w = (.error e, w')) :
    ∃ err, instantiateBy make m r w = (.error err, w') ∧ Reported m e err :=
  ⟨_, (instantiateBy_error_iff hb).mpr ⟨e, h, rfl⟩, reported_creationError m e⟩

/-- **Failures to make an instance are classified**, whatever the engine. -/
theorem creationClassified (m : Module) (r : Registry σ) : CreationClassified m r where
  reported bs hb w e w' hfault := by
    rw [instantiate_eq]
    exact reported_instantiateBy hb ((make_error_iff hb).mpr hfault)
  exhaustive bs hb w err w' h := by
    rw [instantiate_eq, instantiateBy_error_iff hb] at h
    obtain ⟨e, hmake, rfl⟩ := h
    exact ⟨e, (make_error_iff hb).mp hmake, reported_creationError m e⟩
  anyEngine := ⟨instantiate_eq m r, fun _ hb _ _ _ _ => reported_instantiateBy hb⟩
  noStart hstart make w source w' h := by
    rcases instantiateBy_error h with ⟨d, hd⟩ | ⟨bs, e, -, -, he⟩
    · unfold importFault at hd
      split at hd <;> cases hd
    · rw [(reported_creationError m e).other (by simp [hstart])] at he
      cases he
  coherent := ⟨fun _ _ _ _ => coherent_instantiateBy, fun _ _ _ _ _ => coherent_invoke⟩
  succeeded w i w' h := by
    have hb := (instantiate_sound h).bindings
    obtain ⟨hready, hcount⟩ := instantiate_new h
    refine ⟨hready, hcount, hb, ?_⟩
    rw [instantiate_eq, instantiateBy_of_resolved hb] at h
    rcases hmake : m.make (i.bindings.map Binding.slot) w with ⟨e | s, w''⟩
    · rw [hmake] at h
      cases h
    · rw [hmake] at h
      obtain ⟨hi, rfl⟩ := Prod.mk.inj h
      have hstate : s = i.state := congrArg Instance.state (Except.ok.inj hi)
      rw [← hstate]
      exact make_ok hb hmake

/-- A module whose start routine calls a function that calls the host. -/
def nestedWasm : Wasm.Module where
  types := [.ofFunc ⟨[], []⟩]
  imports := [⟨"env", "f", .func 0⟩]
  funcs := [0, 0]
  start := some 2
  bodies := [⟨[], [.call 0, .end_]⟩, ⟨[], [.call 1, .end_]⟩]

/-- The same, loaded. -/
def nested : Module where
  engine := { id := 0, config := {}, budget := 9 }
  wasm := nestedWasm
  program := nestedWasm.program
  imports := [⟨"env", "f", .function ⟨[], []⟩⟩]
  exports := []
  valid := by rfl
  runnable := by rfl
  program_eq := rfl
  imports_eq := by rfl
  exports_eq := by rfl

/-- A module without a start routine whose one segment is longer than its memory. -/
def spillingWasm : Wasm.Module where
  memories := [⟨⟨0, none⟩, false, false, false⟩]
  datas := [⟨.active 0 [.const (.i32 0), .end_], [7]⟩]

/-- The same, loaded. -/
def spilling : Module where
  engine := { id := 0, config := {} }
  wasm := spillingWasm
  program := spillingWasm.program
  imports := []
  exports := []
  valid := by rfl
  runnable := by rfl
  program_eq := rfl
  imports_eq := by rfl
  exports_eq := by rfl

/-- A host function that counts its calls and works for the first one only. -/
def fragile : HostFunction Nat :=
  ⟨0, ⟨[], []⟩, fun _ n => (if n = 0 then .ok [] else .error (.failed "worn"), n + 1)⟩

theorem creationClassified_nested :
    let r := Registry.empty.insert "env" "f" fragile
    CreationClassified nested r ∧ (∃ bs, resolveImports nested r = .ok bs) ∧
      (∃ i, instantiate nested r 0 = (.ok i, 1)) ∧
      instantiate nested r 1 = (.error (.startRoutineTrap (.trap "<start>" .hostFunction "worn")), 2) ∧
      CreationClassified spilling r ∧
      instantiate spilling r 1 = (.error (.instantiation "wasm trap: out of bounds memory access"), 1) := by
  refine ⟨creationClassified nested _, ⟨_, rfl⟩, ⟨_, rfl⟩, rfl, creationClassified spilling _, rfl⟩

end Embedder
