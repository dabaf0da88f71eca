import Embedder.Proofs.Boundary

/-!
# Instances are isolated

Instances that were made with one registry share the functions of the host, and through them a world. If the
functions that an instance is bound to do not read the world (`HostFunction.Stateless`), then nothing that
happens elsewhere reaches the instance:

* **`drive_blind`** -- what a run comes to for the guest is the same in every world, and from it
  **`Instance.Blind.perform`**: so are the answer to an operation and the instance afterwards;
* `Site`, `Turn` -- a registry with the instances around it, and the things that can be done there in any
  order: a function is registered, or put in the place of another; an instance is made; one of the instances
  is asked an operation;
* **`Site.step_other`**, `Site.step_own` -- a turn leaves every instance as it is but the one that it asks,
  and that one does what it does by itself;
* **`instancesIsolated`** -- in any order of turns an instance answers and becomes what it does alone.
-/

namespace Embedder

variable {σ : Type}

/-! ## 1. Functions that do not read the world -/

/-- The result depends on the arguments alone. The world may still be changed. -/
def HostFunction.Stateless (f : HostFunction σ) : Prop :=
  ∀ args w w', (f.run args w).1 = (f.run args w').1

theorem HostFunction.Stateless.call {f : HostFunction σ} (h : f.Stateless) (name : String)
    (args : List Value) (w w' : σ) : (f.call name args w).1 = (f.call name args w').1 := by
  unfold HostFunction.call
  split
  · show (f.run args w).1.bind _ = (f.run args w').1.bind _
    rw [h args w w']
  · rfl

section Runs

variable {p : Wasm.Program} {slots : List (Slot σ)}

theorem callImport_blind (h : ∀ s ∈ slots, s.function.Stateless) (k : Nat) (args : List Nat) (w w' : σ) :
    (callImport slots k args w).1 = (callImport slots k args w').1 := by
  unfold callImport
  cases hk : slots[k]? with
  | none => rfl
  | some s =>
    have hcall := (h s (List.mem_of_getElem? hk)).call s.label
      (valuesOf s.function.signature.params args) w w'
    dsimp only [Slot.callRaw]
    revert hcall
    rcases s.function.call s.label (valuesOf s.function.signature.params args) w with ⟨result, _⟩
    rcases s.function.call s.label (valuesOf s.function.signature.params args) w' with ⟨result', _⟩
    rintro ⟨⟩
    cases result <;> rfl

/-- What a run comes to for the guest. -/
def Run.guest (r : Run σ) : Except EngineError (List Nat) × Wasm.State := (r.result, r.state)

/-- What a step leads to for the guest. -/
def Advance.guest : Advance σ → Wasm.Machine ⊕ Except EngineError (List Nat) × Wasm.State
  | .goesOn next => .inl next.machine
  | .ends r => .inr r.guest

/-- **A step is the same for the guest in every world.** -/
theorem Moment.advance_blind (h : ∀ s ∈ slots, s.function.Stateless) (m : Wasm.Machine) (w w' : σ) :
    (Moment.advance p slots ⟨m, w⟩).guest = (Moment.advance p slots ⟨m, w'⟩).guest := by
  unfold Moment.advance
  dsimp only
  cases m.step p with
  | running m' => rfl
  | finished results s => rfl
  | trapped e s => rfl
  | calling k args m' =>
    have hcall := callImport_blind h k args w w'
    dsimp only
    revert hcall
    rcases callImport slots k args w with ⟨result, _⟩
    rcases callImport slots k args w' with ⟨result', _⟩
    rintro ⟨⟩
    cases result <;> rfl

/-- **A run is the same for the guest in every world.** -/
theorem drive_blind (h : ∀ s ∈ slots, s.function.Stateless) : ∀ (budget : Nat) (m : Wasm.Machine) (w w' : σ),
    (drive p slots budget m w).guest = (drive p slots budget m w').guest := by
  intro budget
  induction budget with
  | zero => intro m w w'; rfl
  | succ budget ih =>
    intro m w w'
    have hstep := Moment.advance_blind (p := p) h m w w'
    rw [drive_eq p slots budget ⟨m, w⟩, drive_eq p slots budget ⟨m, w'⟩]
    cases ha : Moment.advance p slots ⟨m, w⟩ with
    | goesOn next =>
      cases ha' : Moment.advance p slots ⟨m, w'⟩ with
      | goesOn next' =>
        rw [ha, ha'] at hstep
        have hmachine : next.machine = next'.machine := Sum.inl.inj hstep
        dsimp only
        rw [hmachine]
        exact ih next'.machine next.world next'.world
      | ends r' =>
        rw [ha, ha'] at hstep
        cases hstep
    | ends r =>
      cases ha' : Moment.advance p slots ⟨m, w'⟩ with
      | goesOn next' =>
        rw [ha, ha'] at hstep
        cases hstep
      | ends r' =>
        rw [ha, ha'] at hstep
        exact Sum.inr.inj hstep

end Runs

/-! ## 2. Instances that do not see the world -/

theorem createInstance_blind {slots : List (Slot σ)} (h : ∀ s ∈ slots, s.function.Stateless) (m : Module)
    (bindings : List (Binding σ)) (w w' : σ) :
    (createInstance m bindings slots w).1 = (createInstance m bindings slots w').1 := by
  have hstart : ∀ s, (runStart m slots s w).guest = (runStart m slots s w').guest := by
    intro s
    unfold runStart
    cases m.start with
    | none => rfl
    | some f => exact drive_blind h m.engine.budget (.start s f [] 0) w w'
  unfold createInstance
  cases m.wasm.initialState with
  | error t => rfl
  | ok s =>
    obtain ⟨hresult, hstate⟩ := Prod.mk.inj (hstart s)
    dsimp only
    rw [hresult]
    cases (runStart m slots s w').result with
    | error e => rfl
    | ok results =>
      dsimp only
      rw [hstate]

/-- The functions that an instance calls do not read the world. -/
def Instance.Blind (i : Instance σ) : Prop := ∀ s ∈ i.slots, s.function.Stateless

namespace Instance

variable {i : Instance σ}

theorem Blind.invoke (h : i.Blind) (name : String) (args : List Value) (w w' : σ) :
    (i.invoke name args w).1 = (i.invoke name args w').1 ∧
      (i.invoke name args w).2.1 = (i.invoke name args w').2.1 := by
  unfold Instance.invoke
  cases i.admitCall name args with
  | error e => exact ⟨rfl, rfl⟩
  | ok sf =>
    obtain ⟨s, f⟩ := sf
    dsimp only [callFunction, runFunction]
    obtain ⟨hresult, hstate⟩ := Prod.mk.inj (drive_blind (p := i.module.program) h i.module.engine.budget
      (.start i.state f (args.map Value.slot) s.results.length) w w')
    rw [hresult, hstate]
    cases (drive i.module.program i.slots i.module.engine.budget
        (.start i.state f (args.map Value.slot) s.results.length) w').result with
    | error e => exact ⟨rfl, rfl⟩
    | ok results => exact ⟨rfl, rfl⟩

/-- **An operation answers the same in every world**, and the instance is the same afterwards. -/
theorem Blind.perform (h : i.Blind) (o : Operation) (w w' : σ) :
    (i.perform o w).1 = (i.perform o w').1 ∧ (i.perform o w).2.1 = (i.perform o w').2.1 := by
  cases o with
  | invoke name args =>
    obtain ⟨hresult, hafter⟩ := h.invoke name args w w'
    exact ⟨congrArg Answer.results hresult, hafter⟩
  | invokeMain name =>
    have hinvoke := h.invoke name [] w w'
    dsimp only [Instance.perform, invokeMain]
    revert hinvoke
    rcases i.invoke name [] w with ⟨result, i₁, _⟩
    rcases i.invoke name [] w' with ⟨result', i₁', _⟩
    rintro ⟨⟨⟩, ⟨⟩⟩
    cases result <;> exact ⟨rfl, rfl⟩
  | exportSignature name => exact ⟨rfl, rfl⟩
  | global name => exact ⟨rfl, rfl⟩
  | readMemory name offset length => exact ⟨rfl, rfl⟩

/-- An instance calls the same functions all its life. -/
theorem slots_perform (i : Instance σ) (o : Operation) (w : σ) : (i.perform o w).2.1.slots = i.slots := by
  rcases i.perform_cases o w with ⟨_, hsame⟩ | ⟨run, _, _, ⟨rs, _, hi⟩ | ⟨e, name, _, _, hi⟩⟩
  · rw [hsame]
  · rw [hi]
    rfl
  · rw [hi]
    rfl

theorem Blind.after (h : i.Blind) (o : Operation) (w : σ) : (i.perform o w).2.1.Blind := by
  unfold Blind
  rw [i.slots_perform o w]
  exact h

end Instance

/-- The instances that a module gives with stateless functions do not see the world, and it gives the same one
    in every world. -/
theorem instantiate_blind {m : Module} {r : Registry σ} {w w₁ : σ} {i : Instance σ}
    (hmade : instantiate m r w = (.ok i, w₁)) (hbound : ∀ b ∈ i.bindings, b.function.Stateless) :
    i.Blind ∧ ∀ w', (instantiate m r w').1 = .ok i := by
  have hsound := instantiate_sound hmade
  have hblind : ∀ s ∈ i.bindings.map Binding.slot, s.function.Stateless := by
    intro s hs
    obtain ⟨b, hb, rfl⟩ := List.mem_map.mp hs
    exact hbound b hb
  refine ⟨?_, fun w' => ?_⟩
  · unfold Instance.Blind
    rw [hsound.slots]
    exact hblind
  · have hcreate : ∀ w, instantiate m r w = createInstance m i.bindings (i.bindings.map Binding.slot) w := by
      intro w
      unfold instantiate
      rw [prepare_eq, hsound.bindings]
      rfl
    rw [hcreate, createInstance_blind hblind m i.bindings w' w, ← hcreate, hmade]

/-! ## 3. Many instances around a registry -/

/-- A registry, the instances around it, and the world that they share. -/
structure Site (σ : Type) where
  registry : Registry σ
  instances : List (Instance σ)
  world : σ

/-- What can be done at a site. -/
inductive Turn (σ : Type) where
  /-- A function is registered; it can take the place of another. -/
  | register (e : Entry σ)
  /-- An instance is made with the functions that the registry has by then. -/
  | instantiate (m : Module)
  /-- The instance at a place is asked an operation. -/
  | operate (k : Nat) (o : Operation)

/-- What a turn comes to. -/
inductive Reply where
  | registered (r : Except RuntimeError Unit)
  | instantiated (r : Except RuntimeError Unit)
  /-- The answer of the instance at a place. -/
  | answered (k : Nat) (a : Answer)
  /-- There is no instance at a place. -/
  | nobody (k : Nat)

/-- The operation that a turn asks of the instance at a place. -/
def Turn.on? (k : Nat) : Turn σ → Option Operation
  | .operate j o => if j = k then some o else none
  | _ => none

/-- The answer in a reply, if the instance at a place gave it. -/
def Reply.from? (k : Nat) : Reply → Option Answer
  | .answered j a => if j = k then some a else none
  | _ => none

namespace Site

/-- Takes a turn. -/
def step (s : Site σ) : Turn σ → Reply × Site σ
  | .register e =>
    let (r, result) := s.registry.registerFunction e.space e.name e.function
    (.registered result, { s with registry := r })
  | .instantiate m =>
    match Embedder.instantiate m s.registry s.world with
    | (.ok i, w) => (.instantiated (.ok ()), { s with instances := s.instances ++ [i], world := w })
    | (.error e, w) => (.instantiated (.error e), { s with world := w })
  | .operate k o =>
    match s.instances[k]? with
    | none => (.nobody k, s)
    | some i =>
      let (a, i', w) := i.perform o s.world
      (.answered k a, { s with instances := s.instances.set k i', world := w })

/-- Takes turns one after the other; gives the replies, and the site at the end. -/
def run (s : Site σ) : List (Turn σ) → List Reply × Site σ
  | [] => ([], s)
  | t :: ts =>
    let (reply, s') := s.step t
    let (replies, after) := s'.run ts
    (reply :: replies, after)

theorem run_cons (s : Site σ) (t : Turn σ) (ts : List (Turn σ)) :
    s.run (t :: ts) = ((s.step t).1 :: ((s.step t).2.run ts).1, ((s.step t).2.run ts).2) := rfl

section Turns

variable {s : Site σ} {k : Nat} {i : Instance σ}

/-- **A turn leaves every instance as it is but the one that it asks.** -/
theorem step_other (hk : s.instances[k]? = some i) {t : Turn σ} (ht : t.on? k = none) :
    (s.step t).1.from? k = none ∧ (s.step t).2.instances[k]? = some i := by
  cases t with
  | register e => exact ⟨rfl, hk⟩
  | instantiate m =>
    dsimp only [step]
    rcases Embedder.instantiate m s.registry s.world with ⟨_ | made, w⟩
    · exact ⟨rfl, hk⟩
    · refine ⟨rfl, ?_⟩
      -- a new instance comes after all that are there
      rw [List.getElem?_append_left (List.getElem?_eq_some_iff.mp hk).1]
      exact hk
  | operate j o =>
    have hj : j ≠ k := by
      intro e
      rw [Turn.on?, if_pos e] at ht
      cases ht
    dsimp only [step]
    cases s.instances[j]? with
    | none => exact ⟨rfl, hk⟩
    | some other =>
      refine ⟨if_neg hj, ?_⟩
      dsimp only
      rw [List.getElem?_set_ne hj]
      exact hk

/-- An instance that is asked an operation does what it does by itself. -/
theorem step_own (hk : s.instances[k]? = some i) {t : Turn σ} {o : Operation} (ht : t.on? k = some o) :
    (s.step t).1.from? k = some (i.perform o s.world).1 ∧
      (s.step t).2.instances[k]? = some (i.perform o s.world).2.1 := by
  cases t with
  | register e => cases ht
  | instantiate m => cases ht
  | operate j o' =>
    rw [Turn.on?] at ht
    split at ht
    · rename_i hj
      cases ht
      cases hj
      dsimp only [step]
      rw [hk]
      refine ⟨if_pos rfl, ?_⟩
      dsimp only
      rw [List.getElem?_set_self (List.getElem?_eq_some_iff.mp hk).1]
    · cases ht

end Turns

/-- **An instance that does not see the world** answers and becomes, in any order of turns, what it does when
    it is asked its own operations alone, in whatever world. -/
theorem run_blind {k : Nat} : ∀ (ts : List (Turn σ)) {s : Site σ} {i : Instance σ}, i.Blind →
    s.instances[k]? = some i → ∀ w,
      (s.run ts).1.filterMap (Reply.from? k) =
          (i.performAll (ts.filterMap (Turn.on? k)) w).1.map Performed.answer ∧
        (s.run ts).2.instances[k]? = some (i.performAll (ts.filterMap (Turn.on? k)) w).2.1 := by
  intro ts
  induction ts with
  | nil => intro s i _ hk w; exact ⟨rfl, hk⟩
  | cons t ts ih =>
    intro s i hblind hk w
    rw [run_cons]
    cases ht : t.on? k with
    | none =>
      obtain ⟨hreply, hsame⟩ := step_other hk ht
      rw [List.filterMap_cons_none hreply, List.filterMap_cons_none ht]
      exact ih hblind hsame w
    | some o =>
      obtain ⟨hreply, hafter⟩ := step_own hk ht
      obtain ⟨hanswer, hinstance⟩ := hblind.perform o s.world w
      rw [hanswer] at hreply
      rw [hinstance] at hafter
      rw [List.filterMap_cons_some hreply, List.filterMap_cons_some ht, Instance.performAll_cons,
        List.map_cons]
      obtain ⟨hanswers, hend⟩ := ih (hblind.after o w) hafter (i.perform o w).2.2
      exact ⟨congrArg _ hanswers, hend⟩

end Site

/-! ## 4. Isolation -/

/-- An instance of a module, at a place of a site, is isolated from all that happens in some turns: it is as if
    it were alone. What it does alone is the same in every world. -/
structure Isolated (m : Module) (r : Registry σ) (s : Site σ) (k : Nat) (i : Instance σ)
    (ts : List (Turn σ)) : Prop where
  /-- Alone, it would have been made as it was. -/
  made : ∀ w, (instantiate m r w).1 = .ok i
  /-- Each of its operations answers what it answers alone. -/
  answers : ∀ w, (s.run ts).1.filterMap (Reply.from? k) =
    (i.performAll (ts.filterMap (Turn.on? k)) w).1.map Performed.answer
  /-- It becomes what it becomes alone: its state, with memories and globals, its lifecycle, its counter, and
      the functions that it is bound to. -/
  after : ∀ w, (s.run ts).2.instances[k]? = some (i.performAll (ts.filterMap (Turn.on? k)) w).2.1
  /-- It is usable until a run of its own fails. -/
  usable : ∀ w i', (s.run ts).2.instances[k]? = some i' →
    (i'.lifecycle = .ready ↔ firstFailure (i.performAll (ts.filterMap (Turn.on? k)) w).1 = none)

/-- **Instances are isolated** from each other and from what becomes of the registry. -/
theorem instancesIsolated {m : Module} {r : Registry σ} {w₀ w₁ : σ} {i : Instance σ}
    (hmade : instantiate m r w₀ = (.ok i, w₁)) (hbound : ∀ b ∈ i.bindings, b.function.Stateless)
    {s : Site σ} {k : Nat} (hk : s.instances[k]? = some i) (ts : List (Turn σ)) :
    Isolated m r s k i ts := by
  obtain ⟨hblind, hsame⟩ := instantiate_blind hmade hbound
  refine ⟨hsame, fun w => (Site.run_blind ts hblind hk w).1, fun w => (Site.run_blind ts hblind hk w).2, ?_⟩
  intro w i' hi'
  rw [(Site.run_blind ts hblind hk w).2] at hi'
  cases hi'
  rw [Instance.lifecycle_performAll _ (instantiate_new hmade).1 w]
  cases firstFailure (i.performAll (ts.filterMap (Turn.on? k)) w).1 with
  | none => exact ⟨fun _ => rfl, fun _ => rfl⟩
  | some e => exact ⟨(nomatch ·), (nomatch ·)⟩

/-- A host function that counts its calls and gives its argument back, but refuses zero. -/
def picky : HostFunction Nat :=
  ⟨0, ⟨[.i32], [.i32]⟩, fun args calls =>
    (if args = [.i32 0] then .error (.failed "zero") else .ok args, calls + 1)⟩

/-- A host function of the same signature. -/
def sevens : HostFunction Nat := ⟨1, ⟨[.i32], [.i32]⟩, fun _ calls => (.ok [.i32 7], calls)⟩

theorem instancesIsolated_relay :
    let r := Registry.empty.insert "env" "f" picky
    let turns : List (Turn Nat) := [.register ⟨"env", "f", sevens⟩, .operate 0 (.invoke "go" [.i32 0]),
      .instantiate relay, .operate 1 (.invoke "go" [.i32 5]), .operate 0 (.invoke "go" [.i32 5]),
      .operate 2 (.invoke "go" [.i32 5])]
    ∃ i, instantiate relay r 0 = (.ok i, 0) ∧
      Isolated relay r ⟨r, [i, i], 0⟩ 0 i turns ∧ Isolated relay r ⟨r, [i, i], 0⟩ 1 i turns ∧
      (Site.run ⟨r, [i, i], 0⟩ turns).1.filterMap (Reply.from? 0) =
        [.results (.error (.trap "go" .hostFunction "zero")),
          .results (.error (.instanceTrapped "Trap in go: host function failed: zero"))] ∧
      (Site.run ⟨r, [i, i], 0⟩ turns).1.filterMap (Reply.from? 1) = [.results (.ok [.i32 5])] ∧
      (Site.run ⟨r, [i, i], 0⟩ turns).1.filterMap (Reply.from? 2) = [.results (.ok [.i32 7])] := by
  have hbound : ∀ b ∈ [(⟨⟨"env", "f", .function ⟨[.i32], [.i32]⟩⟩, picky⟩ : Binding Nat)],
      b.function.Stateless := by
    intro b hb
    cases List.mem_singleton.mp hb
    exact fun args w w' => rfl
  refine ⟨_, rfl, ?_, ?_, ?_, ?_, ?_⟩
  · exact @instancesIsolated Nat relay _ 0 0 _ rfl hbound _ 0 rfl _
  · exact @instancesIsolated Nat relay _ 0 0 _ rfl hbound _ 1 rfl _
  · rfl
  · rfl
  · rfl

end Embedder
