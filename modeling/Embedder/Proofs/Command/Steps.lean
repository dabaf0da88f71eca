import Embedder.Command.Perform
import Embedder.Proofs.Library.Effects
import Embedder.Proofs.Steps

/-!
# What the steps of a request come to

The steps of a request leave events behind and change the host. `Yields` forgets the events: it says what
steps come to, and how they leave the host.

* `Yields.bind`, `Yields.stop` -- one step after the other, up to the first that fails;
* **`yields_printValues`** -- printing values writes their lines, up to the first that is refused;
* **`yields_loadModule`**, **`yields_instantiateModule`**, **`yields_callExport`** -- each step of a run comes to
  what the operation that it is about comes to;
* **`register_standard`** -- the standard libraries can be registered.
-/

namespace Embedder.Command

/-! ## 1. Steps and the host -/

/-- Steps that begin with the host in a state come to a result and leave the host in a state, whatever
    events there were. -/
def Yields {α : Type} (x : Step α) (host : Drac) (r : Except Failure α) (after : Drac) : Prop :=
  ∀ events, ∃ events', outcome x ⟨events, host⟩ = (r, ⟨events', after⟩)

section Steps

variable {α β : Type} {x : Step α} {f : α → Step β} {host host' host'' : Drac}

theorem Yields.bind {a : α} {r : Except Failure β} (hx : Yields x host (.ok a) host')
    (hf : Yields (f a) host' r host'') : Yields (x >>= f) host r host'' := by
  intro events
  obtain ⟨between, hx⟩ := hx events
  obtain ⟨events', hf⟩ := hf between
  exact ⟨events', (outcome_bind_of_ok hx f).trans hf⟩

theorem Yields.stop {e : Failure} (hx : Yields x host (.error e) host') :
    Yields (x >>= f) host (.error e) host' := by
  intro events
  obtain ⟨events', hx⟩ := hx events
  exact ⟨events', outcome_bind_of_error hx f⟩

/-- Steps that leave the host as it is come to what their results come to. -/
theorem Yields.andThen {r : Except RuntimeError α} {g : α → Except RuntimeError β}
    (hx : Yields x host (ofRuntime r) host) (hf : ∀ a, Yields (f a) host (ofRuntime (g a)) host) :
    Yields (x >>= f) host (ofRuntime (r >>= g)) host := by
  cases r with
  | error e => exact hx.stop
  | ok a => exact hx.bind (hf a)

theorem yields_pure (a : α) (host : Drac) : Yields (pure a) host (.ok a) host := fun events => ⟨events, rfl⟩

theorem yields_settled (r : Except RuntimeError α) (host : Drac) :
    Yields (settled r) host (ofRuntime r) host := by
  intro events
  cases r with
  | error e => exact ⟨events, rfl⟩
  | ok a => exact ⟨events, rfl⟩

theorem yields_note (es : List Event) (host : Drac) : Yields (note es) host (.ok ()) host :=
  fun events => ⟨events ++ es, rfl⟩

theorem Yields.get {f : Trail → Step β} {r : Except Failure β}
    (h : ∀ events, Yields (f ⟨events, host⟩) host r host') : Yields (MonadState.get >>= f) host r host' := by
  intro events
  obtain ⟨events', hf⟩ := h events events
  exact ⟨events', (outcome_bind_of_ok rfl f).trans hf⟩

theorem yields_setHost (host host' : Drac) :
    Yields (modify fun t => { t with host := host' }) host (.ok ()) host' := fun events => ⟨events, rfl⟩

/-- A result that is found, noted and returned. -/
theorem yields_noted (r : Except RuntimeError α) (es : α → List Event) (host : Drac) :
    Yields (settled r >>= fun a => note (es a) >>= fun _ => pure a) host (ofRuntime r) host := by
  cases r with
  | error e => exact (yields_settled _ host).stop
  | ok a => exact (yields_settled _ host).bind ((yields_note _ host).bind (yields_pure a host))

end Steps

/-! ## 2. Printing -/

/-- Offers texts one after the other, up to the first that is not taken whole. -/
def writeEach (s : Sink) : List (List UInt8) → Except String Unit × Sink
  | [] => (.ok (), s)
  | bs :: later =>
    match s.write bs with
    | (.ok _, s') => writeEach s' later
    | (.error e, s') => (.error e, s')

/-- What is offered when values are printed. -/
def linesOf (vs : List Value) : List (List UInt8) := vs.map fun v => (v.text ++ "\n").toUTF8.toList

/-- An output that takes everything takes one text after the other. -/
theorem writeEach_of_willing : ∀ (lines : List (List UInt8)) {s : Sink}, s.writer.Willing →
    (writeEach s lines).1 = .ok () ∧ (writeEach s lines).2.written = s.written ++ lines.flatten
  | [], s, _ => ⟨rfl, (List.append_nil _).symm⟩
  | bs :: later, s, h => by
      rw [writeEach, Sink.write_of_takes (h _ _ _), List.flatten_cons, ← List.append_assoc]
      exact writeEach_of_willing later (s := s.taking bs) h

theorem yields_print (s : String) (host : Drac) : Yields (print s) host
    ((host.output.write s.toUTF8.toList).1.mapError .other)
    { host with output := (host.output.write s.toUTF8.toList).2 } := by
  refine .get fun events => ?_
  rcases host.output.write s.toUTF8.toList with ⟨result, output⟩
  intro events
  cases result with
  | error e => exact ⟨events, rfl⟩
  | ok u => exact ⟨events, rfl⟩

/-- **Printing values writes their lines**, up to the first that is refused. -/
theorem yields_printValues : ∀ (vs : List Value) (host : Drac), Yields (printValues vs) host
    ((writeEach host.output (linesOf vs)).1.mapError .other)
    { host with output := (writeEach host.output (linesOf vs)).2 }
  | [], host => yields_pure () host
  | v :: vs, host => by
      have hprint := yields_print (v.text ++ "\n") host
      show Yields (print (v.text ++ "\n") >>= fun _ => printValues vs) host _ _
      rw [linesOf, List.map_cons, writeEach]
      revert hprint
      rcases host.output.write (v.text ++ "\n").toUTF8.toList with ⟨result, output⟩
      intro hprint
      cases result with
      | error e => exact hprint.stop
      | ok u => exact hprint.bind (yields_printValues vs { host with output })

/-! ## 3. The steps of a run -/

theorem yields_configure (env : Environment) (flags : ConfigFlags) (host : Drac) :
    Yields (configure env flags) host (ofRuntime (EngineConfig.resolve env flags)) host := yields_noted _ _ host

theorem yields_createEngine (c : EngineConfig) (host : Drac) :
    Yields (createEngine c) host (ofRuntime (Engine.create 0 c)) host := yields_noted _ _ host

theorem yields_loadModule (env : Environment) (e : Engine) (path : String) (host : Drac) :
    Yields (loadModule env e path) host
      (ofRuntime ((env.file path).mapError (.sourceUnavailable path) >>= Module.ofBytes e path)) host := by
  unfold loadModule
  cases (env.file path).mapError (RuntimeError.sourceUnavailable path) with
  | error err => exact (yields_settled _ host).stop
  | ok bytes =>
    exact (yields_settled _ host).bind ((yields_note _ host).bind (yields_noted _ (fun m => [loadedEvent m]) host))

/-- The functions that a run offers to its module. -/
def offered (noStdlib : Bool) : Registry Drac :=
  if noStdlib then .empty else (Standard.register Drac.View.whole 0 .empty).1

/-- **The standard libraries can be registered**: no two of their functions share a name. -/
theorem register_standard : (Standard.register Drac.View.whole 0 Registry.empty).2 = .ok () := rfl

theorem yields_registerLibraries (noStdlib : Bool) (host : Drac) :
    Yields (registerLibraries noStdlib) host (.ok (offered noStdlib)) host := by
  cases noStdlib with
  | true => exact yields_pure _ host
  | false =>
    show Yields (settled (Standard.register Drac.View.whole 0 Registry.empty).2 >>= fun _ => _) host _ host
    rw [register_standard]
    exact (yields_settled _ host).bind ((yields_note _ host).bind (yields_pure _ host))

theorem yields_instantiateModule (m : Module) (r : Registry Drac) (host : Drac) :
    Yields (instantiateModule m r) host (ofRuntime (instantiate m r host).1) (instantiate m r host).2 := by
  unfold instantiateModule instantiate
  refine (yields_note _ host).bind ?_
  cases prepare m r with
  | error e => exact (yields_settled _ host).stop
  | ok bound =>
    obtain ⟨bindings, slots⟩ := bound
    refine (yields_settled _ host).bind (.get fun events => ?_)
    dsimp only
    rcases createInstance m bindings slots host with ⟨made, host'⟩
    exact (yields_setHost host host').bind ((yields_note _ host').bind (yields_settled made host'))

theorem yields_callExport (i : Instance Drac) (name : String) (args : List Value) (host : Drac) :
    Yields (callExport i name args) host (ofRuntime (i.invoke name args host).1)
      (i.invoke name args host).2.2 := by
  unfold callExport Instance.invoke
  cases i.admitCall name args with
  | error e => exact (yields_settled _ host).stop
  | ok sf =>
    obtain ⟨s, f⟩ := sf
    refine (yields_settled _ host).bind (.get fun events => ?_)
    dsimp only
    rcases i.callFunction name s f args host with ⟨result, _, host'⟩
    exact (yields_setHost host host').bind ((yields_note _ host').bind (yields_settled result host'))

end Embedder.Command
