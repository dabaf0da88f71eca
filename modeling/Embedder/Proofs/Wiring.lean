import Embedder.Proofs.Creation
import Mathlib.Data.List.Count

/-!
# Imports that repeat

A module may import one pair of names several times. Its bindings are a list with one entry for each import,
while a linker knows each pair once, and the engine finds the function of an import by its pair. The two are
compared here, for any pattern in which pairs repeat.

* `find?_of_slotsOf`, `Linker.define_again` -- the engine goes by the pair, and a linker refuses it twice;
* **`linkedOnce`** -- linking defines each pair once, from its first binding;
* **`importsWired`** -- so a repeated import has the function of its own binding all the same.
-/

namespace Embedder

variable {σ : Type}

/-! ## 1. Pairs -/

/-- The pair of names of an import. -/
def ImportDeclaration.pair (d : ImportDeclaration) : String × String := (d.module, d.name)

/-- The functions that a linker gives to imports are found by their pairs. -/
theorem find?_of_slotsOf {l : Linker σ} : ∀ {ds : List ImportDeclaration} {slots : List (Slot σ)},
    slotsOf l ds = .ok slots → List.Forall₂ (fun d s => l.find? d.pair = some s) ds slots
  | [], _, h => by
      cases h
      exact .nil
  | d :: ds, _, h => by
      unfold slotsOf at h
      split at h
      · cases h
      · rename_i s hs
        obtain ⟨rest, hrest, rfl⟩ := map_cons_eq_ok_iff.mp h
        exact .cons hs (find?_of_slotsOf hrest)

/-- A pair that a linker has cannot be defined again. -/
theorem Linker.define_again {l : Linker σ} {pair : String × String} {s : Slot σ} (h : l.find? pair = some s)
    (s' : Slot σ) : ∃ text, l.define pair s' = .error text := by
  unfold Linker.define
  rw [h]
  exact ⟨_, rfl⟩

/-! ## 2. Modules -/

/-- What a linker is for bindings of the imports of a module. -/
structure LinkedOnce (m : Module) (bs : List (Binding σ)) (l : Linker σ) : Prop where
  /-- Each pair that is imported was defined once, however often it is imported, and no other. -/
  once : ∀ pair, (l.items.map Prod.fst).count pair = if pair ∈ m.imports.map ImportDeclaration.pair then 1 else 0
  /-- It was defined with the first of its bindings. -/
  first : ∀ pair s, (pair, s) ∈ l.items → ∃ before b after, bs = before ++ b :: after ∧
    (∀ x ∈ before, x.pair ≠ pair) ∧ b.pair = pair ∧ b.slot = s
  /-- To define it again would have been an error. -/
  strict : ∀ d ∈ m.imports, ∀ s, ∃ text, l.define d.pair s = .error text
  /-- Every import gets a function, by its pair, and it is the one of its own binding. -/
  slots : ∃ slots, slotsOf l m.imports = .ok slots ∧ slots.length = m.imports.length ∧
    ∀ (k : Nat) (d : ImportDeclaration) (b : Binding σ), m.imports[k]? = some d → bs[k]? = some b →
      ∃ s, slots[k]? = some s ∧ l.find? d.pair = some s ∧ s.function = b.function ∧
        d.kind = .function s.function.signature

/-- How the imports of a module are wired to their bindings. -/
structure ImportsWired (m : Module) (r : Registry σ) (bs : List (Binding σ)) : Prop where
  /-- There is one binding for each import. -/
  bound : bs.map Binding.declaration = m.imports ∧ bs.length = m.imports.length
  /-- Linking comes to a linker. -/
  linked : ∃ l, link bs = .ok l ∧ LinkedOnce m bs l
  /-- So instantiation never fails for a function that cannot be bound. -/
  binds : ∀ w text w', instantiate m r w ≠ (.error (.instantiation ("cannot bind " ++ text)), w')
  /-- An instance has these bindings, and code that calls an import calls the function of its binding. -/
  instances : ∀ w i w', instantiate m r w = (.ok i, w') →
    i.bindings = bs ∧ i.bindings.length = m.imports.length ∧ i.slots.length = m.imports.length ∧
      ∀ (k : Nat) (b : Binding σ), i.bindings[k]? = some b → i.slots[k]? = some b.slot ∧
        ∀ args w, callImport i.slots k args w = b.slot.callRaw args w

section Wired

variable {m : Module} {r : Registry σ} {bs : List (Binding σ)}

theorem Serves.pairs (h : List.Forall₂ (Serves r) m.imports bs) :
    bs.map Binding.pair = m.imports.map ImportDeclaration.pair := by
  rw [← Serves.declarations h, List.map_map]
  rfl

/-- **The linker of a module has each imported pair once**, and every import finds the function of its own
    binding there. -/
theorem linkedOnce (h : List.Forall₂ (Serves r) m.imports bs) {l : Linker σ} (hlink : link bs = .ok l)
    (hslots : slotsOf l m.imports = .ok (bs.map Binding.slot)) : LinkedOnce m bs l := by
  have htable : l.items = (firstBindings [] bs).map Binding.item := by
    rw [link_eq] at hlink
    cases hlink
    rfl
  have hpairs : l.items.map Prod.fst = (firstBindings [] bs).map Binding.pair := by
    rw [htable, List.map_map]
    rfl
  have hfound := find?_of_slotsOf hslots
  refine ⟨fun pair => ?_, fun pair s hs => ?_, fun d hd s => ?_, _, hslots, ?_, fun k d b hd hb => ?_⟩
  · rw [hpairs, (nodup_firstBindings bs []).count]
    refine if_congr ?_ rfl rfl
    rw [mem_firstBindings, Serves.pairs h]
    exact and_iff_left List.not_mem_nil
  · rw [htable] at hs
    obtain ⟨b, hb, hitem⟩ := List.mem_map.mp hs
    cases hitem
    obtain ⟨before, after, hsplit, hbefore⟩ := first_of_mem hb
    exact ⟨before, b, after, hsplit, hbefore, rfl, rfl⟩
  · obtain ⟨k, hk, rfl⟩ := List.mem_iff_getElem.mp hd
    have hk' : k < (bs.map Binding.slot).length := hfound.length_eq ▸ hk
    exact Linker.define_again (List.forall₂_iff_get.mp hfound |>.2 k hk hk') s
  · exact hfound.length_eq.symm
  · obtain ⟨b', hb', hserves⟩ := Serves.at h hd
    obtain rfl : b' = b := Option.some.inj (hb'.symm.trans hb)
    have hslot : (bs.map Binding.slot)[k]? = some b'.slot := by
      rw [List.getElem?_map, hb]
      rfl
    obtain ⟨hk, rfl⟩ := List.getElem?_eq_some_iff.mp hd
    obtain ⟨hk', hget⟩ := List.getElem?_eq_some_iff.mp hslot
    have hfind := List.forall₂_iff_get.mp hfound |>.2 k hk hk'
    rw [List.get_eq_getElem, List.get_eq_getElem, hget] at hfind
    exact ⟨_, hslot, hfind, rfl, hserves.signature⟩

theorem message_ne_cannotBind (t : EngineTrap) (text : String) : "cannot bind " ++ text ≠ t.message := by
  intro h
  have hhead := congrArg (fun s => s.toList.head?) h
  cases t <;> simp [EngineTrap.message] at hhead

/-- **Repeated imports are wired like any other.** -/
theorem importsWired (hb : resolveImports m r = .ok bs) : ImportsWired m r bs where
  bound := by
    have hserves := (resolveAll_ok_iff r m.imports bs).mp hb
    exact ⟨Serves.declarations hserves, hserves.length_eq.symm⟩
  linked := by
    have hserves := (resolveAll_ok_iff r m.imports bs).mp hb
    obtain ⟨l, hlink, hslots⟩ := link_serves hserves
    exact ⟨l, hlink, linkedOnce hserves hlink hslots⟩
  binds w text w' h := by
    obtain ⟨t, -, ht⟩ := range_of_instantiation hb h
    exact message_ne_cannotBind t text ht
  instances w i w' h := by
    have hsound := instantiate_sound h
    obtain rfl : bs = i.bindings := Except.ok.inj (hb.symm.trans hsound.bindings)
    have hlength := hsound.serves.length_eq.symm
    refine ⟨rfl, hlength, ?_, fun k b hk => ?_⟩
    · rw [hsound.slots, List.length_map, hlength]
    · have hslot : i.slots[k]? = some b.slot := by
        rw [hsound.slots, List.getElem?_map, hk]
        rfl
      refine ⟨hslot, fun args w => ?_⟩
      unfold callImport
      rw [hslot]

end Wired

/-- A module that imports one pair three times, and another between, and calls the last of them. -/
def repeatingWasm : Wasm.Module where
  types := [.ofFunc ⟨[], [.num .i32]⟩]
  imports := [⟨"env", "a", .func 0⟩, ⟨"env", "b", .func 0⟩, ⟨"env", "a", .func 0⟩, ⟨"env", "a", .func 0⟩]
  funcs := [0]
  exports := [⟨"go", .func 4⟩]
  bodies := [⟨[], [.call 3, .end_]⟩]

/-- The same, loaded. -/
def repeating : Module where
  engine := { id := 0, config := {}, budget := 8 }
  wasm := repeatingWasm
  program := repeatingWasm.program
  imports := ["a", "b", "a", "a"].map fun name => ⟨"env", name, .function ⟨[], [.i32]⟩⟩
  exports := [⟨"go", .function ⟨[], [.i32]⟩⟩]
  valid := by rfl
  runnable := by rfl
  program_eq := rfl
  imports_eq := by rfl
  exports_eq := by rfl

/-- A host function that answers with a number. -/
def answering (k : Nat) (v : Int32) : HostFunction Unit := ⟨k, ⟨[], [.i32]⟩, fun _ w => (.ok [.i32 v], w)⟩

theorem importsWired_repeating :
    let r := (Registry.empty.insert "env" "a" (answering 0 7)).insert "env" "b" (answering 1 9)
    ∃ bs, resolveImports repeating r = .ok bs ∧ ImportsWired repeating r bs ∧
      bs.map (fun b => b.function.id) = [0, 1, 0, 0] ∧
      (link bs).map (fun l => l.items.map Prod.fst) = .ok [("env", "a"), ("env", "b")] ∧
      ∃ i, instantiate repeating r () = (.ok i, ()) ∧ (i.invoke "go" [] ()).1 = .ok [.i32 7] :=
  ⟨_, rfl, importsWired rfl, rfl, rfl, _, rfl, rfl⟩

end Embedder
