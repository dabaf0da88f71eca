import Embedder.Binding
import Embedder.Wasm.Machine

/-!
# Running guest code

A run alternates between the machine and the host: the machine steps until it is finished, traps, or
wishes to call a function of the host. **The values cross the boundary unchanged**: the arguments are the
machine's operands read at the types of the function's signature, and the results go back as operands
bit for bit. After an error the machine is not continued.
-/

namespace Embedder

variable {σ : Type}

/-- The values of some types with the given bits. -/
def valuesOf : List ValueType → List Nat → List Value
  | t :: ts, n :: ns => Value.ofSlot t n :: valuesOf ts ns
  | _, _ => []

/-- Calls the function of a slot for guest code. -/
def Slot.callRaw (s : Slot σ) (args : List Nat) (w : σ) : Except EngineError (List Nat) × σ :=
  match s.function.call s.label (valuesOf s.function.signature.params args) w with
  | (.ok vs, w') => (.ok (vs.map Value.slot), w')
  | (.error e, w') => (.error { cause := .host e }, w')

/-- Calls the function that serves an import. -/
def callImport (slots : List (Slot σ)) (i : Nat) (args : List Nat) (w : σ) :
    Except EngineError (List Nat) × σ :=
  match slots[i]? with
  | some s => s.callRaw args w
  | none => (.error { cause := .other ("import " ++ toString i ++ " is not linked") }, w)

/-- How a run ended, with the states of guest and host afterwards. -/
structure Run (σ : Type) where
  /-- The results, the first one first, or the error. -/
  result : Except EngineError (List Nat)
  state : Wasm.State
  world : σ

/-- Runs a machine for at most `budget` steps. -/
def drive (p : Wasm.Program) (slots : List (Slot σ)) : (budget : Nat) → Wasm.Machine → σ → Run σ
  | 0, m, w => ⟨.error { cause := .trap .interrupt }, m.state, w⟩
  | budget + 1, m, w =>
    match m.step p with
    | .running m' => drive p slots budget m' w
    | .finished results s => ⟨.ok results.reverse, s, w⟩
    | .trapped t s => ⟨.error { cause := .trap t }, s, w⟩
    | .calling i args m' =>
      match callImport slots i args w with
      | (.ok results, w') => drive p slots budget (m'.resume results) w'
      | (.error e, w') => ⟨.error e, m'.state, w'⟩

/-- Runs one function of a module. -/
def runFunction (m : Module) (slots : List (Slot σ)) (s : Wasm.State) (func : Nat) (args : List Nat)
    (results : Nat) (w : σ) : Run σ :=
  drive m.program slots m.engine.budget (.start s func args results) w

end Embedder
