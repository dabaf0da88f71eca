import Embedder.Config
import Embedder.Error

/-!
# Engines

An engine is a configuration that was found usable. Engines have an identity: two engines made from
the same configuration are different, and a module remembers the one it was loaded with.
-/

namespace Embedder

/-- The number of machine steps that one run may take before it is interrupted. -/
def stepBudget : Nat := 1000000000000000000

/-- An engine. -/
structure Engine where
  /-- The identity of the engine. -/
  id : Nat
  config : EngineConfig
  /-- The steps that one run may take. -/
  budget : Nat := stepBudget
  deriving DecidableEq, Repr, Inhabited

namespace Engine

/-- Why a configuration cannot be used. -/
def objection? (c : EngineConfig) : Option String :=
  if c.maxWasmStack = some 0 then some "max_wasm_stack size cannot be zero"
  else if c.backend = .winch then some "winch support not compiled in"
  else none

/-- Creates an engine with an identity. -/
def create (id : Nat) (c : EngineConfig) : Except RuntimeError Engine :=
  match objection? c with
  | some o => .error (.configuration (c.backend.title ++ " backend: " ++ o))
  | none => .ok { id, config := c }

/-- Are two engines one and the same? -/
def same (a b : Engine) : Bool := a.id == b.id

end Engine

end Embedder
