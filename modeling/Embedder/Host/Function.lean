import Embedder.Fault

/-!
# Host functions

A host function acts on a *world* of type `σ`, all that the host's functions share: their streams,
arrays and counters. It takes values and the world and gives back values, or an error, and the world as it
is afterwards. **Calling one checks its types on both sides**: arguments of other types than declared
never reach it, and results of other types than declared never leave it.
-/

namespace Embedder

/-- A function of the host with its signature. -/
structure HostFunction (σ : Type) where
  /-- The identity of the callable: two handles share one iff their identities agree. -/
  id : Nat
  signature : Signature
  run : List Value → σ → Except HostError (List Value) × σ

namespace HostFunction

variable {σ : Type}

/-- Do two handles share one callable? -/
def same (f g : HostFunction σ) : Bool := f.id == g.id

/-- The results of a function under a name, if they have the declared types. -/
def checkResults (f : HostFunction σ) (name : String) (results : List Value) :
    Except HostError (List Value) :=
  if f.signature.returns results then .ok results
  else .error (.invalidResults name f.signature.text (Value.describe results))

/-- Calls a function under a name, checking arguments and results. -/
def call (f : HostFunction σ) (name : String) (args : List Value) (w : σ) :
    Except HostError (List Value) × σ :=
  if f.signature.accepts args then
    let (r, w') := f.run args w
    (r.bind (f.checkResults name), w')
  else (.error (.invalidArguments name f.signature.text (Value.describe args)), w)

section Calls

variable {f : HostFunction σ} {args : List Value}

/-- With arguments of the declared types the function runs. -/
theorem call_of_fits (h : args.map Value.type = f.signature.params) (name : String) (w : σ) :
    f.call name args w = ((f.run args w).1.bind (f.checkResults name), (f.run args w).2) := by
  unfold call
  rw [if_pos (Signature.accepts_iff.mpr h)]

/-- With any others it is not run, and the world stays as it is. -/
theorem call_of_misfit (h : args.map Value.type ≠ f.signature.params) (name : String) (w : σ) :
    f.call name args w = (.error (.invalidArguments name f.signature.text (Value.describe args)), w) := by
  unfold call
  rw [if_neg fun haccepts => h (Signature.accepts_iff.mp haccepts)]

end Calls

end HostFunction

end Embedder
