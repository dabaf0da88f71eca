import Embedder.Host.Registry

/-!
# The math library

One function, `pow`: powers of 64-bit integers, wrapped to 64 bits. The exponent may not be negative.
-/

namespace Embedder.Math

/-- The result so far times a power, by squaring: a factor for each set bit of the exponent. -/
def powerLoop (result base : Int64) (exponent : Nat) : Int64 :=
  if h : exponent = 0 then result
  else
    powerLoop (if exponent % 2 = 1 then result * base else result) (base * base) (exponent / 2)
termination_by exponent
decreasing_by exact Nat.div_lt_self (Nat.pos_of_ne_zero h) (by decide)

/-- A power, wrapped to 64 bits. -/
def pow (base exponent : Int64) : Except HostError Int64 :=
  if exponent < 0 then .error (.failed ("pow: negative exponent " ++ toString exponent.toInt))
  else .ok (powerLoop 1 base exponent.toInt.toNat)

/-- The namespace of the library. -/
def space : String := "math"

/-- The signature of `pow`. -/
def powSignature : Signature := ⟨[.i64, .i64], [.i64]⟩

/-- The function `pow` for hosts. -/
def powFunction {σ : Type} (id : Nat) : HostFunction σ where
  id
  signature := powSignature
  run args w :=
    match args with
    | [.i64 base, .i64 exponent] => ((pow base exponent).map fun v => [.i64 v], w)
    | _ => (.error (.failed "pow expects two i64 arguments"), w)

/-- The function leaves the world of the host as it is. -/
theorem call_powFunction_world {σ : Type} (id : Nat) (label : String) (args : List Value) (w : σ) :
    ((powFunction id).call label args w).2 = w := by
  unfold HostFunction.call
  split
  · dsimp only [powFunction]
    split <;> rfl
  · rfl

/-- The entries of the library, its callables having the identities from `id` on. -/
def entries {σ : Type} (id : Nat) : List (Entry σ) := [⟨space, "pow", powFunction id⟩]

end Embedder.Math
