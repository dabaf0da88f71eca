import Embedder.Library.Drac
import Embedder.Library.Math

/-!
# The standard libraries

What a program may expect of its host: the math library, then the drac library.
-/

namespace Embedder.Standard

/-- The number of functions of the standard libraries. -/
def size : Nat := 1 + Drac.Op.all.length

/-- The entries of the standard libraries, their callables having the identities from `id` on. -/
def entries {σ : Type} (view : Drac.View σ Drac) (id : Nat) : List (Entry σ) :=
  Math.entries id ++ Drac.entries view (id + 1)

/-- Registers the standard libraries, up to the first function that is refused. -/
def register {σ : Type} (view : Drac.View σ Drac) (id : Nat) (r : Registry σ) :
    Registry σ × Except RuntimeError Unit :=
  r.registerAll (entries view id)

end Embedder.Standard
