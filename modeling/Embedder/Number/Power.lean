/-!
# Powers

Powers of two, which words are counted with, and powers of ten, which decimals are.
-/

namespace Embedder.Number

/-- Two to the power `n`. -/
def pow2 (n : Nat) : Nat := Nat.pow 2 n

/-- Ten to the power `n`. -/
def pow10 (n : Nat) : Nat := Nat.pow 10 n

theorem pow2_zero : pow2 0 = 1 := rfl

theorem pow2_succ (n : Nat) : pow2 (n + 1) = pow2 n * 2 := rfl

theorem pow10_zero : pow10 0 = 1 := rfl

/-- A power of two is positive. -/
theorem pow2_pos (n : Nat) : 0 < pow2 n := Nat.pow_pos (by decide)

/-- A power of ten is positive. -/
theorem pow10_pos (n : Nat) : 0 < pow10 n := Nat.pow_pos (by decide)

end Embedder.Number
