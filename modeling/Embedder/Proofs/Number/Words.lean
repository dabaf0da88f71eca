import Embedder.Number.Ieee
import Mathlib.Tactic.SplitIfs

/-!
# Results are words of their format

A float is kept as a natural number, so nothing in its type says that it has no more bits than its
format. `Format.IsWord` says so, and here is that every operation keeps to it: rounding never goes beyond
infinity, infinity and what is not a number lie below the weight of the sign, and a sign is put on top
of a magnitude only.

* **`signed_isWord`** -- a sign on a magnitude below the weight of the sign gives a word;
* **`roundUnits_lt`** -- a rounded magnitude is such a magnitude;
* from these, one lemma for each operation: `add_isWord` to `convert_isWord`.
-/

namespace Embedder.Number.Format

variable (f : Format)

/-- The number has no more bits than a word of the format. -/
def IsWord (w : Nat) : Prop := w < pow2 f.width

/-! ## 1. Magnitudes -/

theorem pow2_width : pow2 f.width = f.signWeight * 2 := pow2_succ _

theorem signWeight_eq : f.signWeight = pow2 f.exponentBits * f.leading := by
  unfold signWeight magnitudeBits leading pow2
  rw [Nat.add_comm]
  exact Nat.pow_add 2 _ _

theorem leading_pos : 0 < f.leading := pow2_pos _

theorem infinity_add_leading : f.infinity + f.leading = f.signWeight := by
  have hpos : 0 < pow2 f.exponentBits := pow2_pos _
  calc f.infinity + f.leading
      = (pow2 f.exponentBits - 1 + 1) * f.leading := (Nat.succ_mul _ _).symm
    _ = f.signWeight := by rw [Nat.sub_add_cancel hpos, signWeight_eq]

theorem infinity_lt : f.infinity < f.signWeight := by
  have := f.infinity_add_leading
  have := f.leading_pos
  omega

theorem quietNaN_lt : f.quietNaN < f.signWeight := by
  have := f.infinity_add_leading
  have := f.leading_pos
  unfold quietNaN
  omega

theorem magnitude_lt (w : Nat) : f.magnitude w < f.signWeight := Nat.mod_lt _ (pow2_pos _)

/-- **A rounded magnitude lies below the weight of the sign.** -/
theorem roundUnits_lt (num den : Nat) : f.roundUnits num den < f.signWeight := by
  have := f.infinity_lt
  unfold roundUnits
  dsimp only
  split_ifs <;> omega

theorem round_lt (num den : Nat) : f.round num den < f.signWeight := f.roundUnits_lt _ _

/-! ## 2. Words -/

variable {f}

/-- **A sign on a magnitude gives a word.** -/
theorem signed_isWord {b : Nat} (neg : Bool) (hb : b < f.signWeight) : f.IsWord (f.signed neg b) := by
  unfold IsWord signed
  rw [pow2_width]
  split <;> omega

theorem isWord_of_lt {b : Nat} (hb : b < f.signWeight) : f.IsWord b := signed_isWord false hb

theorem quietNaN_isWord : f.IsWord f.quietNaN := isWord_of_lt f.quietNaN_lt

/-! ## 3. Sign and order -/

section Operations

variable {v w : Nat}

theorem neg_isWord : f.IsWord (f.neg w) := signed_isWord _ (f.magnitude_lt w)

theorem abs_isWord : f.IsWord (f.abs w) := isWord_of_lt (f.magnitude_lt w)

theorem copysign_isWord : f.IsWord (f.copysign v w) := signed_isWord _ (f.magnitude_lt v)

theorem min_isWord (hv : f.IsWord v) (hw : f.IsWord w) : f.IsWord (f.min v w) := by
  unfold min
  split
  · exact quietNaN_isWord
  · split_ifs <;> assumption

theorem max_isWord (hv : f.IsWord v) (hw : f.IsWord w) : f.IsWord (f.max v w) := by
  unfold max
  split
  · exact quietNaN_isWord
  · split_ifs <;> assumption

/-! ## 4. Arithmetic -/

theorem add_isWord (hv : f.IsWord v) (hw : f.IsWord w) : f.IsWord (f.add v w) := by
  unfold add
  split_ifs
  · exact quietNaN_isWord
  · exact quietNaN_isWord
  · exact hv
  · exact hw
  · exact signed_isWord _ (f.roundUnits_lt _ _)

theorem sub_isWord (hv : f.IsWord v) : f.IsWord (f.sub v w) := by
  unfold sub
  split_ifs
  · exact quietNaN_isWord
  · exact add_isWord hv neg_isWord

theorem mul_isWord : f.IsWord (f.mul v w) := by
  unfold mul
  dsimp only
  split_ifs
  · exact quietNaN_isWord
  · exact quietNaN_isWord
  · exact signed_isWord _ f.infinity_lt
  · exact signed_isWord _ (f.roundUnits_lt _ _)

theorem div_isWord : f.IsWord (f.div v w) := by
  unfold div
  dsimp only
  split_ifs
  · exact quietNaN_isWord
  · exact quietNaN_isWord
  · exact signed_isWord _ f.infinity_lt
  · exact signed_isWord _ (pow2_pos _)
  · exact quietNaN_isWord
  · exact signed_isWord _ f.infinity_lt
  · exact signed_isWord _ (f.round_lt _ _)

theorem sqrt_isWord (hw : f.IsWord w) : f.IsWord (f.sqrt w) := by
  unfold sqrt
  split
  · exact quietNaN_isWord
  split
  · exact hw
  split
  · exact quietNaN_isWord
  split
  · exact hw
  · exact isWord_of_lt (f.roundUnits_lt _ _)

/-! ## 5. Whole numbers -/

theorem integral_isWord (t : Toward) (hw : f.IsWord w) : f.IsWord (f.integral t w) := by
  unfold integral
  split
  · exact quietNaN_isWord
  split
  · exact hw
  · exact signed_isWord _ (f.round_lt _ _)

theorem ofInt_isWord (z : Int) : f.IsWord (f.ofInt z) := signed_isWord _ (f.round_lt _ _)

theorem convert_isWord (g : Format) : g.IsWord (f.convert g w) := by
  unfold convert
  split_ifs
  · exact quietNaN_isWord
  · exact signed_isWord _ g.infinity_lt
  · exact signed_isWord _ (g.round_lt _ _)

end Operations

end Embedder.Number.Format
