import Embedder.Number.HexFloat
import Embedder.Proofs.Number.Shortest
import Mathlib.Algebra.Order.Ring.Abs
import Mathlib.Data.Rat.Cast.Order
import Mathlib.Tactic.FieldSimp
import Mathlib.Tactic.Positivity

/-!
# Rounding finds the nearest float

Whatever number is rounded lies in the interval of one magnitude, and that is what it is rounded to, or infinity if
the magnitude is no longer finite. Seen from the numbers that words stand for, this is the float nearest to the number.

* **`exists_rounds`** -- every quotient lies in the interval of a magnitude; it lies between two neighbours, and on one
  side of the midpoint between them;
* **`roundUnits_of_rounds`** -- it is rounded to that magnitude or to infinity, since a format with a greater range has
  the same intervals;
* `infinity_le_iff` -- to infinity from the midpoint on beyond the greatest finite magnitude;
* `Format.value` -- the number that a word stands for, by the fields of the word; `value_signed` counts it in units;
* `Format.Nearest`, **`nearest_signed`** -- no finite word is nearer to a number than the one that it is rounded to;
* `ofDecimal_eq` -- powers of ten that are never computed would have been rounded to zero or to infinity, so
  **`ofDecimal_nearest`** -- every decimal number is rounded to the float nearest to it.
-/

namespace Embedder.Number.Format

/-! ## 1. Every quotient has its magnitude -/

section Intervals

variable {f : Format} {b c num den : Nat}

theorem units_strictMono (f : Format) : StrictMono f.units := strictMono_nat_of_lt_succ f.units_lt_succ

theorem units_zero (f : Format) : f.units 0 = 0 := by
  rw [units, if_pos f.leading_pos]

/-- A quotient below the midpoint to the next magnitude, and not below this one. -/
theorem rounds_down (hlow : f.units b * den ≤ num) (hmid : 2 * num < (f.units b + f.units (b + 1)) * den) :
    f.Rounds b num den := by
  have hbelow : f.units (b - 1) * den ≤ f.units b * den :=
    Nat.mul_le_mul_right den (f.units_strictMono.monotone (Nat.sub_le b 1))
  refine ⟨by rw [Nat.add_mul]; omega, Nat.le_of_lt hmid, fun hodd => ⟨?_, hmid⟩⟩
  have hden : 0 < den := by
    by_contra hzero
    rw [Nat.eq_zero_of_not_pos hzero] at hmid
    omega
  have hstrict : f.units (b - 1) * den < f.units b * den :=
    Nat.mul_lt_mul_of_pos_right (f.units_strictMono (by omega)) hden
  rw [Nat.add_mul]
  omega

/-- A quotient above the midpoint from the magnitude before, and not above this one. -/
theorem rounds_up (hhigh : num < f.units (b + 1) * den) (hmid : (f.units b + f.units (b + 1)) * den < 2 * num) :
    f.Rounds (b + 1) num den := by
  have habove : f.units (b + 1) * den ≤ f.units (b + 1 + 1) * den :=
    Nat.mul_le_mul_right den (f.units_strictMono.monotone (Nat.le_succ _))
  have hnext : 2 * num < (f.units (b + 1) + f.units (b + 1 + 1)) * den := by
    rw [Nat.add_mul]
    omega
  exact ⟨Nat.le_of_lt hmid, Nat.le_of_lt hnext, fun _ => ⟨hmid, hnext⟩⟩

/-- The midpoint between two magnitudes belongs to the even one. -/
theorem rounds_tie (hden : 0 < den) (hmid : 2 * num = (f.units b + f.units (b + 1)) * den) :
    ∃ c, f.Rounds c num den := by
  have hbelow : f.units (b - 1) * den ≤ f.units b * den :=
    Nat.mul_le_mul_right den (f.units_strictMono.monotone (Nat.sub_le b 1))
  have hstep : f.units b * den < f.units (b + 1) * den :=
    Nat.mul_lt_mul_of_pos_right (f.units_lt_succ b) hden
  have habove : f.units (b + 1) * den < f.units (b + 1 + 1) * den :=
    Nat.mul_lt_mul_of_pos_right (f.units_lt_succ (b + 1)) hden
  by_cases heven : b % 2 = 0
  · refine ⟨b, ?_, Nat.le_of_eq hmid, by omega⟩
    rw [hmid, Nat.add_mul, Nat.add_mul]
    omega
  · refine ⟨b + 1, Nat.le_of_eq hmid.symm, ?_, by omega⟩
    rw [hmid, Nat.add_mul, Nat.add_mul]
    omega

/-- **Every quotient lies in the interval of a magnitude.** -/
theorem exists_rounds (f : Format) (num : Nat) (hden : 0 < den) : ∃ b, f.Rounds b num den := by
  have hbeyond : ∃ b, num < f.units (b + 1) * den := by
    have hunits : num + 1 ≤ f.units (num + 1) := f.units_strictMono.le_apply
    exact ⟨num, Nat.lt_of_lt_of_le hunits (Nat.le_mul_of_pos_right _ hden)⟩
  -- the least such magnitude is the last one that is not above the quotient
  obtain ⟨b, hhigh, hleast⟩ : ∃ b, num < f.units (b + 1) * den ∧ f.units b * den ≤ num := by
    refine ⟨Nat.find hbeyond, Nat.find_spec hbeyond, ?_⟩
    cases hb : Nat.find hbeyond with
    | zero =>
      rw [f.units_zero, Nat.zero_mul]
      exact Nat.zero_le num
    | succ b => exact Nat.le_of_not_lt (Nat.find_min hbeyond (by omega))
  rcases Nat.lt_trichotomy (2 * num) ((f.units b + f.units (b + 1)) * den) with hmid | hmid | hmid
  · exact ⟨b, rounds_down hleast hmid⟩
  · exact rounds_tie hden hmid
  · exact ⟨b + 1, rounds_up hhigh hmid⟩

end Intervals

/-! ## 2. Infinity -/

/-- A format whose words have at least two bits for the exponent and two for the significand, and whose least number
    is in the range of decimal exponents that are computed with. -/
structure Regular (f : Format) : Prop extends f.Moderate where
  exponentBits : 2 ≤ f.exponentBits

theorem binary32_regular : binary32.Regular := ⟨binary32_moderate, by decide⟩

theorem binary64_regular : binary64.Regular := ⟨binary64_moderate, by decide⟩

section Infinity

variable {f : Format} {b num den : Nat}

/-- The same format with more bits for the exponent. -/
def widened (f : Format) (bits : Nat) : Format := { f with exponentBits := f.exponentBits + bits }

theorem lt_infinity_widened (hf : f.Regular) (b : Nat) : b < (f.widened b).infinity := by
  have hpower : b + 2 ≤ pow2 (f.exponentBits + b) := by
    have hbits : b + 2 < pow2 (b + 2) := Nat.lt_pow_self (by decide)
    have hmore : pow2 (b + 2) ≤ pow2 (f.exponentBits + b) :=
      Nat.pow_le_pow_right (by decide) (by have := hf.exponentBits; omega)
    omega
  have hleading : 1 * (b + 1) ≤ f.leading * (pow2 (f.exponentBits + b) - 1) :=
    Nat.mul_le_mul f.leading_pos (by omega)
  rw [Nat.mul_comm f.leading] at hleading
  show b < (pow2 (f.exponentBits + b) - 1) * f.leading
  omega

/-- **A quotient is rounded to the magnitude of its interval**, or to infinity if that is not finite. -/
theorem roundUnits_of_rounds (hf : f.Regular) (hden : 0 < den) (h : f.Rounds b num den) :
    f.roundUnits num den = if b < f.infinity then b else f.infinity := by
  have hwide : (f.widened b).roundUnits num den = b :=
    Rounds.roundUnits (f := f.widened b) hf.precision hden (lt_infinity_widened hf b) ⟨h.low, h.high, h.strict⟩
  rw [roundUnits_eq] at hwide ⊢
  have hb : f.excess (num / den) * f.leading + roundQuotient num (den * pow2 (f.excess (num / den))) = b := by
    have hlt := lt_infinity_widened hf b
    dsimp only at hwide
    split at hwide
    · exact hwide
    · omega
  dsimp only
  rw [hb]

theorem infinity_even (hf : f.Regular) : f.infinity % 2 = 0 := by
  unfold infinity
  rw [Nat.mul_mod, leading_even hf.precision, Nat.mul_zero, Nat.zero_mod]

theorem infinity_pos (hf : f.Regular) : 0 < f.infinity := by
  have hpower : pow2 1 < pow2 f.exponentBits :=
    Nat.pow_lt_pow_right (by decide) (Nat.lt_of_lt_of_le (by decide) hf.exponentBits)
  exact Nat.mul_pos (Nat.sub_pos_of_lt (Nat.lt_trans (by decide) hpower)) f.leading_pos

theorem two_le_leading (hf : f.Regular) : 2 ≤ f.leading := by
  have hpower : pow2 1 ≤ f.leading := Nat.pow_le_pow_right (by decide) (Nat.le_sub_of_add_le hf.precision)
  exact hpower

theorem infinity_lt_quietNaN (hf : f.Regular) : f.infinity < f.quietNaN :=
  Nat.lt_add_of_pos_right (Nat.div_pos (two_le_leading hf) (by decide))

/-- A magnitude is not finite iff the quotient is at least the midpoint beyond the greatest finite one. -/
theorem infinity_le_iff (hf : f.Regular) (hden : 0 < den) (h : f.Rounds b num den) :
    f.infinity ≤ b ↔ (f.units (f.infinity - 1) + f.units f.infinity) * den ≤ 2 * num := by
  have hpos := infinity_pos hf
  have heven := infinity_even hf
  have hmono := f.units_strictMono.monotone
  constructor
  · intro hle
    have hsum := Nat.add_le_add (hmono (Nat.sub_le_sub_right hle 1)) (hmono hle)
    exact Nat.le_trans (Nat.mul_le_mul_right den hsum) h.low
  · intro hmid
    by_contra hlt
    by_cases hlast : b = f.infinity - 1
    · -- the last finite magnitude is odd, so the midpoint is not in its interval
      have hstrict := (h.strict (by omega)).2
      rw [hlast, Nat.sub_add_cancel hpos] at hstrict
      omega
    · have hsum : f.units b + f.units (b + 1) < f.units (f.infinity - 1) + f.units f.infinity :=
        Nat.add_lt_add_of_lt_of_le (f.units_strictMono (by omega)) (hmono (by omega))
      have hhigh := h.high
      have := Nat.mul_lt_mul_of_pos_right hsum hden
      omega

end Infinity

/-! ## 3. The numbers that words stand for -/

/-- A sign as a factor. -/
def signFactor (neg : Bool) : ℚ := if neg then -1 else 1

/-- The number that a finite word stands for, by its fields: the exponent is counted from the bias, and below the least
    exponent the leading bit of the significand is missing. -/
def value (f : Format) (w : Nat) : ℚ :=
  let exponent := f.magnitude w / f.leading
  let fraction : ℚ := (f.magnitude w % f.leading : ℕ) / (f.leading : ℚ)
  signFactor (f.negative w) *
    if exponent = 0 then 2 ^ (1 - (f.bias : ℤ)) * fraction else 2 ^ ((exponent : ℤ) - f.bias) * (1 + fraction)

section Values

variable {f : Format} {b : Nat}

theorem cast_pow2 (n : Nat) : (pow2 n : ℚ) = 2 ^ n := Nat.cast_pow 2 n

theorem bias_pos (hf : f.Regular) : 1 ≤ f.bias := by
  have hpower : pow2 1 ≤ pow2 (f.exponentBits - 1) :=
    Nat.pow_le_pow_right (by decide) (by have := hf.exponentBits; omega)
  exact Nat.le_sub_of_add_le hpower

/-- The unit of a format is the least significand at the least exponent. -/
theorem pow2_scale (hf : f.Regular) : pow2 f.scale = f.leading * pow2 (f.bias - 1) := by
  have hscale : f.scale = f.precision - 1 + (f.bias - 1) := by
    have hbias := bias_pos hf
    have hprecision := hf.precision
    unfold scale
    unfold bias at *
    omega
  rw [hscale]
  exact Nat.pow_add 2 _ _

theorem units_eq_value (hf : f.Regular) (b : Nat) : (f.units b : ℚ) / pow2 f.scale =
    if b / f.leading = 0 then 2 ^ (1 - (f.bias : ℤ)) * ((b % f.leading : ℕ) / (f.leading : ℚ))
    else 2 ^ (((b / f.leading : ℕ) : ℤ) - f.bias) * (1 + (b % f.leading : ℕ) / (f.leading : ℚ)) := by
  have hleading : (f.leading : ℚ) ≠ 0 := Nat.cast_ne_zero.mpr (Nat.ne_of_gt f.leading_pos)
  have hbias := bias_pos hf
  have hpow : ∀ n : Nat, (2 : ℚ) ^ ((n : ℤ) - f.bias + 1) = 2 ^ n / 2 ^ (f.bias - 1) := by
    intro n
    have hsub : (n : ℤ) - f.bias + 1 = n - (f.bias - 1 : ℕ) := by omega
    rw [hsub, zpow_sub₀ (by norm_num), zpow_natCast, zpow_natCast]
  rw [pow2_scale hf, Nat.cast_mul, cast_pow2]
  unfold units
  by_cases hsmall : b < f.leading
  · have hfield : b / f.leading = 0 := Nat.div_eq_of_lt hsmall
    have hexponent : 1 - (f.bias : ℤ) = (0 : ℕ) - f.bias + 1 := by omega
    rw [if_pos hsmall, if_pos hfield, Nat.mod_eq_of_lt hsmall, hexponent, hpow]
    field_simp
  · have hfield : 1 ≤ b / f.leading := (Nat.one_le_div_iff f.leading_pos).mpr (Nat.le_of_not_lt hsmall)
    have hexponent : ((b / f.leading : ℕ) : ℤ) - f.bias = (b / f.leading - 1 : ℕ) - f.bias + 1 := by omega
    rw [if_neg hsmall, if_neg (by omega), hexponent, hpow, Nat.cast_mul, cast_pow2, Nat.cast_add]
    field_simp

/-- A word stands for as many units as its magnitude has. -/
theorem value_eq (hf : f.Regular) (w : Nat) :
    f.value w = signFactor (f.negative w) * (f.units (f.magnitude w) / pow2 f.scale) := by
  unfold value
  rw [units_eq_value hf]

theorem magnitude_signed (neg : Bool) (hb : b < f.signWeight) : f.magnitude (f.signed neg b) = b := by
  unfold magnitude signed
  split
  · rw [Nat.add_mod_left, Nat.mod_eq_of_lt hb]
  · exact Nat.mod_eq_of_lt hb

theorem negative_signed (neg : Bool) (hb : b < f.signWeight) : f.negative (f.signed neg b) = neg := by
  have hword : f.signed neg b < pow2 f.width := signed_isWord neg hb
  unfold negative
  rw [Nat.mod_eq_of_lt hword]
  unfold signed
  cases neg with
  | true => simp
  | false => simpa using hb

theorem value_signed (hf : f.Regular) (neg : Bool) (hb : b < f.signWeight) :
    f.value (f.signed neg b) = signFactor neg * (f.units b / pow2 f.scale) := by
  rw [value_eq hf, negative_signed neg hb, magnitude_signed neg hb]

end Values

/-! ## 4. The nearest one -/

/-- The words that stand for numbers. -/
def IsFinite (f : Format) (w : Nat) : Prop := f.IsWord w ∧ f.magnitude w < f.infinity

/-- The greatest finite number. -/
def greatest (f : Format) : ℚ := f.value (f.infinity - 1)

/-- The distance of the greatest finite number from the one before it. -/
def lastStep (f : Format) : ℚ := f.greatest - f.value (f.infinity - 2)

/-- A word is what a number has to be rounded to: infinity from half a step beyond the greatest finite number on, and
    below that the finite word that stands for the nearest number. If two numbers are the nearest, the word is even. -/
structure Nearest (f : Format) (q : ℚ) (w : Nat) : Prop where
  word : f.IsWord w
  number : f.magnitude w ≤ f.infinity
  infinite : f.magnitude w = f.infinity ↔ f.greatest + f.lastStep / 2 ≤ |q|
  nearest : f.magnitude w < f.infinity → ∀ v, f.IsFinite v → |q - f.value w| ≤ |q - f.value v|
  even : f.magnitude w < f.infinity → ∀ v, f.IsFinite v → |q - f.value v| = |q - f.value w| →
    f.value v = f.value w ∨ w % 2 = 0

section Distances

variable {x a c : ℚ}

theorem nearer_left (hac : a ≤ c) (hx : 2 * x ≤ a + c) : |x - a| ≤ |x - c| := by
  have hc := neg_abs_le (x - c)
  exact abs_le.mpr ⟨by linarith, by linarith⟩

theorem nearer_left_strict (hac : a < c) (hx : 2 * x < a + c) : |x - a| < |x - c| := by
  have hc := neg_abs_le (x - c)
  exact abs_lt.mpr ⟨by linarith, by linarith⟩

theorem nearer_right (hac : a ≤ c) (hx : a + c ≤ 2 * x) : |x - c| ≤ |x - a| := by
  have ha := le_abs_self (x - a)
  exact abs_le.mpr ⟨by linarith, by linarith⟩

theorem nearer_right_strict (hac : a < c) (hx : a + c < 2 * x) : |x - c| < |x - a| := by
  have ha := le_abs_self (x - a)
  exact abs_lt.mpr ⟨by linarith, by linarith⟩

theorem abs_signFactor_mul (neg : Bool) (x : ℚ) : |signFactor neg * x| = |x| := by
  cases neg <;> simp [signFactor]

theorem distance_of_same_sign (neg : Bool) (x y : ℚ) : |signFactor neg * x - signFactor neg * y| = |x - y| := by
  rw [← mul_sub, abs_signFactor_mul]

/-- On different sides of zero the distances from zero add up. -/
theorem distance_of_other_sign {neg neg' : Bool} {x y : ℚ} (hsign : neg' ≠ neg) (hx : 0 ≤ x) (hy : 0 ≤ y) :
    |signFactor neg * x - signFactor neg' * y| = x + y := by
  have hother : signFactor neg' = -signFactor neg := by
    cases neg <;> cases neg' <;> simp [signFactor] at hsign ⊢
  rw [hother, neg_mul, sub_neg_eq_add, ← mul_add, abs_signFactor_mul, abs_of_nonneg (add_nonneg hx hy)]

end Distances

section Rounded

variable {f : Format} {b num den : Nat}

/-- No magnitude is nearer to a quotient than the one in whose interval it lies, and none is as near as an odd one. -/
theorem Rounds.nearest (hden : 0 < den) (h : f.Rounds b num den) {c : Nat} (hne : c ≠ b) :
    |(num / den : ℚ) - f.units b| ≤ |(num / den : ℚ) - f.units c| ∧
      (b % 2 = 1 → |(num / den : ℚ) - f.units b| < |(num / den : ℚ) - f.units c|) := by
  have hden' : (0 : ℚ) < den := Nat.cast_pos.mpr hden
  have hdouble : (2 * (num / den) : ℚ) = (2 * num : ℕ) / den := by
    push_cast
    ring
  have hmono := f.units_strictMono.monotone
  rcases Nat.lt_or_gt_of_ne hne with hlt | hgt
  · -- the magnitude is below, so the midpoint to it is not above the one to the neighbour below
    have hbelow : f.units c + f.units b ≤ f.units (b - 1) + f.units b :=
      Nat.add_le_add_right (hmono (by omega)) _
    have hac : (f.units c : ℚ) < f.units b := Nat.cast_lt.mpr (f.units_strictMono hlt)
    refine ⟨nearer_right (le_of_lt hac) ?_, fun hodd => nearer_right_strict hac ?_⟩
    · rw [hdouble, le_div_iff₀ hden']
      exact_mod_cast Nat.le_trans (Nat.mul_le_mul_right den hbelow) h.low
    · rw [hdouble, lt_div_iff₀ hden']
      exact_mod_cast Nat.lt_of_le_of_lt (Nat.mul_le_mul_right den hbelow) (h.strict hodd).1
  · have habove : f.units b + f.units (b + 1) ≤ f.units b + f.units c :=
      Nat.add_le_add_left (hmono (by omega)) _
    have hac : (f.units b : ℚ) < f.units c := Nat.cast_lt.mpr (f.units_strictMono hgt)
    refine ⟨nearer_left (le_of_lt hac) ?_, fun hodd => nearer_left_strict hac ?_⟩
    · rw [hdouble, div_le_iff₀ hden']
      exact_mod_cast Nat.le_trans h.high (Nat.mul_le_mul_right den habove)
    · rw [hdouble, div_lt_iff₀ hden']
      exact_mod_cast Nat.lt_of_lt_of_le (h.strict hodd).2 (Nat.mul_le_mul_right den habove)

/-- The greatest finite magnitude is in the middle between its neighbours. -/
theorem units_infinity_add (hf : f.Regular) :
    f.units f.infinity + f.units (f.infinity - 2) = 2 * f.units (f.infinity - 1) := by
  have hleading := two_le_leading hf
  have hpower : pow2 2 ≤ pow2 f.exponentBits := Nat.pow_le_pow_right (by decide) hf.exponentBits
  have htwo : pow2 2 = 4 := rfl
  have hinfinity : f.infinity = (pow2 f.exponentBits - 3) * f.leading + 2 * f.leading := by
    rw [← Nat.add_mul, infinity]
    congr 1
    omega
  have hlast : f.Scaled (f.infinity - 2) (pow2 f.exponentBits - 3) (2 * f.leading - 2) :=
    ⟨by omega, by omega, .inr (by omega)⟩
  have hgreatest : f.Scaled (f.infinity - 1) (pow2 f.exponentBits - 3) (2 * f.leading - 1) :=
    ⟨by omega, by omega, .inr (by omega)⟩
  have hnext := hgreatest.units_succ
  rw [Nat.sub_add_cancel (infinity_pos hf)] at hnext
  rw [hnext, hlast.units, hgreatest.units, ← Nat.add_mul, ← Nat.mul_assoc]
  congr 1
  omega

theorem value_of_lt (hf : f.Regular) (hb : b < f.signWeight) : f.value b = (f.units b : ℚ) / pow2 f.scale := by
  have hvalue := value_signed hf false hb
  simpa [signed, signFactor] using hvalue

/-- The least number that is rounded to infinity, in units. -/
theorem greatest_add (hf : f.Regular) : f.greatest + f.lastStep / 2 =
    ((f.units (f.infinity - 1) + f.units f.infinity : ℕ) : ℚ) / 2 / pow2 f.scale := by
  have hlt := f.infinity_lt
  have hsum : (f.units f.infinity : ℚ) + f.units (f.infinity - 2) = 2 * f.units (f.infinity - 1) :=
    mod_cast units_infinity_add hf
  unfold lastStep greatest
  rw [value_of_lt hf (by omega), value_of_lt hf (by omega), Nat.cast_add]
  have hnext : (f.units f.infinity : ℚ) = 2 * f.units (f.infinity - 1) - f.units (f.infinity - 2) := by linarith
  rw [hnext]
  ring

theorem signWeight_even (hf : f.Regular) : f.signWeight % 2 = 0 := by
  rw [← f.infinity_add_leading, Nat.add_mod, infinity_even hf, leading_even hf.precision]

theorem signed_mod_two (hf : f.Regular) (neg : Bool) (b : Nat) : f.signed neg b % 2 = b % 2 := by
  have heven := signWeight_even hf
  unfold signed
  split <;> omega

/-- No magnitude is nearer to a number than this one, and none is as near if this one is odd. -/
def NearestMagnitude (f : Format) (x : ℚ) (b : Nat) : Prop :=
  ∀ c, c ≠ b → |x - f.units b / pow2 f.scale| ≤ |x - f.units c / pow2 f.scale| ∧
    (b % 2 = 1 → |x - f.units b / pow2 f.scale| < |x - f.units c / pow2 f.scale|)

section Magnitudes

variable {x : ℚ} (hx : 0 ≤ x) (h : f.NearestMagnitude x b)

theorem magnitude_nonneg (f : Format) (b : Nat) : (0 : ℚ) ≤ f.units b / pow2 f.scale := by positivity

theorem NearestMagnitude.le (h : f.NearestMagnitude x b) (c : Nat) :
    |x - f.units b / pow2 f.scale| ≤ |x - f.units c / pow2 f.scale| := by
  by_cases hc : c = b
  · rw [hc]
  · exact (h c hc).1

include hx

theorem distance_of_zero : |x - f.units 0 / pow2 f.scale| = x := by
  rw [f.units_zero, Nat.cast_zero, zero_div, sub_zero, abs_of_nonneg hx]

include h

/-- A magnitude that is nearest to a number is so with a sign, too: words with the other sign are not nearer than
    zero. -/
theorem NearestMagnitude.signed_le (hf : f.Regular) (neg : Bool) (hb : b < f.signWeight) (v : Nat) :
    |signFactor neg * x - f.value (f.signed neg b)| ≤ |signFactor neg * x - f.value v| := by
  rw [value_signed hf neg hb, value_eq hf v, distance_of_same_sign]
  by_cases hsign : f.negative v = neg
  · rw [hsign, distance_of_same_sign]
    exact h.le _
  · rw [distance_of_other_sign hsign hx (f.magnitude_nonneg _)]
    have hzero := (h.le 0).trans_eq (distance_of_zero hx)
    linarith [f.magnitude_nonneg (f.magnitude v)]

/-- A word that is as near as one with an odd magnitude stands for the same number. -/
theorem NearestMagnitude.signed_eq (hf : f.Regular) (neg : Bool) (hb : b < f.signWeight) (hodd : b % 2 = 1) {v : Nat}
    (heq : |signFactor neg * x - f.value v| = |signFactor neg * x - f.value (f.signed neg b)|) :
    f.value v = f.value (f.signed neg b) := by
  rw [value_signed hf neg hb, value_eq hf v, distance_of_same_sign] at heq
  rw [value_signed hf neg hb, value_eq hf v]
  by_cases hsign : f.negative v = neg
  · rw [hsign, distance_of_same_sign] at heq
    by_cases hc : f.magnitude v = b
    · rw [hc, hsign]
    · exact absurd heq (ne_of_gt ((h _ hc).2 hodd))
  · rw [distance_of_other_sign hsign hx (f.magnitude_nonneg _)] at heq
    have hzero := (h 0 (by omega)).2 hodd
    rw [distance_of_zero hx] at hzero
    linarith [f.magnitude_nonneg (f.magnitude v)]

end Magnitudes

/-- With a sign on it, a magnitude is what a number has to be rounded to. -/
theorem nearest_of_magnitude (hf : f.Regular) {x : ℚ} (hx : 0 ≤ x) (neg : Bool) (hb : b ≤ f.infinity)
    (hinfinite : b = f.infinity ↔ f.greatest + f.lastStep / 2 ≤ x)
    (hnearest : b < f.infinity → f.NearestMagnitude x b) : f.Nearest (signFactor neg * x) (f.signed neg b) := by
  have hweight : b < f.signWeight := Nat.lt_of_le_of_lt hb f.infinity_lt
  refine ⟨signed_isWord neg hweight, ?_, ?_, ?_, ?_⟩
  · rwa [magnitude_signed neg hweight]
  · rwa [magnitude_signed neg hweight, abs_signFactor_mul, abs_of_nonneg hx]
  · intro hlt v _
    rw [magnitude_signed neg hweight] at hlt
    exact (hnearest hlt).signed_le hx hf neg hweight v
  · intro hlt v _ heq
    rw [magnitude_signed neg hweight] at hlt
    rw [signed_mod_two hf]
    by_cases heven : b % 2 = 0
    · exact .inr heven
    · exact .inl ((hnearest hlt).signed_eq hx hf neg hweight (by omega) heq)

/-- **Rounding gives the nearest float.** -/
theorem nearest_signed (hf : f.Regular) (hden : 0 < den) (num : Nat) (neg : Bool) :
    f.Nearest (signFactor neg * (num / den / pow2 f.scale)) (f.signed neg (f.roundUnits num den)) := by
  obtain ⟨b, h⟩ := f.exists_rounds num hden
  have hden' : (0 : ℚ) < den := Nat.cast_pos.mpr hden
  have hscale : (0 : ℚ) < pow2 f.scale := Nat.cast_pos.mpr (pow2_pos _)
  have hround := roundUnits_of_rounds hf hden h
  refine nearest_of_magnitude hf (by positivity) neg ?_ ?_ ?_
  · rw [hround]
    split <;> omega
  · have hcap : f.roundUnits num den = f.infinity ↔ f.infinity ≤ b := by
      rw [hround]
      split <;> omega
    rw [hcap, infinity_le_iff hf hden h, greatest_add hf, div_le_div_iff_of_pos_right hscale,
      div_le_div_iff₀ (by norm_num) hden', mul_comm (num : ℚ) 2]
    exact_mod_cast Iff.rfl
  · intro hlt c hc
    have hb : f.roundUnits num den = b := by
      rw [hround] at hlt ⊢
      split at hlt
      · rename_i hfinite
        rw [if_pos hfinite]
      · omega
    have hdistance : ∀ n : Nat, |(num / den / pow2 f.scale : ℚ) - f.units n / pow2 f.scale| =
        |(num / den : ℚ) - f.units n| / pow2 f.scale := by
      intro n
      rw [← sub_div, abs_div, abs_of_pos hscale]
    rw [hb] at hc ⊢
    have hnearest := h.nearest hden hc
    rw [hdistance, hdistance, div_le_div_iff_of_pos_right hscale, div_lt_div_iff_of_pos_right hscale]
    exact hnearest

end Rounded

/-! ## 5. Decimal numbers -/

section Decimals

variable {f : Format}

theorem cast_pow10 (n : Nat) : (pow10 n : ℚ) = 10 ^ n := Nat.cast_pow 10 n

theorem decimalUnits_eq (f : Format) (d : Decimal) :
    ((f.decimalUnits d).1 : ℚ) / (f.decimalUnits d).2 / pow2 f.scale = d.digits * 10 ^ d.exponent := by
  have hscale : (pow2 f.scale : ℚ) ≠ 0 := Nat.cast_ne_zero.mpr (Nat.ne_of_gt (pow2_pos _))
  obtain ⟨n, exponent⟩ := d
  cases exponent with
  | ofNat e =>
    show ((n * pow10 e * pow2 f.scale : ℕ) : ℚ) / (1 : ℕ) / pow2 f.scale = n * 10 ^ (e : ℤ)
    rw [Nat.cast_mul, Nat.cast_mul, cast_pow10, Nat.cast_one, div_one, zpow_natCast, mul_div_cancel_right₀ _ hscale]
  | negSucc e =>
    show ((n * pow2 f.scale : ℕ) : ℚ) / (pow10 (e + 1) : ℕ) / pow2 f.scale = n * 10 ^ Int.negSucc e
    rw [Nat.cast_mul, cast_pow10, zpow_negSucc]
    field_simp

/-- A quotient of at most half a unit is rounded to zero. -/
theorem roundUnits_small (hf : f.Regular) {num den : Nat} (hden : 0 < den) (h : 2 * num ≤ den) :
    f.roundUnits num den = 0 := by
  have hone : f.units 0 < f.units (0 + 1) := f.units_lt_succ 0
  have hhigh : 2 * num ≤ (f.units 0 + f.units (0 + 1)) * den :=
    Nat.le_trans h (Nat.le_mul_of_pos_left den (by omega))
  have hrounds : f.Rounds 0 num den := ⟨by simp [units_zero], hhigh, by omega⟩
  rw [roundUnits_of_rounds hf hden hrounds, if_pos (infinity_pos hf)]

/-- Beyond all finite magnitudes comes a power of two. -/
theorem units_infinity (hf : f.Regular) : f.units f.infinity = pow2 (f.scale + (f.bias + 1)) := by
  have hbias := bias_pos hf
  have hbits := hf.exponentBits
  have hdouble : pow2 f.exponentBits = 2 * (f.bias + 1) := by
    have hsucc : f.exponentBits = f.exponentBits - 1 + 1 := by omega
    have hpos := pow2_pos (f.exponentBits - 1)
    rw [hsucc, pow2_succ]
    unfold bias
    omega
  have hinfinity : f.infinity = 2 * f.bias * f.leading + f.leading := by
    unfold infinity
    rw [hdouble, ← Nat.succ_mul]
    congr 1
  rw [hinfinity, f.units_scaled (by omega) (.inr (Nat.le_refl _))]
  have hexponent : f.scale + (f.bias + 1) = f.precision - 1 + 2 * f.bias := by
    have hprecision := hf.precision
    unfold scale
    unfold bias at *
    omega
  rw [hexponent]
  exact (Nat.pow_add 2 _ _).symm

/-- A number with a great power of ten in it is rounded to infinity. -/
theorem roundUnits_great (hf : f.Regular) {n e : Nat} (hn : n ≠ 0) (he : decimalRange < e) :
    f.roundUnits (n * pow10 e * pow2 f.scale) 1 = f.infinity := by
  obtain ⟨b, h⟩ := f.exists_rounds (n * pow10 e * pow2 f.scale) Nat.one_pos
  have hpower : pow2 (f.bias + 1) ≤ n * pow10 e := by
    have hbias : f.bias + 1 ≤ 3 * e := by
      have hscale := hf.scale
      have hprecision := hf.precision
      have hunit : f.bias + (f.precision - 2) = f.scale := by
        unfold scale
        unfold bias
        omega
      unfold decimalRange at he
      omega
    calc pow2 (f.bias + 1) ≤ pow2 (3 * e) := Nat.pow_le_pow_right (by decide) hbias
      _ = Nat.pow 8 e := Nat.pow_mul 2 3 e
      _ ≤ pow10 e := Nat.pow_le_pow_left (by decide) e
      _ ≤ n * pow10 e := Nat.le_mul_of_pos_left _ (Nat.pos_of_ne_zero hn)
  have hunits : f.units f.infinity ≤ n * pow10 e * pow2 f.scale := by
    rw [units_infinity hf]
    calc pow2 (f.scale + (f.bias + 1)) = pow2 f.scale * pow2 (f.bias + 1) := Nat.pow_add 2 _ _
      _ ≤ pow2 f.scale * (n * pow10 e) := Nat.mul_le_mul_left _ hpower
      _ = n * pow10 e * pow2 f.scale := Nat.mul_comm _ _
  have hinfinite : f.infinity ≤ b := by
    have hbelow : f.units (f.infinity - 1) ≤ f.units f.infinity := f.units_strictMono.monotone (Nat.sub_le _ 1)
    rw [infinity_le_iff hf Nat.one_pos h]
    omega
  rw [roundUnits_of_rounds hf Nat.one_pos h, if_neg (Nat.not_lt.mpr hinfinite)]

/-- **A decimal number is rounded as the quotient that it is**, also where the reader answers without computing it. -/
theorem ofDecimal_eq (hf : f.Regular) (d : Decimal) :
    f.ofDecimal d = f.roundUnits (f.decimalUnits d).1 (f.decimalUnits d).2 := by
  obtain ⟨n, exponent⟩ := d
  unfold ofDecimal
  by_cases hn : n = 0
  · rw [if_pos hn, roundUnits_small hf (f.decimalUnits_pos _)]
    rw [hn]
    unfold decimalUnits
    split <;> simp
  rw [if_neg hn]
  cases exponent with
  | ofNat e =>
    dsimp only [decimalUnits]
    split
    · rename_i hout
      rw [roundUnits_great hf hn hout]
    · rfl
  | negSucc e =>
    dsimp only [decimalUnits]
    split
    · rename_i hout
      rw [roundUnits_small hf (pow10_pos _)]
      have hsmall : ¬ pow10 (e + 1) ≤ 2 * (n * pow2 f.scale) := fun hle => in_range hf.scale hle hout
      omega
    · rfl

/-- **A decimal number is read as the float nearest to it.** -/
theorem ofDecimal_nearest (hf : f.Regular) (d : Decimal) (neg : Bool) :
    f.Nearest (signFactor neg * (d.digits * 10 ^ d.exponent)) (f.signed neg (f.ofDecimal d)) := by
  rw [ofDecimal_eq hf, ← f.decimalUnits_eq]
  exact nearest_signed hf (f.decimalUnits_pos d) _ neg

end Decimals

end Embedder.Number.Format
