import Embedder.Number.Shortest
import Embedder.Proofs.Number.Words
import Mathlib.Tactic.Linarith
import Mathlib.Tactic.Ring

/-!
# What rounds to a magnitude

Around every magnitude lies the interval of the numbers that are nearer to it than to any other, between the
midpoints to its two neighbours. `Rounds` is membership in it. Below a power of two the neighbours are closer
together than above it, so the interval of a power of two is not symmetric; a number just below it is rounded
in the smaller steps and comes out as the power all the same.

* `Scaled`, `units_scaled` -- a magnitude is a significand in steps of some size, and so is its neighbour above;
* `roundQuotient_eq` -- which quotients round to a whole number;
* `excess_eq` -- in which steps a number is rounded;
* **`Rounds.roundUnits`** -- a number rounds to the magnitude in whose interval it lies.
-/

namespace Embedder.Number.Format

/-! ## 1. Magnitudes -/

section Magnitudes

variable (f : Format)

/-- The magnitude `b` has the significand `m`, counted in steps of `2 ^ s` units. -/
structure Scaled (b s m : Nat) : Prop where
  eq : b = s * f.leading + m
  lt : m < 2 * f.leading
  normal : s = 0 ∨ f.leading ≤ m

theorem exists_scaled (b : Nat) : ∃ s m, f.Scaled b s m := by
  have hpos := f.leading_pos
  have hdiv := Nat.div_add_mod' b f.leading
  have hmod := Nat.mod_lt b hpos
  by_cases hb : b < f.leading
  · exact ⟨0, b, by omega, by omega, .inl rfl⟩
  · have hone : 1 ≤ b / f.leading := (Nat.one_le_div_iff hpos).mpr (Nat.le_of_not_lt hb)
    have hsplit : (b / f.leading - 1) * f.leading + f.leading = b / f.leading * f.leading := by
      rw [← Nat.succ_mul, Nat.succ_eq_add_one, Nat.sub_add_cancel hone]
    exact ⟨b / f.leading - 1, f.leading + b % f.leading, by omega, by omega, .inr (by omega)⟩

/-- The units of a significand and a step, also where the significand has just become too great. -/
theorem units_scaled {s m : Nat} (hm : m ≤ 2 * f.leading) (hs : s = 0 ∨ f.leading ≤ m) :
    f.units (s * f.leading + m) = m * pow2 s := by
  have hpos := f.leading_pos
  unfold units
  by_cases hsmall : m < f.leading
  · obtain rfl : s = 0 := by omega
    rw [Nat.zero_mul, Nat.zero_add, if_pos hsmall]
    exact (Nat.mul_one m).symm
  · have hnormal : ¬ s * f.leading + m < f.leading := by
      have := Nat.zero_le (s * f.leading)
      omega
    rw [if_neg hnormal]
    by_cases htop : m = 2 * f.leading
    · have hsum : s * f.leading + m = f.leading * (s + 2) := by rw [htop]; ring
      rw [hsum, Nat.mul_mod_right, Nat.mul_div_cancel_left _ hpos, htop]
      show (f.leading + 0) * pow2 (s + 1) = _
      rw [pow2_succ]
      ring
    · have hsum : s * f.leading + m = (m - f.leading) + f.leading * (s + 1) := by
        have : f.leading * (s + 1) = s * f.leading + f.leading := by ring
        omega
      rw [hsum, Nat.add_mul_mod_self_left, Nat.add_mul_div_left _ _ hpos, Nat.mod_eq_of_lt (by omega),
        Nat.div_eq_of_lt (by omega)]
      show (f.leading + (m - f.leading)) * pow2 (0 + (s + 1) - 1) = _
      rw [Nat.zero_add, Nat.add_sub_cancel, Nat.add_sub_cancel' (by omega)]

variable {f} {b s m : Nat}

theorem Scaled.units (h : f.Scaled b s m) : f.units b = m * pow2 s := by
  rw [h.eq, f.units_scaled (Nat.le_of_lt h.lt) h.normal]

theorem Scaled.units_succ (h : f.Scaled b s m) : f.units (b + 1) = (m + 1) * pow2 s := by
  rw [h.eq, Nat.add_assoc, f.units_scaled h.lt (h.normal.imp_right Nat.le_succ_of_le)]

theorem units_lt_succ (f : Format) (b : Nat) : f.units b < f.units (b + 1) := by
  obtain ⟨s, m, h⟩ := f.exists_scaled b
  rw [h.units, h.units_succ]
  exact Nat.mul_lt_mul_of_pos_right (Nat.lt_succ_self m) (pow2_pos s)

/-- A greater magnitude has no smaller steps. -/
theorem Scaled.mono {b' s' m' : Nat} (h : f.Scaled b s m) (h' : f.Scaled b' s' m') (hle : b ≤ b') : s ≤ s' := by
  by_contra hlt
  have hsteps : (s' + 1) * f.leading ≤ s * f.leading := Nat.mul_le_mul_right _ (Nat.lt_of_not_le hlt)
  have hnormal : f.leading ≤ m := h.normal.resolve_left (by omega)
  have hb := h.eq
  have hb' := h'.eq
  have hm' := h'.lt
  rw [Nat.succ_mul] at hsteps
  omega

theorem Scaled.units_le (h : f.Scaled b s m) : f.units b ≤ f.units (b - 1) + pow2 s := by
  cases b with
  | zero => exact Nat.le_add_right _ _
  | succ c =>
    obtain ⟨s', m', h'⟩ := f.exists_scaled c
    have hsteps : pow2 s' ≤ pow2 s := Nat.pow_le_pow_right (by decide) (h'.mono h (Nat.le_succ c))
    rw [Nat.add_sub_cancel, h'.units_succ, h'.units, Nat.succ_mul]
    exact Nat.add_le_add_left hsteps _

end Magnitudes

/-! ## 2. Quotients -/

/-- A quotient rounded to the nearest whole number, from the middle to the even one. -/
def roundQuotient (num d : Nat) : Nat := if roundsUp (num / d) (num % d) d then num / d + 1 else num / d

theorem roundQuotient_eq {num d k : Nat} (hd : 0 < d) (hlow : 2 * k * d ≤ 2 * num + d)
    (hhigh : 2 * num ≤ 2 * k * d + d)
    (hodd : k % 2 = 1 → 2 * k * d < 2 * num + d ∧ 2 * num < 2 * k * d + d) : roundQuotient num d = k := by
  have hnum := Nat.div_add_mod' num d
  have hrem := Nat.mod_lt num hd
  unfold roundQuotient roundsUp
  generalize num / d = q at *
  generalize num % d = r at *
  have hle : q ≤ k := by
    by_contra hlt
    have : (k + 1) * d ≤ q * d := Nat.mul_le_mul_right d (Nat.lt_of_not_le hlt)
    linarith
  have hge : k ≤ q + 1 := by
    by_contra hlt
    have : (q + 2) * d ≤ k * d := Nat.mul_le_mul_right d (Nat.lt_of_not_le hlt)
    linarith
  rw [Nat.mul_assoc] at hlow hhigh hodd
  obtain rfl | rfl : k = q ∨ k = q + 1 := by omega
  · rw [if_neg]
    simp
    omega
  · rw [Nat.succ_mul q d] at hlow hhigh hodd
    rw [if_pos]
    simp
    omega

/-! ## 3. Rounding -/

section Rounding

variable {f : Format} {b s m num den : Nat}

theorem roundUnits_eq (f : Format) (num den : Nat) : f.roundUnits num den =
    let s := f.excess (num / den)
    let b := s * f.leading + roundQuotient num (den * pow2 s)
    if b < f.infinity then b else f.infinity := rfl

theorem two_mul_leading (hp : 2 ≤ f.precision) : 2 * f.leading = pow2 f.precision := by
  have hsucc : f.precision = f.precision - 1 + 1 := by omega
  rw [hsucc, pow2_succ, Nat.mul_comm]
  rfl

theorem leading_even (hp : 2 ≤ f.precision) : f.leading % 2 = 0 := by
  unfold leading
  have hsucc : f.precision - 1 = f.precision - 2 + 1 := by omega
  rw [hsucc, pow2_succ]
  exact Nat.mul_mod_left _ 2

/-- How many bits do not fit is decided by the two powers of two that the number lies between. -/
theorem excess_eq (hp : 2 ≤ f.precision) (hden : 0 < den) (hlow : s = 0 ∨ f.leading * pow2 s * den ≤ num)
    (hhigh : num < 2 * f.leading * pow2 s * den) : f.excess (num / den) = s := by
  have hlt : num / den < pow2 (f.precision + s) := by
    have hpow : pow2 (f.precision + s) = 2 * f.leading * pow2 s := by
      rw [two_mul_leading hp]
      exact Nat.pow_add 2 _ _
    rw [hpow]
    exact (Nat.div_lt_iff_lt_mul hden).mpr hhigh
  have hle : s = 0 ∨ pow2 (f.precision - 1 + s) ≤ num / den := by
    refine hlow.imp_right fun hlow => (Nat.le_div_iff_mul_le hden).mpr ?_
    have hpow : pow2 (f.precision - 1 + s) = f.leading * pow2 s := Nat.pow_add 2 _ _
    rwa [hpow]
  unfold excess
  by_cases hzero : num / den = 0
  · have hpos := pow2_pos (f.precision - 1 + s)
    rw [hzero] at hle ⊢
    rw [Nat.log2_zero]
    omega
  · have hlog : Nat.log2 (num / den) < f.precision + s := (Nat.log2_lt hzero).mpr hlt
    have hlog' : s = 0 ∨ f.precision - 1 + s ≤ Nat.log2 (num / den) :=
      hle.imp_right fun hle => (Nat.le_log2 hzero).mpr hle
    omega

/-- A number rounds to a magnitude: it lies between the midpoints to the neighbours, and an odd magnitude has
    none of the midpoints. -/
structure Rounds (f : Format) (b num den : Nat) : Prop where
  low : (f.units (b - 1) + f.units b) * den ≤ 2 * num
  high : 2 * num ≤ (f.units b + f.units (b + 1)) * den
  strict : b % 2 = 1 →
    (f.units (b - 1) + f.units b) * den < 2 * num ∧ 2 * num < (f.units b + f.units (b + 1)) * den

theorem readsBackUnits_iff : f.readsBackUnits b num den = true ↔ f.Rounds b num den := by
  unfold readsBackUnits
  dsimp only
  split
  · rename_i heven
    rw [Bool.and_eq_true, decide_eq_true_eq, decide_eq_true_eq]
    exact ⟨fun h => ⟨h.1, h.2, by omega⟩, fun h => ⟨h.low, h.high⟩⟩
  · rename_i hodd
    rw [Bool.and_eq_true, decide_eq_true_eq, decide_eq_true_eq]
    exact ⟨fun h => ⟨Nat.le_of_lt h.1, Nat.le_of_lt h.2, fun _ => h⟩, fun h => h.strict (by omega)⟩

/-- A number is rounded in the steps that belong to the powers of two around it. -/
theorem roundUnits_of_steps (hp : 2 ≤ f.precision) (hden : 0 < den) (hb : s * f.leading + m < f.infinity)
    (hlow : s = 0 ∨ f.leading * pow2 s * den ≤ num) (hhigh : num < 2 * f.leading * pow2 s * den)
    (hm : roundQuotient num (den * pow2 s) = m) : f.roundUnits num den = s * f.leading + m := by
  rw [roundUnits_eq, excess_eq hp hden hlow hhigh]
  dsimp only
  rw [hm, if_pos hb]

theorem Scaled.odd (hp : 2 ≤ f.precision) (hs : f.Scaled b s m) (hm : m % 2 = 1) : b % 2 = 1 := by
  have heven : s * f.leading % 2 = 0 := by
    rw [Nat.mul_mod, leading_even hp, Nat.mul_zero, Nat.zero_mod]
  have hb := hs.eq
  omega

theorem Rounds.quotient (hp : 2 ≤ f.precision) (hden : 0 < den) (hs : f.Scaled b s m) (h : f.Rounds b num den) :
    roundQuotient num (den * pow2 s) = m := by
  have hstep : 2 * m * (den * pow2 s) ≤ (f.units (b - 1) + f.units b) * den + den * pow2 s := by
    have hbelow := Nat.mul_le_mul_right den hs.units_le
    rw [hs.units, Nat.add_mul] at hbelow
    rw [hs.units, Nat.add_mul]
    have hcommon : 2 * m * (den * pow2 s) = 2 * (m * pow2 s * den) := by ring
    have hlast : pow2 s * den = den * pow2 s := Nat.mul_comm _ _
    omega
  have hnext : (f.units b + f.units (b + 1)) * den = 2 * m * (den * pow2 s) + den * pow2 s := by
    rw [hs.units, hs.units_succ]
    ring
  have hlow := h.low
  have hhigh := h.high
  refine roundQuotient_eq (Nat.mul_pos hden (pow2_pos s)) (by omega) (by omega) fun hodd => ?_
  have hstrict := h.strict (hs.odd hp hodd)
  omega

/-- A number that rounds to `b` and lies below all numbers with the steps of `b` can only round up to the least of
    them. -/
theorem Rounds.edge (hs : f.Scaled b s m) (h : f.Rounds b num den) (hs₀ : s ≠ 0)
    (hbelow : num < f.leading * pow2 s * den) : m = f.leading := by
  have hm : f.leading ≤ m := hs.normal.resolve_left hs₀
  have hsum : f.units (b - 1) + f.units b < 2 * f.leading * pow2 s := by
    refine Nat.lt_of_mul_lt_mul_right (a := den) ?_
    have hlow := h.low
    have hdouble : 2 * f.leading * pow2 s * den = 2 * (f.leading * pow2 s * den) := by ring
    omega
  have hle := hs.units_le
  rw [hs.units] at hsum hle
  by_contra hne
  have hmore : (f.leading + 1) * pow2 s ≤ m * pow2 s := Nat.mul_le_mul_right _ (by omega)
  have hpos := pow2_pos s
  linarith

/-- Such a number lies less than half a smaller step below it, and the smaller steps are what it is rounded in. -/
theorem Rounds.roundUnits_edge {r : Nat} (hp : 2 ≤ f.precision) (hden : 0 < den) (hb : b < f.infinity)
    (hs : f.Scaled b (r + 1) f.leading) (h : f.Rounds b num den)
    (hbelow : num < f.leading * pow2 (r + 1) * den) : f.roundUnits num den = b := by
  have hpos := f.leading_pos
  have hb' : b = r * f.leading + 2 * f.leading := by
    rw [hs.eq]
    ring
  obtain ⟨k, hk⟩ : ∃ k, 2 * f.leading = k + 1 := ⟨2 * f.leading - 1, by omega⟩
  have hpred : f.units (b - 1) = k * pow2 r := by
    have hsplit : b - 1 = r * f.leading + k := by omega
    rw [hsplit, f.units_scaled (by omega) (.inr (by omega))]
  have hstep : 0 < den * pow2 r := Nat.mul_pos hden (pow2_pos r)
  have hlow : 2 * (2 * f.leading) * (den * pow2 r) ≤ 2 * num + den * pow2 r := by
    have hsum : f.units (b - 1) + f.units b + pow2 r = 2 * (2 * f.leading) * pow2 r := by
      rw [hpred, hs.units, pow2_succ]
      linarith [congrArg (· * pow2 r) hk]
    have hlow := h.low
    linarith [congrArg (· * den) hsum]
  have hhigh : num < 2 * f.leading * pow2 r * den := by
    rw [pow2_succ] at hbelow
    linarith
  rw [hb'] at hb ⊢
  refine roundUnits_of_steps hp hden hb (.inr ?_) hhigh ?_
  · have hleast : den * pow2 r ≤ f.leading * (den * pow2 r) := Nat.le_mul_of_pos_left _ hpos
    linarith
  · refine roundQuotient_eq hstep hlow ?_ (by omega)
    linarith

/-- **A number rounds to the magnitude in whose interval it lies.** -/
theorem Rounds.roundUnits (hp : 2 ≤ f.precision) (hden : 0 < den) (hb : b < f.infinity)
    (h : f.Rounds b num den) : f.roundUnits num den = b := by
  obtain ⟨s, m, hs⟩ := f.exists_scaled b
  by_cases hside : s = 0 ∨ f.leading * pow2 s * den ≤ num
  · have hhigh : num < 2 * f.leading * pow2 s * den := by
      have hhigh := h.high
      rw [hs.units, hs.units_succ] at hhigh
      have hm : (m + 1) * (pow2 s * den) ≤ 2 * f.leading * (pow2 s * den) := Nat.mul_le_mul_right _ hs.lt
      have hpos := Nat.mul_pos (pow2_pos s) hden
      linarith
    have hround := h.quotient hp hden hs
    rw [hs.eq] at hb ⊢
    exact roundUnits_of_steps hp hden hb hside hhigh hround
  · rw [not_or, Nat.not_le] at hside
    obtain ⟨hs₀, hbelow⟩ := hside
    obtain rfl := h.edge hs hs₀ hbelow
    obtain ⟨r, rfl⟩ := Nat.exists_eq_add_one_of_ne_zero hs₀
    exact h.roundUnits_edge hp hden hb hs hbelow

end Rounding

end Embedder.Number.Format
