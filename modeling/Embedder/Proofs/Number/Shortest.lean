import Embedder.Proofs.Number.Rounding

/-!
# The shortest digits read back

The search for the digits of a float tries one decimal grid after the other and stops at the first that has a
point in the interval of the float. It cannot fail: on the last grid every magnitude is itself a point.

* `Rounds.scale` -- only the quotient matters for what a number rounds to;
* `Rounds.self` -- a magnitude rounds to itself;
* `readsBack_candidate`, `readsBack_gridBelow`, **`readsBack_shortest`** -- each candidate reads back, so does
  the exact number on the last grid, and so do the digits that are found;
* **`ofDecimal_plain`** -- and reading them gives the magnitude, in the formats whose range the reader covers.
-/

namespace Embedder.Number

open Format

/-! ## 1. Quotients -/

namespace Format

variable {f : Format} {b num den : Nat}

/-- Numerator and denominator may have a common factor. -/
theorem Rounds.scale {c : Nat} (hc : 0 < c) : f.Rounds b (num * c) (den * c) ↔ f.Rounds b num den := by
  have hlow : ∀ x, x * (den * c) ≤ 2 * (num * c) ↔ x * den ≤ 2 * num := by
    intro x
    rw [← Nat.mul_assoc, ← Nat.mul_assoc]
    exact Nat.mul_le_mul_right_iff hc
  have hhigh : ∀ x, 2 * (num * c) ≤ x * (den * c) ↔ 2 * num ≤ x * den := by
    intro x
    rw [← Nat.mul_assoc, ← Nat.mul_assoc]
    exact Nat.mul_le_mul_right_iff hc
  constructor
  · rintro ⟨low, high, strict⟩
    refine ⟨(hlow _).mp low, (hhigh _).mp high, fun hodd => ?_⟩
    obtain ⟨hl, hh⟩ := strict hodd
    rw [← Nat.not_le, hhigh] at hl
    rw [← Nat.not_le, hlow] at hh
    exact ⟨Nat.lt_of_not_le hl, Nat.lt_of_not_le hh⟩
  · rintro ⟨low, high, strict⟩
    refine ⟨(hlow _).mpr low, (hhigh _).mpr high, fun hodd => ?_⟩
    obtain ⟨hl, hh⟩ := strict hodd
    rw [← Nat.not_le, ← hhigh] at hl
    rw [← Nat.not_le, ← hlow] at hh
    exact ⟨Nat.lt_of_not_le hl, Nat.lt_of_not_le hh⟩

/-- A magnitude rounds to itself. -/
theorem Rounds.self (hden : 0 < den) : f.Rounds b (f.units b * den) den := by
  have habove := Nat.mul_lt_mul_of_pos_right (f.units_lt_succ b) hden
  have hbelow : f.units (b - 1) * den ≤ f.units b * den ∧
      (b % 2 = 1 → f.units (b - 1) * den < f.units b * den) := by
    cases b with
    | zero => exact ⟨Nat.le_refl _, fun h => by cases h⟩
    | succ c =>
      have hlt := Nat.mul_lt_mul_of_pos_right (f.units_lt_succ c) hden
      exact ⟨Nat.le_of_lt hlt, fun _ => hlt⟩
  constructor
  · rw [Nat.add_mul]
    omega
  · rw [Nat.add_mul]
    omega
  · intro hodd
    have hstrict := hbelow.2 hodd
    rw [Nat.add_mul, Nat.add_mul]
    omega

theorem readsBack_iff {d : Decimal} :
    f.readsBack b d = true ↔ f.Rounds b (f.decimalUnits d).1 (f.decimalUnits d).2 := readsBackUnits_iff

theorem decimalUnits_pos (f : Format) (d : Decimal) : 0 < (f.decimalUnits d).2 := by
  unfold decimalUnits
  cases d.exponent with
  | ofNat e => exact Nat.one_pos
  | negSucc e => exact pow10_pos _

/-! ## 2. The search -/

/-- A candidate reads back. -/
theorem readsBack_candidate {place : Int} {d : Decimal} (h : f.candidate b place = some d) :
    f.readsBack b d = true := by
  unfold candidate at h
  dsimp only at h
  split at h
  · split at h
    · cases h
      assumption
    · split at h
      · cases h
        assumption
      · cases h
  · split at h
    · cases h
      assumption
    · split at h
      · cases h
        assumption
      · cases h

/-- On the grid of the format's scale every magnitude is a point. -/
theorem readsBack_gridBelow (f : Format) (b : Nat) :
    f.readsBack b ⟨(f.gridBelow b (-(f.scale : Int))).1, -(f.scale : Int)⟩ = true := by
  rw [readsBack_iff]
  cases hscale : f.scale with
  | zero =>
    show f.Rounds b (f.units b / (pow10 0 * pow2 f.scale) * pow10 0 * pow2 f.scale) 1
    rw [hscale]
    have hexact := Rounds.self (f := f) (b := b) Nat.one_pos
    simpa [pow10_zero, pow2_zero] using hexact
  | succ e =>
    show f.Rounds b (f.units b * pow10 (e + 1) / pow2 f.scale * pow2 f.scale) (pow10 (e + 1))
    have hdvd : pow2 f.scale ∣ f.units b * pow10 (e + 1) := by
      rw [hscale]
      exact Nat.dvd_mul_left_of_dvd ⟨Nat.pow 5 (e + 1), Nat.mul_pow 2 5 (e + 1)⟩ _
    rw [Nat.div_mul_cancel hdvd]
    exact Rounds.self (pow10_pos _)

theorem readsBack_searchFrom (f : Format) (b : Nat) : ∀ (fuel : Nat) {place : Int},
    place = fuel - (f.scale : Int) → f.readsBack b (f.searchFrom b place fuel) = true
  | 0, place, h => by
      obtain rfl : place = -(f.scale : Int) := by omega
      exact f.readsBack_gridBelow b
  | fuel + 1, place, h => by
      rw [searchFrom]
      split
      · rename_i d hd
        exact readsBack_candidate hd
      · exact readsBack_searchFrom f b fuel (by omega)

theorem leadingPlaceBelow_le (f : Format) (u : Nat) : ∀ fuel k, f.leadingPlaceBelow u k fuel ≤ k + fuel
  | 0, k => Nat.le_refl k
  | fuel + 1, k => by
      rw [leadingPlaceBelow]
      split
      · omega
      · have := leadingPlaceBelow_le f u fuel (k + 1)
        omega

/-- The search starts at the last grid or above it. -/
theorem leadingPlace_ge (f : Format) (b : Nat) : -(f.scale : Int) ≤ f.leadingPlace b := by
  unfold leadingPlace
  dsimp only
  split
  · omega
  · have := f.leadingPlaceBelow_le (f.units b) f.scale 0
    omega

/-- Taking a zero off the digits does not change the number. -/
theorem rounds_shift {n : Nat} {e : Int} :
    f.Rounds b (f.decimalUnits ⟨n, e + 1⟩).1 (f.decimalUnits ⟨n, e + 1⟩).2 ↔
      f.Rounds b (f.decimalUnits ⟨n * 10, e⟩).1 (f.decimalUnits ⟨n * 10, e⟩).2 := by
  rcases e with e | _ | e
  · show f.Rounds b (n * (pow10 e * 10) * pow2 f.scale) 1 ↔ f.Rounds b (n * 10 * pow10 e * pow2 f.scale) 1
    rw [show n * (pow10 e * 10) = n * 10 * pow10 e by ring]
  · show f.Rounds b (n * pow10 0 * pow2 f.scale) 1 ↔ f.Rounds b (n * 10 * pow2 f.scale) (1 * 10)
    rw [show n * 10 * pow2 f.scale = n * pow10 0 * pow2 f.scale * 10 by rw [pow10_zero]; ring]
    exact (Rounds.scale (by decide)).symm
  · show f.Rounds b (n * pow2 f.scale) (pow10 (e + 1)) ↔
      f.Rounds b (n * 10 * pow2 f.scale) (pow10 (e + 1) * 10)
    rw [show n * 10 * pow2 f.scale = n * pow2 f.scale * 10 by ring]
    exact (Rounds.scale (by decide)).symm

theorem readsBack_normal : ∀ (fuel : Nat) {d : Decimal}, f.readsBack b d = true →
    f.readsBack b (d.normal fuel) = true
  | 0, _, h => h
  | fuel + 1, d, h => by
      unfold Decimal.normal
      split
      · rename_i hzero
        refine readsBack_normal fuel ?_
        rw [readsBack_iff] at h ⊢
        rw [rounds_shift, Nat.div_mul_cancel (Nat.dvd_of_mod_eq_zero hzero)]
        exact h
      · exact h

/-- **The digits that are found read back.** -/
theorem readsBack_shortest (f : Format) (b : Nat) : f.readsBack b (f.shortest b) = true := by
  have hplace := f.leadingPlace_ge b
  unfold shortest
  exact readsBack_normal _ (f.readsBack_searchFrom b _ (by omega))

end Format

/-! ## 3. Reading the digits -/

/-- A decimal number as it is written: without an exponent above zero. -/
def Decimal.plain (d : Decimal) : Decimal :=
  match d.exponent with
  | .ofNat e => ⟨d.digits * pow10 e, 0⟩
  | .negSucc e => ⟨d.digits, .negSucc e⟩

namespace Format

variable {f : Format} {b : Nat} {d : Decimal}

/-- A format whose significands have at least two bits, and whose least number is in the range of decimal
    exponents that are computed with. -/
structure Moderate (f : Format) : Prop where
  precision : 2 ≤ f.precision
  scale : f.scale ≤ 1074

theorem binary32_moderate : binary32.Moderate := ⟨by decide, by decide⟩

theorem binary64_moderate : binary64.Moderate := ⟨by decide, by decide⟩

/-- A number that does not round to zero is at least half a unit. -/
theorem Rounds.half_unit {num den : Nat} (h : f.Rounds b num den) (hb : 0 < b) : den ≤ 2 * num := by
  obtain ⟨c, rfl⟩ := Nat.exists_eq_add_one_of_ne_zero (Nat.ne_of_gt hb)
  have hunits : 1 ≤ f.units c + f.units (c + 1) := by
    have := f.units_lt_succ c
    omega
  exact Nat.le_trans (Nat.le_mul_of_pos_left den hunits) h.low

/-- The exponent of a number of at least half a unit is not out of range. -/
theorem in_range {n e : Nat} (hf : f.scale ≤ 1074) (h : pow10 e ≤ 2 * (n * pow2 f.scale)) :
    ¬ Nat.log2 n + decimalRange < e := by
  intro hout
  have hdigits : n < pow2 (Nat.log2 n + 1) := Nat.lt_log2_self
  have hupper : pow10 e < pow2 (Nat.log2 n + 1 + f.scale + 1) := by
    have hprod : pow2 (Nat.log2 n + 1 + f.scale) = pow2 (Nat.log2 n + 1) * pow2 f.scale := Nat.pow_add 2 _ _
    have hlt := Nat.mul_lt_mul_of_pos_right hdigits (pow2_pos f.scale)
    rw [pow2_succ, hprod]
    omega
  have hlower : pow2 (3 * e) ≤ pow10 e := by
    have hcube : pow2 (3 * e) = Nat.pow 8 e := Nat.pow_mul 2 3 e
    rw [hcube]
    exact Nat.pow_le_pow_left (by decide) e
  have hexponents : 3 * e < Nat.log2 n + 1 + f.scale + 1 :=
    (Nat.pow_lt_pow_iff_right (by decide)).mp (Nat.lt_of_le_of_lt hlower hupper)
  unfold decimalRange at hout
  omega

/-- **Reading digits that read back gives the magnitude.** -/
theorem ofDecimal_plain (hf : f.Moderate) (hpos : 0 < b) (hb : b < f.infinity) (h : f.readsBack b d = true) :
    f.ofDecimal d.plain = b := by
  rw [readsBack_iff] at h
  have hround := h.roundUnits hf.precision (f.decimalUnits_pos d) hb
  have hhalf := h.half_unit hpos
  obtain ⟨n, e⟩ := d
  cases e with
  | ofNat e =>
    have hdigits : n * pow10 e ≠ 0 := by
      intro hzero
      change 1 ≤ 2 * (n * pow10 e * pow2 f.scale) at hhalf
      rw [hzero] at hhalf
      omega
    show f.ofDecimal ⟨n * pow10 e, 0⟩ = b
    unfold ofDecimal
    rw [if_neg hdigits]
    show f.round (n * pow10 e * pow10 0) 1 = b
    rw [pow10_zero, Nat.mul_one]
    exact hround
  | negSucc e =>
    change pow10 (e + 1) ≤ 2 * (n * pow2 f.scale) at hhalf
    have hdigits : n ≠ 0 := by
      intro hzero
      have := pow10_pos (e + 1)
      rw [hzero] at hhalf
      omega
    show f.ofDecimal ⟨n, .negSucc e⟩ = b
    unfold ofDecimal
    rw [if_neg hdigits]
    dsimp only
    rw [if_neg (in_range hf.scale hhalf)]
    exact hround

end Format

end Embedder.Number
