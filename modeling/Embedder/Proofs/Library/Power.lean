import Embedder.Library.Standard
import Embedder.Proofs.Registry
import Mathlib.Data.Int.ModEq
import Mathlib.Data.Nat.Size

/-!
# Powers by squaring

`pow` takes the binary digits of the exponent one by one, the lowest first, and multiplies 64-bit integers
that wrap. A `Loop` is what its variables are between two rounds, and `Loop.goal` the number that the loop is
after: the result so far times the power that is still to come, with no wrapping at all.

* **`Loop.round_goal`**, `Loop.rounds_goal` -- a round, and so any number of them, keeps the goal modulo `2 ^ 64`;
* **`Loop.endsAfter_size`** -- there are as many rounds as the exponent has binary digits;
* `powerLoop_of_endsAfter` -- the result of the loop is the one after its last round;
* **`eq_of_modEq`** -- a 64-bit integer is known by its remainder modulo `2 ^ 64`;
* `powModular` -- so `pow` computes powers modulo `2 ^ 64`, and the function that is registered does.
-/

namespace Embedder.Math

/-! ## 1. Rounds -/

/-- The variables of the loop. -/
structure Loop where
  result : Int64
  base : Int64
  exponent : Nat

namespace Loop

/-- One round of the loop. -/
def round (l : Loop) : Loop where
  result := if l.exponent % 2 = 1 then l.result * l.base else l.result
  base := l.base * l.base
  exponent := l.exponent / 2

/-- The variables after some rounds. -/
def rounds (l : Loop) (n : Nat) : Loop := round^[n] l

/-- What the loop is to compute, as an integer without bounds. -/
def goal (l : Loop) : Int := l.result.toInt * l.base.toInt ^ l.exponent

/-- The loop ends after some rounds: its condition holds before each of them, and not after the last. -/
structure EndsAfter (l : Loop) (n : Nat) : Prop where
  running : ∀ k < n, (l.rounds k).exponent ≠ 0
  finished : (l.rounds n).exponent = 0

theorem rounds_succ (l : Loop) (n : Nat) : l.rounds (n + 1) = (l.rounds n).round :=
  Function.iterate_succ_apply' round n l

theorem modEq_mul (a b : Int64) : (a * b).toInt ≡ a.toInt * b.toInt [ZMOD 2 ^ 64] := by
  rw [Int64.toInt_mul]
  exact Int.bmod_emod

/-- **A round keeps the goal**, modulo `2 ^ 64`. -/
theorem round_goal (l : Loop) : l.round.goal ≡ l.goal [ZMOD 2 ^ 64] := by
  obtain ⟨result, base, exponent⟩ := l
  have hsquare : (base * base).toInt ^ (exponent / 2) ≡ (base.toInt * base.toInt) ^ (exponent / 2) [ZMOD 2 ^ 64] :=
    (modEq_mul base base).pow _
  dsimp only [round, goal]
  rcases Nat.mod_two_eq_zero_or_one exponent with heven | hodd
  · rw [if_neg (by omega)]
    calc result.toInt * (base * base).toInt ^ (exponent / 2)
        ≡ result.toInt * (base.toInt * base.toInt) ^ (exponent / 2) [ZMOD 2 ^ 64] := hsquare.mul_left _
      _ = result.toInt * base.toInt ^ (2 * (exponent / 2)) := by rw [← pow_two, ← pow_mul]
      _ = result.toInt * base.toInt ^ exponent := by rw [show 2 * (exponent / 2) = exponent by omega]
  · rw [if_pos hodd]
    calc (result * base).toInt * (base * base).toInt ^ (exponent / 2)
        ≡ (result.toInt * base.toInt) * (base.toInt * base.toInt) ^ (exponent / 2) [ZMOD 2 ^ 64] :=
          (modEq_mul result base).mul hsquare
      _ = result.toInt * base.toInt ^ (2 * (exponent / 2) + 1) := by
          rw [← pow_two, ← pow_mul, pow_succ', mul_assoc]
      _ = result.toInt * base.toInt ^ exponent := by rw [show 2 * (exponent / 2) + 1 = exponent by omega]

theorem rounds_goal (l : Loop) (n : Nat) : (l.rounds n).goal ≡ l.goal [ZMOD 2 ^ 64] := by
  induction n with
  | zero => rfl
  | succ n ih =>
    rw [rounds_succ]
    exact (l.rounds n).round_goal.trans ih

/-- Each round drops the lowest binary digit of the exponent. -/
theorem rounds_exponent (l : Loop) (n : Nat) : (l.rounds n).exponent = l.exponent / 2 ^ n := by
  induction n with
  | zero => exact (Nat.div_one _).symm
  | succ n ih =>
    rw [rounds_succ]
    show (l.rounds n).exponent / 2 = _
    rw [ih, Nat.div_div_eq_div_mul, ← pow_succ]

/-- **The loop ends**, after as many rounds as the exponent has binary digits. -/
theorem endsAfter_size (l : Loop) : l.EndsAfter l.exponent.size where
  running k hk := by
    rw [rounds_exponent]
    have hle : 2 ^ k ≤ l.exponent := Nat.lt_size.mp hk
    exact (Nat.div_pos hle (Nat.two_pow_pos k)).ne'
  finished := by
    rw [rounds_exponent]
    exact Nat.div_eq_of_lt (Nat.size_le.mp le_rfl)

/-- When the loop is over, its result is the goal it began with. -/
theorem EndsAfter.result {l : Loop} {n : Nat} (h : l.EndsAfter n) :
    (l.rounds n).result.toInt ≡ l.goal [ZMOD 2 ^ 64] := by
  have hgoal := l.rounds_goal n
  rwa [goal, h.finished, pow_zero, mul_one] at hgoal

end Loop

theorem powerLoop_of_endsAfter {n : Nat} : ∀ {l : Loop}, l.EndsAfter n →
    powerLoop l.result l.base l.exponent = (l.rounds n).result := by
  induction n with
  | zero =>
    intro l h
    rw [powerLoop, dif_pos (show l.exponent = 0 from h.finished)]
    rfl
  | succ n ih =>
    intro l h
    have hne : l.exponent ≠ 0 := h.running 0 (Nat.succ_pos n)
    have hrest : l.round.EndsAfter n := ⟨fun k hk => h.running (k + 1) (Nat.succ_lt_succ hk), h.finished⟩
    rw [powerLoop, dif_neg hne]
    exact ih hrest

/-! ## 2. Powers -/

/-- **A 64-bit integer is known by its remainder** modulo `2 ^ 64`. -/
theorem eq_of_modEq {a b : Int64} (h : a.toInt ≡ b.toInt [ZMOD 2 ^ 64]) : a = b := by
  have ha := a.toInt_lt
  have ha' := a.le_toInt
  have hb := b.toInt_lt
  have hb' := b.le_toInt
  have hmod : a.toInt % 2 ^ 64 = b.toInt % 2 ^ 64 := h
  exact Int64.toInt_inj.mp (by omega)

/-- An answer is the power of a base modulo `2 ^ 64`, or says that the exponent is negative. -/
structure ModularPower (base exponent : Int64) (answer : Except HostError Int64) : Prop where
  /-- It is the one 64-bit integer that is congruent to the power. -/
  power : 0 ≤ exponent.toInt → ∃ v, answer = .ok v ∧
    ∀ u : Int64, u.toInt ≡ base.toInt ^ exponent.toInt.toNat [ZMOD 2 ^ 64] ↔ u = v
  negative : exponent.toInt < 0 →
    answer = .error (.failed ("pow: negative exponent " ++ toString exponent.toInt))

/-- The loop of `pow` at its beginning. -/
def firstLoop (base exponent : Int64) : Loop := ⟨1, base, exponent.toInt.toNat⟩

theorem goal_firstLoop (base exponent : Int64) :
    (firstLoop base exponent).goal = base.toInt ^ exponent.toInt.toNat := by
  show (1 : Int64).toInt * base.toInt ^ exponent.toInt.toNat = _
  rw [Int64.toInt_one, one_mul]

/-- An exponent has at most 63 binary digits. -/
theorem size_exponent_le (exponent : Int64) : exponent.toInt.toNat.size ≤ 63 := by
  have hlt := exponent.toInt_lt
  exact Nat.size_le.mpr (by omega)

theorem pow_of_nonneg (base : Int64) {exponent : Int64} (h : 0 ≤ exponent.toInt) :
    pow base exponent = .ok ((firstLoop base exponent).rounds exponent.toInt.toNat.size).result := by
  have hsign : ¬ exponent < 0 := by
    rw [Int64.lt_iff_toInt_lt, Int64.toInt_zero]
    omega
  unfold pow
  rw [if_neg hsign]
  exact congrArg Except.ok (powerLoop_of_endsAfter (firstLoop base exponent).endsAfter_size)

/-- **`pow` computes powers modulo `2 ^ 64`.** -/
theorem modularPower_pow (base exponent : Int64) : ModularPower base exponent (pow base exponent) where
  power h := by
    have hcongr := (firstLoop base exponent).endsAfter_size.result
    rw [goal_firstLoop] at hcongr
    refine ⟨_, pow_of_nonneg base h, fun u => ⟨fun hu => ?_, fun hu => ?_⟩⟩
    · exact eq_of_modEq (hu.trans hcongr.symm)
    · rw [hu]
      exact hcongr
  negative h := by
    have hsign : exponent < 0 := by
      rw [Int64.lt_iff_toInt_lt, Int64.toInt_zero]
      exact h
    unfold pow
    rw [if_pos hsign]

/-! ## 3. The registered function -/

/-- Called with two 64-bit integers, the function passes its checks on both sides. -/
theorem call_powFunction {σ : Type} (id : Nat) (label : String) (base exponent : Int64) (w : σ) :
    (powFunction id).call label [.i64 base, .i64 exponent] w =
      ((pow base exponent).map fun v => [.i64 v], w) := by
  have haccepts : (@powFunction σ id).signature.accepts [.i64 base, .i64 exponent] = true := rfl
  unfold HostFunction.call
  rw [if_pos haccepts]
  dsimp only [powFunction]
  cases pow base exponent with
  | error e => rfl
  | ok v => rfl

/-- A registry has a function `math.pow` that computes a power. -/
def Offered {σ : Type} (r : Registry σ) (base exponent : Int64) : Prop :=
  ∃ f, r.lookup space "pow" = some f ∧ f.signature = powSignature ∧ ∀ label w, ∃ answer,
    f.call label [.i64 base, .i64 exponent] w = (answer.map fun v => [.i64 v], w) ∧
      ModularPower base exponent answer

theorem offered_of_lookup {σ : Type} {r : Registry σ} {id : Nat}
    (h : r.at? (space, "pow") = some (powFunction id)) (base exponent : Int64) : Offered r base exponent :=
  ⟨powFunction id, h, rfl, fun label w =>
    ⟨pow base exponent, call_powFunction id label base exponent w, modularPower_pow base exponent⟩⟩

/-- What `pow` does with a base and an exponent. -/
structure PowModular (base exponent : Int64) : Prop where
  /-- Its loop ends, within 63 rounds, and gives the result. -/
  ends : 0 ≤ exponent.toInt → ∃ n ≤ 63, (firstLoop base exponent).EndsAfter n ∧
    pow base exponent = .ok ((firstLoop base exponent).rounds n).result
  /-- The result is the power modulo `2 ^ 64`; a negative exponent is refused. -/
  computes : ModularPower base exponent (pow base exponent)
  /-- So is what the function gives that registering the library puts into a registry. -/
  registered : ∀ {σ : Type} (r : Registry σ) (id : Nat), (r.registerAll (entries id)).2 = .ok () →
    Offered (r.registerAll (entries id)).1 base exponent
  /-- And the one that registering the standard libraries puts there. -/
  standard : ∀ {σ : Type} (view : Drac.View σ Drac) (r : Registry σ) (id : Nat),
    (Standard.register view id r).2 = .ok () → Offered (Standard.register view id r).1 base exponent

/-- **Powers are computed modulo `2 ^ 64`**, for every base and every exponent. -/
theorem powModular (base exponent : Int64) : PowModular base exponent where
  ends h := ⟨_, size_exponent_le exponent, (firstLoop base exponent).endsAfter_size, pow_of_nonneg base h⟩
  computes := modularPower_pow base exponent
  registered r id h := offered_of_lookup (Registry.at?_registerAll_cons h (by simp)) base exponent
  standard view r id h := by
    refine offered_of_lookup (Registry.at?_registerAll_cons h fun e he hpair => ?_) base exponent
    -- the entries that follow are all in the namespace of the other library
    obtain ⟨_, _, rfl⟩ := List.mem_map.mp he
    exact absurd (congrArg Prod.fst hpair) (by decide : space ≠ Drac.space)

/-- A power that wraps, by the law alone: `(-3) ^ 41` lies below `-2 ^ 64`. -/
theorem powModular_wraps :
    PowModular (-3) 41 ∧ pow (-3) 41 = .ok 420491770248316829 ∧
      Offered (Standard.register (.whole : Drac.View Drac Drac) 0 .empty).1 (-3) 41 := by
  have hlaw := powModular (-3) 41
  obtain ⟨v, hv, hunique⟩ := hlaw.computes.power (by decide)
  have hvalue : (420491770248316829 : Int64) = v := (hunique _).mp (by decide)
  refine ⟨hlaw, ?_, hlaw.standard _ Registry.empty 0 rfl⟩
  rw [hv, hvalue]

end Embedder.Math
