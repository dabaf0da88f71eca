import Embedder.Execution
import Embedder.Proofs.Number.Words
import Mathlib.Algebra.Group.Nat.Defs
import Mathlib.Data.List.Forall2

/-!
# Slots within their types

Operands are bare natural numbers; what they are is known from the code around them. `Holds` says that a
slot has no more bits than its type: of a vector or a reference nothing is said. `Fits` says so of a
whole stack.

* **`Value.slot_ofSlot`**, **`Value.ofSlot_slot`** -- a value and its slot are the same thing, as long as
  the slot has no more bits than the type;
* **`NumOp.apply_fits`** -- a numeric instruction finds its operands, leaves those below alone and gives a
  result of its type, if it does not trap.
-/

namespace Embedder

/-! ## 1. Kinds -/

namespace Wasm

/-- What is known of an operand: its number type, or that it is none. -/
abbrev Kind := Option ValueType

/-- The slot has no more bits than its type. -/
def Holds : Kind → Nat → Prop
  | some t, n => n < 2 ^ t.width
  | none, _ => True

/-- The kinds of a stack, the top first. -/
abbrev Fits : List Kind → List Nat → Prop := List.Forall₂ Holds

theorem holds_none (n : Nat) : Holds none n := trivial

theorem holds_zero : ∀ k : Kind, Holds k 0
  | some t => Nat.two_pow_pos t.width
  | none => trivial

theorem fits_replicate_zero : ∀ ks : List Kind, Fits ks (List.replicate ks.length 0)
  | [] => .nil
  | k :: ks => .cons (holds_zero k) (fits_replicate_zero ks)

theorem Fits.append {ks js : List Kind} {ns ms : List Nat} (h : Fits ks ns) (h' : Fits js ms) :
    Fits (ks ++ js) (ns ++ ms) := List.rel_append h h'

theorem Fits.reverse {ks : List Kind} {ns : List Nat} (h : Fits ks ns) : Fits ks.reverse ns.reverse :=
  List.rel_reverse h

/-- The operands of a stack whose kinds come in two parts. -/
theorem Fits.split : ∀ {ks js : List Kind} {ns : List Nat}, Fits (ks ++ js) ns →
    ∃ as bs, ns = as ++ bs ∧ Fits ks as ∧ Fits js bs
  | [], _, ns, h => ⟨[], ns, rfl, .nil, h⟩
  | _ :: _, _, _, .cons hn h => by
      obtain ⟨as, bs, rfl, ha, hb⟩ := Fits.split h
      exact ⟨_ :: as, bs, rfl, .cons hn ha, hb⟩

theorem Fits.get : ∀ {ks : List Kind} {ns : List Nat}, Fits ks ns → ∀ {i : Nat} {k : Kind},
    ks[i]? = some k → ∃ n, ns[i]? = some n ∧ Holds k n
  | [], _, .nil, _, _, hk => nomatch hk
  | _ :: _, n :: _, .cons hn _, 0, _, rfl => ⟨n, rfl, hn⟩
  | _ :: _, _ :: _, .cons _ h, i + 1, _, hk => Fits.get h (i := i) hk

theorem Fits.set {ks : List Kind} {ns : List Nat} (h : Fits ks ns) {i n : Nat} {k : Kind}
    (hk : ks[i]? = some k) (hn : Holds k n) : Fits ks (ns.set i n) := by
  induction h generalizing i with
  | nil => cases hk
  | cons hm _ ih =>
    cases i with
    | zero =>
      cases hk
      exact .cons hn ‹_›
    | succ i => exact .cons hm (ih hk)

end Wasm

open Wasm

/-! ## 2. Values and their slots -/

namespace Value

theorem slot_holds : ∀ v : Value, Holds (some v.type) v.slot
  | .i32 v => v.toUInt32.toNat_lt
  | .i64 v => v.toUInt64.toNat_lt
  | .f32 b => b.toNat_lt
  | .f64 b => b.toNat_lt

theorem type_ofSlot (t : ValueType) (n : Nat) : (ofSlot t n).type = t := by
  cases t <;> rfl

/-- **The value with given bits has these bits**, unless there are too many. -/
theorem slot_ofSlot {t : ValueType} {n : Nat} (h : Holds (some t) n) : (ofSlot t n).slot = n := by
  cases t with
  | i32 => exact UInt32.toNat_ofNat_of_lt h
  | i64 => exact UInt64.toNat_ofNat_of_lt h
  | f32 => exact UInt32.toNat_ofNat_of_lt h
  | f64 => exact UInt64.toNat_ofNat_of_lt h

/-- **A value is given back by its bits.** -/
theorem ofSlot_slot (v : Value) : ofSlot v.type v.slot = v := by
  cases v <;> simp [ofSlot, slot, type]

theorem slots_fit : ∀ vs : List Value, Fits (vs.map fun v => some v.type) (vs.map slot)
  | [] => .nil
  | v :: vs => .cons v.slot_holds (slots_fit vs)

end Value

theorem types_valuesOf : ∀ {ts : List ValueType} {ns : List Nat}, Fits (ts.map some) ns →
    (valuesOf ts ns).map Value.type = ts
  | [], _, .nil => rfl
  | t :: ts, n :: ns, .cons _ h => by
      rw [valuesOf, List.map_cons, Value.type_ofSlot, types_valuesOf h]

/-- **Reading slots at their types changes no bit.** -/
theorem slots_valuesOf : ∀ {ts : List ValueType} {ns : List Nat}, Fits (ts.map some) ns →
    (valuesOf ts ns).map Value.slot = ns
  | [], _, .nil => rfl
  | t :: ts, n :: ns, .cons hn h => by
      rw [valuesOf, List.map_cons, Value.slot_ofSlot hn, slots_valuesOf h]

namespace Wasm

/-! ## 3. Words -/

namespace Width

variable (w : Width)

theorem modulus_eq : w.modulus = 2 ^ w.bits := by cases w <;> rfl

theorem width_int : w.int.width = w.bits := by cases w <;> rfl

theorem width_float : w.float.width = w.bits := by cases w <;> rfl

theorem width_format : w.format.width = w.bits := by cases w <;> rfl

theorem holds_int_iff {n : Nat} : Holds (some w.int) n ↔ n < w.modulus := by
  rw [modulus_eq, ← width_int]
  rfl

theorem holds_float_iff {n : Nat} : Holds (some w.float) n ↔ w.format.IsWord n := by
  change n < 2 ^ w.float.width ↔ n < 2 ^ w.format.width
  rw [width_float, width_format]

theorem bits_lt : w.bits < w.modulus := by cases w <;> decide

theorem wrap_lt (z : Int) : w.wrap z < w.modulus := by
  unfold wrap
  have := Int.emod_nonneg z (by cases w <;> decide : (w.modulus : Int) ≠ 0)
  have := Int.emod_lt_of_pos z (by cases w <;> decide : (0 : Int) < w.modulus)
  omega

end Width

theorem trailingZeros_le (n : Nat) : ∀ fuel, trailingZeros n fuel ≤ fuel := by
  intro fuel
  induction fuel generalizing n with
  | zero => exact Nat.le_refl 0
  | succ fuel ih =>
    unfold trailingZeros
    split
    · exact Nat.zero_le _
    · exact Nat.succ_le_succ (ih _)

theorem ones_le (n : Nat) : ∀ fuel, ones n fuel ≤ fuel := by
  intro fuel
  induction fuel generalizing n with
  | zero => exact Nat.le_refl 0
  | succ fuel ih =>
    have := ih (n / 2)
    unfold ones
    omega

theorem extendLow_lt {w : Width} {k : Nat} (n : Nat) (hk : k ≤ w.bits) : extendLow w k n < w.modulus := by
  have hle : Number.pow2 k ≤ w.modulus := by
    rw [Width.modulus_eq]
    exact Nat.pow_le_pow_right (by decide) hk
  have hlow : n % Number.pow2 k < Number.pow2 k := Nat.mod_lt _ (Number.pow2_pos k)
  unfold extendLow
  dsimp only
  split <;> omega

theorem ofBool_holds (b : Bool) : Holds (some .i32) (ofBool b) := by
  cases b with
  | false => exact holds_zero _
  | true => exact Nat.one_lt_two_pow (by decide)

/-! ## 4. Operations -/

theorem IntUnary.eval_lt {w : Width} {n : Nat} (o : IntUnary) : o.eval w n < w.modulus := by
  have hw := w.bits_lt
  cases o with
  | clz =>
    change (if n = 0 then w.bits else w.bits - 1 - Nat.log2 n) < _
    split <;> omega
  | ctz => exact Nat.lt_of_le_of_lt (trailingZeros_le n w.bits) hw
  | popcnt => exact Nat.lt_of_le_of_lt (ones_le n w.bits) hw
  | extend8 => exact extendLow_lt n (by cases w <;> decide)
  | extend16 => exact extendLow_lt n (by cases w <;> decide)
  | extend32 => exact extendLow_lt n (by cases w <;> decide)

theorem IntBinary.eval_lt {w : Width} {a b r : Nat} {o : IntBinary} (ha : a < w.modulus)
    (hb : b < w.modulus) (h : o.eval w a b = .ok r) : r < w.modulus := by
  have hpos : 0 < w.modulus := Nat.lt_of_le_of_lt (Nat.zero_le _) ha
  cases o <;> simp only [eval] at h
  case add | sub | mul | shl | rotl | rotr =>
    cases h
    exact Nat.mod_lt _ hpos
  case shrS =>
    cases h
    exact w.wrap_lt _
  case divS =>
    split at h
    · cases h
    · split at h
      · cases h
      · cases h
        exact w.wrap_lt _
  case remS =>
    split at h
    · cases h
    · cases h
      exact w.wrap_lt _
  case divU =>
    split at h
    · cases h
    · cases h
      exact Nat.lt_of_le_of_lt (Nat.div_le_self _ _) ha
  case remU =>
    split at h
    · cases h
    · cases h
      exact Nat.lt_of_le_of_lt (Nat.mod_le _ _) ha
  case and =>
    cases h
    exact Nat.lt_of_le_of_lt Nat.and_le_left ha
  case or =>
    cases h
    rw [w.modulus_eq] at ha hb ⊢
    exact Nat.or_lt_two_pow ha hb
  case xor =>
    cases h
    rw [w.modulus_eq] at ha hb ⊢
    exact Nat.xor_lt_two_pow ha hb
  case shrU =>
    cases h
    exact Nat.lt_of_le_of_lt (Nat.shiftRight_le _ _) ha

theorem FloatUnary.eval_isWord {f : Number.Format} {n : Nat} (hn : f.IsWord n) :
    ∀ o : FloatUnary, f.IsWord (o.eval f n)
  | .abs => Number.Format.abs_isWord
  | .neg => Number.Format.neg_isWord
  | .ceil | .floor | .trunc | .nearest => Number.Format.integral_isWord _ hn
  | .sqrt => Number.Format.sqrt_isWord hn

theorem FloatBinary.eval_isWord {f : Number.Format} {a b : Nat} (ha : f.IsWord a) (hb : f.IsWord b) :
    ∀ o : FloatBinary, f.IsWord (o.eval f a b)
  | .add => Number.Format.add_isWord ha hb
  | .sub => Number.Format.sub_isWord ha
  | .mul => Number.Format.mul_isWord
  | .div => Number.Format.div_isWord
  | .min => Number.Format.min_isWord ha hb
  | .max => Number.Format.max_isWord ha hb
  | .copysign => Number.Format.copysign_isWord

theorem truncFloat_lt {target source : Width} {signed saturating : Bool} {n r : Nat}
    (h : truncFloat target source signed saturating n = .ok r) : r < target.modulus := by
  have hwrap := target.wrap_lt
  unfold truncFloat at h
  dsimp only at h
  split_ifs at h <;> cases h
  · cases target <;> decide
  all_goals exact hwrap _

theorem Conversion.eval_holds {c : Conversion} {n r : Nat}
    (hn : Fits ((NumOp.convert c).params.map some) [n]) (h : c.eval n = .ok r) :
    Holds (some (NumOp.convert c).result) r := by
  cases c with
  | wrap =>
    cases h
    exact Width.w32.holds_int_iff.mpr (Nat.mod_lt _ (by decide))
  | extend signed =>
    cases h
    cases signed with
    | true => exact Width.w64.holds_int_iff.mpr (Width.wrap_lt _ _)
    | false =>
      cases hn with
      | cons hn _ => exact Nat.lt_trans hn (by decide)
  | trunc target source signed saturating => exact target.holds_int_iff.mpr (truncFloat_lt h)
  | convert target source signed =>
    cases h
    exact target.holds_float_iff.mpr (Number.Format.ofInt_isWord _)
  | demote =>
    cases h
    exact Width.w32.holds_float_iff.mpr (Number.Format.convert_isWord _)
  | promote =>
    cases h
    exact Width.w64.holds_float_iff.mpr (Number.Format.convert_isWord _)
  | floatBits w =>
    cases h
    cases hn with
    | cons hn _ => cases w <;> exact hn
  | bitsFloat w =>
    cases h
    cases hn with
    | cons hn _ => cases w <;> exact hn

/-! ## 5. On a stack -/

theorem popSlot_cons (n : Nat) (ns : List Nat) : popSlot (n :: ns) = (n, ns) := rfl

/-- **A numeric instruction on operands of its types** traps or replaces them by a result of its type. -/
theorem NumOp.apply_fits {op : NumOp} {taken : List Nat} (below : List Nat)
    (h : Fits (op.params.map some).reverse taken) :
    (∃ t, op.apply (taken ++ below) = .error t) ∨
      ∃ n, op.apply (taken ++ below) = .ok (n :: below) ∧ Holds (some op.result) n := by
  cases op with
  | eqz w =>
    obtain _ | ⟨_, ⟨⟩⟩ := h
    exact .inr ⟨_, rfl, ofBool_holds _⟩
  | intUnary w o =>
    obtain _ | ⟨_, ⟨⟩⟩ := h
    exact .inr ⟨_, rfl, w.holds_int_iff.mpr o.eval_lt⟩
  | floatUnary w o =>
    obtain _ | ⟨hy, ⟨⟩⟩ := h
    exact .inr ⟨_, rfl, w.holds_float_iff.mpr (o.eval_isWord (w.holds_float_iff.mp hy))⟩
  | intCompare w o =>
    obtain _ | ⟨_, _ | ⟨_, ⟨⟩⟩⟩ := h
    exact .inr ⟨_, rfl, ofBool_holds _⟩
  | floatCompare w o =>
    obtain _ | ⟨_, _ | ⟨_, ⟨⟩⟩⟩ := h
    exact .inr ⟨_, rfl, ofBool_holds _⟩
  | floatBinary w o =>
    obtain _ | ⟨hy, _ | ⟨hx, ⟨⟩⟩⟩ := h
    exact .inr ⟨_, rfl, w.holds_float_iff.mpr
      (o.eval_isWord (w.holds_float_iff.mp hx) (w.holds_float_iff.mp hy))⟩
  | intBinary w o =>
    obtain _ | ⟨hy, _ | ⟨hx, ⟨⟩⟩⟩ := h
    rename_i y x
    cases hr : o.eval w x y with
    | error t => exact .inl ⟨t, by simp [NumOp.apply, popSlot_cons, hr, Except.map]⟩
    | ok r =>
      refine .inr ⟨r, by simp [NumOp.apply, popSlot_cons, hr, Except.map], ?_⟩
      exact w.holds_int_iff.mpr (o.eval_lt (w.holds_int_iff.mp hx) (w.holds_int_iff.mp hy) hr)
  | convert c =>
    have hone : ∃ y, taken = [y] := by
      cases c <;> (obtain _ | ⟨_, ⟨⟩⟩ := h; exact ⟨_, rfl⟩)
    obtain ⟨y, rfl⟩ := hone
    cases hr : c.eval y with
    | error t => exact .inl ⟨t, by simp [NumOp.apply, popSlot_cons, hr, Except.map]⟩
    | ok r =>
      refine .inr ⟨r, by simp [NumOp.apply, popSlot_cons, hr, Except.map], ?_⟩
      exact Conversion.eval_holds (List.forall₂_reverse_iff.mp h) hr

end Wasm

end Embedder
