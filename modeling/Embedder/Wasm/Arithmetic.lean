import Embedder.Wasm.Operator
import Embedder.Fault

/-!
# Arithmetic on slots

What the numeric instructions compute. Operands and results are slots: naturals below `2 ^ width`
that hold the bits of a number. Integers are read as unsigned or, by `signed`, in two's complement;
floats go through the exact arithmetic of `Number.Format`. An operation without a result traps.
-/

namespace Embedder.Wasm

open Number (Format binary32 binary64)

/-! ## 1. Words -/

namespace Width

/-- The number of bits. -/
def bits : Width → Nat
  | .w32 => 32
  | .w64 => 64

/-- The number of words, `2 ^ bits`. -/
def modulus : Width → Nat
  | .w32 => 4294967296
  | .w64 => 18446744073709551616

/-- The words from here on are negative when read with a sign. -/
def half : Width → Nat
  | .w32 => 2147483648
  | .w64 => 9223372036854775808

/-- A word read in two's complement. -/
def signed (w : Width) (n : Nat) : Int := if n < w.half then (n : Int) else (n : Int) - w.modulus

/-- The word of an integer, modulo `2 ^ bits`. -/
def wrap (w : Width) (z : Int) : Nat := (z % (w.modulus : Int)).toNat

/-- The format of floats of the width. -/
def format : Width → Format
  | .w32 => binary32
  | .w64 => binary64

end Width

/-- The number of zeros below the lowest one among the low `fuel` bits. -/
def trailingZeros (n : Nat) : (fuel : Nat) → Nat
  | 0 => 0
  | fuel + 1 => if n % 2 = 1 then 0 else trailingZeros (n / 2) fuel + 1

/-- The number of ones among the low `fuel` bits. -/
def ones (n : Nat) : (fuel : Nat) → Nat
  | 0 => 0
  | fuel + 1 => n % 2 + ones (n / 2) fuel

/-- The low `k` bits of a word, at least one, extended with their sign. -/
def extendLow (w : Width) (k n : Nat) : Nat :=
  let low := n % Number.pow2 k
  if low < Number.pow2 (k - 1) then low else low + w.modulus - Number.pow2 k

/-- The slot of a truth value. -/
def ofBool (b : Bool) : Nat := if b then 1 else 0

/-! ## 2. Integers -/

/-- An integer operation of one operand. -/
def IntUnary.eval (w : Width) (n : Nat) : IntUnary → Nat
  | .clz => if n = 0 then w.bits else w.bits - 1 - Nat.log2 n
  | .ctz => trailingZeros n w.bits
  | .popcnt => ones n w.bits
  | .extend8 => extendLow w 8 n
  | .extend16 => extendLow w 16 n
  | .extend32 => extendLow w 32 n

/-- An integer operation of two operands. Division by zero traps, and so does the one signed quotient
    that does not fit. Shifts and rotations go by the second operand modulo the width. -/
def IntBinary.eval (w : Width) (a b : Nat) : IntBinary → Except EngineTrap Nat
  | .add => .ok ((a + b) % w.modulus)
  | .sub => .ok ((a + w.modulus - b) % w.modulus)
  | .mul => .ok (a * b % w.modulus)
  | .divU => if b = 0 then .error .integerDivisionByZero else .ok (a / b)
  | .remU => if b = 0 then .error .integerDivisionByZero else .ok (a % b)
  | .divS =>
    if b = 0 then .error .integerDivisionByZero
    else if a = w.half && b = w.modulus - 1 then .error .integerOverflow
    else .ok (w.wrap ((w.signed a).tdiv (w.signed b)))
  | .remS =>
    if b = 0 then .error .integerDivisionByZero
    else .ok (w.wrap ((w.signed a).tmod (w.signed b)))
  | .and => .ok (a &&& b)
  | .or => .ok (a ||| b)
  | .xor => .ok (a ^^^ b)
  | .shl => .ok (a <<< (b % w.bits) % w.modulus)
  | .shrU => .ok (a >>> (b % w.bits))
  | .shrS => .ok (w.wrap ((w.signed a).fdiv (Number.pow2 (b % w.bits) : Nat)))
  | .rotl =>
    let s := b % w.bits
    .ok ((a <<< s ||| a >>> (w.bits - s)) % w.modulus)
  | .rotr =>
    let s := b % w.bits
    .ok ((a >>> s ||| a <<< (w.bits - s)) % w.modulus)

/-- A comparison of integers. -/
def IntCompare.eval (w : Width) (a b : Nat) : IntCompare → Bool
  | .eq => a == b
  | .ne => a != b
  | .ltU => a < b
  | .gtU => b < a
  | .leU => a ≤ b
  | .geU => b ≤ a
  | .ltS => w.signed a < w.signed b
  | .gtS => w.signed b < w.signed a
  | .leS => w.signed a ≤ w.signed b
  | .geS => w.signed b ≤ w.signed a

/-! ## 3. Floats -/

/-- A float operation of one operand. -/
def FloatUnary.eval (f : Format) (n : Nat) : FloatUnary → Nat
  | .abs => f.abs n
  | .neg => f.neg n
  | .ceil => f.integral .positiveInfinity n
  | .floor => f.integral .negativeInfinity n
  | .trunc => f.integral .zero n
  | .nearest => f.integral .nearest n
  | .sqrt => f.sqrt n

/-- A float operation of two operands. -/
def FloatBinary.eval (f : Format) (a b : Nat) : FloatBinary → Nat
  | .add => f.add a b
  | .sub => f.sub a b
  | .mul => f.mul a b
  | .div => f.div a b
  | .min => f.min a b
  | .max => f.max a b
  | .copysign => f.copysign a b

/-- A comparison of floats; only `ne` holds of something that is not a number. -/
def FloatCompare.eval (f : Format) (a b : Nat) : FloatCompare → Bool
  | .eq => f.compare (fun x y => x == y) a b
  | .ne => !f.compare (fun x y => x == y) a b
  | .lt => f.compare (fun x y => x < y) a b
  | .gt => f.compare (fun x y => y < x) a b
  | .le => f.compare (fun x y => x ≤ y) a b
  | .ge => f.compare (fun x y => y ≤ x) a b

/-! ## 4. Conversions -/

/-- The least and the greatest integer of a width, with or without a sign. -/
def Width.range (w : Width) (signed : Bool) : Int × Int :=
  if signed then (-(w.half : Int), (w.half : Int) - 1) else (0, (w.modulus : Int) - 1)

/-- The integer in a float, its fraction dropped. -/
def truncFloat (target source : Width) (signed saturating : Bool) (n : Nat) :
    Except EngineTrap Nat :=
  let f := source.format
  let (lo, hi) := target.range signed
  if f.isNaN n then if saturating then .ok 0 else .error .badConversionToInteger
  else if f.isInfinite n then
    if saturating then .ok (target.wrap (if f.negative n then lo else hi))
    else .error .integerOverflow
  else
    let z := f.truncate n
    if z < lo then if saturating then .ok (target.wrap lo) else .error .integerOverflow
    else if hi < z then if saturating then .ok (target.wrap hi) else .error .integerOverflow
    else .ok (target.wrap z)

/-- A conversion. -/
def Conversion.eval (n : Nat) : Conversion → Except EngineTrap Nat
  | .wrap => .ok (n % Width.w32.modulus)
  | .extend signed => .ok (if signed then Width.w64.wrap (Width.w32.signed n) else n)
  | .trunc target source signed saturating => truncFloat target source signed saturating n
  | .convert target source signed =>
    .ok (target.format.ofInt (if signed then source.signed n else (n : Int)))
  | .demote => .ok (binary64.convert binary32 n)
  | .promote => .ok (binary32.convert binary64 n)
  | .floatBits _ | .bitsFloat _ => .ok n

/-! ## 5. On a stack -/

/-- The top of a stack and the rest; below the bottom there are zeros. -/
def popSlot : List Nat → Nat × List Nat
  | [] => (0, [])
  | n :: r => (n, r)

/-- Applies a numeric instruction to the operands on top of a stack, which it replaces by the
    result. -/
def NumOp.apply (op : NumOp) (stack : List Nat) : Except EngineTrap (List Nat) :=
  let (y, below) := popSlot stack
  match op with
  | .eqz _ => .ok (ofBool (y == 0) :: below)
  | .intUnary w o => .ok (o.eval w y :: below)
  | .floatUnary w o => .ok (o.eval w.format y :: below)
  | .convert c => (c.eval y).map (· :: below)
  | .intCompare w o =>
    let (x, rest) := popSlot below
    .ok (ofBool (o.eval w x y) :: rest)
  | .floatCompare w o =>
    let (x, rest) := popSlot below
    .ok (ofBool (o.eval w.format x y) :: rest)
  | .intBinary w o =>
    let (x, rest) := popSlot below
    (o.eval w x y).map (· :: rest)
  | .floatBinary w o =>
    let (x, rest) := popSlot below
    .ok (o.eval w.format x y :: rest)

end Embedder.Wasm
