import Embedder.Number.Power

/-!
# Binary floating-point formats

A float is a word of bits: a sign, a biased exponent and a fraction. This file works on the words as
natural numbers and on the numbers they stand for in exact arithmetic, for any width at once.

* The magnitude of a finite word is a whole number of *units*, a unit being the least positive
  number of the format, `2 ^ -scale` (`Format.units`).
* `Format.roundUnits` rounds a quotient of naturals, counted in units, to the nearest magnitude, a
  tie going to the even word, and everything too large to infinity. Every operation of this file
  rounds once, through it.
* The words of magnitude `b` and `b + 1` are neighbours, so order of words is order of numbers.
-/

namespace Embedder.Number

/-! ## 1. Formats -/

/-- A binary interchange format: the bits of the significand, the leading one included, and the
    bits of the exponent. -/
structure Format where
  precision : Nat
  exponentBits : Nat
  deriving DecidableEq, Repr, Inhabited

/-- The format of 32-bit floats. -/
def binary32 : Format := ⟨24, 8⟩

/-- The format of 64-bit floats. -/
def binary64 : Format := ⟨53, 11⟩

namespace Format

variable (f : Format)

/-- The bits of a word below the sign. -/
def magnitudeBits : Nat := f.precision - 1 + f.exponentBits

/-- The bits of a word. -/
def width : Nat := f.magnitudeBits + 1

/-- The weight of the sign. -/
def signWeight : Nat := pow2 f.magnitudeBits

/-- The weight of the leading bit of a significand. -/
def leading : Nat := pow2 (f.precision - 1)

/-- The least positive number of the format is `2 ^ -scale`. -/
def scale : Nat := pow2 (f.exponentBits - 1) - 1 + f.precision - 2

/-- The magnitude word of infinity; the words above it are not numbers. -/
def infinity : Nat := (pow2 f.exponentBits - 1) * f.leading

/-- The word that stands for a result that is not a number. -/
def quietNaN : Nat := f.infinity + f.leading / 2

/-! ## 2. Words -/

/-- The sign of a word. -/
def negative (w : Nat) : Bool := f.signWeight ≤ w % pow2 f.width

/-- The word without its sign. -/
def magnitude (w : Nat) : Nat := w % f.signWeight

/-- The word with a given sign and magnitude. -/
def signed (neg : Bool) (b : Nat) : Nat := if neg then f.signWeight + b else b

/-- Is the word not a number? -/
def isNaN (w : Nat) : Bool := f.infinity < f.magnitude w

/-- Is the word an infinity? -/
def isInfinite (w : Nat) : Bool := f.magnitude w == f.infinity

/-- The number of units in a finite magnitude. -/
def units (b : Nat) : Nat :=
  if b < f.leading then b else (f.leading + b % f.leading) * pow2 (b / f.leading - 1)

/-- The place of a word on the number line, for comparing words that are numbers; both zeros have
    place zero. -/
def place (w : Nat) : Int :=
  if f.negative w then -(f.magnitude w : Int) else (f.magnitude w : Int)

/-- The units of a finite word, with its sign. -/
def signedUnits (w : Nat) : Int :=
  if f.negative w then -(f.units (f.magnitude w) : Int) else (f.units (f.magnitude w) : Int)

/-! ## 3. Rounding -/

/-- Does a quotient with remainder `r` by `d` round up? More than half does, and half does when the
    quotient `q` is odd. -/
def roundsUp (q r d : Nat) : Bool := d < 2 * r || (2 * r == d && q % 2 == 1)

/-- How many low bits of a magnitude of `n` units do not fit the significand. -/
def excess (n : Nat) : Nat := Nat.log2 n + 1 - f.precision

/-- The magnitude word nearest to `num / den` units, a tie going to the even word. -/
def roundUnits (num den : Nat) : Nat :=
  let s := f.excess (num / den)
  let d := den * pow2 s
  let q := num / d
  let b := s * f.leading + (if roundsUp q (num % d) d then q + 1 else q)
  if b < f.infinity then b else f.infinity

/-- The magnitude word nearest to `num / den`. -/
def round (num den : Nat) : Nat := f.roundUnits (num * pow2 f.scale) den

/-! ## 4. Sign and order -/

/-- The word with the other sign. -/
def neg (w : Nat) : Nat := f.signed (!f.negative w) (f.magnitude w)

/-- The word with a positive sign. -/
def abs (w : Nat) : Nat := f.magnitude w

/-- The first word with the sign of the second. -/
def copysign (v w : Nat) : Nat := f.signed (f.negative w) (f.magnitude v)

/-- Do both words stand for numbers, in this relation? -/
def compare (r : Int → Int → Bool) (v w : Nat) : Bool :=
  !f.isNaN v && !f.isNaN w && r (f.place v) (f.place w)

/-- The lesser number; the negative zero is less than the positive one. -/
def min (v w : Nat) : Nat :=
  if f.isNaN v || f.isNaN w then f.quietNaN
  else if f.place v < f.place w then v
  else if f.place w < f.place v then w
  else if f.negative v then v else w

/-- The greater number; the positive zero is greater than the negative one. -/
def max (v w : Nat) : Nat :=
  if f.isNaN v || f.isNaN w then f.quietNaN
  else if f.place v < f.place w then w
  else if f.place w < f.place v then v
  else if f.negative v then w else v

/-! ## 5. Arithmetic -/

/-- The sum of two words. A sum of zero is negative only if both terms are. -/
def add (v w : Nat) : Nat :=
  if f.isNaN v || f.isNaN w then f.quietNaN
  else if f.isInfinite v then
    if f.isInfinite w && f.negative v != f.negative w then f.quietNaN else v
  else if f.isInfinite w then w
  else
    let x := f.signedUnits v + f.signedUnits w
    let neg := if x = 0 then f.negative v && f.negative w else decide (x < 0)
    f.signed neg (f.roundUnits x.natAbs 1)

/-- The difference of two words. -/
def sub (v w : Nat) : Nat := if f.isNaN w then f.quietNaN else f.add v (f.neg w)

/-- The product of two words. -/
def mul (v w : Nat) : Nat :=
  let neg := f.negative v != f.negative w
  let a := f.magnitude v
  let b := f.magnitude w
  if f.isNaN v || f.isNaN w then f.quietNaN
  else if f.isInfinite v || f.isInfinite w then
    if a = 0 || b = 0 then f.quietNaN else f.signed neg f.infinity
  else f.signed neg (f.roundUnits (f.units a * f.units b) (pow2 f.scale))

/-- The quotient of two words. -/
def div (v w : Nat) : Nat :=
  let neg := f.negative v != f.negative w
  let a := f.magnitude v
  let b := f.magnitude w
  if f.isNaN v || f.isNaN w then f.quietNaN
  else if f.isInfinite v then
    if f.isInfinite w then f.quietNaN else f.signed neg f.infinity
  else if f.isInfinite w then f.signed neg 0
  else if b = 0 then
    if a = 0 then f.quietNaN else f.signed neg f.infinity
  else f.signed neg (f.round (f.units a) (f.units b))

/-- Newton's descent to the integer square root of `n`, from a guess that is not below it. -/
def rootFrom (n : Nat) : (fuel guess : Nat) → Nat
  | 0, guess => guess
  | fuel + 1, guess =>
    let next := (guess + n / guess) / 2
    if next < guess then rootFrom n fuel next else guess

/-- The greatest natural whose square is at most `n`. -/
def root (n : Nat) : Nat := if n = 0 then 0 else rootFrom n (Nat.log2 n + 8) (pow2 (Nat.log2 n / 2 + 1))

/-- The square root of a word. A root that is no natural number of units lies strictly between two
    of them, and an odd number of half units stands for it in the rounding. -/
def sqrt (w : Nat) : Nat :=
  if f.isNaN w then f.quietNaN
  else if f.magnitude w = 0 then w
  else if f.negative w then f.quietNaN
  else if f.isInfinite w then w
  else
    let n := f.units (f.magnitude w) * pow2 f.scale
    let r := root n
    f.roundUnits (2 * r + (if r * r = n then 0 else 1)) 2

/-! ## 6. Whole numbers -/

/-- The four ways of going from a number to a whole number beside it. -/
inductive Toward where
  | zero
  | negativeInfinity
  | positiveInfinity
  /-- To the nearer one, from the middle to the even one. -/
  | nearest
  deriving DecidableEq, Repr, Inhabited

/-- Does a magnitude of `whole` and `part / 2 ^ scale` move away from zero? -/
def movesAway (t : Toward) (neg : Bool) (whole part : Nat) : Bool :=
  match t with
  | .zero => false
  | .negativeInfinity => neg && part != 0
  | .positiveInfinity => !neg && part != 0
  | .nearest => roundsUp whole part (pow2 f.scale)

/-- The whole number beside a number. The sign stays, also on zero. -/
def integral (t : Toward) (w : Nat) : Nat :=
  if f.isNaN w then f.quietNaN
  else if f.isInfinite w then w
  else
    let u := f.units (f.magnitude w)
    let whole := u / pow2 f.scale
    let up := f.movesAway t (f.negative w) whole (u % pow2 f.scale)
    f.signed (f.negative w) (f.round (if up then whole + 1 else whole) 1)

/-- The integer that remains when the fraction of a finite word is dropped. -/
def truncate (w : Nat) : Int :=
  let n := f.units (f.magnitude w) / pow2 f.scale
  if f.negative w then -(n : Int) else (n : Int)

/-- The word nearest to an integer. -/
def ofInt (z : Int) : Nat := f.signed (decide (z < 0)) (f.round z.natAbs 1)

/-- The word of another format nearest to a word. -/
def convert (g : Format) (w : Nat) : Nat :=
  if f.isNaN w then g.quietNaN
  else if f.isInfinite w then g.signed (f.negative w) g.infinity
  else g.signed (f.negative w) (g.round (f.units (f.magnitude w)) (pow2 f.scale))

end Format

end Embedder.Number
