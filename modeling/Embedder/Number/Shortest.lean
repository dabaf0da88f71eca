import Embedder.Number.Decimal

/-!
# The shortest decimal text of a float

A float is written with the fewest decimal digits that read back as the same float of the same
width, and of the candidates with that many digits with the one nearest to the float, the greater
one if two are equally near. The digits are written out in full, never with an exponent.

`Format.readsBack` is the test for one candidate: a number rounds to magnitude `b` if it lies between
the midpoints to the neighbours of `b`, the midpoints themselves belonging to `b` when `b` is even.
-/

namespace Embedder.Number

/-- The same number without up to `fuel` of the zeros at the end of its digits. -/
def Decimal.normal (d : Decimal) : (fuel : Nat) → Decimal
  | 0 => d
  | fuel + 1 =>
    if d.digits % 10 = 0 then Decimal.normal ⟨d.digits / 10, d.exponent + 1⟩ fuel else d

namespace Format

variable (f : Format)

/-! ## 1. The interval of a float -/

/-- Does `num / den` units round to the magnitude `b`? All sides are doubled, so that midpoints are
    whole. -/
def readsBackUnits (b num den : Nat) : Bool :=
  let lo := (f.units (b - 1) + f.units b) * den
  let hi := (f.units b + f.units (b + 1)) * den
  if b % 2 = 0 then lo ≤ 2 * num && 2 * num ≤ hi else lo < 2 * num && 2 * num < hi

/-- The magnitude of a decimal number, in units, as numerator and denominator. -/
def decimalUnits (d : Decimal) : Nat × Nat :=
  match d.exponent with
  | .ofNat e => (d.digits * pow10 e * pow2 f.scale, 1)
  | .negSucc e => (d.digits * pow2 f.scale, pow10 (e + 1))

/-- Does a decimal number read back as the magnitude `b`? -/
def readsBack (b : Nat) (d : Decimal) : Bool :=
  let (num, den) := f.decimalUnits d
  f.readsBackUnits b num den

/-! ## 2. Candidates -/

/-- The decimal place of the first digit of `num / den` units: the greatest `e` with `10 ^ e` at most
    the number, for numbers of at least one. -/
def leadingPlaceAbove (whole : Nat) : Nat := (Nat.toDigits 10 whole).length - 1

/-- The least `j` above `k` for which `u * 10 ^ j` units reach one, at most `fuel` steps away. -/
def leadingPlaceBelow (u k : Nat) : (fuel : Nat) → Nat
  | 0 => k
  | fuel + 1 =>
    if pow2 f.scale ≤ u * pow10 (k + 1) then k + 1 else leadingPlaceBelow u (k + 1) fuel

/-- The place of the first decimal digit of the magnitude `b`. -/
def leadingPlace (b : Nat) : Int :=
  let u := f.units b
  if pow2 f.scale ≤ u then (leadingPlaceAbove (u / pow2 f.scale) : Int)
  else -(f.leadingPlaceBelow u 0 f.scale : Int)

/-- The greatest multiple of `10 ^ place` that is at most the magnitude `b`, and whether `b` lies at
    least half way to the next one. -/
def gridBelow (b : Nat) (place : Int) : Nat × Bool :=
  let u := f.units b
  match place with
  | .ofNat e =>
    let d := pow10 e * pow2 f.scale
    (u / d, d ≤ 2 * (u % d))
  | .negSucc e =>
    let n := u * pow10 (e + 1)
    let d := pow2 f.scale
    (n / d, d ≤ 2 * (n % d))

/-- The candidate on one decimal grid: of the two grid points around the magnitude `b` the nearer one
    that reads back. -/
def candidate (b : Nat) (place : Int) : Option Decimal :=
  let (n, upper) := f.gridBelow b place
  let below : Decimal := ⟨n, place⟩
  let above : Decimal := ⟨n + 1, place⟩
  if upper then
    if f.readsBack b above then some above else if f.readsBack b below then some below else none
  else
    if f.readsBack b below then some below else if f.readsBack b above then some above else none

/-- The first grid, from `place` downwards, with a candidate. -/
def searchFrom (b : Nat) (place : Int) : (fuel : Nat) → Decimal
  | 0 => ⟨(f.gridBelow b place).1, place⟩
  | fuel + 1 =>
    match f.candidate b place with
    | some d => d
    | none => searchFrom b (place - 1) fuel

/-- The shortest decimal number that reads back as the magnitude `b`. On the grid `10 ^ -scale` every
    magnitude is a grid point, so the search ends there at the latest. A grid point may be a multiple
    of ten, when the float lies just below a power of ten. -/
def shortest (b : Nat) : Decimal :=
  let first := f.leadingPlace b
  let d := f.searchFrom b first (first + f.scale).toNat
  d.normal d.digits

end Format

/-! ## 3. Writing -/

/-- A decimal number written out, without an exponent. -/
def Decimal.text (d : Decimal) : String :=
  match d.exponent with
  | .ofNat e => toString (d.digits * pow10 e)
  | .negSucc e =>
    let ds := Nat.toDigits 10 d.digits
    let padded := List.replicate (e + 2 - ds.length) '0' ++ ds
    let cut := padded.length - (e + 1)
    String.ofList (padded.take cut) ++ "." ++ String.ofList (padded.drop cut)

/-- The text of a word: not-a-number has no sign, whole numbers have no point. -/
def Format.text (f : Format) (w : Nat) : String :=
  if f.isNaN w then "NaN"
  else
    let sign := if f.negative w then "-" else ""
    if f.isInfinite w then sign ++ "inf"
    else if f.magnitude w = 0 then sign ++ "0"
    else sign ++ (f.shortest (f.magnitude w)).text

end Embedder.Number
