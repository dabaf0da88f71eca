import Embedder.Number.Grouped
import Embedder.Number.Ieee

/-!
# Floats in hexadecimal digits

A float can be written as hexadecimal digits with an exponent of two. The digits are packed into a
*register*, a word as wide as the float, from its top bit downwards. What is behind the bits that the float
keeps decides the rounding, to the nearest float and to the even one of two that are equally near. Of the
digits that have no room in the register, one bit is kept: whether some of them is not zero. A digit that
has room only for a part of itself is left out, and the bit then starts anew behind it.
-/

namespace Embedder.Number

/-! ## 1. Packing digits -/

/-- Digits packed into a word. -/
structure Register where
  /-- The bits, the top one being set. -/
  bits : Nat
  /-- The place of the lowest bit of the digit before; negative past the end of the word. -/
  place : Int
  /-- Is there something behind the bits? -/
  sticky : Bool
  deriving DecidableEq, Repr, Inhabited

/-- The number of bits of a digit that is not zero. -/
def digitBits (d : Nat) : Nat := Nat.log2 d + 1

/-- The register of a first digit, for words of a width. -/
def Register.ofDigit (width d : Nat) : Register :=
  let place := width - digitBits d
  ⟨d * pow2 place, place, false⟩

/-- Packs one more digit. -/
def Register.push (r : Register) (d : Nat) : Register :=
  let place := if -4 < r.place then r.place - 4 else r.place
  if 0 ≤ place then { r with bits := r.bits + d * pow2 place.toNat, place }
  else if -4 < place then { r with place, sticky := false }
  else { r with place, sticky := r.sticky || d != 0 }

/-! ## 2. Rounding -/

/-- A word that is split into bits to keep, and those to drop, which stand at its top. -/
structure Split where
  kept : Nat
  dropped : Nat
  deriving DecidableEq, Repr, Inhabited

/-- Keeps the top `n` bits of a word of a width. -/
def Split.top (width n bits : Nat) : Split :=
  ⟨bits / pow2 (width - n), bits * pow2 n % pow2 width⟩

/-- Is one to be added to what is kept? -/
def Split.roundsUp (s : Split) (width : Nat) (sticky : Bool) : Bool :=
  let half := pow2 (width - 1)
  half ≤ s.dropped && (half < s.dropped || sticky || s.kept % 2 == 1)

/-- The greatest exponent of a format. -/
def Format.bias (f : Format) : Nat := pow2 (f.exponentBits - 1) - 1

/-- The magnitude word of a register whose top bit has the weight `2 ^ exponent`; nothing if that is not
    within the range of the format. -/
def Register.magnitude (f : Format) (r : Register) (exponent : Int) : Option Nat :=
  if (f.bias : Int) < exponent then none
  else
    let split : Split :=
      if exponent ≤ -(f.bias : Int) then
        match (f.precision - 1 : Nat) + exponent + f.bias with
        | .ofNat n => .top f.width n r.bits
        | .negSucc _ => ⟨0, 0⟩
      else .top f.width f.precision r.bits
    let word :=
      if exponent ≤ -(f.bias : Int) then split.kept
      else (exponent + f.bias - 1).toNat * f.leading + split.kept
    let word := if split.roundsUp f.width r.sticky then word + 1 else word
    if word < f.infinity then some word else none

/-! ## 3. Texts -/

/-- Does an exponent fit 32 bits with a sign? -/
def fitsExponent (e : Int) : Bool := -(pow2 31 : Int) ≤ e && e < pow2 31

/-- The magnitude word of hexadecimal digits before and after the point, and an exponent of two; nothing
    if it is not within the range of the format. -/
def Format.ofHexDigits (f : Format) (whole fraction : List Char) (exponent : Int) : Option Nat :=
  let isZero (c : Char) : Bool := hexValue c == 0
  let whole := whole.dropWhile isZero
  let pack (first : Char) (rest : List Char) (weight : Int) : Option Nat :=
    let d := hexValue first
    let e := weight + digitBits d - 1 + exponent
    if fitsExponent exponent && fitsExponent e then
      let packed := rest.foldl (fun (r : Register) c => r.push (hexValue c)) (Register.ofDigit f.width d)
      packed.magnitude f e
    else none
  match whole with
  | c :: more => pack c (more ++ fraction) (4 * more.length)
  | [] =>
    match fraction.dropWhile isZero with
    | c :: more => pack c more (4 * more.length - 4 * fraction.length)
    | [] => some 0

end Embedder.Number
