import Embedder.Number.Ieee

/-!
# Decimal literals

The texts that stand for numbers: an optional sign and digits for integers (`readInt`), and for
floats also a fraction, an exponent and the words for infinity and not-a-number (`readFloat`). A
float literal is first read as the exact number `digits * 10 ^ exponent`, whatever its length, and
then rounded once, at the width asked for (`Format.ofDecimal`).
-/

namespace Embedder.Number

/-! ## 1. Digits -/

/-- An ASCII digit. -/
def isDigit (c : Char) : Bool := '0' ≤ c && c ≤ '9'

/-- The value of an ASCII digit. -/
def digitValue (c : Char) : Nat := c.toNat - '0'.toNat

/-- The number that a list of digits spells after `n`. -/
def ofDigitsFrom (n : Nat) (cs : List Char) : Nat := cs.foldl (fun a c => 10 * a + digitValue c) n

/-- The number that a list of digits spells. -/
def ofDigits (cs : List Char) : Nat := ofDigitsFrom 0 cs

/-- A list of at least one digit, and nothing else, as a number. -/
def readNat (cs : List Char) : Option Nat :=
  if cs.isEmpty || !cs.all isDigit then none else some (ofDigits cs)

/-! ## 2. Signs and integers -/

/-- The sign at the head of a literal, and what follows it. -/
def splitSign : List Char → Bool × List Char
  | '-' :: cs => (true, cs)
  | '+' :: cs => (false, cs)
  | cs => (false, cs)

/-- An optional sign and at least one digit, as an integer. -/
def readInt (cs : List Char) : Option Int :=
  let (neg, ds) := splitSign cs
  (readNat ds).map fun n => if neg then -(n : Int) else (n : Int)

/-- An integer literal whose value is at least `lo` and at most `hi`. -/
def readIntIn (lo hi : Int) (cs : List Char) : Option Int :=
  (readInt cs).filter fun z => lo ≤ z && z ≤ hi

/-! ## 3. Decimal numbers -/

/-- The number `digits * 10 ^ exponent`. -/
structure Decimal where
  digits : Nat
  exponent : Int
  deriving DecidableEq, Repr, Inhabited

/-- The exponent part of a literal, if it has one: `e` in either case, an optional sign and at least
    one digit. -/
def readExponent : List Char → Option Int
  | [] => some 0
  | c :: cs => if c == 'e' || c == 'E' then readInt cs else none

/-- A decimal literal without its sign: digits with an optional point among or beside them, at least
    one digit in all, and an optional exponent. -/
def readDecimal (cs : List Char) : Option Decimal :=
  let whole := cs.takeWhile isDigit
  let afterWhole := cs.dropWhile isDigit
  let (fraction, rest) :=
    match afterWhole with
    | '.' :: r => (r.takeWhile isDigit, r.dropWhile isDigit)
    | r => ([], r)
  if whole.isEmpty && fraction.isEmpty then none
  else
    (readExponent rest).map fun e =>
      ⟨ofDigits (whole ++ fraction), e - fraction.length⟩

/-! ## 4. Rounding a decimal number -/

/-- Decimal exponents beyond this leave the range of every format in use. -/
def decimalRange : Nat := 400

/-- The magnitude word nearest to a decimal number. Exponents far out of range are answered without
    computing the power of ten. -/
def Format.ofDecimal (f : Format) (d : Decimal) : Nat :=
  if d.digits = 0 then 0
  else
    match d.exponent with
    | .ofNat e => if decimalRange < e then f.infinity else f.round (d.digits * pow10 e) 1
    | .negSucc e =>
      if Nat.log2 d.digits + decimalRange < e + 1 then 0 else f.round d.digits (pow10 (e + 1))

/-- The lower case of an ASCII letter; other characters stay. -/
def lowerAscii (c : Char) : Char :=
  if 'A' ≤ c && c ≤ 'Z' then Char.ofNat (c.toNat + 32) else c

/-- A float literal without its sign, as a magnitude word. -/
def Format.readMagnitude (f : Format) (cs : List Char) : Option Nat :=
  let word := cs.map lowerAscii
  if word == ['i', 'n', 'f'] || word == ['i', 'n', 'f', 'i', 'n', 'i', 't', 'y'] then
    some f.infinity
  else if word == ['n', 'a', 'n'] then some f.quietNaN
  else (readDecimal cs).map f.ofDecimal

/-- A float literal as a word. -/
def Format.readFloat (f : Format) (cs : List Char) : Option Nat :=
  let (neg, rest) := splitSign cs
  (f.readMagnitude rest).map (f.signed neg)

end Embedder.Number
