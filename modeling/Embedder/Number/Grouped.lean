import Embedder.Number.Decimal

/-!
# Hexadecimal digits and digits in groups

Formats for people admit underscores between the digits of a number, one at a time: `1_000` but neither
`1__0` nor `1_`. `digitRun` takes such digits from the front of a text.
-/

namespace Embedder.Number

/-! ## 1. Hexadecimal digits -/

/-- A hexadecimal digit. -/
def isHexDigit (c : Char) : Bool :=
  isDigit c || ('a' ≤ c && c ≤ 'f') || ('A' ≤ c && c ≤ 'F')

/-- The value of a hexadecimal digit. -/
def hexValue (c : Char) : Nat :=
  if isDigit c then digitValue c
  else if 'a' ≤ c then c.toNat - 'a'.toNat + 10
  else c.toNat - 'A'.toNat + 10

/-- The number that hexadecimal digits spell. -/
def ofHexDigits (cs : List Char) : Nat := cs.foldl (fun n c => 16 * n + hexValue c) 0

/-! ## 2. Groups -/

/-- Digits with single underscores between them, and the rest. -/
def digitsAfter (good : Char → Bool) (underscore : Bool) : List Char → Option (List Char × List Char)
  | [] => if underscore then none else some ([], [])
  | c :: cs =>
    if c == '_' && !underscore then digitsAfter good true cs
    else if good c then (digitsAfter good false cs).map fun (ds, rest) => (c :: ds, rest)
    else if underscore then none
    else some ([], c :: cs)

/-- At least one digit, with single underscores between digits, and the rest. -/
def digitRun (good : Char → Bool) : List Char → Option (List Char × List Char)
  | [] => none
  | c :: cs => if good c then (digitsAfter good false cs).map fun (ds, rest) => (c :: ds, rest) else none

end Embedder.Number
