/-!
# UTF-8

Texts come in as bytes. `decode` reads a list of bytes as characters or says where the first
character that cannot be read begins and what is wrong with it: either some bytes that no
continuation could save (`invalid`, with their number), or a character cut off by the end of the
input (`incomplete`). `encode` writes the shortest form of a character.
-/

namespace Embedder.Text.Utf8

/-! ## 1. Writing -/

/-- The bytes of one character: one to four, the first carrying the length. -/
def encodeChar (c : Char) : List UInt8 :=
  let n := c.toNat
  if n < 0x80 then [n.toUInt8]
  else if n < 0x800 then [(0xC0 + n / 0x40).toUInt8, (0x80 + n % 0x40).toUInt8]
  else if n < 0x10000 then
    [(0xE0 + n / 0x1000).toUInt8, (0x80 + n / 0x40 % 0x40).toUInt8, (0x80 + n % 0x40).toUInt8]
  else
    [(0xF0 + n / 0x40000).toUInt8, (0x80 + n / 0x1000 % 0x40).toUInt8,
      (0x80 + n / 0x40 % 0x40).toUInt8, (0x80 + n % 0x40).toUInt8]

/-- The bytes of a list of characters, one after the other. -/
def encode (cs : List Char) : List UInt8 := cs.flatMap encodeChar

/-! ## 2. Reading -/

/-- Why bytes are not a text. Both cases carry the index of the first byte of the character that
    could not be read. -/
inductive Fault where
  /-- `width` bytes can begin no character. -/
  | invalid (width index : Nat)
  /-- The input ends inside a character. -/
  | incomplete (index : Nat)
  deriving DecidableEq, Repr, Inhabited

/-- The wording of a fault. -/
def Fault.message : Fault → String
  | .invalid width index => s!"invalid utf-8 sequence of {width} bytes from index {index}"
  | .incomplete index => s!"incomplete utf-8 byte sequence from index {index}"

/-- A byte that continues a character. -/
def isTail (b : UInt8) : Bool := 0x80 ≤ b && b ≤ 0xBF

/-- The second bytes that may follow the lead byte of a three-byte character: no overlong form and
    no surrogate. -/
def isSecondOfThree (lead b : UInt8) : Bool :=
  if lead == 0xE0 then 0xA0 ≤ b && b ≤ 0xBF
  else if lead == 0xED then 0x80 ≤ b && b ≤ 0x9F
  else isTail b

/-- The second bytes that may follow the lead byte of a four-byte character: no overlong form and
    nothing beyond the last code point. -/
def isSecondOfFour (lead b : UInt8) : Bool :=
  if lead == 0xF0 then 0x90 ≤ b && b ≤ 0xBF
  else if lead == 0xF4 then 0x80 ≤ b && b ≤ 0x8F
  else isTail b

/-- The six payload bits of a continuing byte. -/
def payload (b : UInt8) : Nat := b.toNat % 0x40

/-- Reads the bytes from index `i` on; `done` holds the characters read so far, last first. -/
def decodeFrom (i : Nat) (done : List Char) : List UInt8 → Except Fault (List Char)
  | [] => .ok done.reverse
  | b :: r =>
    if b < 0x80 then decodeFrom (i + 1) (Char.ofNat b.toNat :: done) r
    else if 0xC2 ≤ b && b ≤ 0xDF then
      match r with
      | [] => .error (.incomplete i)
      | b₁ :: r₁ =>
        if isTail b₁ then
          decodeFrom (i + 2) (Char.ofNat (b.toNat % 0x20 * 0x40 + payload b₁) :: done) r₁
        else .error (.invalid 1 i)
    else if 0xE0 ≤ b && b ≤ 0xEF then
      match r with
      | [] => .error (.incomplete i)
      | b₁ :: r₁ =>
        if isSecondOfThree b b₁ then
          match r₁ with
          | [] => .error (.incomplete i)
          | b₂ :: r₂ =>
            if isTail b₂ then
              decodeFrom (i + 3)
                (Char.ofNat (b.toNat % 0x10 * 0x1000 + payload b₁ * 0x40 + payload b₂) :: done) r₂
            else .error (.invalid 2 i)
        else .error (.invalid 1 i)
    else if 0xF0 ≤ b && b ≤ 0xF4 then
      match r with
      | [] => .error (.incomplete i)
      | b₁ :: r₁ =>
        if isSecondOfFour b b₁ then
          match r₁ with
          | [] => .error (.incomplete i)
          | b₂ :: r₂ =>
            if isTail b₂ then
              match r₂ with
              | [] => .error (.incomplete i)
              | b₃ :: r₃ =>
                if isTail b₃ then
                  decodeFrom (i + 4)
                    (Char.ofNat (b.toNat % 0x08 * 0x40000 + payload b₁ * 0x1000 +
                      payload b₂ * 0x40 + payload b₃) :: done) r₃
                else .error (.invalid 3 i)
            else .error (.invalid 2 i)
        else .error (.invalid 1 i)
    else .error (.invalid 1 i)

/-- The characters that a list of bytes spells, or the first fault. -/
def decode (bs : List UInt8) : Except Fault (List Char) := decodeFrom 0 [] bs

/-- The text that a list of bytes spells, or the first fault. -/
def decodeText (bs : List UInt8) : Except Fault String := (decode bs).map String.ofList

end Embedder.Text.Utf8
