import Embedder.Wasm.Module
import Embedder.Text.Utf8

/-!
# Reading bytes

A reader takes bytes from the front of a list and keeps count of them. What it cannot read is a
`Fault`, a complaint with the offset at which it arose. Numbers are written seven bits a byte, the
lowest first, with the top bit set on all bytes but the last.
-/

namespace Embedder.Wasm.Binary

/-- A complaint about bytes, and the offset it arose at. -/
structure Fault where
  message : String
  offset : Nat
  deriving DecidableEq, Repr, Inhabited

/-- The bytes left and the number of those already read. -/
structure Input where
  bytes : List UInt8
  offset : Nat
  deriving Repr, Inhabited

/-- A reader of bytes. -/
abbrev Reader := StateT Input (Except Fault)

/-- Complains about the current offset. -/
def fail {α : Type} (message : String) : Reader α := do throw ⟨message, (← get).offset⟩

/-- Are there no bytes left? -/
def atEnd : Reader Bool := do return (← get).bytes.isEmpty

/-- One byte. -/
def byte : Reader UInt8 := do
  match (← get).bytes with
  | [] => fail "unexpected end"
  | b :: bs => do
    modify fun i => ⟨bs, i.offset + 1⟩
    return b

/-- The next byte, not taken. -/
def peekByte : Reader (Option UInt8) := do return (← get).bytes.head?

/-- Exactly `n` bytes. -/
def take (n : Nat) : Reader (List UInt8) := do
  let i ← get
  let bs := i.bytes.take n
  if bs.length < n then fail "unexpected end"
  else
    set (⟨i.bytes.drop n, i.offset + n⟩ : Input)
    return bs

/-- A byte that has to have a value. -/
def exactByte (b : UInt8) (complaint : String) : Reader Unit := do
  if (← byte) == b then return () else fail complaint

/-! ## 1. Numbers -/

/-- The rest of an unsigned number of at most `bits` more bits, the first bit having the weight
    `2 ^ shift`. -/
def unsignedFrom (shift : Nat) : (bits : Nat) → (fuel : Nat) → Reader Nat
  | _, 0 => fail "integer representation too long"
  | bits, fuel + 1 => do
    let b := (← byte).toNat
    let low := b % 128
    if bits < 7 && Number.pow2 bits ≤ low then fail "integer too large"
    else if b < 128 then return low * Number.pow2 shift
    else if bits ≤ 7 then fail "integer representation too long"
    else return low * Number.pow2 shift + (← unsignedFrom (shift + 7) (bits - 7) fuel)

/-- An unsigned number of at most `bits` bits. -/
def unsigned (bits : Nat) : Reader Nat := unsignedFrom 0 bits (bits / 7 + 1)

/-- An unsigned 32-bit number. -/
def u32 : Reader Nat := unsigned 32

/-- The rest of a signed number of at most `bits` more bits. -/
def signedFrom (shift : Nat) : (bits : Nat) → (fuel : Nat) → Reader Int
  | _, 0 => fail "integer representation too long"
  | bits, fuel + 1 => do
    let b := (← byte).toNat
    let low := b % 128
    let value : Int := if low < 64 then low else (low : Int) - 128
    if bits < 7 && !(-(Number.pow2 (bits - 1) : Int) ≤ value && value < Number.pow2 (bits - 1)) then fail "integer too large"
    else if b < 128 then return value * Number.pow2 shift
    else if bits ≤ 7 then fail "integer representation too long"
    else return (low : Int) * Number.pow2 shift + (← signedFrom (shift + 7) (bits - 7) fuel)

/-- A signed number of at most `bits` bits. -/
def signed (bits : Nat) : Reader Int := signedFrom 0 bits (bits / 7 + 1)

/-- A number of `n` bytes, the lowest first. -/
def fixed (n : Nat) : Reader Nat := do
  return (← take n).foldr (fun b rest => b.toNat + 256 * rest) 0

/-! ## 2. Lists and names -/

/-- Exactly `n` items. -/
def exactly {α : Type} (item : Reader α) : (n : Nat) → Reader (List α)
  | 0 => return []
  | n + 1 => do
    let a ← item
    return a :: (← exactly item n)

/-- A list: its length and its items. -/
def list {α : Type} (item : Reader α) : Reader (List α) := do exactly item (← u32)

/-- A text: the number of its bytes and the bytes. -/
def name : Reader String := do
  match Text.Utf8.decodeText (← take (← u32)) with
  | .ok s => return s
  | .error _ => fail "malformed UTF-8 encoding"

/-- Items up to the end of the bytes, at most `fuel`. -/
def untilEnd {α : Type} (item : Reader α) : (fuel : Nat) → Reader (List α)
  | 0 => return []
  | fuel + 1 => do
    if ← atEnd then return []
    let a ← item
    return a :: (← untilEnd item fuel)

/-- Reads exactly the next `n` bytes with a reader. -/
def within {α : Type} (n : Nat) (inner : Reader α) : Reader α := do
  let start := (← get).offset
  let bs ← take n
  match inner.run ⟨bs, start⟩ with
  | .error f => throw f
  | .ok (a, rest) =>
    if rest.bytes.isEmpty then return a else throw ⟨"section size mismatch: unexpected data", rest.offset⟩

end Embedder.Wasm.Binary
