import Embedder.Fault

/-!
# Memories and tables

A memory is a sequence of pages of 64 KiB. A page that has never been written is kept empty and reads
as zeros, so the size of a memory costs nothing until it is used. A table is an array of references:
zero is the null reference and `k + 1` is function `k`.

Reads and writes of several bytes check the whole range first; a write that would leave the memory
changes nothing.
-/

namespace Embedder.Wasm

/-! ## 1. Pages -/

/-- The bytes of a page. -/
def pageSize : Nat := 65536

/-- The greatest number of pages. -/
def maxPages : Nat := 65536

/-- A page of zeros. -/
def zeroPage : ByteArray := ByteArray.mk (Array.replicate pageSize 0)

/-- A memory: its pages and the number of pages it may grow to. -/
structure Memory where
  pages : Array ByteArray
  maximum : Nat
  deriving Inhabited

namespace Memory

/-- A memory of zeros. -/
def create (minimum : Nat) (maximum : Option Nat) : Memory :=
  ⟨Array.replicate minimum ByteArray.empty, maximum.getD maxPages⟩

/-- The number of pages. -/
def pageCount (m : Memory) : Nat := m.pages.size

/-- The number of bytes. -/
def size (m : Memory) : Nat := m.pages.size * pageSize

/-- The byte of a page at an index; where nothing was written there are zeros. -/
def pageByte (p : ByteArray) (i : Nat) : UInt8 := if h : i < p.size then p.get i h else 0

/-- The byte at an address; beyond the end there are zeros. -/
def byte (m : Memory) (a : Nat) : UInt8 :=
  match m.pages[a / pageSize]? with
  | some p => pageByte p (a % pageSize)
  | none => 0

/-- A page with one byte changed. -/
def writePage (i : Nat) (b : UInt8) (p : ByteArray) : ByteArray :=
  let p := if p.isEmpty then zeroPage else p
  if h : i < p.size then p.set i b h else p

/-- The memory with the byte at an address changed. -/
def setByte (m : Memory) (a : Nat) (b : UInt8) : Memory :=
  { m with pages := m.pages.modify (a / pageSize) (writePage (a % pageSize) b) }

/-! ## 2. Ranges -/

/-- Does a range of bytes lie within the memory? -/
def inRange (m : Memory) (a length : Nat) : Bool := a + length ≤ m.size

/-- The bytes of a range. -/
def readBytes (m : Memory) (a length : Nat) : List UInt8 :=
  (List.range length).map fun i => m.byte (a + i)

/-- Writes bytes one after the other from an address on. -/
def writeBytes (m : Memory) (a : Nat) : List UInt8 → Memory
  | [] => m
  | b :: bs => (m.setByte a b).writeBytes (a + 1) bs

/-- The number in a range of bytes, the lowest byte first. -/
def readNat (m : Memory) (a : Nat) : (bytes : Nat) → Nat
  | 0 => 0
  | bytes + 1 => (m.byte a).toNat + 256 * m.readNat (a + 1) bytes

/-- Writes the low bytes of a number, the lowest first. -/
def writeNat (m : Memory) (a n : Nat) : (bytes : Nat) → Memory
  | 0 => m
  | bytes + 1 => (m.setByte a (n % 256).toUInt8).writeNat (a + 1) (n / 256) bytes

/-- Writes one byte over a range. -/
def fillBytes (m : Memory) (a : Nat) (b : UInt8) : (length : Nat) → Memory
  | 0 => m
  | length + 1 => (m.setByte a b).fillBytes (a + 1) b length

/-! ## 3. Growing -/

/-- Adds pages of zeros, unless the memory would exceed its maximum. -/
def grow (m : Memory) (delta : Nat) : Option Memory :=
  if m.pages.size + delta ≤ min m.maximum maxPages then
    some { m with pages := m.pages ++ Array.replicate delta ByteArray.empty }
  else none

end Memory

/-! ## 4. Tables -/

/-- A table of references and the number of elements it may grow to. -/
structure Table where
  elements : Array Nat
  maximum : Nat
  deriving Inhabited, Repr, DecidableEq

/-- The greatest number of elements of a table. -/
def maxElements : Nat := 4294967295

namespace Table

/-- A table of one reference, repeated. -/
def create (minimum : Nat) (maximum : Option Nat) (r : Nat) : Table :=
  ⟨Array.replicate minimum r, maximum.getD maxElements⟩

/-- The number of elements. -/
def size (t : Table) : Nat := t.elements.size

/-- Writes references one after the other from an index on. -/
def write (t : Table) (i : Nat) : List Nat → Table
  | [] => t
  | r :: rs => { t with elements := t.elements.setIfInBounds i r }.write (i + 1) rs

/-- The references of a range. -/
def read (t : Table) (i length : Nat) : List Nat :=
  (List.range length).map fun k => (t.elements[i + k]?).getD 0

/-- Adds elements, unless the table would exceed its maximum. -/
def grow (t : Table) (delta r : Nat) : Option Table :=
  if t.elements.size + delta ≤ min t.maximum maxElements then
    some { t with elements := t.elements ++ Array.replicate delta r }
  else none

end Table

end Embedder.Wasm
