import Embedder.Wasm.Binary.Bytes

/-!
# The name of a module

A custom section called `name` has subsections for the names of things in a module; the first kind holds
the name of the module itself. Names are only for people, so a fault in the section is no fault of the module:
what stands before it counts.
-/

namespace Embedder.Wasm.Binary

/-- The last kind of subsection that is known. -/
def lastNameKind : Nat := 11

/-- A subsection of a name section: its kind and contents. -/
def nameSubsection : Reader (Nat × List UInt8) := do
  let kind := (← byte).toNat
  if 0x80 ≤ kind then fail "invalid subsection"
  else return (kind, ← take (← u32))

/-- Reads all of some bytes. -/
def readAll {α : Type} (r : Reader α) (bs : List UInt8) : Option α :=
  match r.run ⟨bs, 0⟩ with
  | .ok (a, ⟨[], _⟩) => some a
  | _ => none

/-- Are the contents of a subsection such that the ones behind it can be looked at? The names of functions
    are read, of other lists only the length. -/
def isReadable (kind : Nat) (bs : List UInt8) : Bool :=
  if kind == 1 then
    (readAll (list do
      let _ ← u32
      name) bs).isSome
  else if kind ≤ lastNameKind then
    match u32.run ⟨bs, 0⟩ with
    | .ok _ => true
    | .error _ => false
  else true

/-- The name of the module in the rest of a name section: `found` is the one read so far. -/
def moduleNameFrom (found : Option String) : (fuel : Nat) → Input → Option String
  | 0, _ => found
  | fuel + 1, i =>
    match nameSubsection.run i with
    | .error _ => found
    | .ok ((kind, bs), rest) =>
      if kind == 0 then
        match readAll name bs with
        | some s => moduleNameFrom (some s) fuel rest
        | none => found
      else if isReadable kind bs then moduleNameFrom found fuel rest
      else found

/-- The name of the module after a name section with the given contents; before it, it was `found`. -/
def moduleName (found : Option String) (bs : List UInt8) : Option String :=
  moduleNameFrom found (bs.length + 1) ⟨bs, 0⟩

end Embedder.Wasm.Binary
