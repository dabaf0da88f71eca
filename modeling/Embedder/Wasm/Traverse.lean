import Embedder.Wasm.Types

/-!
# Changing the references in types

A type that refers to others by one means is turned into one that refers to them by another. The change may
fail or do something else on the way, so it happens in a monad; it meets the references in a fixed order.
-/

namespace Embedder.Wasm

variable {m : Type → Type} [Monad m] {ι κ : Type} (f : ι → m κ)

/-- A heap type with its reference changed. -/
def traverseHeap : HeapType ι → m (HeapType κ)
  | .func => return .func
  | .external => return .external
  | .any => return .any
  | .eq => return .eq
  | .i31 => return .i31
  | .struct => return .struct
  | .array => return .array
  | .none => return .none
  | .noFunc => return .noFunc
  | .noExtern => return .noExtern
  | .exn => return .exn
  | .noExn => return .noExn
  | .foreign => return .foreign
  | .concrete i => return .concrete (← f i)

/-- A reference type with its reference changed. -/
def traverseRef (r : RefType ι) : m (RefType κ) := return ⟨r.nullable, ← traverseHeap f r.heap⟩

/-- A value type with its reference changed. -/
def traverseVal : ValType ι → m (ValType κ)
  | .num t => return .num t
  | .v128 => return .v128
  | .ref r => return .ref (← traverseRef f r)

/-- A function type with its references changed. -/
def traverseFunc (t : FuncType ι) : m (FuncType κ) :=
  return ⟨← t.params.mapM (traverseVal f), ← t.results.mapM (traverseVal f)⟩

/-- A field type with its reference changed. -/
def traverseField (t : FieldType ι) : m (FieldType κ) := do
  match t.storage with
  | .i8 => return ⟨.i8, t.mutable⟩
  | .i16 => return ⟨.i16, t.mutable⟩
  | .val v => return ⟨.val (← traverseVal f v), t.mutable⟩

/-- A defined type with its references changed, those to its supertypes last. -/
def traverseSub (t : SubType ι) : m (SubType κ) := do
  let composite ←
    match t.composite with
    | .func g => .func <$> traverseFunc f g
    | .struct fs => .struct <$> fs.mapM (traverseField f)
    | .array e => .array <$> traverseField f e
  return ⟨t.final, ← t.supers.mapM f, composite⟩

end Embedder.Wasm
