import Embedder.Wasm.Operator

/-!
# Instructions

Code is a flat list of instructions in which `block`, `loop`, `if_`, `else_` and `end_` mark the
structure, as in the binary form. The parameter `ι` is the way instructions refer to items.

Left out are the instructions for vectors, but for their constants, those for atomic access to memory, and those for
objects on a heap, but for small integers. Code that has one of them in it is not read.
-/

namespace Embedder.Wasm

/-- Where a load or store goes: the memory, a constant added to the address, and the binary logarithm
    of the alignment promised. -/
structure MemArg (ι : Type) where
  memory : ι
  offset : Nat
  alignLog2 : Nat
  deriving DecidableEq, Repr, Inhabited

/-- The types of a block: none, one result, or a function type. -/
inductive BlockType (ι : Type) where
  | empty
  | value (t : ValType ι)
  | type (index : ι)
  deriving DecidableEq, Repr, Inhabited

/-- One clause of an exception handler. -/
inductive Catch (ι : Type) where
  | tag (tag label : ι)
  | tagRef (tag label : ι)
  | all (label : ι)
  | allRef (label : ι)
  deriving DecidableEq, Repr, Inhabited

/-- An instruction. -/
inductive Instr (ι : Type) where
  | unreachable
  | nop
  | block (t : BlockType ι)
  | loop (t : BlockType ι)
  | if_ (t : BlockType ι)
  | else_
  | end_
  | br (label : ι)
  | brIf (label : ι)
  | brTable (labels : List ι) (default : ι)
  | return_
  | call (func : ι)
  | callIndirect (table type : ι)
  | returnCall (func : ι)
  | returnCallIndirect (table type : ι)
  | drop
  | select (types : Option (List (ValType ι)))
  | localGet (index : ι)
  | localSet (index : ι)
  | localTee (index : ι)
  | globalGet (index : ι)
  | globalSet (index : ι)
  | tableGet (table : ι)
  | tableSet (table : ι)
  | tableSize (table : ι)
  | tableGrow (table : ι)
  | tableFill (table : ι)
  | tableCopy (target source : ι)
  | tableInit (table elem : ι)
  | elemDrop (elem : ι)
  | load (op : Load) (arg : MemArg ι)
  | store (op : Store) (arg : MemArg ι)
  | memorySize (memory : ι)
  | memoryGrow (memory : ι)
  | memoryFill (memory : ι)
  | memoryCopy (target source : ι)
  | memoryInit (memory data : ι)
  | dataDrop (data : ι)
  | refNull (heap : HeapType ι)
  | refIsNull
  | refFunc (func : ι)
  | const (value : Value)
  | v128Const (bits : Nat)
  | numeric (op : NumOp)
  | throw (tag : ι)
  | throwRef
  | tryTable (t : BlockType ι) (catches : List (Catch ι))
  | callRef (type : ι)
  | returnCallRef (type : ι)
  | refAsNonNull
  | brOnNull (label : ι)
  | brOnNonNull (label : ι)
  | refEq
  | refI31
  | i31Get (signed : Bool)
  deriving DecidableEq, Repr, Inhabited

end Embedder.Wasm
