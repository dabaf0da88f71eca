import Embedder.Wasm.Binary.Bytes

/-!
# Types and code in binary form

Types are single bytes, or negative numbers where an index could stand too. Instructions begin with
an opcode; some opcodes are followed by a second one.

The instructions that `Instr` leaves out are refused like opcodes that do not exist: after `0xFD` all but the
constant of a vector, all after `0xFE`, and after `0xFB` all but those for small integers. An engine that has them
reads more bodies than `instr` does, so what is said of loading is said for any reader of bodies. Constant
expressions need none of them.
-/

namespace Embedder.Wasm.Binary

/-! ## 1. Types -/

/-- The abstract heap types by their byte. -/
def heapBytes : List (Nat × HeapType Nat) :=
  [(0x70, .func), (0x6F, .external), (0x6E, .any), (0x6D, .eq), (0x6C, .i31), (0x6B, .struct),
    (0x6A, .array), (0x71, .none), (0x73, .noFunc), (0x72, .noExtern), (0x69, .exn), (0x74, .noExn)]

/-- The number types and vectors by their byte. -/
def plainBytes : List (Nat × ValType Nat) :=
  [(0x7F, .num .i32), (0x7E, .num .i64), (0x7D, .num .f32), (0x7C, .num .f64), (0x7B, .v128)]

/-- A heap type: a single byte, or the index of a type. -/
def heapType : Reader (HeapType Nat) := do
  match (← peekByte).bind fun b => heapBytes.lookup b.toNat with
  | some h =>
    let _ ← byte
    return h
  | none =>
    let z ← signed 33
    if 0 ≤ z then return .concrete z.toNat else fail "invalid heap type"

/-- The reference type that begins with a byte. -/
def refTypeOf (b : Nat) : Reader (Option (RefType Nat)) := do
  if b == 0x63 then return some ⟨true, ← heapType⟩
  else if b == 0x64 then return some ⟨false, ← heapType⟩
  else return (heapBytes.lookup b).map fun h => ⟨true, h⟩

/-- A reference type. -/
def refType : Reader (RefType Nat) := do
  match ← refTypeOf (← byte).toNat with
  | some r => return r
  | none => fail "malformed reference type"

/-- The value type that begins with a byte. -/
def valTypeOf (b : Nat) : Reader (ValType Nat) := do
  match plainBytes.lookup b with
  | some t => return t
  | none =>
    match ← refTypeOf b with
    | some r => return .ref r
    | none => fail "invalid value type"

/-- A value type. -/
def valType : Reader (ValType Nat) := do valTypeOf (← byte).toNat

/-- The type of a block: nothing, one value type or the index of a function type. -/
def blockType : Reader (BlockType Nat) := do
  match ← peekByte with
  | none => fail "unexpected end"
  | some b =>
    if b == 0x40 then
      let _ ← byte
      return .empty
    else if 0x40 < b && b < 0x80 then return .value (← valType)
    else
      let z ← signed 33
      if 0 ≤ z then return .type z.toNat else fail "invalid function type"

/-! ## 2. Instructions -/

/-- Where a load or store goes. -/
def memArg : Reader (MemArg Nat) := do
  let flags ← u32
  if 128 ≤ flags then fail "malformed memop alignment: alignment too large"
  else
    let memory ← if 64 ≤ flags then u32 else pure 0
    return ⟨memory, ← u32, flags % 64⟩

/-- A clause of a handler. -/
def catchClause : Reader (Catch Nat) := do
  match (← byte).toNat with
  | 0 => return .tag (← u32) (← u32)
  | 1 => return .tagRef (← u32) (← u32)
  | 2 => return .all (← u32)
  | 3 => return .allRef (← u32)
  | _ => fail "invalid catch kind"

/-- An instruction after the opcode `0xFC`. -/
def bulkInstr : Reader (Instr Nat) := do
  let k ← u32
  match NumOp.saturatingTable[k]? with
  | some (_, c) => return .numeric (.convert c)
  | none =>
    match k with
    | 8 =>
      let d ← u32
      return .memoryInit (← u32) d
    | 9 => return .dataDrop (← u32)
    | 10 => return .memoryCopy (← u32) (← u32)
    | 11 => return .memoryFill (← u32)
    | 12 =>
      let e ← u32
      return .tableInit (← u32) e
    | 13 => return .elemDrop (← u32)
    | 14 => return .tableCopy (← u32) (← u32)
    | 15 => return .tableGrow (← u32)
    | 16 => return .tableSize (← u32)
    | 17 => return .tableFill (← u32)
    | _ => fail "unknown 0xfc subopcode"

/-- The load, store or numeric instruction with an opcode. -/
def tabledInstr (op : Nat) : Reader (Instr Nat) := do
  if Store.firstOpcode ≤ op && op < Store.firstOpcode + Store.table.length then
    match Store.table[op - Store.firstOpcode]? with
    | some (_, s) => return .store s (← memArg)
    | none => fail "illegal opcode"
  else if Load.firstOpcode ≤ op && op < Store.firstOpcode then
    match Load.table[op - Load.firstOpcode]? with
    | some (_, l) => return .load l (← memArg)
    | none => fail "illegal opcode"
  else if NumOp.firstOpcode ≤ op then
    match NumOp.table[op - NumOp.firstOpcode]? with
    | some (_, o) => return .numeric o
    | none => fail "illegal opcode"
  else fail "illegal opcode"

/-- One instruction. -/
def instr : Reader (Instr Nat) := do
  let op := (← byte).toNat
  match op with
  | 0x00 => return .unreachable
  | 0x01 => return .nop
  | 0x02 => return .block (← blockType)
  | 0x03 => return .loop (← blockType)
  | 0x04 => return .if_ (← blockType)
  | 0x05 => return .else_
  | 0x08 => return .throw (← u32)
  | 0x0A => return .throwRef
  | 0x0B => return .end_
  | 0x0C => return .br (← u32)
  | 0x0D => return .brIf (← u32)
  | 0x0E =>
    let ls ← list u32
    return .brTable ls (← u32)
  | 0x0F => return .return_
  | 0x10 => return .call (← u32)
  | 0x11 =>
    let t ← u32
    return .callIndirect (← u32) t
  | 0x12 => return .returnCall (← u32)
  | 0x13 =>
    let t ← u32
    return .returnCallIndirect (← u32) t
  | 0x14 => return .callRef (← u32)
  | 0x15 => return .returnCallRef (← u32)
  | 0x1A => return .drop
  | 0x1B => return .select none
  | 0x1C => return .select (some (← list valType))
  | 0x1F =>
    let t ← blockType
    return .tryTable t (← list catchClause)
  | 0x20 => return .localGet (← u32)
  | 0x21 => return .localSet (← u32)
  | 0x22 => return .localTee (← u32)
  | 0x23 => return .globalGet (← u32)
  | 0x24 => return .globalSet (← u32)
  | 0x25 => return .tableGet (← u32)
  | 0x26 => return .tableSet (← u32)
  | 0x3F => return .memorySize (← u32)
  | 0x40 => return .memoryGrow (← u32)
  | 0x41 => return .const (.i32 (Int32.ofInt (← signed 32)))
  | 0x42 => return .const (.i64 (Int64.ofInt (← signed 64)))
  | 0x43 => return .const (.ofSlot .f32 (← fixed 4))
  | 0x44 => return .const (.ofSlot .f64 (← fixed 8))
  | 0xD0 => return .refNull (← heapType)
  | 0xD1 => return .refIsNull
  | 0xD2 => return .refFunc (← u32)
  | 0xD3 => return .refEq
  | 0xD4 => return .refAsNonNull
  | 0xD5 => return .brOnNull (← u32)
  | 0xD6 => return .brOnNonNull (← u32)
  | 0xFB =>
    match ← u32 with
    | 28 => return .refI31
    | 29 => return .i31Get true
    | 30 => return .i31Get false
    | _ => fail "unknown 0xfb subopcode"
  | 0xFC => bulkInstr
  | 0xFD =>
    match ← u32 with
    | 12 => return .v128Const (← fixed 16)
    | _ => fail "unknown 0xfd subopcode"
  | _ => tabledInstr op

/-- A constant expression: instructions up to the first end, at most `fuel`. -/
def exprFrom : (fuel : Nat) → Reader Expr
  | 0 => fail "unexpected end"
  | fuel + 1 => do
    let i ← instr
    if i == .end_ then return [i] else return i :: (← exprFrom fuel)

/-- A constant expression. -/
def expr : Reader Expr := do exprFrom ((← get).bytes.length + 1)

end Embedder.Wasm.Binary
