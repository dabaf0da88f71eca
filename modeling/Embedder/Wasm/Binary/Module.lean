import Embedder.Wasm.Binary.Code
import Embedder.Wasm.Binary.Names

/-!
# Modules in binary form

A module is a header and sections, each with its number and size. Sections come in a fixed order;
custom sections may stand anywhere and hold, among others, the name of the module. A header of another
layer is that of a component, which is no module but may have modules in it.

How the bodies of functions are read is left open: each section but theirs is read without it.
-/

namespace Embedder.Wasm.Binary

/-! ## 1. Types of items -/

/-- The limits of a memory or table, by their flags. -/
def limitsOf (flags : Nat) : Reader Limits := do
  let wide := flags / 4 % 2 == 1
  let size := if wide then unsigned 64 else u32
  let least ← size
  let greatest ← if flags % 2 == 1 then some <$> size else pure none
  return ⟨least, greatest⟩

/-- The type of a memory. -/
def memoryType : Reader MemoryType := do
  let flags := (← byte).toNat
  if 16 ≤ flags then fail "invalid memory limits flags"
  else
    let limits ← limitsOf flags
    let customPage := flags / 8 % 2 == 1
    if customPage then
      let _ ← u32
    return ⟨limits, flags / 2 % 2 == 1, flags / 4 % 2 == 1, customPage⟩

/-- The type of a table. -/
def tableType : Reader (TableType Nat) := do
  let element ← refType
  let flags := (← byte).toNat
  if 8 ≤ flags then fail "invalid table resizable limits flags"
  else return ⟨element, ← limitsOf flags, flags / 2 % 2 == 1, flags / 4 % 2 == 1⟩

/-- The type of a global. -/
def globalType : Reader (GlobalType Nat) := do
  let content ← valType
  let flags := (← byte).toNat
  if 4 ≤ flags then fail "malformed mutability"
  else return ⟨content, flags % 2 == 1, flags / 2 % 2 == 1⟩

/-- The type of a tag. -/
def tagType : Reader Nat := do
  exactByte 0 "invalid tag attributes"
  u32

/-! ## 2. Type definitions -/

/-- The type of a field. -/
def fieldType : Reader (FieldType Nat) := do
  let b := (← byte).toNat
  let storage ←
    if b == 0x78 then pure StorageType.i8
    else if b == 0x77 then pure StorageType.i16
    else .val <$> valTypeOf b
  match (← byte).toNat with
  | 0 => return ⟨storage, false⟩
  | 1 => return ⟨storage, true⟩
  | _ => fail "malformed mutability"

/-- The defined type that begins with a byte. -/
def compositeOf (b : Nat) : Reader (CompositeType Nat) := do
  match b with
  | 0x60 =>
    let params ← list valType
    return .func ⟨params, ← list valType⟩
  | 0x5F => return .struct (← list fieldType)
  | 0x5E => return .array (← fieldType)
  | _ => fail "invalid leading byte for type"

/-- The type with its supertypes that begins with a byte. -/
def subTypeOf (b : Nat) : Reader (SubType Nat) := do
  if b == 0x50 || b == 0x4F then
    let supers ← list u32
    return ⟨b == 0x4F, supers, ← compositeOf (← byte).toNat⟩
  else return ⟨true, [], ← compositeOf b⟩

/-- A group of types. -/
def recGroup : Reader (RecGroup Nat) := do
  let b := (← byte).toNat
  if b == 0x4E then return ⟨true, ← list do subTypeOf (← byte).toNat⟩
  else return ⟨false, [← subTypeOf b]⟩

/-! ## 3. Items -/

/-- An import. -/
def importItem : Reader Import := do
  let module ← name
  let field ← name
  let kind ← match (← byte).toNat with
    | 0 => do pure (ImportKind.func (← u32))
    | 1 => do pure (ImportKind.table (← tableType))
    | 2 => do pure (ImportKind.memory (← memoryType))
    | 3 => do pure (ImportKind.global (← globalType))
    | 4 => do pure (ImportKind.tag (← tagType))
    | _ => fail "malformed import kind"
  return ⟨module, field, kind⟩

/-- An export. -/
def exportItem : Reader Export := do
  let field ← name
  let kind ← match (← byte).toNat with
    | 0 => do pure (ExportKind.func (← u32))
    | 1 => do pure (ExportKind.table (← u32))
    | 2 => do pure (ExportKind.memory (← u32))
    | 3 => do pure (ExportKind.global (← u32))
    | 4 => do pure (ExportKind.tag (← u32))
    | _ => fail "malformed export kind"
  return ⟨field, kind⟩

/-- A table, perhaps with an expression for its elements. -/
def tableDef : Reader TableDef := do
  if (← peekByte) == some 0x40 then
    let _ ← byte
    exactByte 0 "invalid table encoding"
    let t ← tableType
    return ⟨t, some (← expr)⟩
  else return ⟨← tableType, none⟩

/-- A global. -/
def globalDef : Reader GlobalDef := do
  let t ← globalType
  return ⟨t, ← expr⟩

/-- An element segment. The bits of its flags say whether it is passive or declared, whether a table is
    named (or, if not active, whether it is declared), and whether its items are expressions. -/
def elem : Reader Elem := do
  let flags ← u32
  if 8 ≤ flags then fail "invalid flags byte in element segment"
  else
    let isActive := flags % 2 == 0
    let second := flags / 2 % 2 == 1
    let isExprs := flags / 4 % 2 == 1
    let mode ←
      if isActive then do
        let table ← if second then u32 else pure 0
        pure (SegmentMode.active table (← expr))
      else pure (if second then SegmentMode.declared else SegmentMode.passive)
    let isTyped := !isActive || second
    if isExprs then
      let t ← if isTyped then refType else pure .funcref
      return ⟨mode, .exprs t (← list expr)⟩
    else
      if isTyped then exactByte 0 "only the function external type is supported in elem segment"
      return ⟨mode, .funcs (← list u32)⟩

/-- A data segment. -/
def data : Reader Data := do
  let mode ← match ← u32 with
    | 0 => do pure (SegmentMode.active 0 (← expr))
    | 1 => pure SegmentMode.passive
    | 2 => do
      let memory ← u32
      pure (SegmentMode.active memory (← expr))
    | _ => fail "invalid flags byte in data segment"
  return ⟨mode, ← take (← u32)⟩

/-- The body of a function. -/
def body : Reader Body := do
  let size ← u32
  within size do
    let locals ← list do
      let n ← u32
      return (n, ← valType)
    return ⟨locals, ← untilEnd instr ((← get).bytes.length + 1)⟩

/-! ## 4. Sections -/

variable {β : Type}

/-- The place of a section in the order of sections. -/
def sectionRank : Nat → Option Nat
  | 1 => some 1
  | 2 => some 2
  | 3 => some 3
  | 4 => some 4
  | 5 => some 5
  | 13 => some 6
  | 6 => some 7
  | 7 => some 8
  | 8 => some 9
  | 9 => some 10
  | 12 => some 11
  | 10 => some 12
  | 11 => some 13
  | _ => none

/-- A custom section: only the name of the module is taken from it. -/
def customSection (m : Module β) : Reader (Module β) := do
  let title ← name
  let rest ← get
  set (⟨[], rest.offset + rest.bytes.length⟩ : Input)
  if title == "name" then return { m with name := moduleName m.name rest.bytes }
  else return m

/-- The contents of a section, added to a module. The bodies of functions are read by `read`. -/
def sectionOf (read : Reader β) (id : Nat) (m : Module β) : Reader (Module β) := do
  match id with
  | 0 => customSection m
  | 1 => return { m with types := ← list recGroup }
  | 2 => return { m with imports := ← list importItem }
  | 3 => return { m with funcs := ← list u32 }
  | 4 => return { m with tables := ← list tableDef }
  | 5 => return { m with memories := ← list memoryType }
  | 6 => return { m with globals := ← list globalDef }
  | 7 => return { m with exports := ← list exportItem }
  | 8 => return { m with start := some (← u32) }
  | 9 => return { m with elems := ← list elem }
  | 10 => return { m with bodies := ← list read }
  | 11 => return { m with datas := ← list data }
  | 12 => return { m with dataCount := some (← u32) }
  | 13 => return { m with tags := ← list tagType }
  | _ => fail "malformed section id"

/-- The sections up to the end, the last one read having rank `rank`. -/
def sections (read : Reader β) : (fuel rank : Nat) → Module β → Reader (Module β)
  | 0, _, m => return m
  | fuel + 1, rank, m => do
    if ← atEnd then return m
    let id := (← byte).toNat
    let size ← u32
    if id == 0 then
      let m ← within size (sectionOf read id m)
      sections read fuel rank m
    else
      match sectionRank id with
      | none => fail "malformed section id"
      | some r =>
        if r ≤ rank then fail "section out of order"
        else
          let m ← within size (sectionOf read id m)
          sections read fuel r m

/-! ## 5. Components -/

/-- Skips the bytes left. -/
def skipRest : Reader Unit := modify fun i => ⟨[], i.offset + i.bytes.length⟩

/-- A section of a component without a module in it: a custom one, or one with an empty list. -/
def plainSection (id : Nat) : Reader Unit := do
  if id == 0 then
    let _ ← name
    skipRest
  else if id ≤ 12 then
    if (← u32) ≠ 0 then fail "unsupported component section"
  else fail "malformed section id"

/-- The layers of binary code: the second half of a header says which one. -/
inductive Layer where
  | module
  | component
  deriving DecidableEq, Repr, Inhabited

/-- What begins every binary module. -/
def magic : List UInt8 := [0x00, 0x61, 0x73, 0x6D]

/-- A header. -/
def header : Reader Layer := do
  if (← take 4) != magic then throw ⟨"magic header not detected: bad magic number", 0⟩
  let version ← take 4
  if version == [1, 0, 0, 0] then return .module
  else if version == [0x0D, 0, 1, 0] then return .component
  else throw ⟨"unknown binary version and encoding combination", 4⟩

/-- A header of a layer. -/
def headerOf (l : Layer) : Reader Unit := do
  if (← header) ≠ l then fail "unexpected version header"

/-- A module after its header. -/
def moduleSections (read : Reader β) : Reader (Module β) := do sections read ((← get).bytes.length + 1) 0 {}

/-- The module that is met first in a component after its header, if there is one. The component is read
    up to there. -/
def leadingModule (read : Reader β) : (fuel : Nat) → Reader (Option (Module β))
  | 0 => return none
  | fuel + 1 => do
    if ← atEnd then return none
    let id := (← byte).toNat
    let size ← u32
    match id with
    | 1 =>
      within size do
        headerOf .module
        return some (← moduleSections read)
    | 4 =>
      within size do
        headerOf .component
        let m ← leadingModule read fuel
        skipRest
        return m
    | _ => do
      within size (plainSection id)
      leadingModule read fuel

/-! ## 6. Contents -/

/-- What binary code can be. -/
inductive Contents (β : Type := Body) where
  | module (m : Module β)
  /-- A component, with the module that is met first in it. -/
  | component (leading : Option (Module β))
  deriving Inhabited

/-- Reads binary code. -/
def contents (read : Reader β) : Reader (Contents β) := do
  match ← header with
  | .module => return .module (← moduleSections read)
  | .component => return .component (← leadingModule read ((← get).bytes.length + 1))

/-- What some bytes are. -/
def Contents.ofBytes (read : Reader β) (bs : List UInt8) : Except Fault (Contents β) :=
  ((contents read).run ⟨bs, 0⟩).map Prod.fst

end Embedder.Wasm.Binary
