import Embedder.Wasm.Memory
import Embedder.Wasm.Code

/-!
# The state of an instance

Everything that running code can change: memories, tables, globals and the segments not yet dropped.
`Module.initialState` builds the state of a new instance: items first, then element segments in
order, then data segments in order, each checked when its turn comes.
-/

namespace Embedder.Wasm

/-- The changeable part of an instance. -/
structure State where
  memories : Array Memory
  tables : Array Table
  globals : Array Nat
  /-- Element segments; a dropped one is empty. -/
  elems : Array (List Nat)
  /-- Data segments; a dropped one is empty. -/
  datas : Array (List UInt8)
  deriving Inhabited

/-! ## 1. Constant expressions -/

/-- One instruction of a constant expression, on a stack. -/
def constStep (globals : Array Nat) (stack : List Nat) : Instr Nat → List Nat
  | .const v => v.slot :: stack
  | .v128Const n => n :: stack
  | .refNull _ => 0 :: stack
  | .refFunc i => (i + 1) :: stack
  | .globalGet i => (globals[i]?).getD 0 :: stack
  | .numeric op =>
    match op.apply stack with
    | .ok s => s
    | .error _ => stack
  | _ => stack

/-- The slot that a constant expression computes. -/
def constValue (globals : Array Nat) (e : Expr) : Nat :=
  (e.foldl (constStep globals) []).headD 0

/-! ## 2. Items -/

/-- The globals of a module, each able to use those before it. -/
def Module.initialGlobals (m : Module) : Array Nat :=
  m.globals.foldl (fun gs g => gs.push (constValue gs g.init)) #[]

/-- The references in an element segment. -/
def Elem.references (globals : Array Nat) (e : Elem) : List Nat :=
  match e.items with
  | .funcs is => is.map (· + 1)
  | .exprs _ es => es.map (constValue globals)

/-- The state before any segment is applied. -/
def Module.blankState (m : Module) : State :=
  let globals := m.initialGlobals
  { memories := (m.memories.map fun t => Memory.create t.limits.minimum t.limits.maximum).toArray
    tables := (m.tables.map fun t =>
      Table.create t.type.limits.minimum t.type.limits.maximum
        ((t.init.map (constValue globals)).getD 0)).toArray
    globals
    elems := (m.elems.map fun e => e.references globals).toArray
    datas := (m.datas.map Data.bytes).toArray }

/-! ## 3. Segments -/

/-- Writes references into a table, if they all fit. -/
def State.writeTable (s : State) (table index : Nat) (rs : List Nat) : Except EngineTrap State :=
  match s.tables[table]? with
  | none => .error .tableOutOfBounds
  | some t =>
    if index + rs.length ≤ t.size then
      .ok { s with tables := s.tables.modify table fun t => t.write index rs }
    else .error .tableOutOfBounds

/-- Writes bytes into a memory, if they all fit. -/
def State.writeMemory (s : State) (memory address : Nat) (bs : List UInt8) :
    Except EngineTrap State :=
  match s.memories[memory]? with
  | none => .error .memoryOutOfBounds
  | some mem =>
    if mem.inRange address bs.length then
      .ok { s with memories := s.memories.modify memory fun mem => mem.writeBytes address bs }
    else .error .memoryOutOfBounds

/-- Applies an element segment: an active one is written and dropped, a declared one is dropped. -/
def State.applyElem (s : State) (e : Elem × Nat) : Except EngineTrap State :=
  let dropped (s : State) : State := { s with elems := s.elems.setIfInBounds e.2 [] }
  match e.1.mode with
  | .passive => .ok s
  | .declared => .ok (dropped s)
  | .active table offset =>
    (s.writeTable table (constValue s.globals offset) ((s.elems[e.2]?).getD [])).map dropped

/-- Applies a data segment: an active one is written and dropped. -/
def State.applyData (s : State) (d : Data × Nat) : Except EngineTrap State :=
  match d.1.mode with
  | .active memory offset =>
    (s.writeMemory memory (constValue s.globals offset) d.1.bytes).map fun s =>
      { s with datas := s.datas.setIfInBounds d.2 [] }
  | _ => .ok s

/-- The state of a new instance of a module, before its start function. -/
def Module.initialState (m : Module) : Except EngineTrap State := do
  let s ← m.elems.zipIdx.foldlM State.applyElem m.blankState
  m.datas.zipIdx.foldlM State.applyData s

end Embedder.Wasm
