import Embedder.Wasm.State

/-!
# The abstract machine

The machine runs one frame per active function. A frame has its variables, its operands (top first),
the code still to run and the blocks around it. A step looks at the first instruction of the running
frame and answers with a `Signal`: the next machine, the results of a finished run, a trap, or the wish
to call a function of the host. The machine itself knows nothing of the host: it hands out the
arguments, and whoever drives it continues with `Machine.resume`.

Operands are slots without types. Code that passed validation never looks below the operands it put
there; elsewhere missing operands count as zero.
-/

namespace Embedder.Wasm

/-! ## 1. Machines -/

/-- A block being executed: where a branch to it goes and what it takes along, and what follows the
    block. -/
structure Label where
  /-- The number of operands that a branch keeps. -/
  arity : Nat
  /-- The operands below those of the block. -/
  below : List Nat
  /-- The code that a branch continues with. -/
  target : List Code
  /-- The code after the end of the block. -/
  rest : List Code
  deriving Inhabited

/-- A function being executed. -/
structure Frame where
  locals : Array Nat
  stack : List Nat
  code : List Code
  labels : List Label
  /-- The number of results of the function. -/
  results : Nat
  deriving Inhabited

/-- The running frame, those waiting for it and the state. -/
structure Machine where
  frame : Frame
  callers : List Frame
  depth : Nat
  state : State
  deriving Inhabited

/-- The number of nested calls that exhausts the call stack. -/
def maxDepth : Nat := 8192

/-- What a step of a machine answers. -/
inductive Signal where
  | running (m : Machine)
  /-- The run is over; the results are top first. -/
  | finished (results : List Nat) (s : State)
  | trapped (t : EngineTrap) (s : State)
  /-- The function of the host at a place among the imports is to be called with these arguments, the
      first one first; `m` waits for its results. -/
  | calling (index : Nat) (args : List Nat) (m : Machine)
  deriving Inhabited

/-- The machine with one more operand. -/
def Machine.push (m : Machine) (n : Nat) : Machine :=
  { m with frame := { m.frame with stack := n :: m.frame.stack } }

/-- Continues a machine with the results of a host function, the first one first. -/
def Machine.resume (m : Machine) (results : List Nat) : Machine :=
  { m with frame := { m.frame with stack := results.reverse ++ m.frame.stack } }

/-! ## 2. Calls and branches -/

/-- The top `n` operands, the deepest of them first, and the operands below. -/
def takeOperands (n : Nat) (stack : List Nat) : List Nat × List Nat :=
  let taken := stack.take n
  (List.replicate (n - taken.length) 0 ++ taken.reverse, stack.drop n)

/-- Leaves the running frame with its results. -/
def Machine.leave (m : Machine) : Signal :=
  let results := (takeOperands m.frame.results m.frame.stack).1.reverse
  match m.callers with
  | [] => .finished results m.state
  | f :: fs =>
    .running { m with
      frame := { f with stack := results ++ f.stack }, callers := fs, depth := m.depth - 1 }

/-- The frame of a function that starts. -/
def Frame.enter (args : List Nat) (locals results : Nat) (code : List Code) : Frame :=
  ⟨(args ++ List.replicate locals 0).toArray, [], code, [], results⟩

/-- Calls a function: a new frame, or a signal to the host. -/
def Machine.call (m : Machine) (c : Callee) : Signal :=
  let (args, below) := takeOperands c.type.params.length m.frame.stack
  let waiting : Frame := { m.frame with stack := below }
  match c with
  | .host i _ => .calling i args { m with frame := waiting }
  | .guest t locals code =>
    if m.depth < maxDepth then
      .running { m with
        frame := Frame.enter args locals t.results.length code
        callers := waiting :: m.callers
        depth := m.depth + 1 }
    else .trapped .stackOverflow m.state

/-- Calls a function in place of the running one. -/
def Machine.tailCall (m : Machine) (c : Callee) : Signal :=
  let args := (takeOperands c.type.params.length m.frame.stack).1
  match c with
  | .host i _ =>
    .calling i args { m with frame := { m.frame with stack := [], code := [], labels := [] } }
  | .guest t locals code =>
    .running { m with frame := Frame.enter args locals t.results.length code }

/-- The function behind an element of a table, if it has the type asked for. -/
def Machine.lookup (p : Program) (m : Machine) (table type index : Nat) :
    Except EngineTrap Callee :=
  match m.state.tables[table]? with
  | none => .error .tableOutOfBounds
  | some t =>
    match t.elements[index]? with
    | none => .error .tableOutOfBounds
    | some 0 => .error .indirectCallToNull
    | some (f + 1) =>
      match p.callees[f]? with
      | none => .error .indirectCallToNull
      | some c => if p.types[type]? == some (some c.type) then .ok c else .error .badSignature

/-- Branches to the block at a depth, or out of the function. -/
def Machine.branch (m : Machine) (depth : Nat) : Signal :=
  match m.frame.labels.drop depth with
  | [] => m.leave
  | l :: ls =>
    let kept := (takeOperands l.arity m.frame.stack).1.reverse
    .running { m with
      frame := { m.frame with stack := kept ++ l.below, code := l.target, labels := ls } }

/-- Enters a block whose branch target and end are given. -/
def Machine.enterBlock (m : Machine) (params arity : Nat) (body target rest : List Code) : Signal :=
  let label : Label := ⟨arity, m.frame.stack.drop params, target, rest⟩
  .running { m with frame := { m.frame with code := body, labels := label :: m.frame.labels } }

/-! ## 3. Plain instructions -/

/-- The slot of minus one, the answer of an operation that could not grow. -/
def failedGrow : Nat := 4294967295

/-- An instruction on memories, after its operands are taken from the stack. -/
def State.memoryInstr (s : State) (stack : List Nat) : Instr Nat → Except EngineTrap (State × List Nat)
  | .load op arg =>
    let (base, rest) := popSlot stack
    let a := base + arg.offset
    match s.memories[arg.memory]? with
    | none => .error .memoryOutOfBounds
    | some mem =>
      if mem.inRange a op.bytes then
        let n := mem.readNat a op.bytes
        let w : Width := if op.type.width = 32 then .w32 else .w64
        .ok (s, (if op.signed then extendLow w (8 * op.bytes) n else n) :: rest)
      else .error .memoryOutOfBounds
  | .store op arg =>
    let (n, below) := popSlot stack
    let (base, rest) := popSlot below
    let a := base + arg.offset
    match s.memories[arg.memory]? with
    | none => .error .memoryOutOfBounds
    | some mem =>
      if mem.inRange a op.bytes then
        .ok ({ s with memories := s.memories.modify arg.memory fun mem => mem.writeNat a n op.bytes },
          rest)
      else .error .memoryOutOfBounds
  | .memorySize i => .ok (s, (((s.memories[i]?).map Memory.pageCount).getD 0) :: stack)
  | .memoryGrow i =>
    let (delta, rest) := popSlot stack
    match s.memories[i]? with
    | none => .ok (s, failedGrow :: rest)
    | some mem =>
      match mem.grow delta with
      | none => .ok (s, failedGrow :: rest)
      | some mem' =>
        .ok ({ s with memories := s.memories.setIfInBounds i mem' }, mem.pageCount :: rest)
  | .memoryFill i =>
    let (length, stack) := popSlot stack
    let (value, stack) := popSlot stack
    let (target, rest) := popSlot stack
    match s.memories[i]? with
    | none => .error .memoryOutOfBounds
    | some mem =>
      if mem.inRange target length then
        .ok ({ s with memories := s.memories.modify i fun mem =>
                mem.fillBytes target (value % 256).toUInt8 length }, rest)
      else .error .memoryOutOfBounds
  | .memoryCopy i j =>
    let (length, stack) := popSlot stack
    let (source, stack) := popSlot stack
    let (target, rest) := popSlot stack
    match s.memories[j]? with
    | none => .error .memoryOutOfBounds
    | some mem =>
      if mem.inRange source length then
        (s.writeMemory i target (mem.readBytes source length)).map (·, rest)
      else .error .memoryOutOfBounds
  | .memoryInit i d =>
    let (length, stack) := popSlot stack
    let (source, stack) := popSlot stack
    let (target, rest) := popSlot stack
    let bytes := (s.datas[d]?).getD []
    if source + length ≤ bytes.length then
      (s.writeMemory i target ((bytes.drop source).take length)).map (·, rest)
    else .error .memoryOutOfBounds
  | .dataDrop d => .ok ({ s with datas := s.datas.setIfInBounds d [] }, stack)
  | _ => .ok (s, stack)

/-- An instruction on tables, after its operands are taken from the stack. -/
def State.tableInstr (s : State) (stack : List Nat) : Instr Nat → Except EngineTrap (State × List Nat)
  | .tableGet i =>
    let (index, rest) := popSlot stack
    match (s.tables[i]?).bind fun t => t.elements[index]? with
    | some r => .ok (s, r :: rest)
    | none => .error .tableOutOfBounds
  | .tableSet i =>
    let (r, stack) := popSlot stack
    let (index, rest) := popSlot stack
    (s.writeTable i index [r]).map (·, rest)
  | .tableSize i => .ok (s, (((s.tables[i]?).map Table.size).getD 0) :: stack)
  | .tableGrow i =>
    let (delta, stack) := popSlot stack
    let (r, rest) := popSlot stack
    match s.tables[i]? with
    | none => .ok (s, failedGrow :: rest)
    | some t =>
      match t.grow delta r with
      | none => .ok (s, failedGrow :: rest)
      | some t' => .ok ({ s with tables := s.tables.setIfInBounds i t' }, t.size :: rest)
  | .tableFill i =>
    let (length, stack) := popSlot stack
    let (r, stack) := popSlot stack
    let (index, rest) := popSlot stack
    match s.tables[i]? with
    | none => .error .tableOutOfBounds
    | some t =>
      if index + length ≤ t.size then
        (s.writeTable i index (List.replicate length r)).map (·, rest)
      else .error .tableOutOfBounds
  | .tableCopy i j =>
    let (length, stack) := popSlot stack
    let (source, stack) := popSlot stack
    let (target, rest) := popSlot stack
    match s.tables[j]? with
    | none => .error .tableOutOfBounds
    | some t =>
      if source + length ≤ t.size then
        (s.writeTable i target (t.read source length)).map (·, rest)
      else .error .tableOutOfBounds
  | .tableInit i e =>
    let (length, stack) := popSlot stack
    let (source, stack) := popSlot stack
    let (target, rest) := popSlot stack
    let refs := (s.elems[e]?).getD []
    if source + length ≤ refs.length then
      (s.writeTable i target ((refs.drop source).take length)).map (·, rest)
    else .error .tableOutOfBounds
  | .elemDrop e => .ok ({ s with elems := s.elems.setIfInBounds e [] }, stack)
  | _ => .ok (s, stack)

/-- Continues with a changed state and stack, or traps with the state as it was. -/
def Machine.continueWith (m : Machine) (rest : List Code) :
    Except EngineTrap (State × List Nat) → Signal
  | .ok (s, stack) => .running { m with frame := { m.frame with stack, code := rest }, state := s }
  | .error t => .trapped t m.state

/-- Continues with a changed stack. -/
def Machine.withStack (m : Machine) (rest : List Code) (stack : List Nat) : Signal :=
  .running { m with frame := { m.frame with stack, code := rest } }

/-- Executes a plain instruction; `rest` is the code after it. -/
def Machine.plain (p : Program) (m : Machine) (i : Instr Nat) (rest : List Code) : Signal :=
  let stack := m.frame.stack
  match i with
  | .unreachable => .trapped .unreachableCodeReached m.state
  | .br l => m.branch l
  | .brIf l =>
    let (c, below) := popSlot stack
    if c = 0 then m.withStack rest below
    else { m with frame := { m.frame with stack := below } }.branch l
  | .brTable ls d =>
    let (c, below) := popSlot stack
    { m with frame := { m.frame with stack := below } }.branch ((ls[c]?).getD d)
  | .return_ => m.leave
  | .call f =>
    match p.callees[f]? with
    | some c => { m with frame := { m.frame with code := rest } }.call c
    | none => .trapped .unreachableCodeReached m.state
  | .returnCall f =>
    match p.callees[f]? with
    | some c => m.tailCall c
    | none => .trapped .unreachableCodeReached m.state
  | .callIndirect t ty =>
    let (index, below) := popSlot stack
    match m.lookup p t ty index with
    | .ok c => { m with frame := { m.frame with stack := below, code := rest } }.call c
    | .error e => .trapped e m.state
  | .returnCallIndirect t ty =>
    let (index, below) := popSlot stack
    match m.lookup p t ty index with
    | .ok c => { m with frame := { m.frame with stack := below } }.tailCall c
    | .error e => .trapped e m.state
  | .drop => m.withStack rest (popSlot stack).2
  | .select _ =>
    let (c, stack) := popSlot stack
    let (y, stack) := popSlot stack
    let (x, below) := popSlot stack
    m.withStack rest ((if c = 0 then y else x) :: below)
  | .localGet k => m.withStack rest ((m.frame.locals[k]?).getD 0 :: stack)
  | .localSet k =>
    let (n, below) := popSlot stack
    .running { m with
      frame := { m.frame with
        locals := m.frame.locals.setIfInBounds k n, stack := below, code := rest } }
  | .localTee k =>
    let n := (popSlot stack).1
    .running { m with
      frame := { m.frame with locals := m.frame.locals.setIfInBounds k n, code := rest } }
  | .globalGet k => m.withStack rest ((m.state.globals[k]?).getD 0 :: stack)
  | .globalSet k =>
    let (n, below) := popSlot stack
    .running { m with
      frame := { m.frame with stack := below, code := rest }
      state := { m.state with globals := m.state.globals.setIfInBounds k n } }
  | .const v => m.withStack rest (v.slot :: stack)
  | .v128Const n => m.withStack rest (n :: stack)
  | .refNull _ => m.withStack rest (0 :: stack)
  | .refFunc f => m.withStack rest ((f + 1) :: stack)
  | .refIsNull =>
    let (n, below) := popSlot stack
    m.withStack rest (ofBool (n == 0) :: below)
  | .numeric op =>
    match op.apply stack with
    | .ok s => m.withStack rest s
    | .error t => .trapped t m.state
  | .load .. | .store .. | .memorySize _ | .memoryGrow _ | .memoryFill _ | .memoryCopy ..
  | .memoryInit .. | .dataDrop _ => m.continueWith rest (m.state.memoryInstr stack i)
  | .tableGet _ | .tableSet _ | .tableSize _ | .tableGrow _ | .tableFill _ | .tableCopy ..
  | .tableInit .. | .elemDrop _ => m.continueWith rest (m.state.tableInstr stack i)
  | _ => m.withStack rest stack

/-! ## 4. Steps -/

/-- One step of a machine. -/
def Machine.step (p : Program) (m : Machine) : Signal :=
  match m.frame.code with
  | [] =>
    match m.frame.labels with
    | [] => m.leave
    | l :: ls => .running { m with frame := { m.frame with code := l.rest, labels := ls } }
  | .plain i :: rest => m.plain p i rest
  | .block params results body :: rest => m.enterBlock params results body rest rest
  | .loop params results body :: rest =>
    m.enterBlock params params body (.loop params results body :: rest) rest
  | .cond params results yes no :: rest =>
    let (c, below) := popSlot m.frame.stack
    let m := { m with frame := { m.frame with stack := below } }
    m.enterBlock params results (if c = 0 then no else yes) rest rest

/-- The machine that calls one function and then stops. -/
def Machine.start (s : State) (func : Nat) (args : List Nat) (results : Nat) : Machine :=
  { frame := ⟨#[], args.reverse, [.plain (.call func)], [], results⟩, callers := [], depth := 0,
    state := s }

end Embedder.Wasm
