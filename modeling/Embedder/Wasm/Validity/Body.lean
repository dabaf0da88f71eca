import Embedder.Wasm.Validity.Context

/-!
# Valid code

The checker reads code once, keeping the types of the operands and a stack of the blocks around the
current instruction. After an instruction that never continues the operands of the block are unknown.
An unknown operand fits everywhere, and one that is only known to be a reference fits wherever a reference
does.
-/

namespace Embedder.Wasm

/-! ## 1. The state of the checker -/

/-- An operand: a type, or more or less unknown in code that is never reached. -/
inductive Operand where
  | known (t : ValType Nat)
  | unknown
  | unknownRef
  deriving DecidableEq, Repr, Inhabited

/-- Is the operand a reference for sure? -/
def Operand.isRef : Operand → Bool
  | .known (.ref _) | .unknownRef => true
  | _ => false

/-- The kinds of blocks. -/
inductive BlockKind where
  | function
  | block
  | loop
  | yes
  | no
  | handler
  deriving DecidableEq, Repr, Inhabited

/-- A block around the current instruction. -/
structure Control where
  kind : BlockKind
  params : List (ValType Nat)
  results : List (ValType Nat)
  /-- The operands below the block. -/
  height : Nat
  /-- The rest of the block is never reached. -/
  dead : Bool
  /-- The variables known to be set when the block began. -/
  known : List Nat
  deriving Repr, Inhabited

/-- The types that a branch to a block passes on. -/
def Control.labelTypes (k : Control) : List (ValType Nat) :=
  if k.kind == .loop then k.params else k.results

/-- What the checker knows at one point of the code. -/
structure Checker where
  operands : List Operand
  /-- The number of operands. -/
  size : Nat
  controls : List Control
  /-- Variables without a default that are set by now. -/
  known : List Nat
  deriving Repr, Inhabited

/-- The code being checked: the items around it, its variables, and whether it is a function. -/
structure Scope where
  context : Context
  locals : Array (ValType Nat)
  results : List (ValType Nat)
  deriving Inhabited

namespace Checker

/-! ## 2. Operands -/

/-- Adds an operand. -/
def push (k : Checker) (t : Operand) : Checker :=
  { k with operands := t :: k.operands, size := k.size + 1 }

/-- Adds operands of known types, the first one deepest. -/
def pushAll (k : Checker) (ts : List (ValType Nat)) : Checker :=
  ts.foldl (fun k t => k.push (.known t)) k

/-- The innermost block. -/
def top (k : Checker) : Check Control :=
  orFail k.controls.head? "operators remaining after end of function"

/-- Takes any operand of the current block. -/
def pop (k : Checker) : Check (Operand × Checker) := do
  let t ← k.top
  if k.size ≤ t.height then
    if t.dead then return (.unknown, k)
    else throw "type mismatch: expected a type but nothing on stack"
  else
    match k.operands with
    | [] => throw "type mismatch: nothing on stack"
    | o :: os => return (o, { k with operands := os, size := k.size - 1 })

/-- Takes an operand that may stand for a type. -/
def popType (k : Checker) (s : Scope) (t : ValType Nat) : Check Checker := do
  let (o, k) ← k.pop
  match o, t with
  | .unknown, _ | .unknownRef, .ref _ => return k
  | .known a, _ =>
    ensure (s.context.valSub a t) "type mismatch"
    return k
  | .unknownRef, _ => throw "type mismatch: unexpected reference"

/-- Takes operands of given types, the last one on top. -/
def popAll (k : Checker) (s : Scope) (ts : List (ValType Nat)) : Check Checker :=
  ts.reverse.foldlM (fun k t => k.popType s t) k

/-- Takes any reference; the first result is the operand for it if it is not null. -/
def popRef (k : Checker) : Check (Operand × Checker) := do
  let (o, k) ← k.pop
  match o with
  | .unknown | .unknownRef => return (.unknownRef, k)
  | .known (.ref r) => return (.known (.ref { r with nullable := false }), k)
  | .known _ => throw "type mismatch: expected a reference"

/-! ## 3. Blocks -/

/-- Opens a block whose parameters are already taken. -/
def openBlock (k : Checker) (kind : BlockKind) (params results : List (ValType Nat)) : Checker :=
  { k with controls := ⟨kind, params, results, k.size, false, k.known⟩ :: k.controls }.pushAll params

/-- Closes the innermost block, leaving exactly its results to be added. -/
def closeBlock (k : Checker) (s : Scope) : Check (Control × Checker) := do
  let t ← k.top
  let k ← k.popAll s t.results
  ensure (k.size == t.height) "type mismatch: values remaining on stack at end of block"
  return (t, { k with controls := k.controls.tail, known := t.known })

/-- Marks the rest of the innermost block as never reached. -/
def die (k : Checker) : Check Checker := do
  let t ← k.top
  return { k with
    operands := k.operands.drop (k.size - t.height)
    size := min k.size t.height
    controls := { t with dead := true } :: k.controls.tail }

/-- The block that a label means. -/
def label (k : Checker) (l : Nat) : Check Control :=
  orFail k.controls[l]? "unknown label: branch depth too large"

end Checker

/-- The types of a block. -/
def Scope.blockTypes (s : Scope) : BlockType Nat → Check (List (ValType Nat) × List (ValType Nat))
  | .empty => .ok ([], [])
  | .value t => do
    s.context.checkVal s.context.types.size t
    return ([], [t])
  | .type i => do
    let t ← s.context.funcType i
    return (t.params, t.results)

/-! ## 4. Instructions -/

/-- Types of operands to take and to add. -/
def Checker.apply (k : Checker) (s : Scope) (params results : List (ValType Nat)) : Check Checker := do
  let k ← k.popAll s params
  return k.pushAll results

/-- The type of a table. -/
def Scope.table (s : Scope) (i : Nat) : Check (TableType Nat) :=
  orFail s.context.tables[i]? s!"unknown table {i}: table index out of bounds"

/-- Checks that there is a memory. -/
def Scope.memory (s : Scope) (i : Nat) : Check Unit := do
  let _ ← orFail s.context.memories[i]? s!"unknown memory {i}"

/-- Checks the place of a memory access of `bytes` bytes. -/
def Scope.memArg (s : Scope) (bytes : Nat) (a : MemArg Nat) : Check Unit := do
  s.memory a.memory
  ensure (Number.pow2 a.alignLog2 ≤ bytes) "alignment must not be larger than natural"
  ensure (a.offset < Number.pow2 32) "offset out of range: must be <= 2**32"

/-- Checks that there is a data segment announced before the code. -/
def Scope.data (s : Scope) (i : Nat) : Check Unit :=
  match s.context.datas with
  | none => .error "data count section required"
  | some n => ensure (i < n) s!"unknown data segment {i}"

/-- The type of an element segment. -/
def Scope.elem (s : Scope) (i : Nat) : Check (RefType Nat) :=
  orFail s.context.elems[i]? s!"unknown elem segment {i}: segment index out of bounds"

/-- The type of a variable. -/
def Scope.local (s : Scope) (i : Nat) : Check (ValType Nat) :=
  orFail s.locals[i]? s!"unknown local {i}: local index out of bounds"

/-- The type of a global. -/
def Scope.global (s : Scope) (i : Nat) : Check (GlobalType Nat) :=
  orFail s.context.globals[i]? s!"unknown global {i}: global index out of bounds"

/-- Checks that a tail call returns what the function returns. -/
def Scope.tailResults (s : Scope) (results : List (ValType Nat)) : Check Unit :=
  ensure (s.context.valsSub results s.results) "type mismatch: tail call returns other types"

/-- Checks the clauses of a handler against the blocks around it. -/
def Checker.checkCatch (k : Checker) (s : Scope) : Catch Nat → Check Unit
  | .tag t l => do
    let f ← s.context.funcType (← orFail s.context.tags[t]? s!"unknown tag {t}")
    let c ← k.label l
    ensure (s.context.valsSub f.params c.labelTypes) "type mismatch in catch"
  | .tagRef t l => do
    let f ← s.context.funcType (← orFail s.context.tags[t]? s!"unknown tag {t}")
    let c ← k.label l
    ensure (s.context.valsSub (f.params ++ [.ref ⟨true, .exn⟩]) c.labelTypes) "type mismatch in catch"
  | .all l => do
    let c ← k.label l
    ensure c.labelTypes.isEmpty "type mismatch in catch_all"
  | .allRef l => do
    let c ← k.label l
    ensure (s.context.valsSub [.ref ⟨true, .exn⟩] c.labelTypes) "type mismatch in catch_all_ref"

/-- The branches of a branch table: all take the same number of operands, and each one's types fit. -/
def Checker.branchTable (k : Checker) (s : Scope) (arity : Nat) : List Nat → Check Checker
  | [] => .ok k
  | l :: ls => do
    let c ← k.label l
    ensure (c.labelTypes.length == arity) "type mismatch: br_table target labels have different number of types"
    let _ ← k.popAll s c.labelTypes
    k.branchTable s arity ls

/-- Checks an instruction of control. -/
def Checker.control (k : Checker) (s : Scope) : Instr Nat → Check Checker
  | .block t => do
    let (ps, rs) ← s.blockTypes t
    return (← k.popAll s ps).openBlock .block ps rs
  | .loop t => do
    let (ps, rs) ← s.blockTypes t
    return (← k.popAll s ps).openBlock .loop ps rs
  | .if_ t => do
    let (ps, rs) ← s.blockTypes t
    let k ← k.popType s .i32
    return (← k.popAll s ps).openBlock .yes ps rs
  | .tryTable t catches => do
    ensure s.context.features.exceptions "exceptions support is not enabled"
    let (ps, rs) ← s.blockTypes t
    let k ← k.popAll s ps
    catches.forM (k.checkCatch s)
    return k.openBlock .handler ps rs
  | .else_ => do
    let (t, k) ← k.closeBlock s
    ensure (t.kind == .yes) "else found outside of an if block"
    return k.openBlock .no t.params t.results
  | .end_ => do
    let (t, k) ← k.closeBlock s
    if t.kind == .yes then
      -- A missing branch passes the parameters on.
      let (_, _) ← (k.openBlock .no t.params t.results).closeBlock s
    return k.pushAll t.results
  | .br l => do
    let c ← k.label l
    (← k.popAll s c.labelTypes).die
  | .brIf l => do
    let k ← k.popType s .i32
    let c ← k.label l
    return (← k.popAll s c.labelTypes).pushAll c.labelTypes
  | .brTable ls d => do
    let k ← k.popType s .i32
    let c ← k.label d
    let k ← k.branchTable s c.labelTypes.length ls
    (← k.popAll s c.labelTypes).die
  | .return_ => do (← k.popAll s s.results).die
  | .call f => do
    let t ← s.context.typeOfFunc f
    k.apply s t.params t.results
  | .callIndirect table type => do
    let t ← s.table table
    ensure (s.context.refSub t.element .funcref) "indirect calls must go through a table of functions"
    let f ← s.context.funcType type
    (← k.popType s .i32).apply s f.params f.results
  | .callRef type => do
    ensure s.context.features.typedReferences "function references are not enabled"
    let f ← s.context.funcType type
    (← k.popType s (.ref ⟨true, .concrete type⟩)).apply s f.params f.results
  | .returnCall f => do
    let t ← s.context.typeOfFunc f
    s.tailResults t.results
    (← k.popAll s t.params).die
  | .returnCallIndirect table type => do
    let t ← s.table table
    ensure (s.context.refSub t.element .funcref) "indirect calls must go through a table of functions"
    let f ← s.context.funcType type
    s.tailResults f.results
    (← (← k.popType s .i32).popAll s f.params).die
  | .returnCallRef type => do
    ensure s.context.features.typedReferences "function references are not enabled"
    let f ← s.context.funcType type
    s.tailResults f.results
    (← (← k.popType s (.ref ⟨true, .concrete type⟩)).popAll s f.params).die
  | .throw tag => do
    ensure s.context.features.exceptions "exceptions support is not enabled"
    let f ← s.context.funcType (← orFail s.context.tags[tag]? s!"unknown tag {tag}")
    (← k.popAll s f.params).die
  | .throwRef => do
    ensure s.context.features.exceptions "exceptions support is not enabled"
    (← k.popType s (.ref ⟨true, .exn⟩)).die
  | .brOnNull l => do
    ensure s.context.features.typedReferences "function references are not enabled"
    let (r, k) ← k.popRef
    let c ← k.label l
    return ((← k.popAll s c.labelTypes).pushAll c.labelTypes).push r
  | .brOnNonNull l => do
    ensure s.context.features.typedReferences "function references are not enabled"
    let c ← k.label l
    match c.labelTypes.getLast? with
    | some (.ref r) =>
      let k ← k.popType s (.ref { r with nullable := true })
      let others := c.labelTypes.dropLast
      return (← k.popAll s others).pushAll others
    | _ => throw "type mismatch: br_on_non_null to a label without a reference at its end"
  | .unreachable => k.die
  | _ => .ok k

/-- Marks a variable as set. -/
def Checker.know (k : Checker) (i : Nat) : Checker := { k with known := i :: k.known }

/-- Checks an instruction on variables, globals and references. -/
def Checker.variable (k : Checker) (s : Scope) : Instr Nat → Check Checker
  | .localGet i => do
    let t ← s.local i
    ensure (t.isDefaultable || k.known.contains i) s!"uninitialized local: {i}"
    return k.push (.known t)
  | .localSet i => do
    let t ← s.local i
    return (← k.popType s t).know i
  | .localTee i => do
    let t ← s.local i
    return ((← k.popType s t).push (.known t)).know i
  | .globalGet i => do
    let g ← s.global i
    return k.push (.known g.content)
  | .globalSet i => do
    let g ← s.global i
    ensure g.mutable "global is immutable: cannot modify it with global.set"
    k.popType s g.content
  | .refNull h => do
    s.context.checkHeap h
    return k.push (.known (.ref ⟨true, h⟩))
  | .refIsNull => do
    let (_, k) ← k.popRef
    return k.push (.known .i32)
  | .refFunc f => do
    let t ← orFail s.context.funcs[f]? s!"unknown function {f}: function index out of bounds"
    ensure (s.context.declared.contains f) "undeclared function reference"
    return k.push (.known (.ref ⟨false, .concrete t⟩))
  | .refAsNonNull => do
    ensure s.context.features.typedReferences "function references are not enabled"
    let (r, k) ← k.popRef
    return k.push r
  | .refEq => do
    ensure s.context.features.garbageCollection "gc support is not enabled"
    k.apply s [.ref ⟨true, .eq⟩, .ref ⟨true, .eq⟩] [.i32]
  | .refI31 => do
    ensure s.context.features.garbageCollection "gc support is not enabled"
    k.apply s [.i32] [.ref ⟨false, .i31⟩]
  | .i31Get _ => do
    ensure s.context.features.garbageCollection "gc support is not enabled"
    k.apply s [.ref ⟨true, .i31⟩] [.i32]
  | _ => .ok k

/-- Checks an instruction on tables and memories. -/
def Checker.storage (k : Checker) (s : Scope) : Instr Nat → Check Checker
  | .tableGet i => do
    let t ← s.table i
    k.apply s [.i32] [.ref t.element]
  | .tableSet i => do
    let t ← s.table i
    k.apply s [.i32, .ref t.element] []
  | .tableSize i => do
    let _ ← s.table i
    return k.push (.known .i32)
  | .tableGrow i => do
    let t ← s.table i
    k.apply s [.ref t.element, .i32] [.i32]
  | .tableFill i => do
    let t ← s.table i
    k.apply s [.i32, .ref t.element, .i32] []
  | .tableCopy i j => do
    let target ← s.table i
    let source ← s.table j
    ensure (s.context.refSub source.element target.element) "type mismatch: tables"
    k.apply s [.i32, .i32, .i32] []
  | .tableInit i e => do
    let t ← s.table i
    let r ← s.elem e
    ensure (s.context.refSub r t.element) "type mismatch: table and segment"
    k.apply s [.i32, .i32, .i32] []
  | .elemDrop e => do
    let _ ← s.elem e
    return k
  | .load op a => do
    s.memArg op.bytes a
    k.apply s [.i32] [.num op.type]
  | .store op a => do
    s.memArg op.bytes a
    k.apply s [.i32, .num op.type] []
  | .memorySize i => do
    s.memory i
    return k.push (.known .i32)
  | .memoryGrow i => do
    s.memory i
    k.apply s [.i32] [.i32]
  | .memoryFill i => do
    s.memory i
    k.apply s [.i32, .i32, .i32] []
  | .memoryCopy i j => do
    s.memory i
    s.memory j
    k.apply s [.i32, .i32, .i32] []
  | .memoryInit i d => do
    s.memory i
    s.data d
    k.apply s [.i32, .i32, .i32] []
  | .dataDrop d => do
    s.data d
    return k
  | _ => .ok k

/-- Checks a choice between two operands without a type given: both are numbers or vectors of one
    type. -/
def Checker.selectUntyped (k : Checker) (s : Scope) : Check Checker := do
  let k ← k.popType s .i32
  let (b, k) ← k.pop
  let (a, k) ← k.pop
  ensure (!a.isRef && !b.isRef) "type mismatch: select only takes integral types"
  if a = .unknown then return k.push b
  ensure (b == .unknown || a == b) "type mismatch: select operands have different types"
  return k.push a

/-- Checks one instruction. -/
def Checker.instr (k : Checker) (s : Scope) (i : Instr Nat) : Check Checker := do
  let _ ← k.top
  match i with
  | .nop => return k
  | .drop => return (← k.pop).2
  | .select none => k.selectUntyped s
  | .select (some ts) =>
    match ts with
    | [t] => do
      s.context.checkVal s.context.types.size t
      k.apply s [t, t, .i32] [t]
    | _ => throw "invalid result arity"
  | .const v => return k.push (.known (.num v.type))
  | .v128Const _ => return k.push (.known .v128)
  | .numeric op => k.apply s (op.params.map .num) [.num op.result]
  | .localGet _ | .localSet _ | .localTee _ | .globalGet _ | .globalSet _ | .refNull _ | .refIsNull
  | .refFunc _ | .refAsNonNull | .refEq | .refI31 | .i31Get _ => k.variable s i
  | .tableGet _ | .tableSet _ | .tableSize _ | .tableGrow _ | .tableFill _ | .tableCopy ..
  | .tableInit .. | .elemDrop _ | .load .. | .store .. | .memorySize _ | .memoryGrow _
  | .memoryFill _ | .memoryCopy .. | .memoryInit .. | .dataDrop _ => k.storage s i
  | _ => k.control s i

/-! ## 5. Bodies -/

/-- Checks code from an initial block on; all blocks must be closed by its end. -/
def Scope.checkCode (s : Scope) (code : Expr) (known : List Nat) : Check Unit := do
  let start : Checker := ⟨[], 0, [⟨.function, [], s.results, 0, false, known⟩], known⟩
  let k ← code.foldlM (fun k i => k.instr s i) start
  ensure k.controls.isEmpty "control frames remain at end of function: END opcode expected"

/-- The greatest number of variables of a function. -/
def maxLocals : Nat := 50000

/-- Checks the body of a function of a type. -/
def Context.checkBody (c : Context) (t : FuncType Nat) (b : Body) : Check Unit := do
  ensure (t.params.length + b.localCount ≤ maxLocals) "too many locals"
  b.locals.forM fun (_, t) => c.checkVal c.types.size t
  let locals := t.params ++ b.locals.flatMap fun (n, t) => List.replicate n t
  Scope.checkCode ⟨c, locals.toArray, t.results⟩ b.code (List.range t.params.length)

end Embedder.Wasm
