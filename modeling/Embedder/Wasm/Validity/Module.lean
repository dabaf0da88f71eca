import Embedder.Wasm.Validity.Body

/-!
# Valid modules

A module is valid if its types are well formed, its items refer to items that exist, its constant
expressions are constant and of the right type, and its function bodies are valid. `Module.check` is
that test under a set of features, whoever checks the bodies.
-/

namespace Embedder.Wasm

/-! ## 1. Constant expressions -/

/-- Checks that an instruction may stand in a constant expression. A global that is read must be
    immutable and imported or, with garbage collection, defined before. -/
def Context.constInstr (c : Context) : Instr Nat → Check Unit
  | .const .. | .v128Const _ | .refNull _ | .refFunc _ | .end_ => .ok ()
  | .numeric (.intBinary _ op) =>
    ensure (op == .add || op == .sub || op == .mul) "constant expression required"
  | .globalGet i => do
    let g ← orFail c.globals[i]? s!"unknown global {i}: global index out of bounds"
    ensure (!g.mutable) "constant expression required: global.get of mutable global"
    ensure (i < c.importedGlobals || c.features.garbageCollection)
      "constant expression required: global.get of locally defined global"
  | .refI31 => ensure c.features.garbageCollection "gc support is not enabled"
  | _ => .error "constant expression required: non-constant operator"

/-- Checks a constant expression of a type. -/
def Context.checkConst (c : Context) (t : ValType Nat) (e : Expr) : Check Unit := do
  e.forM c.constInstr
  Scope.checkCode ⟨c, #[], [t]⟩ e []

/-- The functions that an expression takes references to. -/
def Expr.funcRefs (e : Expr) : List Nat :=
  e.filterMap fun i => match i with | .refFunc f => some f | _ => none

/-! ## 2. Types -/

/-- The greatest number of parameters, and of results, of a function. -/
def maxArity : Nat := 1000

/-- Checks a function type; types up to `bound` may be named. -/
def Context.checkFuncType (c : Context) (bound : Nat) (t : FuncType Nat) : Check Unit := do
  ensure (t.params.length ≤ maxArity) "function params size is out of bounds"
  ensure (t.results.length ≤ maxArity) "function results size is out of bounds"
  t.params.forM (c.checkVal bound)
  t.results.forM (c.checkVal bound)

/-- Checks the type of a field. -/
def Context.checkField (c : Context) (bound : Nat) (f : FieldType Nat) : Check Unit :=
  match f.storage with
  | .val t => c.checkVal bound t
  | _ => .ok ()

/-- Checks one defined type: the type with index `index` of a group that ends before `bound`. -/
def Context.checkSubType (c : Context) (bound : Nat) (t : SubType Nat × Nat) : Check Unit := do
  let (s, index) := t
  ensure ((s.final && s.supers.isEmpty) || c.features.garbageCollection) "gc proposal must be enabled to use subtypes"
  ensure (s.supers.length ≤ 1) "multiple supertypes"
  match s.composite with
  | .func f => c.checkFuncType bound f
  | .struct fs => do
    ensure c.features.garbageCollection "struct indexed types not supported without the gc feature"
    fs.forM (c.checkField bound)
  | .array f => do
    ensure c.features.garbageCollection "array indexed types not supported without the gc feature"
    c.checkField bound f
  s.supers.forM fun k => do
    ensure (k < index) s!"unknown type {k}: type index out of bounds"
    let sup ← orFail c.types[k]? s!"unknown type {k}"
    ensure (!sup.final) "sub type cannot have a final super type"
    ensure (c.compositeSub s.composite sup.composite) "sub type must match super type"

/-- Checks groups of types, the first of them starting at index `start`. -/
def Context.checkGroups (c : Context) (start : Nat) : List (RecGroup Nat) → Check Unit
  | [] => .ok ()
  | g :: gs => do
    ensure (!g.explicit || c.features.garbageCollection) "rec group usage requires gc proposal to be enabled"
    let bound := start + g.types.length
    -- A type defined alone may name itself only as part of a group of its own.
    (g.types.zipIdx start).forM (c.checkSubType bound)
    c.checkGroups bound gs

/-- Checks that a least size does not exceed the greatest. -/
def Limits.check (l : Limits) : Check Unit :=
  ensure (l.maximum.all fun m => l.minimum ≤ m) "size minimum must not be greater than maximum"

/-- The greatest size, in pages, of a memory. -/
def memoryLimit : Nat := 65536

/-- The greatest number of elements that a table may start with. -/
def tableLimit : Nat := 10000000

/-- The greatest number of memories and of tables. -/
def itemLimit : Nat := 100

/-- Checks the type of a memory. -/
def MemoryType.check (t : MemoryType) : Check Unit := do
  ensure (!t.wide) "memory64 must be enabled for 64-bit memories"
  ensure (!t.customPage) "the custom page sizes proposal must be enabled"
  t.limits.check
  ensure (t.limits.minimum ≤ memoryLimit) "memory size must be at most 65536 pages (4GiB)"
  ensure (t.limits.maximum.all fun m => m ≤ memoryLimit) "memory size must be at most 65536 pages (4GiB)"
  ensure (!t.shared || t.limits.maximum.isSome) "shared memory must have maximum size"

/-- Checks the type of a table. -/
def Context.checkTable (c : Context) (t : TableType Nat) : Check Unit := do
  c.checkRef c.types.size t.element
  ensure (!t.wide) "memory64 must be enabled for 64-bit tables"
  ensure (!t.shared) "shared tables require the shared-everything-threads proposal"
  t.limits.check
  ensure (t.limits.minimum ≤ tableLimit) "minimum table size is out of bounds"
  ensure (t.limits.maximum.all fun m => m < Number.pow2 32) "maximum table size is out of bounds"

/-- Checks the type of a global. -/
def Context.checkGlobal (c : Context) (t : GlobalType Nat) : Check Unit := do
  ensure (!t.shared) "shared globals require the shared-everything-threads proposal"
  c.checkVal c.types.size t.content

/-- Checks the type of a tag. -/
def Context.checkTag (c : Context) (type : Nat) : Check Unit := do
  ensure c.features.exceptions "exceptions proposal not enabled"
  let t ← c.funcType type
  ensure t.results.isEmpty "invalid exception type: non-empty tag result type"

/-! ## 3. Items -/

/-- Checks an import. -/
def Context.checkImport (c : Context) (i : Import) : Check Unit :=
  match i.kind with
  | .func t => do let _ ← c.funcType t
  | .table t => c.checkTable t
  | .memory t => t.check
  | .global t => c.checkGlobal t
  | .tag t => c.checkTag t

/-- Checks the item behind an export. -/
def Context.checkExport (c : Context) (e : Export) : Check Unit :=
  match e.kind with
  | .func i => ensure (i < c.funcs.size) s!"unknown function {i}: exported function index out of bounds"
  | .table i => ensure (i < c.tables.size) s!"unknown table {i}: exported table index out of bounds"
  | .memory i => ensure (i < c.memories.size) s!"unknown memory {i}: exported memory index out of bounds"
  | .global i => ensure (i < c.globals.size) s!"unknown global {i}: exported global index out of bounds"
  | .tag i => ensure (i < c.tags.size) s!"unknown tag {i}: exported tag index out of bounds"

/-- Checks a defined table: its first elements need an expression if they cannot be null. -/
def Context.checkTableDef (c : Context) (t : TableDef) : Check Unit := do
  c.checkTable t.type
  match t.init with
  | none => ensure t.type.element.nullable "type mismatch: non-defaultable element type must have initialization expression"
  | some e => do
    ensure c.features.typedReferences "tables with expression initializers require the function-references proposal"
    c.checkConst (.ref t.type.element) e

/-- Checks defined globals, the first `seen` globals being usable. -/
def Context.checkGlobals (c : Context) (all : Array (GlobalType Nat)) (seen : Nat) :
    List GlobalDef → Check Unit
  | [] => .ok ()
  | g :: gs => do
    c.checkGlobal g.type
    { c with globals := all.take seen }.checkConst g.type.content g.init
    c.checkGlobals all (seen + 1) gs

/-- The type of the references in an element segment: functions that are listed are never null. -/
def Elem.type (e : Elem) : RefType Nat :=
  match e.items with
  | .funcs _ => ⟨false, .func⟩
  | .exprs t _ => t

/-- Checks an element segment. -/
def Context.checkElem (c : Context) (e : Elem) : Check Unit := do
  match e.items with
  | .funcs _ => pure ()
  | .exprs t _ => c.checkRef c.types.size t
  match e.mode with
  | .active i offset => do
    let t ← orFail c.tables[i]? s!"unknown table {i}: table index out of bounds"
    ensure (c.refSub e.type t.element) "type mismatch: element segment and table"
    c.checkConst .i32 offset
  | _ => .ok ()
  match e.items with
  | .funcs is => is.forM fun i => ensure (i < c.funcs.size) s!"unknown function {i}: function index out of bounds"
  | .exprs t es => es.forM (c.checkConst (.ref t))

/-- Checks a data segment. -/
def Context.checkData (c : Context) (d : Data) : Check Unit :=
  match d.mode with
  | .active i offset => do
    let _ ← orFail c.memories[i]? s!"unknown memory {i}: memory index out of bounds"
    c.checkConst .i32 offset
  | _ => .ok ()

/-- Checks that the start function takes and returns nothing. -/
def Context.checkStart (c : Context) (f : Nat) : Check Unit := do
  let t ← c.typeOfFunc f
  ensure (t.params.isEmpty && t.results.isEmpty) "invalid start function type"

/-! ## 4. Modules -/

/-- The functions that code may take references to: those named in exports, element segments and
    constant expressions. -/
def Module.declared {β : Type} (m : Module β) : List Nat :=
  let exported := m.exports.filterMap fun e => match e.kind with | .func i => some i | _ => none
  let inElems := m.elems.flatMap fun e =>
    match e.items with
    | .funcs is => is
    | .exprs _ es => es.flatMap Expr.funcRefs
  let inGlobals := m.globals.flatMap fun g => Expr.funcRefs g.init
  let inTables := m.tables.flatMap fun t => (t.init.map Expr.funcRefs).getD []
  exported ++ inElems ++ inGlobals ++ inTables

/-- The context of a module's code. -/
def Module.context {β : Type} (m : Module β) (features : Features) : Context where
  features
  types := m.typeList.toArray
  representatives := representativesFrom [] #[] m.types
  funcs := m.funcIndices.toArray
  tables := m.tableTypes.toArray
  memories := m.memoryTypes.toArray
  globals := m.globalTypes.toArray
  importedGlobals := m.importedGlobals.length
  tags := m.tagIndices.toArray
  elems := (m.elems.map Elem.type).toArray
  datas := m.dataCount
  declared := m.declared

/-- The names that occur more than once, in order of their second occurrence. -/
def repeatedNames (seen : List String) : List String → List String
  | [] => []
  | s :: ss => if seen.contains s then s :: repeatedNames seen ss else repeatedNames (s :: seen) ss

/-- Checks a module under a set of features, given a check of the bodies. -/
def Module.check {β : Type} (m : Module β) (checkBody : Context → FuncType Nat → β → Check Unit)
    (features : Features) : Check Unit := do
  let c := m.context features
  ensure (!m.foreign) "the module uses forms that are not supported"
  c.checkGroups 0 m.types
  m.imports.forM c.checkImport
  m.funcs.forM fun t => do let _ ← c.funcType t
  m.tables.forM c.checkTableDef
  m.memories.forM MemoryType.check
  ensure (c.memories.size ≤ itemLimit) "memories count exceeds limit"
  ensure (c.tables.size ≤ itemLimit) "tables count exceeds limit"
  m.tags.forM c.checkTag
  c.checkGlobals c.globals c.importedGlobals m.globals
  m.exports.forM c.checkExport
  ensure (repeatedNames [] (m.exports.map Export.name)).isEmpty "duplicate export name already defined"
  m.start.forM c.checkStart
  m.elems.forM c.checkElem
  ensure (m.dataCount.all fun n => n == m.datas.length) "data count and data section have inconsistent lengths"
  ensure (m.funcs.length == m.bodies.length) "function and code section have inconsistent lengths"
  (m.funcs.zip m.bodies).forM fun (t, b) => do checkBody c (← c.funcType t) b
  m.datas.forM c.checkData

end Embedder.Wasm
