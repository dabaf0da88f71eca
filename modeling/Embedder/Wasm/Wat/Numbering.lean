import Embedder.Wasm.Binary.Names
import Embedder.Wasm.Traverse
import Embedder.Wasm.Wat.Document

/-!
# From names to numbers

In module text items are referred to by name or by number, and function types may be written where
they are used. `Module.ofFields` replaces every name by the number of its item and collects the
function types: those defined come first, then those only written out, each once, in the order of
their first use.

A complaint points at the name that is unknown or defined twice, at the reference to a function type
that is not the one written beside it, or at an import that comes too late.
-/

namespace Embedder.Wasm.Wat

/-! ## 1. Function types written out -/

/-- A function type as it identifies itself: its references without their places. -/
abbrev Key := FuncType Target

/-- The key of a function type. -/
def keyOf (t : FuncType Ref) : Key := Id.run (traverseFunc (fun r => pure r.target) t)

/-- The function type of a type written out. -/
def Inline.type (t : Inline) : FuncType Ref := ⟨t.params.map Prod.snd, t.results⟩

/-- The function type that a use writes out: the empty one if it writes none. -/
def TypeUse.written (u : TypeUse) : FuncType Ref := (u.inline.map Inline.type).getD ⟨[], []⟩

/-- The key that a use of a type has to find, unless it refers to a type. -/
def TypeUse.keys (u : TypeUse) : List Key := if u.index.isSome then [] else [keyOf u.written]

/-- Does a block of this type need a function type? -/
def TypeUse.isLong (u : TypeUse) : Bool :=
  u.index.isSome || !u.written.params.isEmpty || 1 < u.written.results.length

/-- The keys that an instruction has to find. -/
def Line.keys : Line → List Key
  | .block _ _ u | .handler _ u _ => if u.isLong then u.keys else []
  | .callIndirect _ _ u => u.keys
  | _ => []

/-- The keys that code has to find. -/
def codeKeys (code : List Line) : List Key := code.flatMap Line.keys

/-- The keys that the items of a segment have to find. -/
def Items.keys : Items → List Key
  | .funcs _ => []
  | .exprs _ es => es.flatMap codeKeys

/-- The keys that a segment's mode has to find. -/
def Mode.keys : Mode → List Key
  | .active _ offset => codeKeys offset
  | _ => []

/-- The keys that what an import wants has to find. -/
def Wanted.keys : Wanted → List Key
  | .func u | .tag u => u.keys
  | _ => []

/-- The keys that a field has to find, in order. -/
def Field.keys : Field → List Key
  | .imports _ _ items type =>
    items.flatMap (fun i => (i.type.map Wanted.keys).getD []) ++ (type.map Wanted.keys).getD []
  | .item _ _ _ i =>
    match i with
    | .imported _ _ w => w.keys
    | .func u _ code => u.keys ++ codeKeys code
    | .table _ init => codeKeys (init.getD [])
    | .filledTable _ _ _ items => items.keys
    | .global _ init => codeKeys init
    | .tag u => u.keys
    | _ => []
  | .elem _ mode items => mode.keys ++ items.keys
  | .data _ mode _ => mode.keys
  | _ => []

/-- The keys of the types that fields define; a type that is no function has none. -/
def definedKeys (fields : List Field) : List (Option Key) :=
  fields.flatMap fun f =>
    match f with
    | .types _ defs =>
      defs.map fun d => match d.type.composite with | .func t => some (keyOf t) | _ => none
    | _ => []

/-- The keys found in neither list yet, each once, in order. -/
def newKeys (known : List (Option Key)) (keys : List Key) : List Key :=
  (keys.foldl (fun (new : List Key) k =>
    if known.contains (some k) || new.contains k then new else k :: new) []).reverse

/-! ## 2. Numbers of items -/

/-- The kinds of things that have numbers. -/
inductive Space where
  | type
  | item (kind : ItemKind)
  | elem
  | data
  deriving DecidableEq, Repr, Inhabited

/-- The words for a kind of things in complaints. -/
def Space.text : Space → String
  | .type => "type"
  | .item k => k.keyword
  | .elem => "elem"
  | .data => "data"

/-- The kind of what an import wants. -/
def Wanted.kind : Wanted → ItemKind
  | .func _ => .func
  | .table _ => .table
  | .memory _ => .memory
  | .global _ => .global
  | .tag _ => .tag

/-- The kind of an item. -/
def Item.kind : Item → ItemKind
  | .imported _ _ w => w.kind
  | .func .. => .func
  | .table .. | .filledTable .. => .table
  | .memory _ | .filledMemory .. => .memory
  | .global .. => .global
  | .tag _ => .tag

/-- The definition of something: its kind, its name, and the names of its fields. -/
structure Definition where
  space : Space
  name : Option Name := none
  fields : List Name := []
  deriving DecidableEq, Repr, Inhabited

/-- What a field defines, in order. -/
def Field.definitions : Field → List Definition
  | .types _ defs => defs.map fun d => ⟨.type, d.name, d.fields⟩
  | .item _ name _ i =>
    ⟨.item i.kind, name, []⟩ ::
      match i with
      | .filledTable .. => [⟨.elem, none, []⟩]
      | .filledMemory .. => [⟨.data, none, []⟩]
      | _ => []
  | .imports _ _ items type =>
    items.filterMap fun i => (i.type <|> type).map fun w => ⟨.item w.kind, i.name, []⟩
  | .elem name _ _ => [⟨.elem, name, []⟩]
  | .data name _ _ => [⟨.data, name, []⟩]
  | _ => []

/-- A named thing and its number. -/
structure Entry where
  space : Space
  name : String
  number : Nat
  deriving DecidableEq, Repr, Inhabited

/-- The number of a name. -/
def findEntry (entries : List Entry) (s : Space) (name : String) : Option Nat :=
  (entries.find? fun e => e.name == name && e.space == s).map Entry.number

/-- The complaint about a name that is defined twice. -/
def duplicate (what : String) (n : Name) : Complaint := ⟨"duplicate " ++ what ++ " identifier", n.place⟩

/-- Checks that the names of fields differ; `seen` are those before. -/
def checkFields (seen : List String) : List Name → Except Complaint Unit
  | [] => .ok ()
  | n :: rest =>
    if seen.contains n.text then .error (duplicate "field" n) else checkFields (n.text :: seen) rest

/-- Numbers definitions in order, each kind from zero; `seen` are the kinds of the definitions before. -/
def numberFrom (seen : List Space) (entries : List Entry) :
    List Definition → Except Complaint (List Entry)
  | [] => .ok entries
  | d :: rest => do
    let entries ←
      match d.name with
      | none => pure entries
      | some n =>
        if (findEntry entries d.space n.text).isSome then throw (duplicate d.space.text n)
        else pure (⟨d.space, n.text, seen.count d.space⟩ :: entries)
    checkFields [] d.fields
    numberFrom (d.space :: seen) entries rest

/-- The numbers of all names, and the keys of all types. -/
structure Env where
  entries : List Entry
  types : List (Option Key)
  deriving Inhabited

/-- The complaint about an unknown name. -/
def unknown (what name : String) (place : Nat) : Complaint :=
  ⟨"unknown " ++ what ++ ": failed to find name `$" ++ name ++ "`", place⟩

namespace Env

/-- The number that a reference means. -/
def resolve (env : Env) (s : Space) (r : Ref) : Except Complaint Nat :=
  match r.target with
  | .number n => .ok n
  | .name n =>
    match findEntry env.entries s n with
    | some k => .ok k
    | none => .error (unknown s.text n r.place)

/-- A value type with its reference resolved. -/
def val (env : Env) : ValType Ref → Except Complaint (ValType Nat) := traverseVal (env.resolve .type)

/-- A reference type with its reference resolved. -/
def refOf (env : Env) : RefType Ref → Except Complaint (RefType Nat) := traverseRef (env.resolve .type)

/-- A function type with its references resolved. -/
def func (env : Env) : FuncType Ref → Except Complaint (FuncType Nat) := traverseFunc (env.resolve .type)

/-- The number of a name without a complaint. -/
def target (env : Env) : Target → Option Nat
  | .number n => some n
  | .name n => findEntry env.entries .type n

/-- The function type with a number, as far as it can be told. -/
def keyType (env : Env) (i : Nat) : Option (FuncType Nat) :=
  ((env.types[i]?).join).bind (traverseFunc env.target)

/-- The number of the type that a use means. A type written beside a reference has to be the type
    referred to. -/
def use (env : Env) (u : TypeUse) : Except Complaint Nat := do
  match u.index with
  | some r =>
    let i ← env.resolve .type r
    match u.inline with
    | none => return i
    | some t =>
      let t ← env.func t.type
      if env.keyType i = some t then return i
      else throw ⟨"inline function type doesn't match type reference", r.place⟩
  | none =>
    let _ ← env.func u.written
    return (env.types.findIdx? fun k => k == some (keyOf u.written)).getD 0

/-- The type of a block. -/
def blockType (env : Env) (u : TypeUse) : Except Complaint (BlockType Nat) := do
  if u.isLong then return .type (← env.use u)
  else
    match u.written.results with
    | [] => return .empty
    | t :: _ => return .value (← env.val t)

/-! ## 3. Code -/

/-- A function's code being resolved: the names of its variables. -/
structure Body where
  env : Env
  locals : List (String × Nat)
  deriving Inhabited

namespace Body

/-- The number of a variable. -/
def localOf (b : Body) (r : Ref) : Except Complaint Nat :=
  match r.target with
  | .number n => .ok n
  | .name n =>
    match b.locals.lookup n with
    | some k => .ok k
    | none => .error (unknown "local" n r.place)

/-- The number of a label: how many blocks are between. -/
def labelOf (labels : List (Option Name)) (r : Ref) : Except Complaint Nat :=
  match r.target with
  | .number n => .ok n
  | .name n =>
    match labels.findIdx? fun l => (l.map Name.text) == some n with
    | some k => .ok k
    | none => .error (unknown "label" n r.place)

/-- Where a memory access goes. -/
def memArg (env : Env) (a : MemArg Ref) : Except Complaint (MemArg Nat) :=
  return ⟨← env.resolve (.item .memory) a.memory, a.offset, a.alignLog2⟩

/-- An instruction other than a block, with its references resolved. -/
def instr (b : Body) (labels : List (Option Name)) (i : Instr Ref) : Except Complaint (Instr Nat) := do
  let env := b.env
  let item (k : ItemKind) := env.resolve (.item k)
  let label := labelOf labels
  match i with
  | .unreachable => return .unreachable
  | .nop => return .nop
  | .block _ | .loop _ | .if_ _ | .tryTable .. => return .nop
  | .else_ => return .else_
  | .end_ => return .end_
  | .br l => return .br (← label l)
  | .brIf l => return .brIf (← label l)
  | .brTable ls d => return .brTable (← ls.mapM label) (← label d)
  | .return_ => return .return_
  | .call f => return .call (← item .func f)
  | .callIndirect t ty => return .callIndirect (← item .table t) (← env.resolve .type ty)
  | .returnCall f => return .returnCall (← item .func f)
  | .returnCallIndirect t ty => return .returnCallIndirect (← item .table t) (← env.resolve .type ty)
  | .drop => return .drop
  | .select none => return .select none
  | .select (some ts) => return .select (some (← ts.mapM env.val))
  | .localGet r => return .localGet (← b.localOf r)
  | .localSet r => return .localSet (← b.localOf r)
  | .localTee r => return .localTee (← b.localOf r)
  | .globalGet r => return .globalGet (← item .global r)
  | .globalSet r => return .globalSet (← item .global r)
  | .tableGet r => return .tableGet (← item .table r)
  | .tableSet r => return .tableSet (← item .table r)
  | .tableSize r => return .tableSize (← item .table r)
  | .tableGrow r => return .tableGrow (← item .table r)
  | .tableFill r => return .tableFill (← item .table r)
  | .tableCopy t s => return .tableCopy (← item .table t) (← item .table s)
  | .tableInit t e => do
    let e ← env.resolve .elem e
    return .tableInit (← item .table t) e
  | .elemDrop e => return .elemDrop (← env.resolve .elem e)
  | .load op a => return .load op (← memArg env a)
  | .store op a => return .store op (← memArg env a)
  | .memorySize r => return .memorySize (← item .memory r)
  | .memoryGrow r => return .memoryGrow (← item .memory r)
  | .memoryFill r => return .memoryFill (← item .memory r)
  | .memoryCopy t s => do
    let s ← item .memory s
    return .memoryCopy (← item .memory t) s
  | .memoryInit r d => do
    let d ← env.resolve .data d
    return .memoryInit (← item .memory r) d
  | .dataDrop d => return .dataDrop (← env.resolve .data d)
  | .refNull h => return .refNull (← traverseHeap (env.resolve .type) h)
  | .refIsNull => return .refIsNull
  | .refFunc f => return .refFunc (← item .func f)
  | .const v => return .const v
  | .v128Const n => return .v128Const n
  | .numeric op => return .numeric op
  | .throw t => return .throw (← item .tag t)
  | .throwRef => return .throwRef
  | .callRef ty => return .callRef (← env.resolve .type ty)
  | .returnCallRef ty => return .returnCallRef (← env.resolve .type ty)
  | .refAsNonNull => return .refAsNonNull
  | .brOnNull l => return .brOnNull (← label l)
  | .brOnNonNull l => return .brOnNonNull (← label l)
  | .refEq => return .refEq
  | .refI31 => return .refI31
  | .i31Get s => return .i31Get s

/-- A clause of a handler; its label counts from outside the handler. -/
def catchOf (env : Env) (labels : List (Option Name)) : Catch Ref → Except Complaint (Catch Nat)
  | .tag t l => return .tag (← env.resolve (.item .tag) t) (← labelOf labels l)
  | .tagRef t l => return .tagRef (← env.resolve (.item .tag) t) (← labelOf labels l)
  | .all l => return .all (← labelOf labels l)
  | .allRef l => return .allRef (← labelOf labels l)

/-- Checks the label repeated at an `else` or `end` against that of its block. -/
def checkLabel (labels : List (Option Name)) (label : Option Name) : Except Complaint Unit :=
  match labels, label with
  | l :: _, some n =>
    if l.map Name.text == some n.text then .ok ()
    else .error ⟨"mismatching labels between end and block", n.place⟩
  | _, _ => .ok ()

/-- Resolves one instruction; the labels are those of the open blocks, the innermost first. -/
def lineOf (b : Body) (labels : List (Option Name)) (l : Line) :
    Except Complaint (List (Option Name) × Instr Nat) := do
  match l with
  | .plain i => return (labels, ← b.instr labels i)
  | .block kind label u =>
    let t ← b.env.blockType u
    let i : Instr Nat := match kind with
      | .block => .block t
      | .loop => .loop t
      | .if_ => .if_ t
    return (label :: labels, i)
  | .handler label u catches =>
    let t ← b.env.blockType u
    let cs ← catches.mapM (catchOf b.env labels)
    return (label :: labels, .tryTable t cs)
  | .else_ label =>
    checkLabel labels label
    return (labels, .else_)
  | .end_ label =>
    checkLabel labels label
    return (labels.tail, .end_)
  | .callIndirect tail table u =>
    let t ← b.env.resolve (.item .table) table
    let i ← b.env.use u
    return (labels, if tail then .returnCallIndirect t i else .callIndirect t i)

/-- Resolves code, the open blocks having these labels. -/
def linesOf (b : Body) (labels : List (Option Name)) : List Line → Except Complaint Expr
  | [] => .ok []
  | l :: ls => do
    let (labels, i) ← b.lineOf labels l
    return i :: (← b.linesOf labels ls)

end Body

/-- Resolves code and ends it. -/
def code (env : Env) (locals : List (String × Nat)) (ls : List Line) : Except Complaint Expr := do
  return (← Body.linesOf ⟨env, locals⟩ [] ls) ++ [.end_]

/-- Resolves a constant expression. -/
def const (env : Env) (ls : List Line) : Except Complaint Expr := env.code [] ls

/-- The numbers of the named variables among all, from `i` on. -/
def localNames (done : List (String × Nat)) (i : Nat) :
    List (Option Name) → Except Complaint (List (String × Nat))
  | [] => .ok done
  | none :: rest => localNames done (i + 1) rest
  | some n :: rest =>
    if (done.lookup n.text).isSome then .error (duplicate "local" n)
    else localNames ((n.text, i) :: done) (i + 1) rest

/-- The names of the parameters of a function; those of a type only referred to have none. -/
def paramNames (env : Env) (u : TypeUse) (type : Nat) : List (Option Name) :=
  match u.inline with
  | some t => t.params.map Prod.fst
  | none => List.replicate (((env.types[type]?).join.map fun t => t.params.length).getD 0) none

/-! ## 4. Fields -/

/-- The items of an element segment. -/
def items (env : Env) : Items → Except Complaint ElemItems
  | .funcs rs => return .funcs (← rs.mapM (env.resolve (.item .func)))
  | .exprs t es => do
    let es ← es.mapM env.const
    return .exprs (← env.refOf t) es

/-- The mode of a segment for targets of a kind. -/
def mode (env : Env) (k : ItemKind) : Mode → Except Complaint SegmentMode
  | .active r offset => return .active (← env.resolve (.item k) r) (← env.const offset)
  | .passive => return .passive
  | .declared => return .declared

/-- The type of a table. -/
def tableType (env : Env) (t : TableType Ref) : Except Complaint (TableType Nat) :=
  return ⟨← env.refOf t.element, t.limits, t.shared, t.wide⟩

/-- The type of a global. -/
def globalType (env : Env) (t : GlobalType Ref) : Except Complaint (GlobalType Nat) :=
  return ⟨← env.val t.content, t.mutable, t.shared⟩

/-- What an import wants. -/
def wanted (env : Env) : Wanted → Except Complaint ImportKind
  | .func u => return .func (← env.use u)
  | .table t => return .table (← env.tableType t)
  | .memory t => return .memory t
  | .global t => return .global (← env.globalType t)
  | .tag u => return .tag (← env.use u)

/-- The export of an item. -/
def exportKind : ItemKind → Nat → ExportKind
  | .func => .func
  | .table => .table
  | .memory => .memory
  | .global => .global
  | .tag => .tag

/-- The number of items of a kind so far. -/
def itemCount (m : Module) : ItemKind → Nat
  | .func => m.funcIndices.length
  | .table => m.tableTypes.length
  | .memory => m.memoryTypes.length
  | .global => m.globalTypes.length
  | .tag => m.tagIndices.length

/-- The number of the items in a segment. -/
def itemsLength : ElemItems → Nat
  | .funcs is => is.length
  | .exprs _ es => es.length

/-- The items of a segment for a table of a type: functions fit a table of functions only as they are, and
    otherwise become references. -/
def itemsFor (t : RefType Nat) : ElemItems → ElemItems
  | .funcs is => if t = .funcref then .funcs is else .exprs t (is.map fun i => [.refFunc i, .end_])
  | items => items

/-- The offset of a segment at the beginning. -/
def zeroOffset (wide : Bool) : Expr := [.const (if wide then .i64 0 else .i32 0), .end_]

/-- The bytes of a page. -/
def pageBytes : Nat := 65536

/-- The runs of variables of one type, one variable each. -/
def localRuns (ts : List (ValType Nat)) : List (Nat × ValType Nat) := ts.map fun t => (1, t)

/-- Adds an item to a module. -/
def addItem (env : Env) (m : Module) : Item → Except Complaint Module
  | .imported module name w => do
    return { m with imports := m.imports ++ [⟨module, name, ← env.wanted w⟩] }
  | .func u locals code => do
    let type ← env.use u
    let ts ← locals.mapM fun l => env.val l.2
    let names ← localNames [] 0 (env.paramNames u type ++ locals.map Prod.fst)
    let code ← env.code names code
    return { m with funcs := m.funcs ++ [type], bodies := m.bodies ++ [⟨localRuns ts, code⟩] }
  | .table t init => do
    let t ← env.tableType t
    return { m with tables := m.tables ++ [⟨t, ← init.mapM env.const⟩] }
  | .filledTable element shared wide items => do
    let element ← env.refOf element
    let items ← env.items items
    let n := itemsLength items
    let t : TableType Nat := ⟨element, ⟨n, some n⟩, shared, wide⟩
    return { m with
      tables := m.tables ++ [⟨t, none⟩]
      elems := m.elems ++ [⟨.active (itemCount m .table) (zeroOffset wide), itemsFor element items⟩] }
  | .memory t => return { m with memories := m.memories ++ [t] }
  | .filledMemory wide customPage bytes => do
    let pages := (bytes.length + pageBytes - 1) / pageBytes
    return { m with
      memories := m.memories ++ [⟨⟨pages, some pages⟩, false, wide, customPage⟩]
      datas := m.datas ++ [⟨.active (itemCount m .memory) (zeroOffset wide), bytes⟩] }
  | .global t init => do
    let t ← env.globalType t
    return { m with globals := m.globals ++ [⟨t, ← env.const init⟩] }
  | .tag u => do return { m with tags := m.tags ++ [← env.use u] }

/-- Adds a field to a module. -/
def addField (env : Env) (m : Module) : Field → Except Complaint Module
  | .types explicit defs => do
    let ts ← defs.mapM fun d => traverseSub (env.resolve .type) d.type
    return { m with types := m.types ++ [⟨explicit, ts⟩] }
  | .item _ _ exports i => do
    let n := itemCount m i.kind
    let m' ← env.addItem m i
    return { m' with exports := m'.exports ++ exports.map fun e => ⟨e, exportKind i.kind n⟩ }
  | .export name kind r => do
    let n ← env.resolve (.item kind) r
    return { m with exports := m.exports ++ [⟨name, exportKind kind n⟩] }
  | .imports _ module items type => do
    let imports ← items.filterMapM fun i => do
      match i.type <|> type with
      | some w => return some ⟨module, i.field, ← env.wanted w⟩
      | none => return none
    let _ ← type.mapM env.wanted
    return { m with imports := m.imports ++ imports, foreign := true }
  | .start r => do
    return { m with start := some (← env.resolve (.item .func) r), foreign := m.foreign || m.start.isSome }
  | .elem _ mode items => do
    let mode ← env.mode .table mode
    return { m with elems := m.elems ++ [⟨mode, ← env.items items⟩] }
  | .data _ mode bytes => do
    return { m with datas := m.datas ++ [⟨← env.mode .memory mode, bytes⟩] }
  | .custom _ | .note => .ok m

end Env

/-! ## 5. Modules -/

/-- Complains about the first import after an item that is defined; `late` tells whether there was one. -/
def checkImportOrder (late : Bool) : List Field → Except Complaint Unit
  | [] => .ok ()
  | .item place _ _ (.imported ..) :: rest =>
    if late then .error ⟨"import after a definition", place⟩ else checkImportOrder late rest
  | .imports place _ _ _ :: rest =>
    if late then .error ⟨"import after a definition", place⟩ else checkImportOrder late rest
  | .item _ _ _ (.tag _) :: rest => checkImportOrder late rest
  | .item .. :: rest => checkImportOrder true rest
  | _ :: rest => checkImportOrder late rest

/-- Does an instruction use data segments on demand? -/
def usesData : Instr Nat → Bool
  | .memoryInit .. | .dataDrop _ => true
  | _ => false

/-- The name of a module with these fields: that in custom sections for names, if there are any, and
    otherwise the one it is given. -/
def titleOf (name : Option String) (fields : List Field) : Option String :=
  let customs := fields.filterMap fun f =>
    match f with
    | .custom c => if c.title == "name" then some c else none
    | _ => none
  if customs.isEmpty then name
  else
    let sorted := customs.mergeSort fun a b => decide (a.placement ≤ b.placement)
    sorted.foldl (fun found c => Binary.moduleName found c.contents) none

/-- The module that fields describe. -/
def Module.ofFields (name : Option String) (fields : List Field) : Except Complaint Module := do
  checkImportOrder false fields
  let entries ← numberFrom [] [] (fields.flatMap Field.definitions)
  let defined := definedKeys fields
  let written := newKeys defined (fields.flatMap Field.keys)
  let env : Env := ⟨entries, defined ++ written.map some⟩
  let m ← fields.foldlM env.addField {}
  let groups ← written.mapM fun k =>
    return RecGroup.ofFunc (← traverseFunc (fun t => env.resolve .type ⟨t, 0⟩) k)
  let needsCount := m.bodies.any fun b => b.code.any usesData
  return { m with
    name := titleOf name fields
    types := m.types ++ groups
    dataCount := if needsCount then some m.datas.length else none }

/-- The module that is met first in a component. All modules in it have to be free of complaints. -/
def Component.leadingModule (c : Component) : Except Complaint (Option Module) := do
  let _ ← c.modules.mapM (Module.ofFields none)
  c.leading.mapM (Module.ofFields none)

end Embedder.Wasm.Wat
