import Embedder.Wasm.Instr

/-!
# Modules

A module as its binary form lays it out: every reference between items is a number. Nothing but its functions
themselves depends on what is in their bodies, so the bodies can be of any type; they are of the type `Body` unless
another one is named.
-/

namespace Embedder.Wasm

/-- Code and constant expressions of a module. A constant expression ends with its `end_`, and so
    does the body of a function. -/
abbrev Expr := List (Instr Nat)

/-- What a module asks its host for. -/
inductive ImportKind where
  | func (type : Nat)
  | table (t : TableType Nat)
  | memory (t : MemoryType)
  | global (t : GlobalType Nat)
  | tag (type : Nat)
  deriving DecidableEq, Repr, Inhabited

/-- An import: two names and what is wanted under them. -/
structure Import where
  module : String
  name : String
  kind : ImportKind
  deriving DecidableEq, Repr, Inhabited

/-- The type index of an imported function. -/
def Import.func? (i : Import) : Option Nat :=
  match i.kind with
  | .func t => some t
  | _ => none

/-- An item offered by a module, by its index among the items of its kind. -/
inductive ExportKind where
  | func (index : Nat)
  | table (index : Nat)
  | memory (index : Nat)
  | global (index : Nat)
  | tag (index : Nat)
  deriving DecidableEq, Repr, Inhabited

/-- An export: a name and the item behind it. -/
structure Export where
  name : String
  kind : ExportKind
  deriving DecidableEq, Repr, Inhabited

/-- A table with the expression for its first elements, if there is one. -/
structure TableDef where
  type : TableType Nat
  init : Option Expr
  deriving DecidableEq, Repr, Inhabited

/-- A global with the expression for its first value. -/
structure GlobalDef where
  type : GlobalType Nat
  init : Expr
  deriving DecidableEq, Repr, Inhabited

/-- When a segment is used: on instantiation at an offset, on demand, or never, only to declare the
    functions in it. -/
inductive SegmentMode where
  | active (target : Nat) (offset : Expr)
  | passive
  | declared
  deriving DecidableEq, Repr, Inhabited

/-- The elements of a segment: functions, or expressions for references of a type. -/
inductive ElemItems where
  | funcs (indices : List Nat)
  | exprs (type : RefType Nat) (items : List Expr)
  deriving DecidableEq, Repr, Inhabited

/-- A segment of references for a table. -/
structure Elem where
  mode : SegmentMode
  items : ElemItems
  deriving DecidableEq, Repr, Inhabited

/-- A segment of bytes for a memory. -/
structure Data where
  mode : SegmentMode
  bytes : List UInt8
  deriving DecidableEq, Repr, Inhabited

/-- The body of a function: its variables, as runs of one type, and its code. -/
structure Body where
  locals : List (Nat × ValType Nat)
  code : Expr
  deriving DecidableEq, Repr, Inhabited

/-- The number of variables of a function, its parameters aside. -/
def Body.localCount (b : Body) : Nat := b.locals.foldl (fun n l => n + l.1) 0

/-- A module, with bodies of some type. -/
structure Module (β : Type := Body) where
  name : Option String := none
  types : List (RecGroup Nat) := []
  imports : List Import := []
  /-- The types of the functions that the module defines. -/
  funcs : List Nat := []
  tables : List TableDef := []
  memories : List MemoryType := []
  /-- The types of the tags that the module defines. -/
  tags : List Nat := []
  globals : List GlobalDef := []
  exports : List Export := []
  start : Option Nat := none
  elems : List Elem := []
  dataCount : Option Nat := none
  bodies : List β := []
  datas : List Data := []
  /-- Does the module use forms that belong to no set of features? -/
  foreign : Bool := false
  deriving DecidableEq, Repr, Inhabited

namespace Module

variable {β : Type}

/-- The defined types, one after the other. -/
def typeList (m : Module β) : List (SubType Nat) := m.types.flatMap RecGroup.types

/-- The function type behind a type index. -/
def funcType? (m : Module β) (i : Nat) : Option (FuncType Nat) :=
  match m.typeList[i]? with
  | some ⟨_, _, .func t⟩ => some t
  | _ => none

/-- The type indices of all functions, imports first. -/
def funcIndices (m : Module β) : List Nat :=
  m.imports.filterMap Import.func? ++ m.funcs

/-- The types of all tables, imports first. -/
def tableTypes (m : Module β) : List (TableType Nat) :=
  m.imports.filterMap (fun i => match i.kind with | .table t => some t | _ => none) ++
    m.tables.map TableDef.type

/-- The types of all memories, imports first. -/
def memoryTypes (m : Module β) : List MemoryType :=
  m.imports.filterMap (fun i => match i.kind with | .memory t => some t | _ => none) ++ m.memories

/-- The types of the imported globals. -/
def importedGlobals (m : Module β) : List (GlobalType Nat) :=
  m.imports.filterMap fun i => match i.kind with | .global t => some t | _ => none

/-- The types of all globals, imports first. -/
def globalTypes (m : Module β) : List (GlobalType Nat) :=
  m.importedGlobals ++ m.globals.map GlobalDef.type

/-- The type indices of all tags, imports first. -/
def tagIndices (m : Module β) : List Nat :=
  m.imports.filterMap (fun i => match i.kind with | .tag t => some t | _ => none) ++ m.tags

end Module

end Embedder.Wasm
