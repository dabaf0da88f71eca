import Embedder.Value
import Embedder.Wasm.Module

/-!
# The interface of a module

What a module asks for and offers, in terms that a host can use. Only functions over the four number
types can cross the boundary between host and guest; `Signature.ofFuncType` names the first type that
cannot. Memories, tables and globals of any type may be declared.
-/

namespace Embedder

/-! ## 1. Declarations -/

/-- The kinds of items with what a host can know of them. Sizes of memories are in pages, those of tables
    in elements; a global of a type without host values has no value type. -/
inductive ExternKind where
  | function (signature : Signature)
  | memory (minimum : Nat) (maximum : Option Nat) (shared : Bool)
  | global (valueType : Option ValueType) (mutable : Bool)
  | table (minimum : Nat) (maximum : Option Nat)
  deriving DecidableEq, Repr, Inhabited

/-- An item that a module asks for. -/
structure ImportDeclaration where
  module : String
  name : String
  kind : ExternKind
  deriving DecidableEq, Repr, Inhabited

/-- An item that a module offers. -/
structure ExportDeclaration where
  name : String
  kind : ExternKind
  deriving DecidableEq, Repr, Inhabited

namespace ExternKind

/-- The name of a kind. -/
def name : ExternKind → String
  | .function _ => "function"
  | .memory .. => "memory"
  | .global .. => "global"
  | .table .. => "table"

/-- The signature of a function. -/
def signature? : ExternKind → Option Signature
  | .function s => some s
  | _ => none

/-- Sizes: the least, and the greatest if there is one. -/
def sizesText (minimum : Nat) : (maximum : Option Nat) → String
  | some n => toString minimum ++ " " ++ toString n
  | none => toString minimum

/-- The text of an item's kind. -/
def text : ExternKind → String
  | .function s => "func " ++ s.text
  | .memory minimum maximum shared =>
    "memory " ++ sizesText minimum maximum ++ if shared then " shared" else ""
  | .global t isMutable =>
    let type := (t.map ValueType.name).getD "ref"
    if isMutable then "global (mut " ++ type ++ ")" else "global " ++ type
  | .table minimum maximum => "table " ++ sizesText minimum maximum

end ExternKind

/-! ## 2. Types that a host knows -/

open Wasm

/-- The text of a heap type. -/
def heapText : HeapType Nat → String
  | .func => "func"
  | .external => "extern"
  | .any => "any"
  | .eq => "eq"
  | .i31 => "i31"
  | .struct => "struct"
  | .array => "array"
  | .none => "none"
  | .noFunc => "nofunc"
  | .noExtern => "noextern"
  | .exn => "exn"
  | .noExn => "noexn"
  | .foreign => "foreign"
  | .concrete i => "(concrete " ++ toString i ++ ")"

/-- The text of a value type. -/
def valTypeText : ValType Nat → String
  | .num t => t.name
  | .v128 => "v128"
  | .ref r => "(ref " ++ (if r.nullable then "null " else "") ++ heapText r.heap ++ ")"

/-- The value types as types that a host knows, or the first that it does not. -/
def hostTypes : List (ValType Nat) → Except (ValType Nat) (List ValueType)
  | [] => .ok []
  | .num t :: ts => (hostTypes ts).map (t :: ·)
  | t :: _ => .error t

/-- The signature of a function type, or the first type that a host does not know: parameters come
    before results. -/
def Signature.ofFuncType (t : FuncType Nat) : Except (ValType Nat) Signature := do
  let params ← hostTypes t.params
  let results ← hostTypes t.results
  return ⟨params, results⟩

/-! ## 3. Describing items -/

/-- The complaint about a function that cannot cross the boundary. -/
def boundaryText (item : String) (t : ValType Nat) : String :=
  item ++ " uses " ++ valTypeText t ++ ", which cannot cross the host boundary"

/-- The kind of a function, named in the complaint as `item`. -/
def describeFunc (item : String) (t : FuncType Nat) : Except String ExternKind :=
  match Signature.ofFuncType t with
  | .ok s => .ok (.function s)
  | .error t => .error (boundaryText item t)

/-- The kind of a memory. -/
def describeMemory (t : MemoryType) : ExternKind :=
  .memory t.limits.minimum t.limits.maximum t.shared

/-- The kind of a table. -/
def describeTable (t : TableType Nat) : ExternKind := .table t.limits.minimum t.limits.maximum

/-- The kind of a global. -/
def describeGlobal (t : GlobalType Nat) : ExternKind := .global t.content.number? t.mutable

/-- The complaint about an item of a kind that hosts do not know. -/
def unsupportedText (item : String) : String := item ++ " has an unsupported kind"

/-- What is behind an item, or the complaint that there is nothing. -/
def supported {α : Type} (item : String) : Option α → Except String α
  | some a => .ok a
  | none => .error (unsupportedText item)

namespace Wasm.Module

variable {β : Type}

/-- The kind of an import. -/
def importKind (m : Wasm.Module β) (i : Import) : Except String ExternKind :=
  let item := "import " ++ i.module ++ "." ++ i.name
  match i.kind with
  | .func t => describeFunc item ((m.funcType? t).getD ⟨[], []⟩)
  | .memory t => .ok (describeMemory t)
  | .table t => .ok (describeTable t)
  | .global t => .ok (describeGlobal t)
  | .tag _ => .error (unsupportedText item)

/-- Describes an import. -/
def describeImport (m : Wasm.Module β) (i : Import) : Except String ImportDeclaration :=
  (m.importKind i).map fun kind => ⟨i.module, i.name, kind⟩

/-- The type of a function by its index. -/
def typeOfFunc? (m : Wasm.Module β) (f : Nat) : Option (FuncType Nat) :=
  m.funcIndices[f]?.bind m.funcType?

/-- The kind of an export. -/
def exportKind (m : Wasm.Module β) (e : Export) : Except String ExternKind :=
  let item := "export " ++ e.name
  match e.kind with
  | .func i => supported item (m.typeOfFunc? i) >>= describeFunc item
  | .memory i => (supported item m.memoryTypes[i]?).map describeMemory
  | .table i => (supported item m.tableTypes[i]?).map describeTable
  | .global i => (supported item m.globalTypes[i]?).map describeGlobal
  | .tag _ => .error (unsupportedText item)

/-- Describes an export. -/
def describeExport (m : Wasm.Module β) (e : Export) : Except String ExportDeclaration :=
  (m.exportKind e).map fun kind => ⟨e.name, kind⟩

end Wasm.Module

end Embedder
