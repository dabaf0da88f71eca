import Embedder.Value

/-!
# WebAssembly types

The types of the language, over a parameter `ι` for the way one type refers to another: by number in
a module, by number or name in its text.
-/

namespace Embedder.Wasm

/-! ## 1. Value types -/

/-- What a reference can point to. -/
inductive HeapType (ι : Type) where
  | func
  | external
  | any
  | eq
  | i31
  | struct
  | array
  | none
  | noFunc
  | noExtern
  | exn
  | noExn
  /-- A kind that is written down but belongs to no set of features. -/
  | foreign
  /-- A type of the module. -/
  | concrete (index : ι)
  deriving DecidableEq, Repr, Inhabited

/-- A reference, with or without a null. -/
structure RefType (ι : Type) where
  nullable : Bool
  heap : HeapType ι
  deriving DecidableEq, Repr, Inhabited

/-- The types of values: the four number types, vectors and references. -/
inductive ValType (ι : Type) where
  | num (t : ValueType)
  | v128
  | ref (r : RefType ι)
  deriving DecidableEq, Repr, Inhabited

namespace RefType

/-- A nullable reference to any function. -/
def funcref {ι : Type} : RefType ι := ⟨true, .func⟩

/-- A nullable reference to anything of the host. -/
def externref {ι : Type} : RefType ι := ⟨true, .external⟩

end RefType

namespace ValType

variable {ι : Type}

/-- The type of 32-bit integers. -/
def i32 : ValType ι := .num .i32

/-- The type of 64-bit integers. -/
def i64 : ValType ι := .num .i64

/-- The number type among value types. -/
def number? : ValType ι → Option ValueType
  | .num t => some t
  | _ => none

/-- Is there a value of the type that a variable can start with? -/
def isDefaultable : ValType ι → Bool
  | .ref r => r.nullable
  | _ => true

end ValType

/-! ## 2. Types of items -/

/-- The types of a function. -/
structure FuncType (ι : Type) where
  params : List (ValType ι)
  results : List (ValType ι)
  deriving DecidableEq, Repr, Inhabited

/-- The size of a memory or table: a least and perhaps a greatest one. -/
structure Limits where
  minimum : Nat
  maximum : Option Nat
  deriving DecidableEq, Repr, Inhabited

/-- The type of a memory. -/
structure MemoryType where
  limits : Limits
  shared : Bool
  /-- Addresses have 64 bits. -/
  wide : Bool
  /-- The size of a page is given. -/
  customPage : Bool
  deriving DecidableEq, Repr, Inhabited

/-- The type of a table. -/
structure TableType (ι : Type) where
  element : RefType ι
  limits : Limits
  shared : Bool
  wide : Bool
  deriving DecidableEq, Repr, Inhabited

/-- The type of a global. -/
structure GlobalType (ι : Type) where
  content : ValType ι
  mutable : Bool
  shared : Bool
  deriving DecidableEq, Repr, Inhabited

/-! ## 3. Type definitions -/

/-- What a field of a structure or an element of an array holds. -/
inductive StorageType (ι : Type) where
  | i8
  | i16
  | val (t : ValType ι)
  deriving DecidableEq, Repr, Inhabited

/-- The type of a field. -/
structure FieldType (ι : Type) where
  storage : StorageType ι
  mutable : Bool
  deriving DecidableEq, Repr, Inhabited

/-- A defined type. -/
inductive CompositeType (ι : Type) where
  | func (t : FuncType ι)
  | struct (fields : List (FieldType ι))
  | array (element : FieldType ι)
  deriving DecidableEq, Repr, Inhabited

/-- A defined type with its place among its supertypes. -/
structure SubType (ι : Type) where
  final : Bool
  supers : List ι
  composite : CompositeType ι
  deriving DecidableEq, Repr, Inhabited

/-- Types that are defined together. A type defined alone forms a group that is not `explicit`. -/
structure RecGroup (ι : Type) where
  explicit : Bool
  types : List (SubType ι)
  deriving DecidableEq, Repr, Inhabited

/-- A group of one function type, final and without supertypes. -/
def RecGroup.ofFunc {ι : Type} (t : FuncType ι) : RecGroup ι := ⟨false, [⟨true, [], .func t⟩]⟩

end Embedder.Wasm
