import Embedder.Wasm.Module
import Embedder.Wasm.Traverse

/-!
# What code may refer to, and which types fit where

Validity is checked under a set of language features. The checker of modules knows more of the
language than the engine runs, so there are two sets: `Features.known` and `Features.runnable`.

A `Context` lists the items of a module by number. The second half of the file is the order of types:
a value of one type may stand where another is expected if the first is a subtype of the second.
-/

namespace Embedder.Wasm

/-! ## 1. Features -/

/-- The parts of the language that can be switched off. -/
structure Features where
  /-- Structures, arrays, groups of types, and the types of references to them. -/
  garbageCollection : Bool
  /-- References to functions of one type, and references without a null. -/
  typedReferences : Bool
  /-- Tags and handlers. -/
  exceptions : Bool
  deriving DecidableEq, Repr, Inhabited

/-- Everything that the checker of modules knows. -/
def Features.known : Features := ⟨true, true, true⟩

/-- What the engine can run. -/
def Features.runnable : Features := ⟨false, false, false⟩

/-! ## 2. Contexts -/

/-- The items that code can refer to. -/
structure Context where
  features : Features
  types : Array (SubType Nat)
  /-- For each type the first one that is the same type. -/
  representatives : Array Nat
  /-- The type indices of the functions. -/
  funcs : Array Nat
  tables : Array (TableType Nat)
  memories : Array MemoryType
  globals : Array (GlobalType Nat)
  /-- The first globals, as many as this, are imported. -/
  importedGlobals : Nat
  /-- The type indices of the tags. -/
  tags : Array Nat
  elems : Array (RefType Nat)
  /-- The number of data segments, if it is announced before the code. -/
  datas : Option Nat
  /-- The functions that code may take references to. -/
  declared : List Nat
  deriving Inhabited

/-- The shape of a group of types that begins at index `start`: references into the group count from its
    beginning, and others go to the first type that is the same. -/
def groupShape (representatives : Array Nat) (start : Nat) (types : List (SubType Nat)) :
    List (SubType Nat) :=
  let relative (i : Nat) : Nat := if start ≤ i then 2 * (i - start) + 1 else 2 * representatives.getD i i
  types.map fun t => Id.run (traverseSub (fun i => pure (relative i)) t)

/-- The representatives of the types of groups, after those of the types before. Two groups of the same
    shape define the same types; `seen` has the shapes before and where they began. -/
def representativesFrom (seen : List (List (SubType Nat) × Nat)) (done : Array Nat) :
    List (RecGroup Nat) → Array Nat
  | [] => done
  | g :: gs =>
    let shape := groupShape done done.size g.types
    let first := (seen.lookup shape).getD done.size
    let added := (List.range g.types.length).map fun k => first + k
    representativesFrom ((shape, first) :: seen) (done ++ added.toArray) gs

/-- A check that can fail with a complaint. -/
abbrev Check := Except String

/-- Fails with a complaint unless a condition holds. -/
def ensure (b : Bool) (complaint : String) : Check Unit :=
  if b then .ok () else .error complaint

/-- The value, or a complaint that there is none. -/
def orFail {α : Type} (o : Option α) (complaint : String) : Check α :=
  match o with
  | some a => .ok a
  | none => .error complaint

namespace Context

/-- The function type behind a type index. -/
def funcType (c : Context) (i : Nat) : Check (FuncType Nat) :=
  match c.types[i]? with
  | some ⟨_, _, .func t⟩ => .ok t
  | some _ => .error s!"type {i} is not a function type"
  | none => .error s!"unknown type {i}"

/-- The type of a function. -/
def typeOfFunc (c : Context) (f : Nat) : Check (FuncType Nat) := do
  c.funcType (← orFail c.funcs[f]? s!"unknown function {f}")

/-! ## 3. Well-formed types -/

/-- Checks a reference type: the features it needs and the type it names. Types up to `bound` may be
    named. -/
def checkRef (c : Context) (bound : Nat) (r : RefType Nat) : Check Unit :=
  match r.heap with
  | .func | .external =>
    ensure (r.nullable || c.features.typedReferences) "function references are not enabled"
  | .exn | .noExn => ensure c.features.exceptions "exceptions are not enabled"
  | .foreign => .error "unsupported heap type"
  | .concrete i => do
    ensure (c.features.typedReferences || c.features.garbageCollection)
      "index references are not enabled"
    ensure (i < bound) s!"unknown type {i}: type index out of bounds"
  | _ => ensure c.features.garbageCollection "heap types of garbage collection are not enabled"

/-- Checks a value type. -/
def checkVal (c : Context) (bound : Nat) : ValType Nat → Check Unit
  | .ref r => c.checkRef bound r
  | _ => .ok ()

/-- The heap type of a null, as an instruction gives it. -/
def checkHeap (c : Context) (h : HeapType Nat) : Check Unit := c.checkRef c.types.size ⟨true, h⟩

/-! ## 4. Subtypes -/

/-- Are two defined types the same type? -/
def sameType (c : Context) (i j : Nat) : Bool :=
  i == j || (c.representatives[i]?.isSome && c.representatives[i]? == c.representatives[j]?)

/-- Is type `j` reached from type `i` by at most `fuel` steps to a supertype? -/
def reaches (c : Context) (j : Nat) : (fuel i : Nat) → Bool
  | 0, i => c.sameType i j
  | fuel + 1, i =>
    c.sameType i j ||
      match c.types[i]? with
      | some s => s.supers.any fun k => k < i && reaches c j fuel k
      | none => false

/-- The abstract heap type above a defined type. -/
def abstraction (c : Context) (i : Nat) : HeapType Nat :=
  match (c.types[i]?).map SubType.composite with
  | some (.struct _) => .struct
  | some (.array _) => .array
  | _ => .func

/-- The order of abstract heap types. -/
def abstractSub : (a b : HeapType Nat) → Bool
  | .noFunc, .func | .noExtern, .external | .noExn, .exn => true
  | .none, .any | .none, .eq | .none, .i31 | .none, .struct | .none, .array => true
  | .i31, .eq | .struct, .eq | .array, .eq => true
  | .i31, .any | .struct, .any | .array, .any | .eq, .any => true
  | a, b => a == b

/-- The order of heap types. -/
def heapSub (c : Context) (a b : HeapType Nat) : Bool :=
  match a, b with
  | .concrete i, .concrete j => c.reaches j c.types.size i
  | .concrete i, b => abstractSub (c.abstraction i) b
  | .none, .concrete j => c.abstraction j != .func
  | .noFunc, .concrete j => c.abstraction j == .func
  | _, .concrete _ => false
  | a, b => abstractSub a b

/-- The order of reference types. -/
def refSub (c : Context) (a b : RefType Nat) : Bool :=
  (!a.nullable || b.nullable) && c.heapSub a.heap b.heap

/-- The order of value types. -/
def valSub (c : Context) (a b : ValType Nat) : Bool :=
  match a, b with
  | .ref r, .ref s => c.refSub r s
  | a, b => a == b

/-- The order of lists of value types. -/
def valsSub (c : Context) : (as bs : List (ValType Nat)) → Bool
  | [], [] => true
  | a :: as, b :: bs => c.valSub a b && c.valsSub as bs
  | _, _ => false

/-- The order of fields: a field that can be written admits no other type. -/
def fieldSub (c : Context) (a b : FieldType Nat) : Bool :=
  a.mutable == b.mutable &&
    if a.mutable then a.storage == b.storage
    else
      match a.storage, b.storage with
      | .val s, .val t => c.valSub s t
      | s, t => s == t

/-- The order of lists of fields: a longer list may stand for a shorter one. -/
def fieldsSub (c : Context) : (as bs : List (FieldType Nat)) → Bool
  | _, [] => true
  | a :: as, b :: bs => c.fieldSub a b && c.fieldsSub as bs
  | [], _ :: _ => false

/-- The order of defined types. -/
def compositeSub (c : Context) : (a b : CompositeType Nat) → Bool
  | .func s, .func t => c.valsSub t.params s.params && c.valsSub s.results t.results
  | .struct s, .struct t => c.fieldsSub s t
  | .array s, .array t => c.fieldSub s t
  | _, _ => false

end Context

end Embedder.Wasm
