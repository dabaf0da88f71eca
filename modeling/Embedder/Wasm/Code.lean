import Embedder.Wasm.Module
import Embedder.Wasm.Arithmetic

/-!
# Executable code

Validated code is brought into the form that the machine runs: blocks hold their bodies, and types
are reduced to the numbers of values that enter and leave. `Code.ofFlat` closes the blocks of a flat
list one `end_` at a time.
-/

namespace Embedder.Wasm

/-! ## 1. Structured code -/

/-- An instruction with its nested code. The two numbers of a block count the operands that enter it
    and those that leave it. -/
inductive Code where
  | plain (i : Instr Nat)
  | block (params results : Nat) (body : List Code)
  | loop (params results : Nat) (body : List Code)
  | cond (params results : Nat) (yes no : List Code)
  deriving Inhabited

/-- What a block under construction will become. -/
inductive Opener where
  | body
  | block (params results : Nat)
  | loop (params results : Nat)
  | yes (params results : Nat)
  | no (params results : Nat) (yes : List Code)
  deriving Inhabited

/-- A block under construction with its code so far, last first. -/
structure OpenBlock where
  opener : Opener
  done : List Code
  deriving Inhabited

namespace OpenBlock

/-- The block with one more instruction. -/
def push (b : OpenBlock) (c : Code) : OpenBlock := { b with done := c :: b.done }

/-- The finished block. -/
def close (b : OpenBlock) : Code :=
  let code := b.done.reverse
  match b.opener with
  | .body => .block 0 0 code
  | .block p r => .block p r code
  | .loop p r => .loop p r code
  | .yes p r => .cond p r code []
  | .no p r yes => .cond p r yes code

/-- The other branch of a conditional. -/
def turn (b : OpenBlock) : OpenBlock :=
  match b.opener with
  | .yes p r => ⟨.no p r b.done.reverse, []⟩
  | _ => b

end OpenBlock

/-- The numbers of values that enter and leave a block of a type. -/
def BlockType.arity (m : Module) : BlockType Nat → Nat × Nat
  | .empty => (0, 0)
  | .value _ => (0, 1)
  | .type i =>
    match m.funcType? i with
    | some t => (t.params.length, t.results.length)
    | none => (0, 0)

/-- Structures flat code; `outer` are the open blocks, the innermost first. -/
def Code.ofFlatFrom (m : Module) (current : OpenBlock) (outer : List OpenBlock) :
    List (Instr Nat) → List Code
  | [] => current.done.reverse
  | i :: rest =>
    match i with
    | .block t =>
      let (p, r) := t.arity m
      ofFlatFrom m ⟨.block p r, []⟩ (current :: outer) rest
    | .loop t =>
      let (p, r) := t.arity m
      ofFlatFrom m ⟨.loop p r, []⟩ (current :: outer) rest
    | .if_ t =>
      let (p, r) := t.arity m
      ofFlatFrom m ⟨.yes p r, []⟩ (current :: outer) rest
    | .else_ => ofFlatFrom m current.turn outer rest
    | .end_ =>
      match outer with
      | [] => current.done.reverse
      | b :: bs => ofFlatFrom m (b.push current.close) bs rest
    | _ => ofFlatFrom m (current.push (.plain i)) outer rest

/-- The structured form of a function body. -/
def Code.ofFlat (m : Module) (code : Expr) : List Code := ofFlatFrom m ⟨.body, []⟩ [] code

/-! ## 2. Programs -/

/-- A function: one of the host, by its place among the imports, or one with code. -/
inductive Callee where
  | host (index : Nat) (type : FuncType Nat)
  | guest (type : FuncType Nat) (locals : Nat) (code : List Code)
  deriving Inhabited

/-- The type of a function. -/
def Callee.type : Callee → FuncType Nat
  | .host _ t => t
  | .guest t _ _ => t

/-- The functions and function types of a module, ready to run. -/
structure Program where
  callees : Array Callee
  types : Array (Option (FuncType Nat))
  deriving Inhabited

/-- The function type behind an index, or the empty one. -/
def Module.funcTypeD (m : Module) (i : Nat) : FuncType Nat := (m.funcType? i).getD ⟨[], []⟩

/-- The imported functions of a module, by their place among all imports. -/
def Module.hostCallees (m : Module) : List Callee :=
  m.imports.zipIdx.filterMap fun (i, k) => i.func?.map fun t => .host k (m.funcTypeD t)

/-- The functions that a module defines. -/
def Module.guestCallees (m : Module) : List Callee :=
  (m.funcs.zip m.bodies).map fun (t, b) =>
    .guest (m.funcTypeD t) b.localCount (Code.ofFlat m b.code)

/-- The program of a module. -/
def Module.program (m : Module) : Program where
  callees := (m.hostCallees ++ m.guestCallees).toArray
  types := (m.typeList.map fun t => match t.composite with | .func f => some f | _ => none).toArray

end Embedder.Wasm
