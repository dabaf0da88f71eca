import Embedder.Proofs.Wasm.Slots

/-!
# Typed code

Which operands structured code takes and leaves, said without the checker. Operands are described by
their kinds, the top first. Three relations:

* `Effect` -- an instruction that takes operands and leaves others, and continues;
* `Leaves` -- an instruction that never continues, with the operands it needs;
* **`Typed`** -- code that starts with given operands of its block, and ends with the operands of the
  last index, or never reaches its end if that is `none`. What stands after an instruction that never
  continues is arbitrary.

A branch is typed against the kinds that the blocks around it expect, the innermost first and the
function last.
-/

namespace Embedder.Wasm

/-- The kinds of operands of given types, the last one on top. -/
def kindsOf (ts : List (ValType Nat)) : List Kind := (ts.map ValType.number?).reverse

/-- The operands that a function takes. -/
def FuncType.takes (t : FuncType Nat) : List Kind := kindsOf t.params

/-- The operands that a function leaves. -/
def FuncType.gives (t : FuncType Nat) : List Kind := kindsOf t.results

theorem length_kindsOf (ts : List (ValType Nat)) : (kindsOf ts).length = ts.length := by
  simp [kindsOf]

/-- The items that all functions share. -/
structure Items where
  program : Program
  globals : List Kind

/-- What is a function's own: its variables, and its results, the last one first. -/
structure Interior where
  locals : List Kind
  results : List Kind

/-- The kind of 32-bit integers: conditions, addresses, indices and sizes. -/
abbrev Kind.i32 : Kind := some .i32

/-! ## 1. Instructions -/

/-- The operands that an instruction on memories takes and those that it leaves. -/
inductive MemoryEffect : Instr Nat → List Kind → List Kind → Prop where
  | load (op : Load) (a : MemArg Nat) : MemoryEffect (.load op a) [.i32] [some op.type]
  | store (op : Store) (a : MemArg Nat) : MemoryEffect (.store op a) [some op.type, .i32] []
  | memorySize (i : Nat) : MemoryEffect (.memorySize i) [] [.i32]
  | memoryGrow (i : Nat) : MemoryEffect (.memoryGrow i) [.i32] [.i32]
  | memoryFill (i : Nat) : MemoryEffect (.memoryFill i) [.i32, .i32, .i32] []
  | memoryCopy (i j : Nat) : MemoryEffect (.memoryCopy i j) [.i32, .i32, .i32] []
  | memoryInit (i d : Nat) : MemoryEffect (.memoryInit i d) [.i32, .i32, .i32] []
  | dataDrop (d : Nat) : MemoryEffect (.dataDrop d) [] []

/-- The operands that an instruction on tables takes and those that it leaves. -/
inductive TableEffect : Instr Nat → List Kind → List Kind → Prop where
  | tableGet (i : Nat) : TableEffect (.tableGet i) [.i32] [none]
  | tableSet (i : Nat) : TableEffect (.tableSet i) [none, .i32] []
  | tableSize (i : Nat) : TableEffect (.tableSize i) [] [.i32]
  | tableGrow (i : Nat) : TableEffect (.tableGrow i) [.i32, none] [.i32]
  | tableFill (i : Nat) : TableEffect (.tableFill i) [.i32, none, .i32] []
  | tableCopy (i j : Nat) : TableEffect (.tableCopy i j) [.i32, .i32, .i32] []
  | tableInit (i e : Nat) : TableEffect (.tableInit i e) [.i32, .i32, .i32] []
  | elemDrop (e : Nat) : TableEffect (.elemDrop e) [] []

section Relations

variable (E : Items) (V : Interior)

/-- The operands that an instruction takes and those that it leaves. -/
inductive Effect : Instr Nat → List Kind → List Kind → Prop where
  | nop : Effect .nop [] []
  | drop (k : Kind) : Effect .drop [k] []
  | select (ts : Option (List (ValType Nat))) (k : Kind) : Effect (.select ts) [.i32, k, k] [k]
  | const (v : Value) : Effect (.const v) [] [some v.type]
  | v128Const (n : Nat) : Effect (.v128Const n) [] [none]
  | numeric (op : NumOp) : Effect (.numeric op) (op.params.map some).reverse [some op.result]
  | localGet {i : Nat} {k : Kind} (h : V.locals[i]? = some k) : Effect (.localGet i) [] [k]
  | localSet {i : Nat} {k : Kind} (h : V.locals[i]? = some k) : Effect (.localSet i) [k] []
  | localTee {i : Nat} {k : Kind} (h : V.locals[i]? = some k) : Effect (.localTee i) [k] [k]
  | globalGet {i : Nat} {k : Kind} (h : E.globals[i]? = some k) : Effect (.globalGet i) [] [k]
  | globalSet {i : Nat} {k : Kind} (h : E.globals[i]? = some k) : Effect (.globalSet i) [k] []
  | refNull (t : HeapType Nat) : Effect (.refNull t) [] [none]
  | refIsNull : Effect .refIsNull [none] [.i32]
  | refFunc (f : Nat) : Effect (.refFunc f) [] [none]
  | memory {i : Instr Nat} {ps rs : List Kind} (h : MemoryEffect i ps rs) : Effect i ps rs
  | table {i : Instr Nat} {ps rs : List Kind} (h : TableEffect i ps rs) : Effect i ps rs

/-- The operands that an instruction which never continues needs on top. -/
inductive Leaves (L : List (List Kind)) : Instr Nat → List Kind → Prop where
  | unreachable : Leaves L .unreachable []
  | br {l : Nat} {js : List Kind} (h : L[l]? = some js) : Leaves L (.br l) js
  | brTable {ls : List Nat} {d : Nat} {ks : List Kind}
      (h : ∀ l ∈ d :: ls, ∃ js, L[l]? = some js ∧ js <+: ks) : Leaves L (.brTable ls d) (.i32 :: ks)
  | return_ : Leaves L .return_ V.results
  | returnCall {f : Nat} {c : Callee} (h : E.program.callees[f]? = some c)
      (hr : c.type.gives = V.results) : Leaves L (.returnCall f) c.type.takes
  | returnCallIndirect {table type : Nat} {t : FuncType Nat}
      (h : E.program.types[type]? = some (some t)) (hr : t.gives = V.results) :
      Leaves L (.returnCallIndirect table type) (.i32 :: t.takes)

/-! ## 2. Code -/

/-- Code that ends, if it does, with these operands. -/
def Arrives (out : Option (List Kind)) (ks : List Kind) : Prop := ∀ js, out = some js → js = ks

/-- The operands of its block that code starts with and those that it ends with. -/
inductive Typed : List (List Kind) → List Code → List Kind → Option (List Kind) → Prop where
  | nil {L : List (List Kind)} {ks : List Kind} : Typed L [] ks (some ks)
  | effect {L : List (List Kind)} {i : Instr Nat} {rest : List Code} {ps rs ks : List Kind}
      {out : Option (List Kind)} (he : Effect E V i ps rs) (h : Typed L rest (rs ++ ks) out) :
      Typed L (.plain i :: rest) (ps ++ ks) out
  | leaves {L : List (List Kind)} {i : Instr Nat} {rest : List Code} {ps ks : List Kind}
      (hl : Leaves E V L i ps) : Typed L (.plain i :: rest) (ps ++ ks) none
  | brIf {L : List (List Kind)} {l : Nat} {rest : List Code} {js ks : List Kind}
      {out : Option (List Kind)} (hl : L[l]? = some js) (h : Typed L rest (js ++ ks) out) :
      Typed L (.plain (.brIf l) :: rest) (.i32 :: js ++ ks) out
  | call {L : List (List Kind)} {f : Nat} {c : Callee} {rest : List Code} {ks : List Kind}
      {out : Option (List Kind)} (hc : E.program.callees[f]? = some c)
      (h : Typed L rest (c.type.gives ++ ks) out) :
      Typed L (.plain (.call f) :: rest) (c.type.takes ++ ks) out
  | callIndirect {L : List (List Kind)} {table type : Nat} {t : FuncType Nat} {rest : List Code}
      {ks : List Kind} {out : Option (List Kind)} (ht : E.program.types[type]? = some (some t))
      (h : Typed L rest (t.gives ++ ks) out) :
      Typed L (.plain (.callIndirect table type) :: rest) (.i32 :: t.takes ++ ks) out
  | block {L : List (List Kind)} {body rest : List Code} {ps rs ks : List Kind}
      {o out : Option (List Kind)} (hb : Typed (rs :: L) body ps o) (ho : Arrives o rs)
      (h : Typed L rest (rs ++ ks) out) :
      Typed L (.block ps.length rs.length body :: rest) (ps ++ ks) out
  | loop {L : List (List Kind)} {body rest : List Code} {ps rs ks : List Kind}
      {o out : Option (List Kind)} (hb : Typed (ps :: L) body ps o) (ho : Arrives o rs)
      (h : Typed L rest (rs ++ ks) out) :
      Typed L (.loop ps.length rs.length body :: rest) (ps ++ ks) out
  | cond {L : List (List Kind)} {yes no rest : List Code} {ps rs ks : List Kind}
      {o o' out : Option (List Kind)} (hy : Typed (rs :: L) yes ps o) (ho : Arrives o rs)
      (hn : Typed (rs :: L) no ps o') (ho' : Arrives o' rs) (h : Typed L rest (rs ++ ks) out) :
      Typed L (.cond ps.length rs.length yes no :: rest) (.i32 :: ps ++ ks) out

end Relations

/-! ## 3. Composition -/

section Composition

variable {E : Items} {V : Interior} {L : List (List Kind)}

theorem arrives_some (ks : List Kind) : Arrives (some ks) ks := by
  intro js h
  cases h
  rfl

/-- Code followed by code that starts where it ends. Where the first never ends, nothing is asked of the
    second. -/
theorem Typed.append {cs ds : List Code} {ins : List Kind} {o out : Option (List Kind)}
    (h : Typed E V L cs ins o) (hd : ∀ mid, o = some mid → Typed E V L ds mid out)
    (hn : o = none → out = none) : Typed E V L (cs ++ ds) ins out := by
  induction h with
  | nil => exact hd _ rfl
  | effect he _ ih => exact .effect he (ih hd hn)
  | leaves hl =>
    obtain rfl := hn rfl
    exact .leaves hl
  | brIf hl _ ih => exact .brIf hl (ih hd hn)
  | call hc _ ih => exact .call hc (ih hd hn)
  | callIndirect ht _ ih => exact .callIndirect ht (ih hd hn)
  | block hb ho _ _ ih => exact .block hb ho (ih hd hn)
  | loop hb ho _ _ ih => exact .loop hb ho (ih hd hn)
  | cond hy ho hn' ho' _ _ _ ih => exact .cond hy ho hn' ho' (ih hd hn)

/-- **One more piece of code**, which takes `ps` and leaves `rs` on whatever is below. -/
theorem Typed.snoc {cs ds : List Code} {ins ps rs : List Kind} {o : Option (List Kind)}
    (h : Typed E V L cs ins (o.map (ps ++ ·))) (hd : ∀ ks, Typed E V L ds (ps ++ ks) (some (rs ++ ks))) :
    Typed E V L (cs ++ ds) ins (o.map (rs ++ ·)) := by
  cases o with
  | none => exact h.append (fun _ hmid => nomatch hmid) fun _ => rfl
  | some ks =>
    refine h.append (fun mid hmid => ?_) fun hnone => nomatch hnone
    cases hmid
    exact hd ks

end Composition

end Embedder.Wasm
