import Embedder.Proofs.Steps
import Embedder.Proofs.Wasm.Typing
import Embedder.Wasm.Validity.Module

/-!
# What the checker sees

The checker keeps the types of the operands and a stack of blocks. `Checker.Sees k c cs B o` reads its
state at one point: the innermost block is `c`, the blocks around it are `cs`, the operands below it are
`B`, and its own operands have the kinds `o`, or anything if the rest of the block is never reached, and then
`o` is `none`.

* `Sees.popAll`, `Sees.pushAll`, `Sees.die` -- taking, adding and giving up operands, read off `o`;
* **`Sees.instr`** -- an instruction that passes the check and does not deal with blocks has an `Effect`, and
  what the checker sees changes as the effect says.
-/

namespace Embedder.Wasm

/-! ## 1. Checks -/

theorem ensure_eq_ok {b : Bool} {complaint : String} {u : Unit} :
    ensure b complaint = .ok u ↔ b = true := by
  unfold ensure
  cases b <;> simp

theorem orFail_eq_ok {α : Type} {x : Option α} {complaint : String} {a : α} :
    orFail x complaint = .ok a ↔ x = some a := by
  unfold orFail
  cases x <;> simp

/-! ## 2. Points of the code -/

/-- The kind of an operand. An unknown operand counts as one that is no number. -/
def Operand.kind : Operand → Kind
  | .known t => t.number?
  | _ => none

/-- The kinds of the operands of a block, unless it is dead. -/
def Control.seen (c : Control) (own : List Operand) : Option (List Kind) :=
  if c.dead then none else some (own.map Operand.kind)

/-- The checker inside a block: its own operands, of known types unless the block is dead, stand on those
    below. -/
structure Checker.At (k : Checker) (c : Control) (cs : List Control) (own below : List Operand) : Prop where
  controls : k.controls = c :: cs
  operands : k.operands = own ++ below
  size : k.size = own.length + below.length
  height : c.height = below.length
  known : c.dead = false → ∀ o ∈ own, ∃ t, o = .known t

/-- The checker inside a block, with the kinds of the block's operands. -/
def Checker.Sees (k : Checker) (c : Control) (cs : List Control) (below : List Operand)
    (o : Option (List Kind)) : Prop :=
  ∃ own, k.At c cs own below ∧ c.seen own = o

section Operands

variable {k k' : Checker} {c : Control} {cs : List Control} {own below : List Operand}
  {o : Option (List Kind)} {s : Scope}

theorem Checker.At.top (h : k.At c cs own below) : k.top = .ok c := by
  unfold Checker.top
  rw [h.controls]
  rfl

theorem Control.seen_cons (x : Operand) : c.seen (x :: own) = (c.seen own).map (x.kind :: ·) := by
  unfold seen
  cases c.dead <;> rfl

theorem Control.seen_of_dead (h : c.dead = true) : c.seen own = none := by
  unfold seen
  rw [h]
  rfl

/-! ## 3. Taking operands -/

/-- An operand that is taken is the block's own, unless the block is dead. -/
theorem Checker.At.pop {x : Operand} (h : k.At c cs own below) (hp : k.pop = .ok (x, k')) :
    ∃ own', k'.At c cs own' below ∧ (c.dead = false → own = x :: own') := by
  unfold Checker.pop at hp
  rw [h.top] at hp
  change (if k.size ≤ c.height then _ else _) = _ at hp
  rw [h.size, h.height, h.operands] at hp
  cases own with
  | nil =>
    rw [if_pos (by simp)] at hp
    cases hd : c.dead with
    | true =>
      rw [hd] at hp
      cases hp
      exact ⟨[], h, fun hf => nomatch hf⟩
    | false =>
      rw [hd] at hp
      cases hp
  | cons y own =>
    rw [if_neg (by simp)] at hp
    cases hp
    refine ⟨own, ⟨h.controls, rfl, ?_, h.height, fun hd z hz => ?_⟩, fun _ => rfl⟩
    · simp only [List.length_cons]
      omega
    · exact h.known hd z (List.mem_cons_of_mem x hz)

theorem number?_of_valSub {C : Context} {a b : ValType Nat} (h : C.valSub a b = true) :
    a.number? = b.number? := by
  unfold Context.valSub at h
  split at h
  · rfl
  · rw [beq_iff_eq.mp h]

/-- An operand of a known type may stand for types of its kind only. -/
theorem Checker.popType_eq_ok {t : ValType Nat} (h : k.popType s t = .ok k') :
    ∃ x, k.pop = .ok (x, k') ∧ ∀ a, x = .known a → a.number? = t.number? := by
  unfold popType at h
  obtain ⟨⟨x, k₁⟩, hpop, hx⟩ := ok_of_bind h
  cases x with
  | unknown =>
    cases hx
    exact ⟨_, hpop, fun a ha => nomatch ha⟩
  | unknownRef =>
    cases t with
    | ref r =>
      cases hx
      exact ⟨_, hpop, fun a ha => nomatch ha⟩
    | num t => cases hx
    | v128 => cases hx
  | known a =>
    obtain ⟨u, hsub, hk⟩ := ok_of_bind hx
    cases hk
    refine ⟨_, hpop, fun b hb => ?_⟩
    cases hb
    exact number?_of_valSub (ensure_eq_ok.mp hsub)

namespace Checker.Sees

theorem eq_none (h : k.Sees c cs below o) (hd : c.dead = true) : o = none := by
  obtain ⟨own, -, rfl⟩ := h
  exact Control.seen_of_dead hd

theorem pop {x : Operand} (h : k.Sees c cs below o) (hp : k.pop = .ok (x, k')) :
    (c.dead = false → ∃ t, x = .known t) ∧ ∃ o', k'.Sees c cs below o' ∧ o = o'.map (x.kind :: ·) := by
  obtain ⟨own, hat, rfl⟩ := h
  obtain ⟨own', hat', hown⟩ := hat.pop hp
  refine ⟨fun hd => ?_, _, ⟨own', hat', rfl⟩, ?_⟩
  · exact hat.known hd x (hown hd ▸ List.mem_cons_self)
  · cases hd : c.dead with
    | true =>
      rw [Control.seen_of_dead hd, Control.seen_of_dead hd]
      rfl
    | false => rw [hown hd, Control.seen_cons]

/-- In a dead block any kind will do for an operand that is taken. -/
theorem pop_kind {x : Operand} {kind : Kind} (h : k.Sees c cs below o) (hp : k.pop = .ok (x, k'))
    (hkind : ∀ a, x = .known a → a.number? = kind) :
    ∃ o', k'.Sees c cs below o' ∧ o = o'.map (kind :: ·) := by
  obtain ⟨hknown, o', h', rfl⟩ := h.pop hp
  refine ⟨o', h', ?_⟩
  cases hd : c.dead with
  | true =>
    rw [h'.eq_none hd]
    rfl
  | false =>
    obtain ⟨a, rfl⟩ := hknown hd
    rw [← hkind a rfl]
    rfl

theorem popType {t : ValType Nat} (h : k.Sees c cs below o) (hp : k.popType s t = .ok k') :
    ∃ o', k'.Sees c cs below o' ∧ o = o'.map (t.number? :: ·) := by
  obtain ⟨x, hpop, hkind⟩ := popType_eq_ok hp
  exact h.pop_kind hpop hkind

theorem popRef {r : Operand} (h : k.Sees c cs below o) (hp : k.popRef = .ok (r, k')) :
    ∃ o', k'.Sees c cs below o' ∧ o = o'.map (none :: ·) := by
  unfold Checker.popRef at hp
  obtain ⟨⟨x, k₁⟩, hpop, hx⟩ := ok_of_bind hp
  cases x with
  | unknown | unknownRef =>
    cases hx
    exact h.pop_kind hpop fun a ha => nomatch ha
  | known a =>
    cases a with
    | ref r =>
      cases hx
      refine h.pop_kind hpop fun b hb => ?_
      cases hb
      rfl
    | num t => cases hx
    | v128 => cases hx

/-- Operands taken one after the other, in the order in which they are taken. -/
theorem popEach : ∀ {ts : List (ValType Nat)} {k : Checker} {o : Option (List Kind)},
    k.Sees c cs below o → ts.foldlM (fun k t => k.popType s t) k = .ok k' →
      ∃ o', k'.Sees c cs below o' ∧ o = o'.map (ts.map ValType.number? ++ ·)
  | [], k, o, h, hp => by
      cases hp
      exact ⟨o, h, by simp⟩
  | t :: ts, k, o, h, hp => by
      rw [List.foldlM_cons] at hp
      obtain ⟨k₁, hfirst, hrest⟩ := ok_of_bind hp
      obtain ⟨o₁, h₁, rfl⟩ := h.popType hfirst
      obtain ⟨o', h', rfl⟩ := popEach h₁ hrest
      exact ⟨o', h', by simp [Function.comp_def]⟩

theorem popAll {ts : List (ValType Nat)} (h : k.Sees c cs below o) (hp : k.popAll s ts = .ok k') :
    ∃ o', k'.Sees c cs below o' ∧ o = o'.map (kindsOf ts ++ ·) := by
  unfold kindsOf
  rw [← List.map_reverse]
  exact popEach h hp

/-! ## 4. Adding operands -/

theorem push (h : k.Sees c cs below o) {x : Operand} (hx : c.dead = false → ∃ t, x = .known t) :
    (k.push x).Sees c cs below (o.map (x.kind :: ·)) := by
  obtain ⟨own, hat, rfl⟩ := h
  refine ⟨x :: own, ⟨hat.controls, ?_, ?_, hat.height, fun hd y hy => ?_⟩, Control.seen_cons _⟩
  · exact congrArg _ hat.operands
  · rw [List.length_cons, Nat.add_right_comm, ← hat.size]
    rfl
  · rcases List.mem_cons.mp hy with rfl | hy
    · exact hx hd
    · exact hat.known hd y hy

theorem pushAll (h : k.Sees c cs below o) (ts : List (ValType Nat)) :
    (k.pushAll ts).Sees c cs below (o.map (kindsOf ts ++ ·)) := by
  unfold Checker.pushAll
  induction ts generalizing k o with
  | nil => simpa [kindsOf] using h
  | cons t ts ih =>
    have h' := ih (h.push fun _ => ⟨t, rfl⟩)
    simpa [kindsOf, Operand.kind, Function.comp_def] using h'

/-- The rest of the block is never reached. -/
theorem die (h : k.Sees c cs below o) (hp : k.die = .ok k') :
    k'.Sees { c with dead := true } cs below none := by
  obtain ⟨own, hat, rfl⟩ := h
  unfold Checker.die at hp
  rw [hat.top] at hp
  cases hp
  refine ⟨[], ⟨?_, ?_, ?_, hat.height, fun hd => nomatch hd⟩, rfl⟩
  · dsimp only
    rw [hat.controls]
    rfl
  · dsimp only
    rw [hat.operands, hat.size, hat.height, Nat.add_sub_cancel, List.drop_left]
    rfl
  · dsimp only
    rw [hat.size, hat.height]
    simp

end Checker.Sees

/-! ## 5. Effects -/

/-- The checker inside a block after operands of the kinds `ps` were taken and such of the kinds `rs` were
    added to what was seen before. -/
def Checker.SeesAfter (k : Checker) (c : Control) (cs : List Control) (below : List Operand)
    (o : Option (List Kind)) (ps rs : List Kind) : Prop :=
  ∃ o' : Option (List Kind), o = o'.map (ps ++ ·) ∧ k.Sees c cs below (o'.map (rs ++ ·))

namespace Checker.Sees

theorem stays (h : k.Sees c cs below o) : k.SeesAfter c cs below o [] [] :=
  ⟨o, by simp, by simpa using h⟩

theorem pushed (h : k.Sees c cs below o) (t : ValType Nat) :
    (k.push (.known t)).SeesAfter c cs below o [] [t.number?] :=
  ⟨o, by simp, h.push fun _ => ⟨t, rfl⟩⟩

theorem popped {t : ValType Nat} (h : k.Sees c cs below o) (hp : k.popType s t = .ok k') :
    k'.SeesAfter c cs below o [t.number?] [] := by
  obtain ⟨o', h', rfl⟩ := h.popType hp
  exact ⟨o', rfl, by simpa using h'⟩

theorem poppedRef {r : Operand} (h : k.Sees c cs below o) (hp : k.popRef = .ok (r, k')) :
    k'.SeesAfter c cs below o [none] [] := by
  obtain ⟨o', h', rfl⟩ := h.popRef hp
  exact ⟨o', rfl, by simpa using h'⟩

theorem apply {ps rs : List (ValType Nat)} (h : k.Sees c cs below o) (hp : k.apply s ps rs = .ok k') :
    k'.SeesAfter c cs below o (kindsOf ps) (kindsOf rs) := by
  unfold Checker.apply at hp
  obtain ⟨k₁, hpop, hk⟩ := ok_of_bind hp
  obtain ⟨o', h', rfl⟩ := h.popAll hpop
  cases hk
  exact ⟨o', rfl, h'.pushAll rs⟩

/-- The variables that are known to be set play no part. -/
theorem know (h : k.Sees c cs below o) (i : Nat) : (k.know i).Sees c cs below o := by
  obtain ⟨own, hat, hseen⟩ := h
  exact ⟨own, ⟨hat.controls, hat.operands, hat.size, hat.height, hat.known⟩, hseen⟩

end Checker.Sees

namespace Checker.SeesAfter

variable {ps rs : List Kind}

theorem pushed (h : k.SeesAfter c cs below o ps rs) (t : ValType Nat) :
    (k.push (.known t)).SeesAfter c cs below o ps (t.number? :: rs) := by
  obtain ⟨o', rfl, h'⟩ := h
  refine ⟨o', rfl, ?_⟩
  simpa [Operand.kind, Function.comp_def] using h'.push fun _ => ⟨t, rfl⟩

theorem know (h : k.SeesAfter c cs below o ps rs) (i : Nat) : (k.know i).SeesAfter c cs below o ps rs := by
  obtain ⟨o', rfl, h'⟩ := h
  exact ⟨o', rfl, h'.know i⟩

end Checker.SeesAfter

end Operands

/-- The scope of the checker, read as items and interior of a function. -/
structure Scope.Describes (s : Scope) (E : Items) (V : Interior) : Prop where
  features : s.context.features = .runnable
  locals : V.locals = s.locals.toList.map ValType.number?
  results : V.results = kindsOf s.results
  globals : E.globals = s.context.globals.toList.map fun g => g.content.number?
  funcs : ∀ (f : Nat) (t : FuncType Nat), s.context.typeOfFunc f = .ok t →
    ∃ c, E.program.callees[f]? = some c ∧ c.type = t
  types : ∀ (i : Nat) (t : FuncType Nat), s.context.funcType i = .ok t →
    E.program.types[i]? = some (some t)

section Instructions

variable {E : Items} {V : Interior} {s : Scope} {k k' : Checker} {c : Control} {cs : List Control}
  {below : List Operand} {o : Option (List Kind)}

theorem Scope.Describes.local_kind (hs : s.Describes E V) {i : Nat} {t : ValType Nat}
    (h : s.local i = .ok t) : V.locals[i]? = some t.number? := by
  have hi := orFail_eq_ok.mp h
  rw [hs.locals, List.getElem?_map, Array.getElem?_toList, hi]
  rfl

theorem Scope.Describes.global_kind (hs : s.Describes E V) {i : Nat} {g : GlobalType Nat}
    (h : s.global i = .ok g) : E.globals[i]? = some g.content.number? := by
  have hi := orFail_eq_ok.mp h
  rw [hs.globals, List.getElem?_map, Array.getElem?_toList, hi]
  rfl

/-- The groups in which instructions are checked. -/
inductive Group where
  | simple
  | items
  | storage
  | control
  | blocks
  deriving DecidableEq

/-- The group of an instruction. -/
def Instr.group : Instr Nat → Group
  | .nop | .drop | .select _ | .const _ | .v128Const _ | .numeric _ => .simple
  | .localGet _ | .localSet _ | .localTee _ | .globalGet _ | .globalSet _ | .refNull _ | .refIsNull
  | .refFunc _ | .refAsNonNull | .refEq | .refI31 | .i31Get _ => .items
  | .tableGet _ | .tableSet _ | .tableSize _ | .tableGrow _ | .tableFill _ | .tableCopy ..
  | .tableInit .. | .elemDrop _ | .load .. | .store .. | .memorySize _ | .memoryGrow _
  | .memoryFill _ | .memoryCopy .. | .memoryInit .. | .dataDrop _ => .storage
  | .block _ | .loop _ | .if_ _ | .else_ | .end_ => .blocks
  | _ => .control

/-- The instruction has an effect that leads to what the checker sees now. -/
def Checker.Effective (k' : Checker) (E : Items) (V : Interior) (i : Instr Nat) (c : Control)
    (cs : List Control) (below : List Operand) (o : Option (List Kind)) : Prop :=
  ∃ ps rs, Effect E V i ps rs ∧ k'.SeesAfter c cs below o ps rs

theorem Checker.Sees.items {i : Instr Nat} (hs : s.Describes E V) (h : k.Sees c cs below o)
    (hi : i.group = .items) (hk : k.variable s i = .ok k') : k'.Effective E V i c cs below o := by
  have hf := hs.features
  cases i <;> cases hi <;> simp only [Checker.variable] at hk
  case localGet j =>
    obtain ⟨t, ht, hk⟩ := ok_of_bind hk
    obtain ⟨_, _, hk⟩ := ok_of_bind hk
    cases hk
    exact ⟨_, _, .localGet (hs.local_kind ht), h.pushed t⟩
  case localSet j =>
    obtain ⟨t, ht, hk⟩ := ok_of_bind hk
    obtain ⟨k₁, hp, hk⟩ := ok_of_bind hk
    cases hk
    exact ⟨_, _, .localSet (hs.local_kind ht), (h.popped hp).know j⟩
  case localTee j =>
    obtain ⟨t, ht, hk⟩ := ok_of_bind hk
    obtain ⟨k₁, hp, hk⟩ := ok_of_bind hk
    cases hk
    exact ⟨_, _, .localTee (hs.local_kind ht), ((h.popped hp).pushed t).know j⟩
  case globalGet j =>
    obtain ⟨g, hg, hk⟩ := ok_of_bind hk
    cases hk
    exact ⟨_, _, .globalGet (hs.global_kind hg), h.pushed g.content⟩
  case globalSet j =>
    obtain ⟨g, hg, hk⟩ := ok_of_bind hk
    obtain ⟨_, _, hp⟩ := ok_of_bind hk
    exact ⟨_, _, .globalSet (hs.global_kind hg), h.popped hp⟩
  case refNull t =>
    obtain ⟨_, _, hk⟩ := ok_of_bind hk
    cases hk
    exact ⟨_, _, .refNull t, h.pushed _⟩
  case refIsNull =>
    obtain ⟨⟨r, k₁⟩, hp, hk⟩ := ok_of_bind hk
    cases hk
    exact ⟨_, _, .refIsNull, (h.poppedRef hp).pushed .i32⟩
  case refFunc f =>
    obtain ⟨t, _, hk⟩ := ok_of_bind hk
    obtain ⟨_, _, hk⟩ := ok_of_bind hk
    cases hk
    exact ⟨_, _, .refFunc f, h.pushed _⟩
  all_goals
    obtain ⟨_, hfeature, _⟩ := ok_of_bind hk
    rw [hf] at hfeature
    cases hfeature

theorem Checker.Sees.storage {i : Instr Nat} (h : k.Sees c cs below o) (hi : i.group = .storage)
    (hk : k.storage s i = .ok k') : k'.Effective E V i c cs below o := by
  cases i <;> cases hi <;> simp only [Checker.storage] at hk
  case tableGet j =>
    obtain ⟨t, _, hk⟩ := ok_of_bind hk
    exact ⟨_, _, .table (.tableGet j), h.apply hk⟩
  case tableSet j =>
    obtain ⟨t, _, hk⟩ := ok_of_bind hk
    exact ⟨_, _, .table (.tableSet j), h.apply hk⟩
  case tableSize j =>
    obtain ⟨t, _, hk⟩ := ok_of_bind hk
    cases hk
    exact ⟨_, _, .table (.tableSize j), h.pushed .i32⟩
  case tableGrow j =>
    obtain ⟨t, _, hk⟩ := ok_of_bind hk
    exact ⟨_, _, .table (.tableGrow j), h.apply hk⟩
  case tableFill j =>
    obtain ⟨t, _, hk⟩ := ok_of_bind hk
    exact ⟨_, _, .table (.tableFill j), h.apply hk⟩
  case tableCopy j l =>
    obtain ⟨t, _, hk⟩ := ok_of_bind hk
    obtain ⟨t', _, hk⟩ := ok_of_bind hk
    obtain ⟨_, _, hk⟩ := ok_of_bind hk
    exact ⟨_, _, .table (.tableCopy j l), h.apply hk⟩
  case tableInit j e =>
    obtain ⟨t, _, hk⟩ := ok_of_bind hk
    obtain ⟨r, _, hk⟩ := ok_of_bind hk
    obtain ⟨_, _, hk⟩ := ok_of_bind hk
    exact ⟨_, _, .table (.tableInit j e), h.apply hk⟩
  case elemDrop e =>
    obtain ⟨_, _, hk⟩ := ok_of_bind hk
    cases hk
    exact ⟨_, _, .table (.elemDrop e), h.stays⟩
  case load op a =>
    obtain ⟨_, _, hk⟩ := ok_of_bind hk
    exact ⟨_, _, .memory (.load op a), h.apply hk⟩
  case store op a =>
    obtain ⟨_, _, hk⟩ := ok_of_bind hk
    exact ⟨_, _, .memory (.store op a), h.apply hk⟩
  case memorySize j =>
    obtain ⟨_, _, hk⟩ := ok_of_bind hk
    cases hk
    exact ⟨_, _, .memory (.memorySize j), h.pushed .i32⟩
  case memoryGrow j =>
    obtain ⟨_, _, hk⟩ := ok_of_bind hk
    exact ⟨_, _, .memory (.memoryGrow j), h.apply hk⟩
  case memoryFill j =>
    obtain ⟨_, _, hk⟩ := ok_of_bind hk
    exact ⟨_, _, .memory (.memoryFill j), h.apply hk⟩
  case memoryCopy j l =>
    obtain ⟨_, _, hk⟩ := ok_of_bind hk
    obtain ⟨_, _, hk⟩ := ok_of_bind hk
    exact ⟨_, _, .memory (.memoryCopy j l), h.apply hk⟩
  case memoryInit j d =>
    obtain ⟨_, _, hk⟩ := ok_of_bind hk
    obtain ⟨_, _, hk⟩ := ok_of_bind hk
    exact ⟨_, _, .memory (.memoryInit j d), h.apply hk⟩
  case dataDrop d =>
    obtain ⟨_, _, hk⟩ := ok_of_bind hk
    cases hk
    exact ⟨_, _, .memory (.dataDrop d), h.stays⟩

/-- A choice between two operands that is left as `x`: in a block that is reached all have one kind. -/
theorem Checker.Sees.selected {a b x : Operand} (h : k.Sees c cs below o)
    (hx : c.dead = false → a = x ∧ b = x ∧ ∃ t, x = .known t) :
    (k.push x).Effective E V (.select none) c cs below
      (((o.map (a.kind :: ·)).map (b.kind :: ·)).map (.i32 :: ·)) := by
  refine ⟨_, _, .select none x.kind, o, ?_, h.push fun hd => (hx hd).2.2⟩
  cases hd : c.dead with
  | true =>
    rw [h.eq_none hd]
    rfl
  | false =>
    obtain ⟨rfl, rfl, -⟩ := hx hd
    simp [Function.comp_def]

theorem Checker.Sees.selectUntyped (h : k.Sees c cs below o) (hk : k.selectUntyped s = .ok k') :
    k'.Effective E V (.select none) c cs below o := by
  unfold Checker.selectUntyped at hk
  obtain ⟨k₁, hp, hk⟩ := ok_of_bind hk
  obtain ⟨⟨b, k₂⟩, hb, hk⟩ := ok_of_bind hk
  obtain ⟨⟨a, k₃⟩, ha, hk⟩ := ok_of_bind hk
  obtain ⟨_, _, hk⟩ := ok_of_bind hk
  obtain ⟨o₁, h₁, rfl⟩ := h.popType hp
  obtain ⟨hknownb, o₂, h₂, rfl⟩ := h₁.pop hb
  obtain ⟨hknowna, o₃, h₃, rfl⟩ := h₂.pop ha
  by_cases hunknown : a = .unknown
  · rw [if_pos hunknown] at hk
    cases hk
    refine h₃.selected fun hd => ?_
    obtain ⟨t, rfl⟩ := hknowna hd
    cases hunknown
  · rw [if_neg hunknown] at hk
    obtain ⟨_, hsame, hk⟩ := ok_of_bind hk
    cases hk
    refine h₃.selected fun hd => ?_
    obtain ⟨t, rfl⟩ := hknowna hd
    obtain ⟨t', rfl⟩ := hknownb hd
    have heq : Operand.known t = .known t' := by simpa using ensure_eq_ok.mp hsame
    exact ⟨rfl, heq.symm, t, rfl⟩

theorem Checker.Sees.simple {i : Instr Nat} (h : k.Sees c cs below o) (hi : i.group = .simple)
    (hinstr : k.instr s i = .ok k') : k'.Effective E V i c cs below o := by
  obtain ⟨_, _, hk⟩ := ok_of_bind hinstr
  clear hinstr
  cases i <;> cases hi
  case nop =>
    cases hk
    exact ⟨_, _, .nop, h.stays⟩
  case drop =>
    obtain ⟨⟨x, k₁⟩, hp, hk⟩ := ok_of_bind hk
    cases hk
    obtain ⟨-, o', h', rfl⟩ := h.pop hp
    exact ⟨_, _, .drop x.kind, o', rfl, by simpa using h'⟩
  case select ts =>
    cases ts with
    | none => exact h.selectUntyped hk
    | some ts =>
      match ts, hk with
      | [t], hk =>
        obtain ⟨_, _, hk⟩ := ok_of_bind hk
        exact ⟨_, _, .select _ t.number?, h.apply hk⟩
  case const v =>
    cases hk
    exact ⟨_, _, .const v, h.pushed _⟩
  case v128Const n =>
    cases hk
    exact ⟨_, _, .v128Const n, h.pushed _⟩
  case numeric op =>
    have ha := h.apply hk
    have hparams : kindsOf (op.params.map ValType.num) = (op.params.map some).reverse := by
      simp [kindsOf, ValType.number?]
    rw [hparams] at ha
    exact ⟨_, _, .numeric op, ha⟩

/-- **An instruction that passes the check has an effect**, or it is one of control. -/
theorem Checker.Sees.instr {i : Instr Nat} (hs : s.Describes E V) (h : k.Sees c cs below o)
    (hinstr : k.instr s i = .ok k') :
    k'.Effective E V i c cs below o ∨ k.control s i = .ok k' ∧ (i.group = .control ∨ i.group = .blocks) := by
  obtain ⟨_, _, hk⟩ := ok_of_bind hinstr
  cases hg : i.group with
  | simple => exact .inl (h.simple hg hinstr)
  | items =>
    have hitems : k.variable s i = .ok k' := by
      cases i <;> cases hg <;> exact hk
    exact .inl (h.items hs hg hitems)
  | storage =>
    have hstorage : k.storage s i = .ok k' := by
      cases i <;> cases hg <;> exact hk
    exact .inl (h.storage hg hstorage)
  | control =>
    refine .inr ⟨?_, .inl rfl⟩
    cases i <;> cases hg <;> exact hk
  | blocks =>
    refine .inr ⟨?_, .inr rfl⟩
    cases i <;> cases hg <;> exact hk

end Instructions

end Embedder.Wasm
