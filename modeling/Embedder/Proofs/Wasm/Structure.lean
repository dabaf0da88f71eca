import Embedder.Proofs.Wasm.Checker

/-!
# Checked code is typed

Flat code is read twice: by the checker, which keeps a stack of blocks with the types of their operands, and by
`Code.ofFlatFrom`, which keeps a stack of blocks under construction. Read side by side the two stacks
have the same height, and at every level the code built so far is typed from the block's parameters to the
operands that the checker has there. Where a block is open inside another one, the outer code has already
given up the operands that the inner block takes (`Control.entry`).

* `Enclosed` says this of the levels around the innermost one, `Tracks` of all of them;
* **`Tracks.instr`** -- an instruction that passes the check keeps the two in step, or it is the end of the
  function;
* **`ofFlat_typed`** -- so the code of a function that passes the check is typed.
-/

namespace Embedder.Wasm

/-! ## 1. Levels -/

/-- What a branch to each of the blocks takes. -/
def labelKinds (cs : List Control) : List (List Kind) := cs.map fun c => kindsOf c.labelTypes

/-- What a block takes from the code around it. -/
def Control.entry (c : Control) : List Kind :=
  match c.kind with
  | .yes | .no => .i32 :: kindsOf c.params
  | _ => kindsOf c.params

section Levels

variable (E : Items) (V : Interior)

/-- The block under construction is the block of the checker. Of a conditional whose first branch is
    complete, that branch is typed. -/
def Opens (L : List (List Kind)) (c : Control) : Opener → Prop
  | .body => c.kind = .function
  | .block p r => c.kind = .block ∧ p = (kindsOf c.params).length ∧ r = (kindsOf c.results).length
  | .loop p r => c.kind = .loop ∧ p = (kindsOf c.params).length ∧ r = (kindsOf c.results).length
  | .yes p r => c.kind = .yes ∧ p = (kindsOf c.params).length ∧ r = (kindsOf c.results).length
  | .no p r yes => c.kind = .no ∧ p = (kindsOf c.params).length ∧ r = (kindsOf c.results).length ∧
      ∃ o, Typed E V (kindsOf c.results :: L) yes (kindsOf c.params) o ∧ Arrives o (kindsOf c.results)

/-- The levels around a block: blocks of the checker, blocks under construction, and the operands. -/
inductive Enclosed : Control → List Control → List OpenBlock → List Operand → Prop where
  | function {c : Control} (kind : c.kind = .function) (params : c.params = [])
      (results : kindsOf c.results = V.results) : Enclosed c [] [] []
  | block {c c' : Control} {cs : List Control} {b : OpenBlock} {bs : List OpenBlock}
      {own below : List Operand} (kind : c.kind ≠ .function) (height : c'.height = below.length)
      (known : c'.dead = false → ∀ x ∈ own, ∃ t, x = .known t)
      (opens : Opens E V (labelKinds cs) c' b.opener)
      (typed : Typed E V (labelKinds (c' :: cs)) b.done.reverse (kindsOf c'.params)
        ((c'.seen own).map (c.entry ++ ·)))
      (outer : Enclosed c' cs bs below) : Enclosed c (c' :: cs) (b :: bs) (own ++ below)

/-- Checker and construction are at the same point. -/
inductive Tracks (k : Checker) (b : OpenBlock) (bs : List OpenBlock) : Prop where
  | intro {c : Control} {cs : List Control} {below : List Operand} {o : Option (List Kind)}
      (sees : k.Sees c cs below o) (opens : Opens E V (labelKinds cs) c b.opener)
      (typed : Typed E V (labelKinds (c :: cs)) b.done.reverse (kindsOf c.params) o)
      (enclosed : Enclosed E V c cs bs below)

end Levels

/-- The checker between two blocks. -/
structure Checker.Rests (k : Checker) (cs : List Control) (stack : List Operand) : Prop where
  controls : k.controls = cs
  operands : k.operands = stack
  size : k.size = stack.length

variable {E : Items} {V : Interior} {s : Scope} {k k' : Checker} {c : Control} {cs : List Control}
  {below : List Operand} {o : Option (List Kind)} {b : OpenBlock} {bs : List OpenBlock}

/-! ## 2. Opening and closing -/

theorem Checker.Rests.openBlock {stack : List Operand} (h : k.Rests cs stack) (kind : BlockKind)
    (ps rs : List (ValType Nat)) :
    (k.openBlock kind ps rs).Sees ⟨kind, ps, rs, stack.length, false, k.known⟩ cs stack
      (some (kindsOf ps)) := by
  have hsees : Checker.Sees
      { k with controls := ⟨kind, ps, rs, k.size, false, k.known⟩ :: k.controls }
      ⟨kind, ps, rs, stack.length, false, k.known⟩ cs stack (some []) := by
    refine ⟨[], ⟨?_, h.operands, ?_, rfl, fun _ x hx => nomatch hx⟩, rfl⟩
    · rw [h.controls, h.size]
    · rw [List.length_nil, Nat.zero_add]
      exact h.size
  have hpush := hsees.pushAll ps
  rwa [Option.map_some, List.append_nil] at hpush

theorem Checker.At.rests {own : List Operand} (h : k.At c cs own below) :
    k.Rests (c :: cs) (own ++ below) :=
  ⟨h.controls, h.operands, by rw [h.size, List.length_append]⟩

/-- A block that is closed has its results, and nothing else, on top of the operands below it. -/
theorem Checker.Sees.closeBlock {t : Control} (h : k.Sees c cs below o)
    (hk : k.closeBlock s = .ok (t, k')) :
    t = c ∧ Arrives o (kindsOf c.results) ∧ k'.Rests cs below := by
  obtain ⟨own, hat, rfl⟩ := h
  unfold Checker.closeBlock at hk
  obtain ⟨_, htop, hk⟩ := ok_of_bind hk
  rw [hat.top] at htop
  cases htop
  obtain ⟨k₁, hpop, hk⟩ := ok_of_bind hk
  obtain ⟨_, hsize, hk⟩ := ok_of_bind hk
  obtain ⟨o', ⟨own', hat', rfl⟩, hseen⟩ := Checker.Sees.popAll ⟨own, hat, rfl⟩ hpop
  have hempty : own' = [] := by
    have := beq_iff_eq.mp (ensure_eq_ok.mp hsize)
    rw [hat'.size, hat'.height] at this
    exact List.eq_nil_of_length_eq_zero (by omega)
  subst hempty
  cases hk
  refine ⟨rfl, ?_, ⟨?_, hat'.operands, ?_⟩⟩
  · rw [hseen]
    intro js hjs
    unfold Control.seen at hjs
    cases hd : c.dead with
    | true =>
      rw [hd] at hjs
      cases hjs
    | false =>
      rw [hd] at hjs
      cases hjs
      exact List.append_nil _
  · dsimp only
    rw [hat'.controls]
    rfl
  · dsimp only
    rw [hat'.size, List.length_nil, Nat.zero_add]

/-! ## 3. Branches -/

theorem Checker.Sees.label {l : Nat} {t : Control} (h : k.Sees c cs below o) (hk : k.label l = .ok t) :
    (labelKinds (c :: cs))[l]? = some (kindsOf t.labelTypes) := by
  obtain ⟨own, hat, -⟩ := h
  have hl := orFail_eq_ok.mp hk
  rw [hat.controls] at hl
  unfold labelKinds
  rw [List.getElem?_map, hl]
  rfl

theorem Checker.Sees.branchTable {arity : Nat} (h : k.Sees c cs below o) :
    ∀ {ls : List Nat}, k.branchTable s arity ls = .ok k' →
      k' = k ∧ ∀ l ∈ ls, ∃ js, (labelKinds (c :: cs))[l]? = some js ∧ ∀ ks, o = some ks → js <+: ks
  | [], hk => by
      cases hk
      exact ⟨rfl, fun l hl => nomatch hl⟩
  | l :: ls, hk => by
      obtain ⟨t, hlabel, hk⟩ := ok_of_bind hk
      obtain ⟨_, _, hk⟩ := ok_of_bind hk
      obtain ⟨k₁, hpop, hk⟩ := ok_of_bind hk
      obtain ⟨hsame, hrest⟩ := Checker.Sees.branchTable h hk
      refine ⟨hsame, fun l' hl' => ?_⟩
      rcases List.mem_cons.mp hl' with rfl | hl'
      · refine ⟨_, h.label hlabel, fun ks hks => ?_⟩
        obtain ⟨o', -, ho⟩ := h.popAll hpop
        rw [hks] at ho
        obtain ⟨js, -, hjs⟩ := Option.map_eq_some_iff.mp ho.symm
        exact ⟨js, hjs⟩
      · exact hrest l' hl'

/-! ## 4. One instruction -/

/-- One more piece of code that takes some operands and leaves others. -/
theorem Tracks.snoc {code : Code} {ps rs : List Kind} (opens : Opens E V (labelKinds cs) c b.opener)
    (typed : Typed E V (labelKinds (c :: cs)) b.done.reverse (kindsOf c.params) o)
    (enclosed : Enclosed E V c cs bs below) (hk : k'.SeesAfter c cs below o ps rs)
    (hcode : ∀ ks, Typed E V (labelKinds (c :: cs)) [code] (ps ++ ks) (some (rs ++ ks))) :
    Tracks E V k' (b.push code) bs := by
  obtain ⟨o', rfl, sees⟩ := hk
  refine ⟨sees, opens, ?_, enclosed⟩
  have h := typed.snoc hcode
  rwa [← List.reverse_cons] at h

theorem Enclosed.die (h : Enclosed E V c cs bs below) :
    Enclosed E V { c with dead := true } cs bs below := by
  cases h with
  | function kind params results => exact .function kind params results
  | block kind height known opens typed outer => exact .block kind height known opens typed outer

theorem Opens.die {L : List (List Kind)} {opener : Opener} (h : Opens E V L c opener) :
    Opens E V L { c with dead := true } opener := by
  cases opener <;> exact h

/-- One more instruction that never continues. -/
theorem Tracks.leave {k₁ : Checker} {i : Instr Nat} {o₁ : Option (List Kind)}
    (opens : Opens E V (labelKinds cs) c b.opener)
    (typed : Typed E V (labelKinds (c :: cs)) b.done.reverse (kindsOf c.params) o)
    (enclosed : Enclosed E V c cs bs below) (sees : k₁.Sees c cs below o₁) (hdie : k₁.die = .ok k')
    (hcode : ∀ ks, o = some ks → Typed E V (labelKinds (c :: cs)) [.plain i] ks none) :
    Tracks E V k' (b.push (.plain i)) bs := by
  refine ⟨sees.die hdie, opens.die, ?_, enclosed.die⟩
  have h := typed.append hcode fun _ => rfl
  rwa [← List.reverse_cons] at h

theorem Tracks.leaveWith {k₁ : Checker} {i : Instr Nat} {o₁ : Option (List Kind)} {ps : List Kind}
    (opens : Opens E V (labelKinds cs) c b.opener)
    (typed : Typed E V (labelKinds (c :: cs)) b.done.reverse (kindsOf c.params) (o₁.map (ps ++ ·)))
    (enclosed : Enclosed E V c cs bs below) (sees : k₁.Sees c cs below o₁) (hdie : k₁.die = .ok k')
    (hi : Leaves E V (labelKinds (c :: cs)) i ps) : Tracks E V k' (b.push (.plain i)) bs := by
  refine .leave opens typed enclosed sees hdie fun ks hks => ?_
  obtain ⟨js, -, rfl⟩ := Option.map_eq_some_iff.mp hks
  exact .leaves hi

/-- A new block. -/
theorem Tracks.openBlock {k₁ : Checker} {kind : BlockKind} {ps rs : List (ValType Nat)} {opener : Opener}
    {o₁ : Option (List Kind)} (opens : Opens E V (labelKinds cs) c b.opener)
    (typed : Typed E V (labelKinds (c :: cs)) b.done.reverse (kindsOf c.params) o)
    (enclosed : Enclosed E V c cs bs below) (sees : k₁.Sees c cs below o₁)
    (hkind : kind ≠ .function)
    (hentry : ∀ height known, o = o₁.map (Control.entry ⟨kind, ps, rs, height, false, known⟩ ++ ·))
    (hopener : ∀ height known,
      Opens E V (labelKinds (c :: cs)) ⟨kind, ps, rs, height, false, known⟩ opener) :
    Tracks E V (k₁.openBlock kind ps rs) ⟨opener, []⟩ (b :: bs) := by
  obtain ⟨own, hat, rfl⟩ := sees
  refine ⟨hat.rests.openBlock kind ps rs, hopener _ _, .nil, ?_⟩
  refine .block hkind hat.height hat.known opens ?_ enclosed
  rwa [← hentry]

theorem Control.labelTypes_eq (h : c.kind ≠ .loop) : c.labelTypes = c.results := by
  unfold labelTypes
  rw [if_neg fun hloop => h (beq_iff_eq.mp hloop)]

/-- The finished block, as a piece of the code around it. -/
theorem close_typed {L : List (List Kind)} (opens : Opens E V L c b.opener) (hkind : c.kind ≠ .function)
    (typed : Typed E V (kindsOf c.labelTypes :: L) b.done.reverse (kindsOf c.params) o)
    (arrives : Arrives o (kindsOf c.results))
    (hyes : c.kind = .yes → kindsOf c.params = kindsOf c.results) (ks : List Kind) :
    Typed E V L [b.close] (c.entry ++ ks) (some (kindsOf c.results ++ ks)) := by
  obtain ⟨opener, done⟩ := b
  unfold Control.entry
  cases opener with
  | body => exact absurd opens hkind
  | block p r =>
    obtain ⟨hk, rfl, rfl⟩ := opens
    rw [Control.labelTypes_eq (by rw [hk]; decide)] at typed
    rw [hk]
    exact .block typed arrives .nil
  | loop p r =>
    obtain ⟨hk, rfl, rfl⟩ := opens
    have hlabel : c.labelTypes = c.params := by
      unfold Control.labelTypes
      rw [hk]
      rfl
    rw [hlabel] at typed
    rw [hk]
    exact .loop typed arrives .nil
  | yes p r =>
    obtain ⟨hk, rfl, rfl⟩ := opens
    rw [Control.labelTypes_eq (by rw [hk]; decide)] at typed
    rw [hk]
    -- The missing branch passes the parameters on.
    exact .cond typed arrives .nil (hyes hk ▸ arrives_some _) .nil
  | no p r yes =>
    obtain ⟨hk, rfl, rfl, o', typed', arrives'⟩ := opens
    rw [Control.labelTypes_eq (by rw [hk]; decide)] at typed
    rw [hk]
    exact .cond typed' arrives' typed arrives .nil

/-- The end of a block inside another one. -/
theorem Tracks.close {k₁ : Checker} {c' : Control} {b' : OpenBlock}
    (opens : Opens E V (labelKinds (c' :: cs)) c b.opener)
    (typed : Typed E V (labelKinds (c :: c' :: cs)) b.done.reverse (kindsOf c.params) o)
    (enclosed : Enclosed E V c (c' :: cs) (b' :: bs) below) (arrives : Arrives o (kindsOf c.results))
    (rests : k₁.Rests (c' :: cs) below) (hyes : c.kind = .yes → kindsOf c.params = kindsOf c.results) :
    Tracks E V (k₁.pushAll c.results) (b'.push b.close) bs := by
  cases enclosed with
  | @block _ _ _ _ _ own below kind height known opens' typed' outer =>
    have sees : k₁.Sees c' cs below (c'.seen own) := by
      refine ⟨own, ⟨rests.controls, rests.operands, ?_, height, known⟩, rfl⟩
      rw [rests.size, List.length_append]
    have after : (k₁.pushAll c.results).SeesAfter c' cs below ((c'.seen own).map (c.entry ++ ·)) c.entry
        (kindsOf c.results) := ⟨_, rfl, sees.pushAll c.results⟩
    exact Tracks.snoc opens' typed' outer after (close_typed opens kind typed arrives hyes)

/-- The second branch of a conditional. -/
theorem Tracks.turn {k₁ : Checker} (opens : Opens E V (labelKinds cs) c b.opener) (hkind : c.kind = .yes)
    (typed : Typed E V (labelKinds (c :: cs)) b.done.reverse (kindsOf c.params) o)
    (enclosed : Enclosed E V c cs bs below) (arrives : Arrives o (kindsOf c.results))
    (rests : k₁.Rests cs below) : Tracks E V (k₁.openBlock .no c.params c.results) b.turn bs := by
  have hlabel : c.labelTypes = c.results := Control.labelTypes_eq (by rw [hkind]; decide)
  unfold labelKinds at typed
  rw [List.map_cons, hlabel] at typed
  obtain ⟨opener, done⟩ := b
  cases opener with
  | yes p r =>
    obtain ⟨-, hp, hr⟩ := opens
    refine ⟨rests.openBlock .no c.params c.results, ⟨rfl, hp, hr, o, typed, arrives⟩, .nil, ?_⟩
    cases enclosed with
    | function kind => rw [kind] at hkind; cases hkind
    | block kind height known opens' typed' outer =>
      refine .block (fun hfunction => nomatch hfunction) height known opens' ?_ outer
      unfold Control.entry at typed' ⊢
      rw [hkind] at typed'
      exact typed'
  | body => rw [opens] at hkind; cases hkind
  | block p r => rw [opens.1] at hkind; cases hkind
  | loop p r => rw [opens.1] at hkind; cases hkind
  | no p r yes => rw [opens.1] at hkind; cases hkind

/-! ## 5. Types of blocks -/

theorem funcType_eq_ok {C : Context} {i : Nat} {t : FuncType Nat} (h : C.funcType i = .ok t) :
    ∃ final supers, C.types[i]? = some ⟨final, supers, .func t⟩ := by
  unfold Context.funcType at h
  split at h
  · rename_i hi
    cases h
    exact ⟨_, _, hi⟩
  · cases h
  · cases h

variable {m : Module}

theorem funcType?_eq {β : Type} {m : Module β} {C : Context} (hm : C.types = m.typeList.toArray) {i : Nat}
    {t : FuncType Nat} (h : C.funcType i = .ok t) : m.funcType? i = some t := by
  obtain ⟨final, supers, hi⟩ := funcType_eq_ok h
  rw [hm, List.getElem?_toArray] at hi
  unfold Module.funcType?
  rw [hi]

/-- The numbers in a block are those of its types. -/
theorem blockTypes_arity (hm : s.context.types = m.typeList.toArray) {t : BlockType Nat}
    {ps rs : List (ValType Nat)} (h : s.blockTypes t = .ok (ps, rs)) :
    t.arity m = ((kindsOf ps).length, (kindsOf rs).length) := by
  rw [length_kindsOf, length_kindsOf]
  cases t with
  | empty =>
    cases h
    rfl
  | value t =>
    obtain ⟨_, _, h⟩ := ok_of_bind h
    cases h
    rfl
  | type i =>
    obtain ⟨t, ht, h⟩ := ok_of_bind h
    cases h
    unfold BlockType.arity
    dsimp only
    rw [funcType?_eq hm ht]

/-! ## 6. Whole bodies -/

theorem ofFlatFrom_plain {i : Instr Nat} (hi : i.group ≠ .blocks) (rest : List (Instr Nat)) :
    Code.ofFlatFrom m b bs (i :: rest) = Code.ofFlatFrom m (b.push (.plain i)) bs rest := by
  cases i
  case block | loop | if_ | else_ | end_ => exact absurd rfl hi
  all_goals rfl

theorem Effect.group_ne {i : Instr Nat} {ps rs : List Kind} (h : Effect E V i ps rs) :
    i.group ≠ .blocks := by
  intro hi
  cases h with
  | memory h => cases h <;> cases hi
  | table h => cases h <;> cases hi
  | _ => cases hi

/-- The checker is in step with the construction after an instruction, or the function is complete. -/
def StepsOrEnds (m : Module) (E : Items) (V : Interior) (k' : Checker) (b : OpenBlock) (bs : List OpenBlock)
    (i : Instr Nat) (rest : List (Instr Nat)) : Prop :=
  (∃ b' bs', Tracks E V k' b' bs' ∧ Code.ofFlatFrom m b bs (i :: rest) = Code.ofFlatFrom m b' bs' rest) ∨
    ∃ o, Typed E V [V.results] (Code.ofFlatFrom m b bs (i :: rest)) [] o ∧ Arrives o V.results

/-- The end of a block that passes the check. A conditional without a second branch leaves what it takes. -/
theorem Checker.Sees.end_ (h : k.Sees c cs below o) (hk : k.control s .end_ = .ok k') :
    Arrives o (kindsOf c.results) ∧ (c.kind = .yes → kindsOf c.params = kindsOf c.results) ∧
      ∃ k₁ : Checker, k₁.Rests cs below ∧ k' = k₁.pushAll c.results := by
  obtain ⟨⟨t, k₁⟩, hclose, hk⟩ := ok_of_bind hk
  obtain ⟨rfl, arrives, rests⟩ := h.closeBlock hclose
  refine ⟨arrives, ?_⟩
  by_cases hyes : t.kind = .yes
  · dsimp only at hk
    rw [if_pos (beq_iff_eq.mpr hyes)] at hk
    obtain ⟨⟨t', k₂⟩, hclose', hk⟩ := ok_of_bind hk
    obtain ⟨-, arrives', -⟩ := (rests.openBlock .no t.params t.results).closeBlock hclose'
    cases hk
    exact ⟨fun _ => arrives' _ rfl, k₁, rests, rfl⟩
  · dsimp only at hk
    rw [if_neg fun h => hyes (beq_iff_eq.mp h)] at hk
    cases hk
    exact ⟨fun h => absurd h hyes, k₁, rests, rfl⟩

theorem Tracks.end_ (h : Tracks E V k b bs) (hk : k.control s .end_ = .ok k') (rest : List (Instr Nat)) :
    StepsOrEnds m E V k' b bs .end_ rest := by
  obtain ⟨sees, opens, typed, enclosed⟩ := h
  obtain ⟨arrives, hyes, k₁, rests, rfl⟩ := sees.end_ hk
  cases enclosed with
  | function kind params results =>
    refine .inr ⟨_, ?_, results ▸ arrives⟩
    unfold labelKinds at typed
    rw [List.map_cons, Control.labelTypes_eq (by rw [kind]; decide), results, params] at typed
    exact typed
  | block kind height known opens' typed' outer =>
    exact .inl ⟨_, _, .close opens typed (.block kind height known opens' typed' outer) arrives rests hyes,
      rfl⟩

theorem Tracks.else_ (h : Tracks E V k b bs) (hk : k.control s .else_ = .ok k') (rest : List (Instr Nat)) :
    StepsOrEnds m E V k' b bs .else_ rest := by
  obtain ⟨sees, opens, typed, enclosed⟩ := h
  obtain ⟨⟨t, k₁⟩, hclose, hk⟩ := ok_of_bind hk
  obtain ⟨rfl, arrives, rests⟩ := sees.closeBlock hclose
  obtain ⟨_, hkind, hk⟩ := ok_of_bind hk
  cases hk
  exact .inl ⟨_, _, .turn opens (beq_iff_eq.mp (ensure_eq_ok.mp hkind)) typed enclosed arrives rests, rfl⟩

section Opening

variable {t : BlockType Nat} (hm : s.context.types = m.typeList.toArray) (h : Tracks E V k b bs)
include hm h

/-- A block that takes what its type says, and nothing else. -/
theorem Tracks.enter {kind : BlockKind} (opener : Nat → Nat → Opener) (hkind : kind ≠ .function)
    (hentry : ∀ ps rs height known, Control.entry ⟨kind, ps, rs, height, false, known⟩ = kindsOf ps)
    (hopener : ∀ L ps rs height known, Opens E V L ⟨kind, ps, rs, height, false, known⟩
      (opener (kindsOf ps).length (kindsOf rs).length))
    (hk : (do let (ps, rs) ← s.blockTypes t
              return (← k.popAll s ps).openBlock kind ps rs : Check Checker) = .ok k') :
    ∃ p r, t.arity m = (p, r) ∧ Tracks E V k' ⟨opener p r, []⟩ (b :: bs) := by
  obtain ⟨sees, opens, typed, enclosed⟩ := h
  obtain ⟨⟨ps, rs⟩, htypes, hk⟩ := ok_of_bind hk
  obtain ⟨k₁, hpop, hk⟩ := ok_of_bind hk
  obtain ⟨o₁, sees₁, rfl⟩ := sees.popAll hpop
  cases hk
  refine ⟨_, _, blockTypes_arity hm htypes, .openBlock opens typed enclosed sees₁ hkind ?_ ?_⟩
  · intro height known
    rw [hentry]
  · exact hopener _ ps rs

theorem Tracks.block (hk : k.control s (.block t) = .ok k') (rest : List (Instr Nat)) :
    StepsOrEnds m E V k' b bs (.block t) rest := by
  obtain ⟨p, r, harity, htracks⟩ := h.enter hm .block (by decide) (fun _ _ _ _ => rfl)
    (fun _ _ _ _ _ => ⟨rfl, rfl, rfl⟩) hk
  refine .inl ⟨_, _, htracks, ?_⟩
  rw [Code.ofFlatFrom, harity]

theorem Tracks.loop (hk : k.control s (.loop t) = .ok k') (rest : List (Instr Nat)) :
    StepsOrEnds m E V k' b bs (.loop t) rest := by
  obtain ⟨p, r, harity, htracks⟩ := h.enter hm .loop (by decide) (fun _ _ _ _ => rfl)
    (fun _ _ _ _ _ => ⟨rfl, rfl, rfl⟩) hk
  refine .inl ⟨_, _, htracks, ?_⟩
  rw [Code.ofFlatFrom, harity]

theorem Tracks.if_ (hk : k.control s (.if_ t) = .ok k') (rest : List (Instr Nat)) :
    StepsOrEnds m E V k' b bs (.if_ t) rest := by
  obtain ⟨sees, opens, typed, enclosed⟩ := h
  obtain ⟨⟨ps, rs⟩, htypes, hk⟩ := ok_of_bind hk
  obtain ⟨k₁, hcond, hk⟩ := ok_of_bind hk
  obtain ⟨k₂, hpop, hk⟩ := ok_of_bind hk
  obtain ⟨o₁, sees₁, rfl⟩ := sees.popType hcond
  obtain ⟨o₂, sees₂, rfl⟩ := sees₁.popAll hpop
  cases hk
  refine .inl ⟨⟨.yes (kindsOf ps).length (kindsOf rs).length, []⟩, b :: bs, ?_, ?_⟩
  · refine .openBlock opens typed enclosed sees₂ (by decide) (fun _ _ => ?_) fun _ _ => ⟨rfl, rfl, rfl⟩
    rw [Option.map_map]
    rfl
  · rw [Code.ofFlatFrom, blockTypes_arity hm htypes]

theorem Tracks.blocks {i : Instr Nat} (hi : i.group = .blocks) (hk : k.control s i = .ok k')
    (rest : List (Instr Nat)) : StepsOrEnds m E V k' b bs i rest := by
  cases i <;> cases hi
  case block t => exact h.block hm hk rest
  case loop t => exact h.loop hm hk rest
  case if_ t => exact h.if_ hm hk rest
  case else_ => exact h.else_ hk rest
  case end_ => exact h.end_ hk rest

end Opening

theorem kindsOf_eq_of_valsSub {C : Context} : ∀ {as bs : List (ValType Nat)}, C.valsSub as bs = true →
    kindsOf as = kindsOf bs
  | [], [], _ => rfl
  | a :: as, b :: bs, h => by
      obtain ⟨hhead, htail⟩ := Bool.and_eq_true_iff.mp h
      have ih := kindsOf_eq_of_valsSub htail
      unfold kindsOf at ih ⊢
      rw [List.map_cons, List.map_cons, List.reverse_cons, List.reverse_cons, ih, number?_of_valSub hhead]

theorem Scope.Describes.tailResults {ts : List (ValType Nat)} {u : Unit} (hs : s.Describes E V)
    (h : s.tailResults ts = .ok u) : kindsOf ts = V.results := by
  rw [hs.results]
  exact kindsOf_eq_of_valsSub (ensure_eq_ok.mp h)

/-- A branch, a call or another instruction of control that builds no block. -/
theorem Tracks.control {i : Instr Nat} (hs : s.Describes E V) (h : Tracks E V k b bs)
    (hi : i.group = .control) (hk : k.control s i = .ok k') : Tracks E V k' (b.push (.plain i)) bs := by
  have hf := hs.features
  obtain @⟨c, cs, below, o, sees, opens, typed, enclosed⟩ := h
  cases i <;> cases hi <;> simp only [Checker.control] at hk
  case unreachable => exact .leave opens typed enclosed sees hk fun ks _ => .leaves .unreachable
  case br l =>
    obtain ⟨t, hlabel, hk⟩ := ok_of_bind hk
    obtain ⟨k₁, hpop, hk⟩ := ok_of_bind hk
    obtain ⟨o₁, sees₁, rfl⟩ := sees.popAll hpop
    exact .leaveWith opens typed enclosed sees₁ hk (.br (sees.label hlabel))
  case brIf l =>
    obtain ⟨k₁, hcond, hk⟩ := ok_of_bind hk
    obtain ⟨t, hlabel, hk⟩ := ok_of_bind hk
    obtain ⟨k₂, hpop, hk⟩ := ok_of_bind hk
    obtain ⟨o₁, sees₁, rfl⟩ := sees.popType hcond
    obtain ⟨o₂, sees₂, rfl⟩ := sees₁.popAll hpop
    cases hk
    refine .snoc opens typed enclosed ⟨o₂, ?_, sees₂.pushAll _⟩ fun ks => .brIf (sees₁.label hlabel) .nil
    rw [Option.map_map]
    rfl
  case brTable ls d =>
    obtain ⟨k₁, hcond, hk⟩ := ok_of_bind hk
    obtain ⟨t, hlabel, hk⟩ := ok_of_bind hk
    obtain ⟨k₂, htable, hk⟩ := ok_of_bind hk
    obtain ⟨k₃, hpop, hdie⟩ := ok_of_bind hk
    obtain ⟨o₁, sees₁, rfl⟩ := sees.popType hcond
    obtain ⟨rfl, hlabels⟩ := sees₁.branchTable htable
    obtain ⟨o₂, sees₂, rfl⟩ := sees₁.popAll hpop
    -- Where the table is reached the operands are known, and every label takes some from their top.
    refine .leave opens typed enclosed sees₂ hdie fun ks hks => ?_
    obtain ⟨ks, hknown, rfl⟩ := Option.map_eq_some_iff.mp hks
    have htop : ∀ l ∈ d :: ls, ∃ js, (labelKinds (c :: cs))[l]? = some js ∧ js <+: ks := by
      intro l hl
      rcases List.mem_cons.mp hl with rfl | hl
      · obtain ⟨js, -, rfl⟩ := Option.map_eq_some_iff.mp hknown
        exact ⟨_, sees₁.label hlabel, List.prefix_append _ js⟩
      · obtain ⟨js, hjs, htake⟩ := hlabels l hl
        exact ⟨js, hjs, htake ks hknown⟩
    have htyped : Typed E V (labelKinds (c :: cs)) [.plain (.brTable ls d)] (Kind.i32 :: ks ++ []) none :=
      .leaves (.brTable htop)
    rwa [List.append_nil] at htyped
  case return_ =>
    obtain ⟨k₁, hpop, hk⟩ := ok_of_bind hk
    obtain ⟨o₁, sees₁, rfl⟩ := sees.popAll hpop
    rw [← hs.results] at typed
    exact .leaveWith opens typed enclosed sees₁ hk .return_
  case call f =>
    obtain ⟨t, ht, hk⟩ := ok_of_bind hk
    obtain ⟨callee, hcallee, rfl⟩ := hs.funcs f t ht
    exact .snoc opens typed enclosed (sees.apply hk) fun ks => .call hcallee .nil
  case callIndirect table type =>
    obtain ⟨_, _, hk⟩ := ok_of_bind hk
    obtain ⟨_, _, hk⟩ := ok_of_bind hk
    obtain ⟨t, ht, hk⟩ := ok_of_bind hk
    obtain ⟨k₁, hindex, hk⟩ := ok_of_bind hk
    obtain ⟨o₁, sees₁, rfl⟩ := sees.popType hindex
    obtain ⟨o₂, rfl, sees₂⟩ := sees₁.apply hk
    refine .snoc opens typed enclosed ⟨o₂, ?_, sees₂⟩ fun ks => .callIndirect (hs.types type t ht) .nil
    rw [Option.map_map]
    rfl
  case returnCall f =>
    obtain ⟨t, ht, hk⟩ := ok_of_bind hk
    obtain ⟨_, hresults, hk⟩ := ok_of_bind hk
    obtain ⟨k₁, hpop, hdie⟩ := ok_of_bind hk
    obtain ⟨callee, hcallee, rfl⟩ := hs.funcs f t ht
    obtain ⟨o₁, sees₁, rfl⟩ := sees.popAll hpop
    exact .leaveWith opens typed enclosed sees₁ hdie (.returnCall hcallee (hs.tailResults hresults))
  case returnCallIndirect table type =>
    obtain ⟨_, _, hk⟩ := ok_of_bind hk
    obtain ⟨_, _, hk⟩ := ok_of_bind hk
    obtain ⟨t, ht, hk⟩ := ok_of_bind hk
    obtain ⟨_, hresults, hk⟩ := ok_of_bind hk
    obtain ⟨k₁, hindex, hk⟩ := ok_of_bind hk
    obtain ⟨k₂, hpop, hk⟩ := ok_of_bind hk
    obtain ⟨o₁, sees₁, rfl⟩ := sees.popType hindex
    obtain ⟨o₂, sees₂, rfl⟩ := sees₁.popAll hpop
    rw [Option.map_map] at typed
    exact .leaveWith opens typed enclosed sees₂ hk
      (.returnCallIndirect (hs.types type t ht) (hs.tailResults hresults))
  all_goals
    obtain ⟨_, hfeature, _⟩ := ok_of_bind hk
    rw [hf] at hfeature
    cases hfeature

/-- **An instruction that passes the check** keeps checker and construction in step. -/
theorem Tracks.instr {i : Instr Nat} (hs : s.Describes E V) (hm : s.context.types = m.typeList.toArray)
    (h : Tracks E V k b bs) (hk : k.instr s i = .ok k') (rest : List (Instr Nat)) :
    StepsOrEnds m E V k' b bs i rest := by
  obtain ⟨sees, opens, typed, enclosed⟩ := h
  rcases sees.instr hs hk with ⟨ps, rs, he, after⟩ | ⟨hk, hi | hi⟩
  · exact .inl ⟨_, _, .snoc opens typed enclosed after fun ks => .effect he .nil,
      ofFlatFrom_plain he.group_ne rest⟩
  · have htracks := Tracks.control hs ⟨sees, opens, typed, enclosed⟩ hi hk
    exact .inl ⟨_, _, htracks, ofFlatFrom_plain (by rw [hi]; decide) rest⟩
  · exact Tracks.blocks hm ⟨sees, opens, typed, enclosed⟩ hi hk rest

/-- Code that is checked to its end, from a point where checker and construction are in step. -/
theorem ofFlatFrom_typed (hs : s.Describes E V) (hm : s.context.types = m.typeList.toArray) :
    ∀ {code : List (Instr Nat)} {k : Checker} {b : OpenBlock} {bs : List OpenBlock}, Tracks E V k b bs →
      code.foldlM (fun k i => k.instr s i) k = .ok k' → k'.controls = [] →
        ∃ o, Typed E V [V.results] (Code.ofFlatFrom m b bs code) [] o ∧ Arrives o V.results
  | [], k, b, bs, h, hk, hend => by
      obtain ⟨⟨own, hat, -⟩, -, -, -⟩ := h
      cases hk
      rw [hat.controls] at hend
      cases hend
  | i :: code, k, b, bs, h, hk, hend => by
      rw [List.foldlM_cons] at hk
      obtain ⟨k₁, hi, hrest⟩ := ok_of_bind hk
      rcases h.instr hs hm hi code with ⟨b', bs', h', heq⟩ | hdone
      · rw [heq]
        exact ofFlatFrom_typed hs hm h' hrest hend
      · exact hdone

/-- **The code of a function that passes the check is typed.** -/
theorem ofFlat_typed (hs : s.Describes E V) (hm : s.context.types = m.typeList.toArray) {code : Expr}
    {known : List Nat} (h : s.checkCode code known = .ok ()) :
    ∃ o, Typed E V [V.results] (Code.ofFlat m code) [] o ∧ Arrives o V.results := by
  obtain ⟨k, hfold, hend⟩ := ok_of_bind h
  have sees : Checker.Sees ⟨[], 0, [⟨.function, [], s.results, 0, false, known⟩], known⟩
      ⟨.function, [], s.results, 0, false, known⟩ [] [] (some []) :=
    ⟨[], ⟨rfl, rfl, rfl, rfl, fun _ x hx => nomatch hx⟩, rfl⟩
  refine ofFlatFrom_typed hs hm ⟨sees, rfl, .nil, .function rfl rfl hs.results.symm⟩ hfold ?_
  exact List.isEmpty_iff.mp (ensure_eq_ok.mp hend)

end Embedder.Wasm
