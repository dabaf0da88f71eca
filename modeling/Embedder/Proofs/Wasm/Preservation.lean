import Embedder.Proofs.Wasm.State

/-!
# Steps keep types

A machine is typed if its frames are: the code of each frame is typed from the operands that it has, the
blocks around it are typed from what it leaves to them, and every waiting frame from the results of the
frame above it. Reading from the outside in, a chain of frames that accepts `rs` gives the results `fin` of
the whole run in the end.

* `Nested`, `Frame.Awaits`, `Returns` and `Machine.Safe` are these facts for the blocks of a frame, for a
  frame, for the waiting frames and for a machine;
* **`Machine.step_sound`** -- a step of a typed machine leads to a typed machine, to a trap, to results of
  the kinds expected, or to a call of a host function with arguments of its kinds, and then the machine
  is typed again once it has results of the function's kinds.
-/

namespace Embedder.Wasm

section Invariant

variable (E : Items)

/-! ## 1. Typed machines -/

/-- The blocks around code that leaves `rs`, with what a branch to each of them takes. The operands of
    the code stand on `below`. -/
inductive Nested (V : Interior) : List Label → List (List Kind) → List Kind → List Nat → Prop where
  | function : Nested V [] [V.results] V.results []
  | block {l : Label} {ls : List Label} {L : List (List Kind)} {js ks rs out : List Kind}
      {own below : List Nat} {o o' : Option (List Kind)}
      (arity : l.arity = js.length)
      (target : Typed E V L l.target (js ++ ks) o) (arrives : Arrives o out)
      (rest : Typed E V L l.rest (rs ++ ks) o') (arrives' : Arrives o' out)
      (fits : Fits ks own) (stack : l.below = own ++ below) (outer : Nested V ls L out below) :
      Nested V (l :: ls) (js :: L) rs l.below

/-- The frame goes on once operands of the kinds `pend` are put on top of its own. -/
inductive Frame.Awaits (V : Interior) (f : Frame) (pend : List Kind) : Prop where
  | intro {L : List (List Kind)} {ks out : List Kind} {own below : List Nat} {o : Option (List Kind)}
      (nested : Nested E V f.labels L out below) (stack : f.stack = own ++ below) (fits : Fits ks own)
      (code : Typed E V L f.code (pend ++ ks) o) (arrives : Arrives o out)
      (locals : Fits V.locals f.locals.toList) (results : f.results = V.results.length)

/-- Waiting frames that accept results of some kinds and give `fin` in the end. -/
inductive Returns (fin : List Kind) : List Frame → List Kind → Prop where
  | base : Returns fin [] fin
  | frame {V : Interior} {f : Frame} {fs : List Frame} {rs : List Kind} (head : f.Awaits E V rs)
      (tail : Returns fin fs V.results) : Returns fin (f :: fs) rs

/-- The machine goes on once operands of the kinds `pend` are put on top, and gives `fin` in the end. -/
inductive Machine.Safe (fin pend : List Kind) (m : Machine) : Prop where
  | intro {V : Interior} (frame : m.frame.Awaits E V pend) (callers : Returns E fin m.callers V.results)
      (state : m.state.Sound E)

/-- The functions with code are typed: from their parameters and variables to their results. -/
def Items.Sound : Prop :=
  ∀ (f : Nat) (t : FuncType Nat) (n : Nat) (code : List Code),
    E.program.callees[f]? = some (.guest t n code) → ∃ (ks : List Kind) (o : Option (List Kind)),
      ks.length = n ∧ Typed E ⟨t.params.map ValType.number? ++ ks, t.gives⟩ [t.gives] code [] o ∧
        Arrives o t.gives

/-- What a step of a typed machine may answer. The arguments of a function of the host are among the
    operands `stack` that the machine had. -/
inductive Signal.Sound (fin : List Kind) (stack : List Nat) : Signal → Prop where
  | running {m : Machine} (h : m.Safe E fin []) : Sound fin stack (.running m)
  | finished {rs : List Nat} {s : State} (h : Fits fin rs) (hs : s.Sound E) :
      Sound fin stack (.finished rs s)
  | trapped {s : State} (t : EngineTrap) (hs : s.Sound E) : Sound fin stack (.trapped t s)
  | calling {f i : Nat} {t : FuncType Nat} {args : List Nat} {m : Machine}
      (callee : E.program.callees[f]? = some (.host i t)) (h : Fits (t.params.map ValType.number?) args)
      (operands : args.reverse <:+: stack) (waits : m.Safe E fin t.gives) :
      Sound fin stack (.calling i args m)

end Invariant

variable {E : Items} {V : Interior} {fin : List Kind} {m : Machine} {operands : List Nat}

/-! ## 2. Operands -/

theorem takeOperands_append {n : Nat} {taken : List Nat} (h : taken.length = n) (below : List Nat) :
    takeOperands n (taken ++ below) = (taken.reverse, below) := by
  subst h
  simp [takeOperands]

theorem fits_params {t : FuncType Nat} {taken : List Nat} (h : Fits t.takes taken) :
    Fits (t.params.map ValType.number?) taken.reverse := by
  have hrev := Fits.reverse h
  unfold FuncType.takes kindsOf at hrev
  rwa [List.reverse_reverse] at hrev

theorem length_takes {t : FuncType Nat} {taken : List Nat} (h : Fits t.takes taken) :
    taken.length = t.params.length := by
  rw [← List.Forall₂.length_eq h]
  exact length_kindsOf t.params

/-- A waiting frame that gets what it waits for. -/
theorem Frame.Awaits.give {f : Frame} {pend : List Kind} {given : List Nat} (h : f.Awaits E V pend)
    (hg : Fits pend given) : Frame.Awaits E V { f with stack := given ++ f.stack } [] := by
  obtain ⟨nested, stack, fits, code, arrives, locals, results⟩ := h
  refine ⟨nested, ?_, hg.append fits, code, arrives, locals, results⟩
  rw [stack, List.append_assoc]

/-- **A machine that waits goes on when it gets what it waits for.** -/
theorem Machine.Safe.resume {pend : List Kind} {results : List Nat} (h : m.Safe E fin pend)
    (hr : Fits pend results.reverse) : (m.resume results).Safe E fin [] := by
  obtain ⟨frame, callers, state⟩ := h
  exact ⟨frame.give hr, callers, state⟩

/-! ## 3. Leaving and branching -/

theorem leave_sound {given below : List Nat} (hstack : m.frame.stack = given ++ below)
    (hg : Fits V.results given) (hr : m.frame.results = V.results.length)
    (hc : Returns E fin m.callers V.results) (hs : m.state.Sound E) : m.leave.Sound E fin operands := by
  have htake : (takeOperands m.frame.results m.frame.stack).1.reverse = given := by
    rw [hstack, takeOperands_append (hr ▸ (List.Forall₂.length_eq hg).symm), List.reverse_reverse]
  unfold Machine.leave
  rw [htake]
  dsimp only
  cases hcs : m.callers with
  | nil =>
    rw [hcs] at hc
    cases hc
    exact .finished hg hs
  | cons f fs =>
    rw [hcs] at hc
    obtain _ | ⟨head, tail⟩ := hc
    exact .running ⟨head.give hg, tail, hs⟩

/-- The block that a label means, or the function. -/
theorem Nested.label {labels : List Label} {L : List (List Kind)} {out : List Kind} {below : List Nat}
    (h : Nested E V labels L out below) {l : Nat} {js : List Kind} (hl : L[l]? = some js) :
    (labels.drop l = [] ∧ js = V.results) ∨
      ∃ b ls L' rs, labels.drop l = b :: ls ∧ Nested E V (b :: ls) (js :: L') rs b.below := by
  induction h generalizing l with
  | function =>
    cases l with
    | zero =>
      cases hl
      exact .inl ⟨rfl, rfl⟩
    | succ l => cases hl
  | block arity target arrives rest arrives' fits stack outer ih =>
    cases l with
    | zero =>
      cases hl
      exact .inr ⟨_, _, _, _, rfl, .block arity target arrives rest arrives' fits stack outer⟩
    | succ l => exact ih hl

theorem branch_sound {labels : List (List Kind)} {out : List Kind} {under : List Nat} {l : Nat}
    {js : List Kind} {given below : List Nat} (nested : Nested E V m.frame.labels labels out under)
    (hl : labels[l]? = some js) (hstack : m.frame.stack = given ++ below) (hg : Fits js given)
    (locals : Fits V.locals m.frame.locals.toList) (results : m.frame.results = V.results.length)
    (hc : Returns E fin m.callers V.results) (hs : m.state.Sound E) :
    (m.branch l).Sound E fin operands := by
  unfold Machine.branch
  rcases nested.label hl with ⟨hdrop, rfl⟩ | ⟨b, ls, L', rs, hdrop, hb⟩
  · rw [hdrop]
    exact leave_sound hstack hg results hc hs
  · obtain _ | ⟨arity, target, arrives, _, _, fits, stack, outer⟩ := hb
    rw [hdrop]
    dsimp only
    rw [hstack, takeOperands_append (arity ▸ (List.Forall₂.length_eq hg).symm), List.reverse_reverse,
      stack, ← List.append_assoc]
    exact .running ⟨⟨outer, rfl, hg.append fits, target, arrives, locals, results⟩, hc, hs⟩

/-! ## 4. Calls -/

/-- A function with code starts typed. -/
theorem enter_awaits (hE : E.Sound) {f n : Nat} {t : FuncType Nat} {code : List Code} {args : List Nat}
    (hf : E.program.callees[f]? = some (.guest t n code))
    (hargs : Fits (t.params.map ValType.number?) args) :
    ∃ V' : Interior, V'.results = t.gives ∧
      (Frame.enter args n t.results.length code).Awaits E V' [] := by
  obtain ⟨ks, o, rfl, typed, arrives⟩ := hE f t n code hf
  refine ⟨_, rfl, ⟨.function, rfl, .nil, typed, arrives, ?_, (length_kindsOf t.results).symm⟩⟩
  exact hargs.append (fits_replicate_zero ks)

theorem call_sound (hE : E.Sound) {f : Nat} {c : Callee} (hf : E.program.callees[f]? = some c)
    {taken below : List Nat} (hstack : m.frame.stack = taken ++ below) (htaken : taken <:+: operands)
    (ht : Fits c.type.takes taken)
    (waits : Frame.Awaits E V { m.frame with stack := below } c.type.gives)
    (hc : Returns E fin m.callers V.results) (hs : m.state.Sound E) :
    (m.call c).Sound E fin operands := by
  unfold Machine.call
  rw [hstack, takeOperands_append (length_takes ht)]
  dsimp only
  cases c with
  | host i t =>
    refine .calling hf (fits_params ht) ?_ ⟨waits, hc, hs⟩
    rwa [List.reverse_reverse]
  | guest t n code =>
    dsimp only
    split
    · obtain ⟨V', hV', enters⟩ := enter_awaits hE hf (fits_params ht)
      refine .running ⟨enters, ?_, hs⟩
      rw [hV']
      exact .frame waits hc
    · exact .trapped _ hs

theorem tailCall_sound (hE : E.Sound) {f : Nat} {c : Callee} (hf : E.program.callees[f]? = some c)
    {taken below : List Nat} (hstack : m.frame.stack = taken ++ below) (htaken : taken <:+: operands)
    (ht : Fits c.type.takes taken) (hgives : c.type.gives = V.results) (locals : Fits V.locals m.frame.locals.toList)
    (results : m.frame.results = V.results.length) (hc : Returns E fin m.callers V.results)
    (hs : m.state.Sound E) : (m.tailCall c).Sound E fin operands := by
  unfold Machine.tailCall
  rw [hstack, takeOperands_append (length_takes ht)]
  cases c with
  | host i t =>
    refine .calling hf (fits_params ht) ?_ ⟨⟨.function, rfl, .nil, .nil, ?_, locals, results⟩, hc, hs⟩
    · rwa [List.reverse_reverse]
    · rw [List.append_nil]
      exact hgives ▸ arrives_some _
  | guest t n code =>
    obtain ⟨V', hV', enters⟩ := enter_awaits hE hf (fits_params ht)
    refine .running ⟨enters, ?_, hs⟩
    rw [hV']
    exact hgives ▸ hc

/-- A function found through a table has the type asked for. -/
theorem lookup_eq_ok {p : Program} {table type index : Nat} {c : Callee}
    (h : m.lookup p table type index = .ok c) :
    (∃ f : Nat, p.callees[f]? = some c) ∧ p.types[type]? = some (some c.type) := by
  unfold Machine.lookup at h
  split at h
  · cases h
  · split at h
    · cases h
    · cases h
    · split at h
      · cases h
      · rename_i hf
        split at h
        · rename_i ht
          cases h
          exact ⟨⟨_, hf⟩, beq_iff_eq.mp ht⟩
        · cases h

/-! ## 5. Plain instructions -/

/-- What an instruction that continues may do: it traps and changes nothing, or it goes on with operands
    in place of those that it took. -/
inductive Continues (E : Items) (V : Interior) (m : Machine) (rest : List Code) (rs : List Kind)
    (below : List Nat) : Signal → Prop where
  | trapped (t : EngineTrap) : Continues E V m rest rs below (.trapped t m.state)
  | running {locals : Array Nat} {given : List Nat} {s : State} (hl : Fits V.locals locals.toList)
      (hg : Fits rs given) (hs : s.Sound E) : Continues E V m rest rs below
        (.running ⟨{ m.frame with locals, stack := given ++ below, code := rest }, m.callers, m.depth, s⟩)

section Plain

variable {rest : List Code} {below : List Nat}

theorem Continues.push {locals : Array Nat} {s : State} {k : Kind} {n : Nat}
    (hl : Fits V.locals locals.toList) (hn : Holds k n) (hs : s.Sound E) :
    Continues E V m rest [k] below
      (.running ⟨{ m.frame with locals, stack := n :: below, code := rest }, m.callers, m.depth, s⟩) :=
  .running hl (.cons hn .nil : Fits [k] [n]) hs

theorem continueWith_continues {rs : List Kind} {r : Except EngineTrap (State × List Nat)}
    (hl : Fits V.locals m.frame.locals.toList) (hr : Delivers E rs below r) :
    Continues E V m rest rs below (m.continueWith rest r) := by
  rcases r with t | ⟨s, stack⟩
  · exact .trapped t
  · obtain ⟨hs, given, rfl, hg⟩ := hr s stack rfl
    exact .running hl hg hs

/-- A variable read by its index. -/
theorem Fits.getD {ks : List Kind} {ns : Array Nat} (h : Fits ks ns.toList) {i : Nat} {k : Kind}
    (hk : ks[i]? = some k) : Holds k ((ns[i]?).getD 0) := by
  obtain ⟨n, hn, hold⟩ := Fits.get h hk
  rw [Array.getElem?_toList] at hn
  rwa [hn]

/-- A variable written by its index. -/
theorem Fits.setIfInBounds {ks : List Kind} {ns : Array Nat} (h : Fits ks ns.toList) {i n : Nat} {k : Kind}
    (hk : ks[i]? = some k) (hn : Holds k n) : Fits ks (ns.setIfInBounds i n).toList := by
  rw [Array.toList_setIfInBounds]
  exact Fits.set h hk hn

/-- **An instruction on operands of its kinds** leaves operands of its kinds, or traps. -/
theorem plain_continues {i : Instr Nat} {ps rs : List Kind} (he : Effect E V i ps rs) {taken : List Nat}
    (hstack : m.frame.stack = taken ++ below) (ht : Fits ps taken)
    (hl : Fits V.locals m.frame.locals.toList) (hs : m.state.Sound E) :
    Continues E V m rest rs below (m.plain E.program i rest) := by
  obtain ⟨⟨locals, stack, code, labels, results⟩, callers, depth, state⟩ := m
  subst hstack
  cases he with
  | nop =>
    cases ht
    exact .running hl .nil hs
  | drop k =>
    obtain _ | ⟨_, ⟨⟩⟩ := ht
    exact .running hl .nil hs
  | select ts k =>
    obtain _ | ⟨_, _ | ⟨hy, _ | ⟨hx, ⟨⟩⟩⟩⟩ := ht
    refine .push hl ?_ hs
    split
    · exact hy
    · exact hx
  | const v =>
    cases ht
    exact .push hl v.slot_holds hs
  | v128Const n =>
    cases ht
    exact .push hl (holds_none n) hs
  | numeric op =>
    unfold Machine.plain
    dsimp only
    rcases op.apply_fits below ht with ⟨t, h⟩ | ⟨n, h, hn⟩
    · rw [h]
      exact .trapped t
    · rw [h]
      exact .push hl hn hs
  | localGet hk =>
    cases ht
    exact .push hl (Fits.getD hl hk) hs
  | localSet hk =>
    obtain _ | ⟨hn, ⟨⟩⟩ := ht
    exact .running (Fits.setIfInBounds hl hk hn) .nil hs
  | localTee hk =>
    obtain _ | ⟨hn, ⟨⟩⟩ := ht
    exact .push (Fits.setIfInBounds hl hk hn) hn hs
  | globalGet hk =>
    cases ht
    exact .push hl (Fits.getD hs.globals hk) hs
  | globalSet hk =>
    obtain _ | ⟨hn, ⟨⟩⟩ := ht
    exact .running hl .nil ⟨Fits.setIfInBounds hs.globals hk hn, hs.memories, hs.tables⟩
  | refNull t =>
    cases ht
    exact .push hl (holds_none 0) hs
  | refIsNull =>
    obtain _ | ⟨_, ⟨⟩⟩ := ht
    exact .push hl (ofBool_holds _) hs
  | refFunc f =>
    cases ht
    exact .push hl (holds_none _) hs
  | memory h =>
    have hd : Delivers E rs below (state.memoryInstr (taken ++ below) i) :=
      State.memoryInstr_sound hs h ht
    cases h <;> exact continueWith_continues hl hd
  | table h =>
    have hd : Delivers E rs below (state.tableInstr (taken ++ below) i) :=
      State.tableInstr_sound hs h ht
    cases h <;> exact continueWith_continues hl hd

end Plain

/-! ## 6. Steps -/

/-- The label that a branch table picks is one of its labels. -/
theorem getD_mem (ls : List Nat) (d i : Nat) : (ls[i]?).getD d ∈ d :: ls := by
  cases h : ls[i]? with
  | none => exact List.mem_cons_self
  | some l => exact List.mem_cons_of_mem d (List.mem_of_getElem? h)

/-- An instruction that never continues, on the operands that it needs. -/
theorem leaves_sound (hE : E.Sound) {labels : List (List Kind)} {i : Instr Nat} {ps out : List Kind}
    (hi : Leaves E V labels i ps) {taken below under : List Nat} {rest : List Code}
    (hstack : m.frame.stack = taken ++ below) (ht : Fits ps taken)
    (nested : Nested E V m.frame.labels labels out under)
    (locals : Fits V.locals m.frame.locals.toList) (results : m.frame.results = V.results.length)
    (hc : Returns E fin m.callers V.results) (hs : m.state.Sound E) :
    (m.plain E.program i rest).Sound E fin m.frame.stack := by
  unfold Machine.plain
  cases hi with
  | unreachable => exact .trapped _ hs
  | br hl => exact branch_sound nested hl hstack ht locals results hc hs
  | @brTable ls d ks h =>
    obtain _ | @⟨_, index, _, taken, hindex, hks⟩ := ht
    obtain ⟨js, hl, more, rfl⟩ := h _ (getD_mem ls d index)
    obtain ⟨given, extra, rfl, hg, -⟩ := Fits.split hks
    dsimp only
    rw [hstack, List.cons_append, popSlot_cons, List.append_assoc]
    exact branch_sound nested hl rfl hg locals results hc hs
  | return_ => exact leave_sound hstack ht results hc hs
  | returnCall hf hr =>
    dsimp only
    rw [hf]
    exact tailCall_sound hE hf hstack ⟨[], below, hstack.symm⟩ ht hr locals results hc hs
  | @returnCallIndirect table type t htype hr =>
    obtain _ | @⟨_, index, _, taken, hindex, hks⟩ := ht
    dsimp only
    rw [hstack, List.cons_append, popSlot_cons]
    cases hlook : m.lookup E.program table type index with
    | error e => exact .trapped e hs
    | ok c =>
      obtain ⟨⟨f, hf⟩, hty⟩ := lookup_eq_ok hlook
      obtain rfl : t = c.type := by
        rw [htype] at hty
        cases hty
        rfl
      exact tailCall_sound hE hf rfl ⟨[index], below, rfl⟩ hks hr locals results hc hs

theorem enterBlock_sound {labels : List (List Kind)} {ps js rs ks out : List Kind}
    {given own under : List Nat} {body target rest : List Code} {o o₁ o₂ : Option (List Kind)}
    (nested : Nested E V m.frame.labels labels out under)
    (hstack : m.frame.stack = given ++ (own ++ under)) (hg : Fits ps given) (hown : Fits ks own)
    (hbody : Typed E V (js :: labels) body ps o) (ho : Arrives o rs)
    (htarget : Typed E V labels target (js ++ ks) o₁) (ho₁ : Arrives o₁ out)
    (hrest : Typed E V labels rest (rs ++ ks) o₂) (ho₂ : Arrives o₂ out)
    (locals : Fits V.locals m.frame.locals.toList) (results : m.frame.results = V.results.length)
    (hc : Returns E fin m.callers V.results) (hs : m.state.Sound E) :
    (m.enterBlock ps.length js.length body target rest).Sound E fin operands := by
  have hdrop : m.frame.stack.drop ps.length = own ++ under := by
    rw [hstack, List.Forall₂.length_eq hg, List.drop_left]
  have hlabel : Nested E V
      (⟨js.length, m.frame.stack.drop ps.length, target, rest⟩ :: m.frame.labels) (js :: labels) rs
      (m.frame.stack.drop ps.length) := .block rfl htarget ho₁ hrest ho₂ hown hdrop nested
  refine .running ⟨⟨hlabel, ?_, hg, hbody, ho, locals, results⟩, hc, hs⟩
  rw [hdrop]
  exact hstack

/-- What follows an instruction that continues. -/
theorem Continues.sound {labels : List (List Kind)} {rs ks out : List Kind} {own under : List Nat}
    {rest : List Code} {o : Option (List Kind)} {signal : Signal}
    (h : Continues E V m rest rs (own ++ under) signal)
    (nested : Nested E V m.frame.labels labels out under) (hown : Fits ks own)
    (hrest : Typed E V labels rest (rs ++ ks) o) (ho : Arrives o out)
    (results : m.frame.results = V.results.length) (hc : Returns E fin m.callers V.results)
    (hs : m.state.Sound E) : signal.Sound E fin operands := by
  cases h with
  | trapped t => exact .trapped t hs
  | running locals given state =>
    refine .running ⟨⟨nested, ?_, given.append hown, hrest, ho, locals, results⟩, hc, state⟩
    exact (List.append_assoc _ _ _).symm

/-- **A step of a typed machine.** -/
theorem Machine.step_sound (hE : E.Sound) (hm : m.Safe E fin []) :
    (m.step E.program).Sound E fin m.frame.stack := by
  obtain ⟨⟨nested, stack, fits, code, arrives, locals, results⟩, callers, state⟩ := hm
  rw [List.nil_append] at code
  generalize hcode : m.frame.code = cs at code
  unfold Machine.step
  rw [hcode]
  cases code with
  | nil =>
    obtain rfl := arrives _ rfl
    generalize hlabels : m.frame.labels = labels at nested
    cases nested with
    | function => exact leave_sound stack fits results callers state
    | block _ _ _ rest arrives' below hbelow outer =>
      refine .running ⟨⟨outer, ?_, fits.append below, rest, arrives', locals, results⟩, callers, state⟩
      dsimp only
      rw [stack, hbelow, List.append_assoc]
  | effect he h =>
    obtain ⟨taken, own, rfl, ht, hown⟩ := Fits.split fits
    rw [List.append_assoc] at stack
    refine Continues.sound ?_ nested hown h arrives results callers state
    exact plain_continues he stack ht locals state
  | leaves hl =>
    obtain ⟨taken, own, rfl, ht, hown⟩ := Fits.split fits
    rw [List.append_assoc] at stack
    exact leaves_sound hE hl stack ht nested locals results callers state
  | @brIf _ l rest js ks _ hl h =>
    obtain _ | @⟨_, c, _, operands, _, fits⟩ := fits
    obtain ⟨taken, own, rfl, ht, hown⟩ := Fits.split fits
    unfold Machine.plain
    dsimp only
    rw [stack, List.cons_append, popSlot_cons]
    dsimp only
    split
    · exact .running ⟨⟨nested, rfl, ht.append hown, h, arrives, locals, results⟩, callers, state⟩
    · exact branch_sound nested hl (List.append_assoc taken own _) ht locals results callers state
  | call hf h =>
    obtain ⟨taken, own, rfl, ht, hown⟩ := Fits.split fits
    rw [List.append_assoc] at stack
    unfold Machine.plain
    dsimp only
    rw [hf]
    exact call_sound hE hf stack ⟨[], _, stack.symm⟩ ht ⟨nested, rfl, hown, h, arrives, locals, results⟩
      callers state
  | @callIndirect _ table type t _ _ _ htype h =>
    obtain _ | @⟨_, index, _, operands, _, fits⟩ := fits
    obtain ⟨taken, own, rfl, ht, hown⟩ := Fits.split fits
    unfold Machine.plain
    dsimp only
    rw [stack, List.cons_append, popSlot_cons]
    dsimp only
    split
    · rename_i c hlook
      obtain ⟨⟨f, hf⟩, hty⟩ := lookup_eq_ok hlook
      obtain rfl : t = c.type := by
        rw [htype] at hty
        cases hty
        rfl
      exact call_sound hE hf (List.append_assoc taken own _)
        ⟨[index], _, congrArg (index :: ·) (List.append_assoc taken own _).symm⟩ ht
        ⟨nested, rfl, hown, h, arrives, locals, results⟩ callers state
    · exact .trapped _ state
  | block hb ho h =>
    obtain ⟨taken, own, rfl, ht, hown⟩ := Fits.split fits
    rw [List.append_assoc] at stack
    exact enterBlock_sound nested stack ht hown hb ho h arrives h arrives locals results callers state
  | loop hb ho h =>
    obtain ⟨taken, own, rfl, ht, hown⟩ := Fits.split fits
    rw [List.append_assoc] at stack
    exact enterBlock_sound nested stack ht hown hb ho (.loop hb ho h) arrives h arrives locals results
      callers state
  | cond hy ho hn ho' h =>
    obtain _ | @⟨_, c, _, operands, _, fits⟩ := fits
    obtain ⟨taken, own, rfl, ht, hown⟩ := Fits.split fits
    dsimp only
    rw [stack, List.cons_append, popSlot_cons]
    dsimp only
    split
    · exact enterBlock_sound nested (List.append_assoc taken own _) ht hown hn ho' h arrives h arrives
        locals results callers state
    · exact enterBlock_sound nested (List.append_assoc taken own _) ht hown hy ho h arrives h arrives
        locals results callers state

/-- **A machine that calls one function with arguments of its types.** -/
theorem start_safe {f : Nat} {c : Callee} (hf : E.program.callees[f]? = some c) {s : State} (hs : s.Sound E)
    {args : List Nat} (hargs : Fits (c.type.params.map ValType.number?) args) :
    (Machine.start s f args c.type.results.length).Safe E c.type.gives [] := by
  have hcode : Typed E ⟨[], c.type.gives⟩ [c.type.gives] [.plain (.call f)] (c.type.takes ++ [])
      (some (c.type.gives ++ [])) := .call hf .nil
  rw [List.append_nil, List.append_nil] at hcode
  have hframe : (Machine.start s f args c.type.results.length).frame.Awaits E ⟨[], c.type.gives⟩ [] :=
    ⟨.function, (List.append_nil _).symm, hargs.reverse, hcode, arrives_some _, .nil,
      (length_kindsOf c.type.results).symm⟩
  exact ⟨hframe, .base, hs⟩

end Embedder.Wasm
