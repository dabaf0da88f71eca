import Embedder.Proofs.Run
import Embedder.Proofs.Wasm.Runnable

/-!
# The memories of an instance

Code writes to memories and grows them, but it makes none and drops none. So an instance has as many memories
after any run as its module declares.

* `Counts` -- a result of an instruction is a state with a given number of memories;
* **`State.memoryInstr_counts`**, `State.tableInstr_counts` -- so is that of every instruction that works on the
  state;
* **`Machine.step_counts`** -- one step keeps the number of memories;
* **`drive_counts`**, `initialState_counts` -- and so does a run, from the first state on.
-/

namespace Embedder

namespace Wasm

/-! ## 1. Instructions -/

/-- The state has so many memories. -/
def State.HasMemories (n : Nat) (s : State) : Prop := s.memories.size = n

/-- If an instruction succeeds, the state after it has so many memories. -/
def Counts (n : Nat) (r : Except EngineTrap (State × List Nat)) : Prop :=
  ∀ s stack, r = .ok (s, stack) → s.HasMemories n

section Instructions

variable {n : Nat} {s : State}

theorem counts_ok (hs : s.HasMemories n) (stack : List Nat) : Counts n (.ok (s, stack)) := by
  intro s' stack' h
  cases h
  exact hs

theorem counts_error (t : EngineTrap) : Counts n (.error t) := by
  intro s' stack h
  cases h

/-- An instruction that checks before it acts. -/
theorem counts_guard {c : Prop} [Decidable c] {t : EngineTrap} {r : Except EngineTrap (State × List Nat)}
    (h : Counts n r) : Counts n (if c then r else .error t) := by
  split
  · exact h
  · exact counts_error t

theorem counts_map {r : Except EngineTrap State} (hr : ∀ s', r = .ok s' → s'.HasMemories n) (stack : List Nat) :
    Counts n (r.map (·, stack)) := by
  cases r with
  | error t => exact counts_error t
  | ok s' => exact counts_ok (hr s' rfl) stack

theorem State.HasMemories.modify (hs : s.HasMemories n) (i : Nat) (f : Memory → Memory) :
    State.HasMemories n { s with memories := s.memories.modify i f } :=
  Array.size_modify.trans hs

theorem State.HasMemories.set (hs : s.HasMemories n) (i : Nat) (mem : Memory) :
    State.HasMemories n { s with memories := s.memories.setIfInBounds i mem } :=
  Array.size_setIfInBounds.trans hs

/-- The rest of the state plays no part. -/
theorem State.HasMemories.others (hs : s.HasMemories n) (tables : Array Table) (globals : Array Nat)
    (elems : Array (List Nat)) (datas : Array (List UInt8)) :
    State.HasMemories n { s with tables, globals, elems, datas } := hs

theorem State.HasMemories.writeMemory (hs : s.HasMemories n) {i a : Nat} {bs : List UInt8} {s' : State}
    (h : s.writeMemory i a bs = .ok s') : s'.HasMemories n := by
  unfold State.writeMemory at h
  split at h
  · cases h
  · split at h
    · cases h
      exact hs.modify i _
    · cases h

theorem State.HasMemories.writeTable (hs : s.HasMemories n) {i k : Nat} {rs : List Nat} {s' : State}
    (h : s.writeTable i k rs = .ok s') : s'.HasMemories n := by
  unfold State.writeTable at h
  split at h
  · cases h
  · split at h
    · cases h
      exact hs
    · cases h

/-- **An instruction on memories keeps their number.** -/
theorem State.memoryInstr_counts (hs : s.HasMemories n) (stack : List Nat) (i : Instr Nat) :
    Counts n (s.memoryInstr stack i) := by
  unfold State.memoryInstr
  split
  · dsimp only
    split
    · exact counts_error _
    · exact counts_guard (counts_ok hs _)
  · dsimp only
    split
    · exact counts_error _
    · exact counts_guard (counts_ok (hs.modify _ _) _)
  · exact counts_ok hs _
  · dsimp only
    split
    · exact counts_ok hs _
    · split
      · exact counts_ok hs _
      · exact counts_ok (hs.set _ _) _
  · dsimp only
    split
    · exact counts_error _
    · exact counts_guard (counts_ok (hs.modify _ _) _)
  · dsimp only
    split
    · exact counts_error _
    · exact counts_guard (counts_map (fun _ => hs.writeMemory) _)
  · exact counts_guard (counts_map (fun _ => hs.writeMemory) _)
  · exact counts_ok (hs.others _ _ _ _) _
  · exact counts_ok hs _

/-- An instruction on tables leaves the memories as they are. -/
theorem State.tableInstr_counts (hs : s.HasMemories n) (stack : List Nat) (i : Instr Nat) :
    Counts n (s.tableInstr stack i) := by
  unfold State.tableInstr
  split
  · dsimp only
    split
    · exact counts_ok hs _
    · exact counts_error _
  · exact counts_map (fun _ => hs.writeTable) _
  · exact counts_ok hs _
  · dsimp only
    split
    · exact counts_ok hs _
    · split
      · exact counts_ok hs _
      · exact counts_ok (hs.others _ _ _ _) _
  · dsimp only
    split
    · exact counts_error _
    · exact counts_guard (counts_map (fun _ => hs.writeTable) _)
  · dsimp only
    split
    · exact counts_error _
    · exact counts_guard (counts_map (fun _ => hs.writeTable) _)
  · exact counts_guard (counts_map (fun _ => hs.writeTable) _)
  · exact counts_ok (hs.others _ _ _ _) _
  · exact counts_ok hs _

end Instructions

/-! ## 2. Steps -/

/-- The state of a machine after a step. -/
def Signal.state : Signal → State
  | .running m => m.state
  | .finished _ s => s
  | .trapped _ s => s
  | .calling _ _ m => m.state

namespace Machine

variable (m : Machine)

theorem leave_state : m.leave.state = m.state := by
  unfold leave
  dsimp only
  split <;> rfl

theorem branch_state (depth : Nat) : (m.branch depth).state = m.state := by
  unfold branch
  split
  · exact m.leave_state
  · rfl

theorem call_state (c : Callee) : (m.call c).state = m.state := by
  unfold call
  dsimp only
  split
  · rfl
  · split <;> rfl

theorem tailCall_state (c : Callee) : (m.tailCall c).state = m.state := by
  unfold tailCall
  dsimp only
  split <;> rfl

section Steps

variable {m} {n : Nat} (hm : m.state.HasMemories n)

include hm

theorem continueWith_counts {r : Except EngineTrap (State × List Nat)} (hr : Counts n r) (rest : List Code) :
    (m.continueWith rest r).state.HasMemories n := by
  cases r with
  | error t => exact hm
  | ok after => exact hr after.1 after.2 rfl

/-- A plain instruction keeps the number of memories. -/
theorem plain_counts (p : Program) (i : Instr Nat) (rest : List Code) :
    (m.plain p i rest).state.HasMemories n := by
  cases i with
  | br l =>
    show (m.branch l).state.HasMemories n
    rw [m.branch_state]
    exact hm
  | brIf l =>
    unfold plain
    dsimp only
    split
    · exact hm
    · rw [branch_state]
      exact hm
  | brTable ls d =>
    unfold plain
    dsimp only
    rw [branch_state]
    exact hm
  | return_ =>
    show m.leave.state.HasMemories n
    rw [m.leave_state]
    exact hm
  | call | callIndirect =>
    unfold plain
    dsimp only
    split
    · rw [call_state]
      exact hm
    · exact hm
  | returnCall | returnCallIndirect =>
    unfold plain
    dsimp only
    split
    · rw [tailCall_state]
      exact hm
    · exact hm
  | numeric op =>
    unfold plain
    dsimp only
    split <;> exact hm
  | load | store | memorySize | memoryGrow | memoryFill | memoryCopy | memoryInit | dataDrop =>
    unfold plain
    exact continueWith_counts hm (State.memoryInstr_counts hm _ _) rest
  | tableGet | tableSet | tableSize | tableGrow | tableFill | tableCopy | tableInit | elemDrop =>
    unfold plain
    exact continueWith_counts hm (State.tableInstr_counts hm _ _) rest
  | _ => exact hm

/-- **A step keeps the number of memories.** -/
theorem step_counts (p : Program) : (m.step p).state.HasMemories n := by
  unfold step
  split
  · split
    · rw [leave_state]
      exact hm
    · exact hm
  · exact plain_counts hm p _ _
  · exact hm
  · exact hm
  · exact hm

end Steps

end Machine

/-! ## 3. The first state -/

theorem blankState_counts (m : Module) : m.blankState.HasMemories m.memories.length := by
  unfold State.HasMemories Module.blankState
  dsimp only
  rw [List.size_toArray, List.length_map]

theorem State.HasMemories.applyElem {n : Nat} {s s' : State} (hs : s.HasMemories n) {e : Elem × Nat}
    (h : s.applyElem e = .ok s') : s'.HasMemories n := by
  unfold State.applyElem at h
  split at h
  · cases h
    exact hs
  · cases h
    exact hs.others _ _ _ _
  · obtain ⟨s₁, hwrite, rfl⟩ := ok_of_map h
    exact (hs.writeTable hwrite).others _ _ _ _

theorem State.HasMemories.applyData {n : Nat} {s s' : State} (hs : s.HasMemories n) {d : Data × Nat}
    (h : s.applyData d = .ok s') : s'.HasMemories n := by
  unfold State.applyData at h
  split at h
  · obtain ⟨s₁, hwrite, rfl⟩ := ok_of_map h
    exact (hs.writeMemory hwrite).others _ _ _ _
  · cases h
    exact hs

/-- A new state has the memories that the module defines. -/
theorem initialState_counts {m : Module} {s : State} (h : m.initialState = .ok s) :
    s.HasMemories m.memories.length := by
  obtain ⟨s₁, helems, hdatas⟩ := ok_of_bind h
  have hs₁ := applyAll_invariant (fun hs => hs.applyElem) (blankState_counts m) helems
  exact applyAll_invariant (fun hs => hs.applyData) hs₁ hdatas

end Wasm

/-! ## 4. Runs -/

section Runs

variable {σ : Type} {n : Nat}

theorem advance_state (p : Wasm.Program) (slots : List (Slot σ)) (t : Moment σ) :
    match t.advance p slots with
    | .goesOn next => next.machine.state = (t.machine.step p).state
    | .ends r => r.state = (t.machine.step p).state := by
  unfold Moment.advance
  cases t.machine.step p with
  | running m => rfl
  | finished results s => rfl
  | trapped e s => rfl
  | calling k args m =>
    dsimp only
    rcases callImport slots k args t.world with ⟨result, w⟩
    cases result with
    | ok results => rfl
    | error e => rfl

/-- **A run keeps the number of memories.** -/
theorem drive_counts (p : Wasm.Program) (slots : List (Slot σ)) (budget : Nat) (t : Moment σ)
    (ht : t.machine.state.HasMemories n) : (drive p slots budget t.machine t.world).state.HasMemories n := by
  refine drive_invariant (I := fun t => t.machine.state.HasMemories n) (R := fun r => r.state.HasMemories n)
    ?_ ?_ (fun t ht => ht) budget t ht
  · intro t next ht hnext
    have hstate := advance_state p slots t
    rw [hnext] at hstate
    rw [hstate]
    exact Wasm.Machine.step_counts ht p
  · intro t r ht hend
    have hstate := advance_state p slots t
    rw [hend] at hstate
    rw [hstate]
    exact Wasm.Machine.step_counts ht p

end Runs

end Embedder
