import Embedder.Proofs.Wasm.Typing

/-!
# States that code can rely on

Code reads three things from the state without a check: its globals, and the sizes of memories and of
tables, which it gets as 32-bit integers. `State.Sound` says that all of them have the bits they should
have. Writing to a memory or a table keeps its size, and growing respects the greatest size.

* **`State.memoryInstr_sound`**, **`State.tableInstr_sound`** -- instructions on memories and tables leave a
  sound state, and the operands that `Effect` says.
-/

namespace Embedder.Wasm

/-- Globals hold what their types say, and sizes are 32-bit integers. -/
structure State.Sound (E : Items) (s : State) : Prop where
  globals : Fits E.globals s.globals.toList
  memories : ∀ (i : Nat) (mem : Memory), s.memories[i]? = some mem → Holds .i32 mem.pageCount
  tables : ∀ (i : Nat) (t : Table), s.tables[i]? = some t → Holds .i32 t.size

/-! ## 1. Sizes -/

namespace Memory

theorem pageCount_setByte (m : Memory) (a : Nat) (b : UInt8) :
    (m.setByte a b).pageCount = m.pageCount := Array.size_modify

theorem pageCount_writeBytes (bs : List UInt8) (m : Memory) (a : Nat) :
    (m.writeBytes a bs).pageCount = m.pageCount := by
  induction bs generalizing m a with
  | nil => rfl
  | cons b bs ih => rw [writeBytes, ih, pageCount_setByte]

theorem pageCount_writeNat (bytes : Nat) (m : Memory) (a n : Nat) :
    (m.writeNat a n bytes).pageCount = m.pageCount := by
  induction bytes generalizing m a n with
  | zero => rfl
  | succ bytes ih => rw [writeNat, ih, pageCount_setByte]

theorem pageCount_fillBytes (length : Nat) (m : Memory) (a : Nat) (b : UInt8) :
    (m.fillBytes a b length).pageCount = m.pageCount := by
  induction length generalizing m a with
  | zero => rfl
  | succ length ih => rw [fillBytes, ih, pageCount_setByte]

theorem pageCount_grow {m m' : Memory} {delta : Nat} (h : m.grow delta = some m') :
    m'.pageCount ≤ maxPages := by
  unfold grow at h
  split at h
  · rename_i hle
    cases h
    rw [pageCount, Array.size_append, Array.size_replicate]
    omega
  · cases h

theorem readNat_lt (bytes : Nat) (m : Memory) (a : Nat) : m.readNat a bytes < 2 ^ (8 * bytes) := by
  induction bytes generalizing a with
  | zero => exact Nat.one_pos
  | succ bytes ih =>
    have hbyte := (m.byte a).toNat_lt
    have hrest := ih (a + 1)
    rw [readNat, Nat.mul_succ, Nat.pow_add]
    omega

end Memory

namespace Table

theorem size_write (rs : List Nat) (t : Table) (i : Nat) : (t.write i rs).size = t.size := by
  induction rs generalizing t i with
  | nil => rfl
  | cons r rs ih =>
    rw [write, ih]
    exact Array.size_setIfInBounds

theorem size_grow {t t' : Table} {delta r : Nat} (h : t.grow delta r = some t') :
    t'.size ≤ maxElements := by
  unfold grow at h
  split at h
  · rename_i hle
    cases h
    rw [size, Array.size_append, Array.size_replicate]
    omega
  · cases h

end Table

/-! ## 2. Changes of one item -/

section Items

variable {α : Type} {P : α → Prop} {xs : Array α}

theorem forall_modify (h : ∀ (i : Nat) x, xs[i]? = some x → P x) {i : Nat} {f : α → α}
    (hf : ∀ x, P x → P (f x)) : ∀ (j : Nat) x, (xs.modify i f)[j]? = some x → P x := by
  intro j x hj
  rw [Array.getElem?_modify] at hj
  split at hj
  · obtain ⟨y, hy, rfl⟩ := Option.map_eq_some_iff.mp hj
    exact hf y (h j y hy)
  · exact h j x hj

theorem forall_setIfInBounds (h : ∀ (i : Nat) x, xs[i]? = some x → P x) {i : Nat} {y : α} (hy : P y) :
    ∀ (j : Nat) x, (xs.setIfInBounds i y)[j]? = some x → P x := by
  intro j x hj
  rw [Array.getElem?_setIfInBounds] at hj
  split at hj
  · split at hj
    · cases hj
      exact hy
    · cases hj
  · exact h j x hj

end Items

namespace State.Sound

variable {E : Items} {s : State}

theorem modifyMemory (hs : s.Sound E) (i : Nat) {f : Memory → Memory}
    (hf : ∀ mem, (f mem).pageCount = mem.pageCount) :
    State.Sound E { s with memories := s.memories.modify i f } where
  globals := hs.globals
  tables := hs.tables
  memories := forall_modify hs.memories fun mem hmem => by rwa [hf mem]

theorem setMemory (hs : s.Sound E) (i : Nat) {mem : Memory} (hmem : mem.pageCount ≤ maxPages) :
    State.Sound E { s with memories := s.memories.setIfInBounds i mem } where
  globals := hs.globals
  tables := hs.tables
  memories := forall_setIfInBounds hs.memories (Nat.lt_of_le_of_lt hmem (by decide))

theorem modifyTable (hs : s.Sound E) (i : Nat) {f : Table → Table} (hf : ∀ t, (f t).size = t.size) :
    State.Sound E { s with tables := s.tables.modify i f } where
  globals := hs.globals
  memories := hs.memories
  tables := forall_modify hs.tables fun t ht => by rwa [hf t]

theorem setTable (hs : s.Sound E) (i : Nat) {t : Table} (ht : t.size ≤ maxElements) :
    State.Sound E { s with tables := s.tables.setIfInBounds i t } where
  globals := hs.globals
  memories := hs.memories
  tables := forall_setIfInBounds hs.tables (Nat.lt_of_le_of_lt ht (by decide))

/-- The segments play no part. -/
theorem withSegments (hs : s.Sound E) (elems : Array (List Nat)) (datas : Array (List UInt8)) :
    State.Sound E { s with elems, datas } := ⟨hs.globals, hs.memories, hs.tables⟩

theorem writeMemory (hs : s.Sound E) {i a : Nat} {bs : List UInt8} {s' : State}
    (h : s.writeMemory i a bs = .ok s') : s'.Sound E := by
  unfold State.writeMemory at h
  split at h
  · cases h
  · split at h
    · cases h
      exact hs.modifyMemory i fun mem => mem.pageCount_writeBytes bs a
    · cases h

theorem writeTable (hs : s.Sound E) {i k : Nat} {rs : List Nat} {s' : State}
    (h : s.writeTable i k rs = .ok s') : s'.Sound E := by
  unfold State.writeTable at h
  split at h
  · cases h
  · split at h
    · cases h
      exact hs.modifyTable i fun t => t.size_write rs k
    · cases h

end State.Sound

/-! ## 3. Instructions -/

theorem failedGrow_holds : Holds .i32 failedGrow := (by decide : 4294967295 < 2 ^ 32)

theorem Load.width_cases (op : Load) :
    ∃ w : Width, (if op.type.width = 32 then Width.w32 else .w64) = w ∧ w.bits = op.type.width := by
  rcases op with ⟨_ | _, _⟩
  all_goals exact ⟨_, rfl, rfl⟩

theorem Load.result_holds (op : Load) {n : Nat} (hn : n < 2 ^ (8 * op.bytes)) :
    Holds (some op.type) (if op.signed then
      extendLow (if op.type.width = 32 then .w32 else .w64) (8 * op.bytes) n else n) := by
  obtain ⟨w, hw, hbits⟩ := op.width_cases
  have hfits := op.fits
  rw [hw]
  split
  · have hlt := extendLow_lt n (hbits ▸ hfits)
    rw [w.modulus_eq, hbits] at hlt
    exact hlt
  · exact Nat.lt_of_lt_of_le hn (Nat.pow_le_pow_right (by decide) hfits)

/-- What an instruction on memories or tables is to give: a sound state, and operands in place of those
    it took. -/
def Delivers (E : Items) (rs : List Kind) (below : List Nat) (r : Except EngineTrap (State × List Nat)) :
    Prop :=
  ∀ s stack, r = .ok (s, stack) → s.Sound E ∧ ∃ given, stack = given ++ below ∧ Fits rs given

section Delivering

variable {E : Items} {V : Interior} {s : State} {below : List Nat}

theorem delivers_ok {rs : List Kind} {given : List Nat} (hs : s.Sound E) (hg : Fits rs given) :
    Delivers E rs below (.ok (s, given ++ below)) := by
  intro s' stack h
  cases h
  exact ⟨hs, given, rfl, hg⟩

theorem delivers_error {rs : List Kind} (t : EngineTrap) : Delivers E rs below (.error t) := by
  intro s' stack h
  cases h

/-- An instruction that checks before it acts. -/
theorem delivers_guard {rs : List Kind} {c : Prop} [Decidable c] {t : EngineTrap}
    {r : Except EngineTrap (State × List Nat)} (h : c → Delivers E rs below r) :
    Delivers E rs below (if c then r else .error t) := by
  split
  · exact h ‹c›
  · exact delivers_error t

theorem delivers_map {r : Except EngineTrap State} (hr : ∀ s', r = .ok s' → s'.Sound E) :
    Delivers E [] below (r.map (·, below)) := by
  cases r with
  | error t => exact delivers_error t
  | ok s' => exact delivers_ok (hr s' rfl) .nil

/-- **An instruction on memories**, on operands of its kinds. -/
theorem State.memoryInstr_sound (hs : s.Sound E) {i : Instr Nat} {ps rs : List Kind} {taken : List Nat}
    (he : MemoryEffect i ps rs) (ht : Fits ps taken) :
    Delivers E rs below (s.memoryInstr (taken ++ below) i) := by
  cases he with
  | load op a =>
    obtain _ | ⟨_, ⟨⟩⟩ := ht
    unfold memoryInstr
    dsimp only [popSlot_cons, List.cons_append]
    split
    · exact delivers_error _
    · rename_i mem _
      refine delivers_guard fun _ => ?_
      exact delivers_ok hs (.cons (op.result_holds (mem.readNat_lt _ _)) .nil)
  | store op a =>
    obtain _ | ⟨_, _ | ⟨_, ⟨⟩⟩⟩ := ht
    unfold memoryInstr
    dsimp only [popSlot_cons, List.cons_append]
    split
    · exact delivers_error _
    · refine delivers_guard fun _ => ?_
      exact delivers_ok (hs.modifyMemory _ fun mem => mem.pageCount_writeNat _ _ _) .nil
  | memorySize k =>
    cases ht
    refine delivers_ok hs (.cons ?_ .nil)
    cases hmem : s.memories[k]? with
    | none => exact holds_zero _
    | some mem => exact hs.memories k mem hmem
  | memoryGrow k =>
    obtain _ | ⟨_, ⟨⟩⟩ := ht
    unfold memoryInstr
    dsimp only [popSlot_cons, List.cons_append]
    split
    · exact delivers_ok hs (.cons failedGrow_holds .nil)
    · rename_i mem hmem
      split
      · exact delivers_ok hs (.cons failedGrow_holds .nil)
      · rename_i mem' hgrow
        exact delivers_ok (hs.setMemory k (Memory.pageCount_grow hgrow))
          (.cons (hs.memories k mem hmem) .nil)
  | memoryFill k =>
    obtain _ | ⟨_, _ | ⟨_, _ | ⟨_, ⟨⟩⟩⟩⟩ := ht
    unfold memoryInstr
    dsimp only [popSlot_cons, List.cons_append]
    split
    · exact delivers_error _
    · refine delivers_guard fun _ => ?_
      exact delivers_ok (hs.modifyMemory _ fun mem => mem.pageCount_fillBytes _ _ _) .nil
  | memoryCopy k l =>
    obtain _ | ⟨_, _ | ⟨_, _ | ⟨_, ⟨⟩⟩⟩⟩ := ht
    unfold memoryInstr
    dsimp only [popSlot_cons, List.cons_append]
    split
    · exact delivers_error _
    · exact delivers_guard fun _ => delivers_map fun _ => hs.writeMemory
  | memoryInit k d =>
    obtain _ | ⟨_, _ | ⟨_, _ | ⟨_, ⟨⟩⟩⟩⟩ := ht
    unfold memoryInstr
    dsimp only [popSlot_cons, List.cons_append]
    exact delivers_guard fun _ => delivers_map fun _ => hs.writeMemory
  | dataDrop d =>
    cases ht
    exact delivers_ok (hs.withSegments _ _) .nil

/-- **An instruction on tables**, on operands of its kinds. -/
theorem State.tableInstr_sound (hs : s.Sound E) {i : Instr Nat} {ps rs : List Kind} {taken : List Nat}
    (he : TableEffect i ps rs) (ht : Fits ps taken) :
    Delivers E rs below (s.tableInstr (taken ++ below) i) := by
  cases he with
  | tableGet k =>
    obtain _ | ⟨_, ⟨⟩⟩ := ht
    unfold tableInstr
    dsimp only [popSlot_cons, List.cons_append]
    split
    · exact delivers_ok hs (.cons (holds_none _) .nil)
    · exact delivers_error _
  | tableSet k =>
    obtain _ | ⟨_, _ | ⟨_, ⟨⟩⟩⟩ := ht
    exact delivers_map fun _ => hs.writeTable
  | tableSize k =>
    cases ht
    refine delivers_ok hs (.cons ?_ .nil)
    cases htable : s.tables[k]? with
    | none => exact holds_zero _
    | some t => exact hs.tables k t htable
  | tableGrow k =>
    obtain _ | ⟨_, _ | ⟨_, ⟨⟩⟩⟩ := ht
    unfold tableInstr
    dsimp only [popSlot_cons, List.cons_append]
    split
    · exact delivers_ok hs (.cons failedGrow_holds .nil)
    · rename_i t htable
      split
      · exact delivers_ok hs (.cons failedGrow_holds .nil)
      · rename_i t' hgrow
        exact delivers_ok (hs.setTable k (Table.size_grow hgrow)) (.cons (hs.tables k t htable) .nil)
  | tableFill k =>
    obtain _ | ⟨_, _ | ⟨_, _ | ⟨_, ⟨⟩⟩⟩⟩ := ht
    unfold tableInstr
    dsimp only [popSlot_cons, List.cons_append]
    split
    · exact delivers_error _
    · exact delivers_guard fun _ => delivers_map fun _ => hs.writeTable
  | tableCopy k l =>
    obtain _ | ⟨_, _ | ⟨_, _ | ⟨_, ⟨⟩⟩⟩⟩ := ht
    unfold tableInstr
    dsimp only [popSlot_cons, List.cons_append]
    split
    · exact delivers_error _
    · exact delivers_guard fun _ => delivers_map fun _ => hs.writeTable
  | tableInit k e =>
    obtain _ | ⟨_, _ | ⟨_, _ | ⟨_, ⟨⟩⟩⟩⟩ := ht
    unfold tableInstr
    dsimp only [popSlot_cons, List.cons_append]
    exact delivers_guard fun _ => delivers_map fun _ => hs.writeTable
  | elemDrop e =>
    cases ht
    exact delivers_ok (hs.withSegments _ _) .nil

end Delivering

end Embedder.Wasm
