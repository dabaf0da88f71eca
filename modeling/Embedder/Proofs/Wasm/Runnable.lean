import Embedder.Proofs.Wasm.Preservation
import Embedder.Proofs.Wasm.Structure

/-!
# Modules that the engine runs

A module that passes the check for running is sound as a whole: its program consists of typed functions,
and its state starts sound, if it imports nothing but functions.

* `Module.Checked` -- what the check of a module says, item by item, whoever checks the bodies;
* `Module.Runnable` -- the same for bodies that consist of instructions;
* **`Module.Runnable.items_sound`** -- every function of the program is typed;
* **`Module.Runnable.initialState_sound`** -- the state of a new instance is sound;
* `Module.Runnable.callee`, `host_callee` -- the functions of the program have their types, and those that
  belong to the host are the imports.
-/

namespace Embedder.Wasm

/-! ## 1. What the check says -/

theorem forM_eq_ok {α : Type} {f : α → Check Unit} : ∀ {xs : List α}, xs.forM f = .ok () →
    ∀ x ∈ xs, f x = .ok ()
  | [], _, x, hx => nomatch hx
  | y :: ys, h, x, hx => by
      obtain ⟨_, hy, hys⟩ := ok_of_bind h
      rcases List.mem_cons.mp hx with rfl | hx
      · exact hy
      · exact forM_eq_ok hys x hx

/-- Where no name is repeated, the names are distinct, and other than those that were seen before. -/
theorem nodup_of_repeatedNames : ∀ {seen names : List String}, repeatedNames seen names = [] →
    names.Nodup ∧ ∀ s ∈ names, s ∉ seen
  | _, [], _ => ⟨List.nodup_nil, fun _ hs => nomatch hs⟩
  | seen, n :: names, h => by
      unfold repeatedNames at h
      split at h
      · cases h
      · rename_i hn
        obtain ⟨hnodup, hseen⟩ := nodup_of_repeatedNames h
        refine ⟨List.nodup_cons.mpr ⟨fun hmem => hseen n hmem List.mem_cons_self, hnodup⟩, ?_⟩
        intro s hs hmem
        rcases List.mem_cons.mp hs with rfl | hs
        · exact hn (List.contains_iff_mem.mpr hmem)
        · exact hseen s hs (List.mem_cons_of_mem n hmem)

/-- The check of a module, item by item, given the check of its bodies. -/
structure Module.Checked {β : Type} (checkBody : Context → FuncType Nat → β → Check Unit) (m : Module β) :
    Prop where
  imported : ∀ i ∈ m.imports, (m.context .runnable).checkImport i = .ok ()
  funcs : ∀ j ∈ m.funcs, ∃ t, (m.context .runnable).funcType j = .ok t
  tables : ∀ t ∈ m.tables, (m.context .runnable).checkTableDef t = .ok ()
  memories : ∀ t ∈ m.memories, t.check = .ok ()
  tags : ∀ j ∈ m.tags, (m.context .runnable).checkTag j = .ok ()
  globals : (m.context .runnable).checkGlobals (m.context .runnable).globals
    (m.context .runnable).importedGlobals m.globals = .ok ()
  exported : ∀ e ∈ m.exports, (m.context .runnable).checkExport e = .ok ()
  exports : (m.exports.map Export.name).Nodup
  start : m.start.forM (m.context .runnable).checkStart = .ok ()
  lengths : m.funcs.length = m.bodies.length
  bodies : ∀ b ∈ m.funcs.zip m.bodies, ∃ t, (m.context .runnable).funcType b.1 = .ok t ∧
    checkBody (m.context .runnable) t b.2 = .ok ()

theorem checked_of_check {β : Type} {checkBody : Context → FuncType Nat → β → Check Unit} {m : Module β}
    (h : m.check checkBody .runnable = .ok ()) : m.Checked checkBody := by
  unfold Module.check at h
  obtain ⟨_, _, h⟩ := ok_of_bind h
  obtain ⟨_, _, h⟩ := ok_of_bind h
  obtain ⟨_, imported, h⟩ := ok_of_bind h
  obtain ⟨_, funcs, h⟩ := ok_of_bind h
  obtain ⟨_, tables, h⟩ := ok_of_bind h
  obtain ⟨_, memories, h⟩ := ok_of_bind h
  obtain ⟨_, _, h⟩ := ok_of_bind h
  obtain ⟨_, _, h⟩ := ok_of_bind h
  obtain ⟨_, tags, h⟩ := ok_of_bind h
  obtain ⟨_, globals, h⟩ := ok_of_bind h
  obtain ⟨_, exported, h⟩ := ok_of_bind h
  obtain ⟨_, exports, h⟩ := ok_of_bind h
  obtain ⟨_, start, h⟩ := ok_of_bind h
  obtain ⟨_, _, h⟩ := ok_of_bind h
  obtain ⟨_, _, h⟩ := ok_of_bind h
  obtain ⟨_, lengths, h⟩ := ok_of_bind h
  obtain ⟨_, bodies, h⟩ := ok_of_bind h
  refine ⟨forM_eq_ok imported, fun j hj => ?_, forM_eq_ok tables, forM_eq_ok memories, forM_eq_ok tags, globals,
    forM_eq_ok exported, ?_, start, ?_, fun b hb => ?_⟩
  · obtain ⟨t, ht, -⟩ := ok_of_bind (forM_eq_ok funcs j hj)
    exact ⟨t, ht⟩
  · exact (nodup_of_repeatedNames (List.isEmpty_iff.mp (ensure_eq_ok.mp exports))).1
  · exact beq_iff_eq.mp (ensure_eq_ok.mp lengths)
  · exact ok_of_bind (forM_eq_ok bodies b hb)

/-- The check of a module that consists of instructions. -/
abbrev Module.Runnable (m : Module) : Prop := m.Checked Context.checkBody

variable {m : Module}

/-! ## 2. Functions and their types -/

theorem types_hosts (m : Module) : ∀ (is : List Import) (n : Nat),
    ((is.zipIdx n).filterMap fun (i, k) => i.func?.map fun t => Callee.host k (m.funcTypeD t)).map
        Callee.type = (is.filterMap Import.func?).map m.funcTypeD
  | [], _ => rfl
  | i :: is, n => by
      have ih := types_hosts m is (n + 1)
      rw [List.zipIdx_cons, List.filterMap_cons, List.filterMap_cons]
      cases hi : i.func? <;> simp [hi, ih, Callee.type]

/-- The types of the functions of a program are those of its module, in order. -/
theorem Module.Runnable.types_callees (h : m.Runnable) :
    m.program.callees.toList.map Callee.type = m.funcIndices.map m.funcTypeD := by
  have hguests : m.guestCallees.map Callee.type = m.funcs.map m.funcTypeD := by
    unfold Module.guestCallees
    have hfuncs : (m.funcs.zip m.bodies).map Prod.fst = m.funcs :=
      List.map_fst_zip (Nat.le_of_eq h.lengths)
    rw [List.map_map]
    conv_rhs => rw [← hfuncs, List.map_map]
    rfl
  unfold Module.program Module.funcIndices
  dsimp only
  rw [List.map_append, List.map_append, hguests]
  exact congrArg (· ++ _) (types_hosts m m.imports 0)

/-- The function with an index is there, with its type. -/
theorem Module.Runnable.callee (h : m.Runnable) {f j : Nat} {t : FuncType Nat}
    (hf : m.funcIndices[f]? = some j) (ht : m.funcType? j = some t) :
    ∃ c, m.program.callees[f]? = some c ∧ c.type = t := by
  have hget : (m.program.callees.toList.map Callee.type)[f]? = some t := by
    rw [h.types_callees, List.getElem?_map, hf, Option.map_some, Module.funcTypeD, ht]
    rfl
  rw [List.getElem?_map, Array.getElem?_toList] at hget
  exact Option.map_eq_some_iff.mp hget

theorem mem_callees {f : Nat} {c : Callee} (h : m.program.callees[f]? = some c) :
    c ∈ m.hostCallees ∨ c ∈ m.guestCallees := by
  unfold Module.program at h
  rw [List.getElem?_toArray] at h
  exact List.mem_append.mp (List.mem_of_getElem? h)

/-- A function of the host is an import, with its type. -/
theorem host_callee {f k : Nat} {t : FuncType Nat} (h : m.program.callees[f]? = some (.host k t)) :
    ∃ i j, m.imports[k]? = some i ∧ i.func? = some j ∧ t = m.funcTypeD j := by
  rcases mem_callees h with hmem | hmem
  · obtain ⟨⟨i, n⟩, hi, hfunc⟩ := List.mem_filterMap.mp hmem
    obtain ⟨j, hj, hcallee⟩ := Option.map_eq_some_iff.mp hfunc
    cases hcallee
    exact ⟨i, j, List.mem_zipIdx_iff_getElem?.mp hi, hj, rfl⟩
  · obtain ⟨_, _, hcallee⟩ := List.mem_map.mp hmem
    cases hcallee

/-- A function with code is one of the module's own, with its body. -/
theorem guest_callee {f n : Nat} {t : FuncType Nat} {code : List Code}
    (h : m.program.callees[f]? = some (.guest t n code)) :
    ∃ b ∈ m.funcs.zip m.bodies, t = m.funcTypeD b.1 ∧ n = b.2.localCount ∧
      code = Code.ofFlat m b.2.code := by
  rcases mem_callees h with hmem | hmem
  · obtain ⟨⟨i, n⟩, hi, hfunc⟩ := List.mem_filterMap.mp hmem
    obtain ⟨j, hj, hcallee⟩ := Option.map_eq_some_iff.mp hfunc
    cases hcallee
  · obtain ⟨b, hb, hcallee⟩ := List.mem_map.mp hmem
    cases hcallee
    exact ⟨b, hb, rfl, rfl, rfl⟩

/-! ## 3. The scope of code -/

/-- The items of a module. -/
def Module.items (m : Module) : Items := ⟨m.program, m.globalTypes.map fun g => g.content.number?⟩

/-- What the checker of a module's code knows is what is there when the code runs. The globals that it
    may use can be fewer than there are. -/
theorem Module.Runnable.describes (h : m.Runnable) (gs : Array (GlobalType Nat))
    (locals : Array (ValType Nat)) (results : List (ValType Nat)) :
    Scope.Describes ⟨{ m.context .runnable with globals := gs }, locals, results⟩
      ⟨m.program, gs.toList.map fun g => g.content.number?⟩
      ⟨locals.toList.map ValType.number?, kindsOf results⟩ where
  features := rfl
  locals := rfl
  results := rfl
  globals := rfl
  funcs f t hf := by
    obtain ⟨j, hj, ht⟩ := ok_of_bind hf
    have hindex := orFail_eq_ok.mp hj
    rw [Module.context, List.getElem?_toArray] at hindex
    exact h.callee hindex (funcType?_eq rfl ht)
  types i t hi := by
    obtain ⟨final, supers, hsub⟩ := funcType_eq_ok hi
    have hlist : m.typeList[i]? = some ⟨final, supers, .func t⟩ := by
      rwa [Module.context, List.getElem?_toArray] at hsub
    unfold Module.program
    rw [List.getElem?_toArray, List.getElem?_map, hlist]
    rfl

theorem length_locals : ∀ (ls : List (Nat × ValType Nat)) (n : Nat),
    ls.foldl (fun n l => n + l.1) n = n + (ls.flatMap fun (n, t) => List.replicate n t).length
  | [], n => rfl
  | l :: ls, n => by
      rw [List.foldl_cons, length_locals ls, List.flatMap_cons, List.length_append, List.length_replicate]
      omega

/-- **Every function of the program is typed.** -/
theorem Module.Runnable.items_sound (h : m.Runnable) : m.items.Sound := by
  intro f t n code hf
  obtain ⟨⟨type, body⟩, hb, rfl, rfl, rfl⟩ := guest_callee hf
  obtain ⟨t, ht, hbody⟩ := h.bodies _ hb
  have htype : m.funcTypeD type = t := by
    unfold Module.funcTypeD
    rw [funcType?_eq rfl ht]
    rfl
  obtain ⟨_, _, hbody⟩ := ok_of_bind hbody
  obtain ⟨_, _, hcode⟩ := ok_of_bind hbody
  have htyped := ofFlat_typed (h.describes m.globalTypes.toArray _ t.results) rfl hcode
  rw [htype]
  refine ⟨(body.locals.flatMap fun (n, t) => List.replicate n t).map ValType.number?, ?_⟩
  obtain ⟨o, htyped, harrives⟩ := htyped
  refine ⟨o, ?_, ?_, harrives⟩
  · rw [List.length_map, Body.localCount, length_locals, Nat.zero_add]
  · rwa [List.map_append] at htyped

/-- The start function is there and takes and returns nothing. -/
theorem Module.Runnable.start_callee (h : m.Runnable) {f : Nat} (hf : m.start = some f) :
    ∃ c, m.program.callees[f]? = some c ∧ c.type.params = [] ∧ c.type.results = [] := by
  have hcheck := h.start
  rw [hf] at hcheck
  obtain ⟨t, ht, hempty⟩ := ok_of_bind hcheck
  obtain ⟨c, hc, rfl⟩ := (h.describes m.globalTypes.toArray #[] []).funcs f t ht
  obtain ⟨hparams, hresults⟩ := Bool.and_eq_true_iff.mp (ensure_eq_ok.mp hempty)
  exact ⟨c, hc, List.isEmpty_iff.mp hparams, List.isEmpty_iff.mp hresults⟩

/-! ## 4. Constant expressions -/

section Constants

variable {C : Context} {E : Items} {V : Interior} {s : Scope} {gs : Array Nat} {k k' : Checker}
  {c : Control} {t : ValType Nat}

theorem IntBinary.eval_total {w : Width} {a b : Nat} {op : IntBinary}
    (h : (op == .add || op == .sub || op == .mul) = true) : ∃ n, op.eval w a b = .ok n := by
  cases op <;> first | exact ⟨_, rfl⟩ | cases h

/-- The numeric instructions of constant expressions never trap. -/
theorem numeric_total {op : NumOp} (h : C.constInstr (.numeric op) = .ok ()) (stack : List Nat) :
    ∃ stack', op.apply stack = .ok stack' := by
  cases op with
  | intBinary w o =>
    obtain ⟨n, hn⟩ := IntBinary.eval_total (ensure_eq_ok.mp h)
    exact ⟨_, congrArg (Except.map _) hn⟩
  | _ => cases h

/-- A step of a constant expression does what the effect of its instruction says. -/
theorem constStep_fits {i : Instr Nat} {ps rs js : List Kind} {stack : List Nat}
    (hi : C.constInstr i = .ok ()) (he : Effect E V i ps rs) (hg : Fits E.globals gs.toList)
    (h : Fits (ps ++ js) stack) : Fits (rs ++ js) (constStep gs stack i) := by
  obtain ⟨taken, below, rfl, htaken, hbelow⟩ := h.split
  cases he with
  | const v =>
    cases htaken
    exact .cons v.slot_holds hbelow
  | v128Const n =>
    cases htaken
    exact .cons (holds_none n) hbelow
  | refNull t =>
    cases htaken
    exact .cons (holds_none 0) hbelow
  | refFunc f =>
    cases htaken
    exact .cons (holds_none (f + 1)) hbelow
  | globalGet hkind =>
    cases htaken
    obtain ⟨n, hn, hholds⟩ := hg.get hkind
    rw [Array.getElem?_toList] at hn
    unfold constStep
    dsimp only
    rw [hn]
    exact .cons hholds hbelow
  | numeric op =>
    rcases op.apply_fits below htaken with ⟨trap, herror⟩ | ⟨n, hok, hholds⟩
    · obtain ⟨stack, hok⟩ := numeric_total hi (taken ++ below)
      rw [hok] at herror
      cases herror
    · unfold constStep
      dsimp only
      rw [hok]
      exact .cons hholds hbelow
  | memory hm => cases hm <;> cases hi
  | table ht => cases ht <;> cases hi
  | _ => cases hi

theorem eq_end_of_const {i : Instr Nat} (hi : C.constInstr i = .ok ())
    (hgroup : i.group = .control ∨ i.group = .blocks) : i = .end_ := by
  rcases hgroup with hgroup | hgroup
  · cases i <;> cases hgroup <;> cases hi
  · cases i <;> cases hgroup <;> first | rfl | cases hi

/-- A constant expression inside its block: its operands have the kinds that the checker sees. -/
theorem constFold_holds (hs : s.Describes E V) (hg : Fits E.globals gs.toList) (hresults : c.results = [t]) :
    ∀ {e : List (Instr Nat)} {k : Checker} {ks : List Kind} {stack : List Nat},
      k.Sees c [] [] (some ks) → Fits ks stack → (∀ i ∈ e, s.context.constInstr i = .ok ()) →
        e.foldlM (fun k i => k.instr s i) k = .ok k' → k'.controls = [] →
          Holds t.number? ((e.foldl (constStep gs) stack).headD 0)
  | [], k, ks, stack, ⟨own, hat, _⟩, _, _, hk, hend => by
      cases hk
      rw [hat.controls] at hend
      cases hend
  | i :: e, k, ks, stack, sees, hstack, hconst, hk, hend => by
      rw [List.foldlM_cons] at hk
      obtain ⟨k₁, hi, hrest⟩ := ok_of_bind hk
      have hci := hconst i List.mem_cons_self
      rcases sees.instr hs hi with ⟨ps, rs, he, o, ho, after⟩ | ⟨hcontrol, hgroup⟩
      · obtain ⟨js, rfl, rfl⟩ := Option.map_eq_some_iff.mp ho.symm
        rw [List.foldl_cons]
        exact constFold_holds hs hg hresults after (constStep_fits hci he hg hstack)
          (fun j hj => hconst j (List.mem_cons_of_mem i hj)) hrest hend
      · obtain rfl := eq_end_of_const hci hgroup
        obtain ⟨arrives, -, k₂, rests, rfl⟩ := sees.end_ hcontrol
        rw [hresults] at arrives hrest
        obtain rfl := arrives ks rfl
        -- The check fails on whatever comes after the end.
        cases e with
        | nil =>
          obtain _ | ⟨hholds, _⟩ := hstack
          exact hholds
        | cons j e =>
          rw [List.foldlM_cons] at hrest
          obtain ⟨k₃, hj, -⟩ := ok_of_bind hrest
          obtain ⟨top, htop, -⟩ := ok_of_bind hj
          unfold Checker.top Checker.pushAll at htop
          rw [List.foldl_cons, List.foldl_nil, Checker.push, rests.controls] at htop
          cases htop

/-- **The value of a constant expression has the kind of its type.** -/
theorem constValue_holds (hs : s.Describes E V) (hg : Fits E.globals gs.toList) (hresults : s.results = [t])
    {e : Expr} (hconst : ∀ i ∈ e, s.context.constInstr i = .ok ()) (h : s.checkCode e [] = .ok ()) :
    Holds t.number? (constValue gs e) := by
  obtain ⟨k, hfold, hend⟩ := ok_of_bind h
  have sees : Checker.Sees ⟨[], 0, [⟨.function, [], s.results, 0, false, []⟩], []⟩
      ⟨.function, [], s.results, 0, false, []⟩ [] [] (some []) :=
    ⟨[], ⟨rfl, rfl, rfl, rfl, fun _ x hx => nomatch hx⟩, rfl⟩
  exact constFold_holds hs hg hresults sees .nil hconst hfold (List.isEmpty_iff.mp (ensure_eq_ok.mp hend))

end Constants

/-! ## 5. The first state -/

/-- The globals that are left to compute, after those of the types `done`. -/
theorem Module.Runnable.globals_fit (h : m.Runnable) : ∀ {gs : List GlobalDef}
    (done : List (GlobalType Nat)) {values : Array Nat}, m.globalTypes = done ++ gs.map GlobalDef.type →
      (m.context .runnable).checkGlobals m.globalTypes.toArray done.length gs = .ok () →
        Fits (done.map fun g => g.content.number?) values.toList →
          Fits (m.globalTypes.map fun g => g.content.number?)
            (gs.foldl (fun gs g => gs.push (constValue gs g.init)) values).toList
  | [], done, values, htypes, _, hvalues => by
      rwa [htypes, List.map_nil, List.append_nil]
  | g :: gs, done, values, htypes, hcheck, hvalues => by
      obtain ⟨_, _, hcheck⟩ := ok_of_bind hcheck
      obtain ⟨_, hinit, hrest⟩ := ok_of_bind hcheck
      obtain ⟨_, hconst, hcode⟩ := ok_of_bind hinit
      have hseen : (m.globalTypes.toArray.take done.length).toList = done := by
        rw [htypes]
        simp
      have hdescribes := h.describes (m.globalTypes.toArray.take done.length) #[] [g.type.content]
      rw [hseen] at hdescribes
      have hholds := constValue_holds hdescribes hvalues rfl (forM_eq_ok hconst) hcode
      rw [List.foldl_cons]
      refine h.globals_fit (done ++ [g.type]) ?_ ?_ ?_
      · rw [htypes, List.map_cons, List.append_assoc]
        rfl
      · rwa [List.length_append]
      · rw [List.map_append, Array.toList_push]
        exact hvalues.append (.cons hholds .nil)

theorem Module.Runnable.blankState_sound (h : m.Runnable) (hi : m.importedGlobals = []) :
    m.blankState.Sound m.items where
  globals := by
    refine h.globals_fit [] ?_ ?_ .nil
    · rw [Module.globalTypes, hi]
    · have hnone : (m.context .runnable).importedGlobals = 0 := congrArg List.length hi
      have hcheck := h.globals
      rw [hnone] at hcheck
      exact hcheck
  memories i mem hmem := by
    unfold Module.blankState at hmem
    rw [List.getElem?_toArray, List.getElem?_map] at hmem
    obtain ⟨t, ht, rfl⟩ := Option.map_eq_some_iff.mp hmem
    obtain ⟨_, _, hcheck⟩ := ok_of_bind (h.memories t (List.mem_of_getElem? ht))
    obtain ⟨_, _, hcheck⟩ := ok_of_bind hcheck
    obtain ⟨_, _, hcheck⟩ := ok_of_bind hcheck
    obtain ⟨_, hsize, _⟩ := ok_of_bind hcheck
    have hle : t.limits.minimum ≤ memoryLimit := of_decide_eq_true (ensure_eq_ok.mp hsize)
    unfold Memory.create Memory.pageCount
    rw [Array.size_replicate]
    exact Nat.lt_of_le_of_lt hle (by decide)
  tables i t ht := by
    unfold Module.blankState at ht
    rw [List.getElem?_toArray, List.getElem?_map] at ht
    obtain ⟨d, hd, rfl⟩ := Option.map_eq_some_iff.mp ht
    obtain ⟨_, hcheck, _⟩ := ok_of_bind (h.tables d (List.mem_of_getElem? hd))
    obtain ⟨_, _, hcheck⟩ := ok_of_bind hcheck
    obtain ⟨_, _, hcheck⟩ := ok_of_bind hcheck
    obtain ⟨_, _, hcheck⟩ := ok_of_bind hcheck
    obtain ⟨_, _, hcheck⟩ := ok_of_bind hcheck
    obtain ⟨_, hsize, _⟩ := ok_of_bind hcheck
    have hle : d.type.limits.minimum ≤ tableLimit := of_decide_eq_true (ensure_eq_ok.mp hsize)
    unfold Table.create Table.size
    rw [Array.size_replicate]
    exact Nat.lt_of_le_of_lt hle (by decide)

section Segments

variable {E : Items} {s s' : State}

theorem State.Sound.applyElem (hs : s.Sound E) {e : Elem × Nat} (h : s.applyElem e = .ok s') : s'.Sound E := by
  unfold State.applyElem at h
  split at h
  · cases h
    exact hs
  · cases h
    exact hs.withSegments _ _
  · obtain ⟨s₁, hwrite, rfl⟩ := ok_of_map h
    exact (hs.writeTable hwrite).withSegments _ _

theorem State.Sound.applyData (hs : s.Sound E) {d : Data × Nat} (h : s.applyData d = .ok s') : s'.Sound E := by
  unfold State.applyData at h
  split at h
  · obtain ⟨s₁, hwrite, rfl⟩ := ok_of_map h
    exact (hs.writeMemory hwrite).withSegments _ _
  · cases h
    exact hs

/-- What each segment keeps, as it is applied to the state, all segments keep. -/
theorem applyAll_invariant {α : Type} {I : State → Prop} {apply : State → α → Except EngineTrap State}
    (happly : ∀ {s s' : State} {x : α}, I s → apply s x = .ok s' → I s') :
    ∀ {xs : List α} {s : State}, I s → xs.foldlM apply s = .ok s' → I s'
  | [], s, hs, h => by
      cases h
      exact hs
  | x :: xs, s, hs, h => by
      rw [List.foldlM_cons] at h
      obtain ⟨s₁, hx, hrest⟩ := ok_of_bind h
      exact applyAll_invariant happly (happly hs hx) hrest

/-- **The state of a new instance is sound.** -/
theorem Module.Runnable.initialState_sound (h : m.Runnable) (hi : m.importedGlobals = [])
    (hs : m.initialState = .ok s) : s.Sound m.items := by
  obtain ⟨s₁, helems, hdatas⟩ := ok_of_bind hs
  have hsound : s₁.Sound m.items :=
    applyAll_invariant (fun hs h => hs.applyElem h) (h.blankState_sound hi) helems
  exact applyAll_invariant (fun hs h => hs.applyData h) hsound hdatas

end Segments

end Embedder.Wasm
