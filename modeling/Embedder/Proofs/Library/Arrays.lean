import Embedder.Proofs.Activity
import Embedder.Proofs.Boundary
import Embedder.Proofs.Library.Effects

/-!
# The arrays of the drac library

Anybody may call the functions of a library: the embedder, and the guests of any instances that were made
with any registries. This file compares its arrays with what the calls themselves tell:

* **`Served.contents`** -- after any calls the array behind a handle is what it was made as, with the later
  additions and changes to it, in their order (`told`);
* **`Served.handles`** -- handles are given out in order, and stay valid;
* `Served.answers` -- so what the functions answer is decided by what the calls tell;
* `ask_frame` -- a call leaves alone every array but the one that it names;
* `arrayStore` -- the whole of it for any activity, at each of its calls;
* `left_by_full_buffer` -- what a writer has taken before it failed stays written.
-/

namespace Embedder.Drac

open Number

variable {σ : Type}

/-! ## 1. Any calls -/

/-- The library goes from a state to another in some exchanges. -/
inductive Served : Drac → List Exchange → Drac → Prop
  | nil (d : Drac) : Served d [] d
  | cons {d d' : Drac} {label : String} {op : Op} {args : List Value} {es : List Exchange} :
      Served (d.ask label op args).2 es d' → Served d (d.exchange label op args :: es) d'

/-- The calls that made a new array: those of `new` and `reads` that succeeded. -/
def makers (es : List Exchange) : List Exchange := es.filter Exchange.makes

/-- The array behind a handle, as some calls tell it. -/
def told (es : List Exchange) (h : Int32) : Option (List Int32) :=
  if 0 ≤ h.toInt then Effect.contents h.toInt.toNat 0 (es.map Exchange.effect) else none

/-- **The arrays after some calls are what their effects say.** -/
theorem Served.arrays {d d' : Drac} {es : List Exchange} (h : Served d es d') :
    d'.arrays = (es.map Exchange.effect).foldl (fun ls e => e.on ls) d.arrays := by
  induction h with
  | nil d => rfl
  | @cons d d' label op args es _ ih =>
    rw [ih, List.map_cons, List.foldl_cons, (d.ask_effective label op args).arrays]

/-- **Handles are given out in order**, one for each new array. -/
theorem Served.handles {d d' : Drac} {es : List Exchange} (h : Served d es d') :
    (makers es).map Exchange.answer =
        (List.range' d.arrays.length (makers es).length).map (fun k => .ok [.i32 (Int32.ofNat k)]) ∧
      d'.arrays.length = d.arrays.length + (makers es).length ∧
      (d.arrays.length ≤ pow2 31 → d'.arrays.length ≤ pow2 31) := by
  induction h with
  | nil d => exact ⟨rfl, rfl, fun h => h⟩
  | @cons d d' label op args es _ ih =>
    obtain ⟨hrange, hlength, hbound⟩ := ih
    have hstep := d.ask_effective label op args
    have hlen : (d.ask label op args).2.arrays.length =
        d.arrays.length + (d.exchange label op args).effect.fresh?.toList.length := by
      rw [hstep.arrays, Effect.length_on]
    have hmakes := (d.exchange label op args).makes_eq
    unfold makers at hrange hlength ⊢
    cases hfresh : (d.exchange label op args).effect.fresh? with
    | none =>
      rw [hfresh, Option.isSome_none] at hmakes
      rw [hfresh, Option.toList_none, List.length_nil, Nat.add_zero] at hlen
      rw [List.filter_cons_of_neg (by rw [hmakes]; exact Bool.false_ne_true)]
      rw [hlen] at hrange hlength hbound
      exact ⟨hrange, hlength, hbound⟩
    | some a =>
      rw [hfresh, Option.isSome_some] at hmakes
      rw [hfresh, Option.toList_some, List.length_singleton] at hlen
      obtain ⟨hroom, hanswer⟩ := hstep.handle hmakes
      rw [List.filter_cons_of_pos hmakes, List.length_cons, List.range'_succ, List.map_cons, List.map_cons,
        hanswer]
      rw [hlen] at hrange hlength hbound
      exact ⟨congrArg _ hrange, by omega, fun _ => hbound (by omega)⟩

/-- **The array behind a handle is what the calls tell of it**, in a library that was new. -/
theorem Served.contents {d d' : Drac} {es : List Exchange} (h : Served d es d') (hnew : d.arrays = [])
    (handle : Int32) : d'.array? handle = told es handle := by
  unfold array? told
  rw [h.arrays, hnew, Effect.getElem?_foldl_on]
  rfl

/-! ## 2. Answers -/

section Call

variable {d : Drac} {op : Op} (ns : List Int32) {r : Result} (hlen : ns.length = op.arity)
  (h : d.run? op ns = some r) (label : String)

include hlen h

/-- A call succeeds iff the function does. -/
theorem isOk_ask : (d.ask label op (ns.map .i32)).1.isOk = r.1.isOk := by
  rw [ask_of_fits ns hlen h]
  cases r.1 with
  | error e => rfl
  | ok v => rfl

/-- A call answers a number iff the function does. -/
theorem ask_eq_ok (x : Int32) : (d.ask label op (ns.map .i32)).1 = .ok [.i32 x] ↔ r.1 = .ok x := by
  rw [ask_of_fits ns hlen h]
  cases r.1 with
  | error e => simp [Except.map]
  | ok v => simp [Except.map]

end Call

theorem hasIndex_iff {a : List Int32} {i : Int32} :
    hasIndex a i = true ↔ 0 ≤ i.toInt ∧ i.toInt < a.length := by
  unfold hasIndex
  rw [Bool.and_eq_true, decide_eq_true_eq, decide_eq_true_eq]
  omega

/-- A function of an element of an array succeeds iff there is the element. -/
theorem isOk_element (d : Drac) (h i : Int32) (f : List Int32 → Int32 × Drac) :
    (match d.array? h with
      | none => (.error (invalidHandle h), d)
      | some a =>
        if hasIndex a i then (.ok (f a).1, (f a).2)
        else (.error (outOfBounds h i a.length), d) : Result).1.isOk = true ↔
      ∃ a, d.array? h = some a ∧ 0 ≤ i.toInt ∧ i.toInt < a.length := by
  cases d.array? h with
  | none => exact ⟨fun hok => absurd hok Bool.false_ne_true, fun ⟨_, hnone, _⟩ => nomatch hnone⟩
  | some a =>
    dsimp only
    by_cases hi : hasIndex a i = true
    · rw [if_pos hi]
      exact ⟨fun _ => ⟨a, rfl, hasIndex_iff.mp hi⟩, fun _ => rfl⟩
    · rw [if_neg hi]
      refine ⟨fun hok => absurd hok Bool.false_ne_true, ?_⟩
      rintro ⟨b, hb, hindex⟩
      cases hb
      exact absurd (hasIndex_iff.mpr hindex) hi

theorem isOk_get (d : Drac) (h i : Int32) :
    (d.get h i).1.isOk = true ↔ ∃ a, d.array? h = some a ∧ 0 ≤ i.toInt ∧ i.toInt < a.length :=
  d.isOk_element h i fun a => ((a[i.toInt.toNat]?).getD 0, d)

theorem isOk_set (d : Drac) (h i x : Int32) :
    (d.set h i x).1.isOk = true ↔ ∃ a, d.array? h = some a ∧ 0 ≤ i.toInt ∧ i.toInt < a.length :=
  d.isOk_element h i fun a => (0, d.setArray h (a.set i.toInt.toNat x))

theorem get_eq_ok (d : Drac) (h i x : Int32) : (d.get h i).1 = .ok x ↔
    ∃ a, d.array? h = some a ∧ 0 ≤ i.toInt ∧ a[i.toInt.toNat]? = some x := by
  unfold get
  cases d.array? h with
  | none => exact ⟨fun hok => (nomatch hok), fun ⟨_, hnone, _⟩ => (nomatch hnone)⟩
  | some a =>
    dsimp only
    by_cases hi : hasIndex a i = true
    · obtain ⟨hpos, hlt⟩ := hasIndex_iff.mp hi
      have hlt' : i.toInt.toNat < a.length := by omega
      rw [if_pos hi, List.getElem?_eq_getElem hlt', Option.getD_some]
      constructor
      · intro hx
        cases hx
        exact ⟨a, rfl, hpos, List.getElem?_eq_getElem hlt'⟩
      · rintro ⟨b, hb, -, hx⟩
        cases hb
        rw [List.getElem?_eq_getElem hlt'] at hx
        exact congrArg Except.ok (Option.some.inj hx)
    · rw [if_neg hi]
      refine ⟨fun hok => (nomatch hok), ?_⟩
      rintro ⟨b, hb, hpos, hx⟩
      cases hb
      have hlt := (List.getElem?_eq_some_iff.mp hx).1
      exact absurd (hasIndex_iff.mpr ⟨hpos, by omega⟩) hi

theorem size_eq_ok (d : Drac) (h n : Int32) : (d.size h).1 = .ok n ↔
    ∃ a, d.array? h = some a ∧ n.toInt = a.length := by
  unfold size
  cases d.array? h with
  | none => simp
  | some a =>
    dsimp only
    by_cases hlen : a.length < pow2 31
    · rw [if_pos hlen]
      have hint : (Int32.ofNat a.length).toInt = a.length := Int32.toInt_ofNat_of_lt hlen
      constructor
      · intro hn
        cases hn
        exact ⟨a, rfl, hint⟩
      · rintro ⟨b, hb, hn⟩
        cases hb
        exact congrArg Except.ok (Int32.toInt_inj.mp (hint.trans hn.symm))
    · rw [if_neg hlen]
      constructor
      · intro hn
        cases hn
      · rintro ⟨b, hb, hn⟩
        cases hb
        have hlt := Int32.toInt_lt n
        have hpow : pow2 31 = 2 ^ 31 := rfl
        omega

theorem isOk_add (d : Drac) (h x : Int32) : (d.add h x).1.isOk = (d.array? h).isSome := by
  unfold add
  cases d.array? h with
  | none => rfl
  | some a => rfl

theorem isSome_of_isOk_prints {d : Drac} {h : Int32} (hok : (d.prints h).1.isOk = true) :
    (d.array? h).isSome = true := by
  unfold prints at hok
  cases ha : d.array? h with
  | none =>
    rw [ha] at hok
    cases hok
  | some a => rfl

theorem isOk_new (d : Drac) (n : Int32) :
    (d.new n).1.isOk = true ↔ 0 ≤ n.toInt ∧ d.arrays.length < pow2 31 := by
  unfold new
  by_cases hn : n.toInt < 0
  · rw [if_pos hn]
    exact ⟨fun h => absurd h Bool.false_ne_true, fun h => absurd h.1 (by omega)⟩
  · rw [if_neg hn]
    rcases d.allocate_cases [] with ⟨hroom, h⟩ | ⟨hfull, h⟩ <;> rw [h]
    · exact ⟨fun _ => ⟨by omega, hroom⟩, fun _ => rfl⟩
    · exact ⟨fun h => absurd h Bool.false_ne_true, fun h => absurd h.2 (by omega)⟩

/-- The handle that a call names. -/
def named? : Op → List Value → Option Int32
  | .prints, [.i32 h] | .size, [.i32 h] => some h
  | .add, [.i32 h, _] | .get, [.i32 h, _] => some h
  | .set, [.i32 h, _, _] => some h
  | _, _ => none

/-- An effect that edits an array names it. -/
theorem edit_of_not_named {e : Exchange} {h : Int32} (hpos : 0 ≤ h.toInt) (hname : named? e.op e.args ≠ some h)
    (a : List Int32) : e.effect.edit h.toInt.toNat a = a := by
  have hne : ∀ h' : Int32, named? e.op e.args = some h' → ¬ h'.toInt = h.toInt.toNat := by
    intro h' hnamed heq
    have hsame : h' = h := Int32.toInt_inj.mp (by omega)
    exact hname (hsame ▸ hnamed)
  unfold Exchange.effect
  split
  · rfl
  · split
    · rfl
    · rfl
    · rename_i hop hargs
      rw [Effect.edit, if_neg (hne _ (by rw [hop, hargs]; rfl))]
    · rename_i hop hargs
      rw [Effect.edit, if_neg (hne _ (by rw [hop, hargs]; rfl))]
    · rfl

/-- **A call leaves alone every array but the one that it names.** -/
theorem ask_frame {d : Drac} {h : Int32} (hvalid : (d.array? h).isSome = true) (label : String) {op : Op}
    {args : List Value} (hname : named? op args ≠ some h) :
    (d.ask label op args).2.array? h = d.array? h := by
  obtain ⟨a, ha⟩ := Option.isSome_iff_exists.mp hvalid
  obtain ⟨hpos, hplace⟩ := array?_eq_some.mp ha
  have hlt := (List.getElem?_eq_some_iff.mp hplace).1
  rw [ha, array?_eq_some, (d.ask_effective label op args).arrays, Effect.getElem?_on_of_lt _ hlt, hplace]
  exact ⟨hpos, congrArg some (edit_of_not_named (e := d.exchange label op args) hpos hname a)⟩

/-! ## 3. Activity -/

/-- What the functions of a library answer, if its arrays are what some calls tell of them. -/
structure Answers (ask : Op → List Value → Except HostError (List Value)) (es : List Exchange) : Prop where
  /-- `size` answers the number of elements; there may be more than a number can say. -/
  size : ∀ h n, ask .size [.i32 h] = .ok [.i32 n] ↔ ∃ a, told es h = some a ∧ n.toInt = a.length
  get : ∀ h i x, ask .get [.i32 h, .i32 i] = .ok [.i32 x] ↔
    ∃ a, told es h = some a ∧ 0 ≤ i.toInt ∧ a[i.toInt.toNat]? = some x
  /-- `get` and `set` succeed iff there is the element. -/
  getSucceeds : ∀ h i, (ask .get [.i32 h, .i32 i]).isOk = true ↔
    ∃ a, told es h = some a ∧ 0 ≤ i.toInt ∧ i.toInt < a.length
  setSucceeds : ∀ h i x, (ask .set [.i32 h, .i32 i, .i32 x]).isOk = true ↔
    ∃ a, told es h = some a ∧ 0 ≤ i.toInt ∧ i.toInt < a.length
  addSucceeds : ∀ h x, (ask .add [.i32 h, .i32 x]).isOk = true ↔ (told es h).isSome = true
  sizeNeeds : ∀ h, (ask .size [.i32 h]).isOk = true → (told es h).isSome = true
  printsNeeds : ∀ h, (ask .prints [.i32 h]).isOk = true → (told es h).isSome = true
  /-- `new` takes any capacity that is not negative, as long as there are handles. -/
  newSucceeds : ∀ n, (ask .new [.i32 n]).isOk = true ↔ 0 ≤ n.toInt ∧ (makers es).length < pow2 31

/-- **What a library is after some calls**: a list of lists that grows. -/
structure ArrayStore (view : View σ Drac) (w : σ) (es : List Exchange) : Prop where
  /-- The calls that made arrays answered 0, 1, 2 and so on. -/
  handles : (makers es).map Exchange.answer =
    (List.range (makers es).length).map fun k => .ok [.i32 (Int32.ofNat k)]
  /-- What they answered is valid, and no other handle is. -/
  kept : ∀ e ∈ makers es, ∃ h, e.answer = .ok [.i32 h] ∧ ((view.get w).array? h).isSome = true
  valid : ∀ h, ((view.get w).array? h).isSome = true ↔ 0 ≤ h.toInt ∧ h.toInt < (makers es).length
  /-- The array behind a handle is what the calls tell of it. -/
  contents : ∀ h, (view.get w).array? h = told es h
  answers : ∀ id label, Answers (fun op args => ((function view id op).call label args w).1) es
  /-- A call leaves alone every array but the one that it names. -/
  frame : ∀ id label op args h, (told es h).isSome = true → named? op args ≠ some h →
    (view.get ((function view id op).call label args w).2).array? h = told es h
  /-- A call that fails leaves all arrays as they are. It leaves the output as it is too, unless it was the
      writer that failed: then what it has taken is written. -/
  failing : ∀ id label op args e, ((function view id op).call label args w).1 = .error e →
    (view.get ((function view id op).call label args w).2).arrays = (view.get w).arrays ∧
    LeftBy (view.get w).output e (view.get ((function view id op).call label args w).2).output
  /-- So nothing is written by any call that fails, if the writer takes nothing when it does. -/
  unwritten : (view.get w).output.writer.AllOrNothing →
    ∀ id label op args e, ((function view id op).call label args w).1 = .error e →
      (view.get ((function view id op).call label args w).2).output.written = (view.get w).output.written

section Store

variable {d₀ d : Drac} {es : List Exchange}

theorem Served.lengths (h : Served d₀ es d) (hnew : d₀.arrays = []) :
    d.arrays.length = (makers es).length ∧ d.arrays.length ≤ pow2 31 := by
  obtain ⟨-, hlength, hbound⟩ := h.handles
  rw [hnew, List.length_nil] at hlength hbound
  exact ⟨by omega, hbound (Nat.zero_le _)⟩

theorem Served.answered (h : Served d₀ es d) (hnew : d₀.arrays = []) : (makers es).map Exchange.answer =
    (List.range (makers es).length).map fun k => .ok [.i32 (Int32.ofNat k)] := by
  have hrange := h.handles.1
  rwa [hnew, List.length_nil, ← List.range_eq_range'] at hrange

theorem Served.valid (h : Served d₀ es d) (hnew : d₀.arrays = []) (handle : Int32) :
    (d.array? handle).isSome = true ↔ 0 ≤ handle.toInt ∧ handle.toInt < (makers es).length := by
  rw [← (h.lengths hnew).1]
  unfold array?
  by_cases hpos : 0 ≤ handle.toInt
  · rw [if_pos hpos, isSome_getElem?]
    omega
  · rw [if_neg hpos]
    exact ⟨fun h => absurd h Bool.false_ne_true, fun h => absurd h.1 hpos⟩

theorem Served.answers (h : Served d₀ es d) (hnew : d₀.arrays = []) (label : String) :
    Answers (fun op args => (d.ask label op args).1) es where
  size handle n := by
    rw [← h.contents hnew, ← d.size_eq_ok]
    exact ask_eq_ok [handle] rfl rfl label n
  get handle i x := by
    rw [← h.contents hnew, ← d.get_eq_ok]
    exact ask_eq_ok [handle, i] rfl (d.run?_get handle i) label x
  getSucceeds handle i := by
    rw [← h.contents hnew, ← d.isOk_get]
    exact Bool.eq_iff_iff.mp (isOk_ask [handle, i] rfl (d.run?_get handle i) label)
  setSucceeds handle i x := by
    rw [← h.contents hnew, ← d.isOk_set handle i x]
    exact Bool.eq_iff_iff.mp (isOk_ask [handle, i, x] rfl (d.run?_set handle i x) label)
  addSucceeds handle x := by
    rw [← h.contents hnew, ← d.isOk_add handle x]
    exact Bool.eq_iff_iff.mp (isOk_ask [handle, x] rfl (d.run?_add handle x) label)
  sizeNeeds handle hok := by
    have hsize : (d.size handle).1.isOk = true := (isOk_ask [handle] rfl rfl label).symm.trans hok
    rw [← h.contents hnew]
    unfold size at hsize
    cases ha : d.array? handle with
    | none =>
      rw [ha] at hsize
      cases hsize
    | some a => rfl
  printsNeeds handle hok := by
    rw [← h.contents hnew]
    exact isSome_of_isOk_prints ((isOk_ask [handle] rfl rfl label).symm.trans hok)
  newSucceeds n := by
    rw [← (h.lengths hnew).1, ← d.isOk_new]
    exact Bool.eq_iff_iff.mp (isOk_ask [n] rfl rfl label)

end Store

/-- A library that was new and served some calls is such a store, whoever looks at it. -/
theorem Served.store {view : View σ Drac} (lawful : view.Lawful) {d₀ : Drac} {w : σ} {es : List Exchange}
    (h : Served d₀ es (view.get w)) (hnew : d₀.arrays = []) : ArrayStore view w es where
  handles := h.answered hnew
  kept e he := by
    have hmem := List.mem_map_of_mem (f := Exchange.answer) he
    rw [h.answered hnew] at hmem
    obtain ⟨k, hk, hanswer⟩ := List.mem_map.mp hmem
    obtain ⟨hlength, hbound⟩ := h.lengths hnew
    rw [List.mem_range] at hk
    have hpow : pow2 31 = 2 ^ 31 := rfl
    have hint : (Int32.ofNat k).toInt = k := Int32.toInt_ofNat_of_lt (by omega)
    refine ⟨Int32.ofNat k, hanswer.symm, ?_⟩
    rw [h.valid hnew, hint]
    omega
  valid := h.valid hnew
  contents := h.contents hnew
  answers id label := by
    have hanswers := h.answers hnew label
    have hsame : (fun op args => ((function view id op).call label args w).1) =
        fun op args => ((view.get w).ask label op args).1 := by
      funext op args
      exact (call_eq_ask lawful id label op args w).1
    rw [hsame]
    exact hanswers
  frame id label op args handle hvalid hname := by
    rw [← h.contents hnew] at hvalid ⊢
    rw [(call_eq_ask lawful id label op args w).2]
    exact ask_frame hvalid label hname
  failing id label op args e herror := by
    obtain ⟨hanswer, hafter⟩ := call_eq_ask lawful id label op args w
    rw [hafter]
    exact ask_error (e := e) (Prod.ext (hanswer.symm.trans herror) rfl)
  unwritten hclean id label op args e herror := by
    obtain ⟨hanswer, hafter⟩ := call_eq_ask lawful id label op args w
    rw [hafter]
    have hleft := (ask_error (e := e) (Prod.ext (hanswer.symm.trans herror) rfl)).2
    exact hleft.written_eq hclean

end Embedder.Drac
