import Embedder.Library.Drac
import Embedder.Proofs.Steps
import Mathlib.Data.List.Basic

/-!
# What a call of the drac library does

Eleven functions share the arrays of a library. A call of one of them under a name (`ask`) is the function
on integers that fit its parameters, or a refusal. An `Exchange` is a call with its answer, and its
`effect` says in terms of a growing list of lists what it did, read off the answer alone.

* `Writer.Willing`, `Writer.AllOrNothing` -- writers that take everything, and writers that take everything or
  nothing;
* **`exists_run?`** -- with as many integers as it has parameters a function has a result;
* **`run?_does`** -- what a function does is one of seven things, and what they leave alone is read off them;
* **`ask_effective`** -- a call does to the arrays what its effect says, and a new array gets the next
  handle;
* **`ask_error`** -- a call that fails leaves the arrays as they are, and the output too unless the writer has
  failed;
* `call_eq_ask` -- it does not matter through which view a library is called.
-/

namespace Embedder

/-! ## 1. Writers -/

namespace Writer

/-- The writer takes all that it is offered. -/
def Willing (out : Writer) : Prop := ∀ turn written offered, out.receive turn written offered = .takes

/-- When the writer fails, it has taken nothing of what it was offered. -/
def AllOrNothing (out : Writer) : Prop :=
  ∀ turn written offered n e, out.receive turn written offered = .fails n e → n = 0

theorem willing_willing : willing.Willing := fun _ _ _ => rfl

end Writer

namespace Sink

variable {s : Sink} {bs : List UInt8}

theorem write_of_takes (h : s.receive bs = .takes) : s.write bs = (.ok (), s.taking bs) := by
  rw [write, h]

theorem write_of_fails {n : Nat} {e : String} (h : s.receive bs = .fails n e) :
    s.write bs = (.error e, s.taking (bs.take n)) := by
  rw [write, h]

theorem write_writer (s : Sink) (bs : List UInt8) : (s.write bs).2.writer = s.writer := by
  unfold write
  split <;> rfl

end Sink

namespace Drac

open Number

variable {σ : Type}

/-! ## 2. Calls -/

/-- Calls a function of the library under a name: its answer, and the state afterwards. -/
def ask (d : Drac) (label : String) (op : Op) (args : List Value) : Except HostError (List Value) × Drac :=
  (function View.whole 0 op).call label args d

theorem filterMap_asI32? (ns : List Int32) : (ns.map Value.i32).filterMap Value.asI32? = ns := by
  induction ns with
  | nil => rfl
  | cons n ns ih => exact congrArg (n :: ·) ih

/-- Values that have the types of a function's parameters are as many integers. -/
theorem eq_i32s_of_accepts : ∀ {k : Nat} {args : List Value},
    args.map Value.type = List.replicate k .i32 → ∃ ns : List Int32, args = ns.map .i32 ∧ ns.length = k
  | 0, args, h => ⟨[], List.map_eq_nil_iff.mp h, rfl⟩
  | k + 1, [], h => by cases h
  | k + 1, v :: args, h => by
      rw [List.map_cons, List.replicate_succ, List.cons.injEq] at h
      obtain ⟨ns, rfl, rfl⟩ := eq_i32s_of_accepts h.2
      cases v with
      | i32 n => exact ⟨n :: ns, rfl, rfl⟩
      | i64 n => cases h.1
      | f32 n => cases h.1
      | f64 n => cases h.1

section Positions

variable (d : Drac) (handle index value : Int32)

theorem behind_some {r : Result} (h : d.array? handle = none → r = (.error (invalidHandle handle), d)) :
    d.behind handle (some r) = some r := by
  unfold behind
  cases ha : d.array? handle with
  | none => rw [h ha]
  | some a => rfl

@[simp]
theorem run?_add : d.run? .add [handle, value] = some (d.add handle value) :=
  d.behind_some handle fun h => by rw [add, h]

@[simp]
theorem run?_get : d.run? .get [handle, index] = some (d.get handle index) :=
  d.behind_some handle fun h => by rw [get, h]

@[simp]
theorem run?_set : d.run? .set [handle, index, value] = some (d.set handle index value) :=
  d.behind_some handle fun h => by rw [Drac.set, h]

end Positions

/-- **With as many integers as there are parameters no position is missing.** -/
theorem exists_run? (d : Drac) {op : Op} {ns : List Int32} (hlen : ns.length = op.arity) :
    ∃ r, d.run? op ns = some r := by
  cases op with
  | printi | printc | prints | new | size =>
    obtain ⟨a, rfl⟩ := List.length_eq_one_iff.mp hlen
    exact ⟨_, rfl⟩
  | println | readi | reads => exact ⟨_, rfl⟩
  | add =>
    obtain ⟨a, b, rfl⟩ := List.length_eq_two.mp hlen
    exact ⟨_, d.run?_add a b⟩
  | get =>
    obtain ⟨a, b, rfl⟩ := List.length_eq_two.mp hlen
    exact ⟨_, d.run?_get a b⟩
  | set =>
    obtain ⟨a, b, c, rfl⟩ := List.length_eq_three.mp hlen
    exact ⟨_, d.run?_set a b c⟩

/-- A call through a view with arguments that fit is the function itself. -/
theorem call_of_fits {view : View σ Drac} {w : σ} {op : Op} {ns : List Int32} {r : Result}
    (hlen : ns.length = op.arity) (h : (view.get w).run? op ns = some r) (id : Nat) (label : String) :
    (function view id op).call label (ns.map .i32) w = (r.1.map fun v => [.i32 v], view.set w r.2) := by
  have htypes : (ns.map Value.i32).map Value.type = (function view id op).signature.params := by
    rw [List.map_map]
    show ns.map (fun _ => ValueType.i32) = List.replicate op.arity .i32
    rw [List.map_const', hlen]
  rw [HostFunction.call_of_fits htypes]
  dsimp only [function]
  rw [filterMap_asI32?, h]
  obtain ⟨answer, d⟩ := r
  cases answer with
  | error e => rfl
  | ok v => rfl

theorem ask_of_fits {d : Drac} {op : Op} (ns : List Int32) {r : Result} (hlen : ns.length = op.arity)
    (h : d.run? op ns = some r) (label : String) :
    d.ask label op (ns.map .i32) = (r.1.map fun v => [.i32 v], r.2) := by
  show (function View.whole 0 op).call label (ns.map .i32) d = _
  exact call_of_fits hlen h 0 label

/-- **What a call is**: the function on integers that fit, or a refusal that changes nothing. -/
theorem ask_cases (d : Drac) (label : String) (op : Op) (args : List Value) :
    (∃ (ns : List Int32) (r : Result), args = ns.map .i32 ∧ ns.length = op.arity ∧ d.run? op ns = some r ∧
      d.ask label op args = (r.1.map fun v => [.i32 v], r.2)) ∨
      ∃ function expected actual,
        d.ask label op args = (.error (.invalidArguments function expected actual), d) := by
  by_cases h : args.map Value.type = List.replicate op.arity .i32
  · obtain ⟨ns, rfl, hlen⟩ := eq_i32s_of_accepts h
    obtain ⟨r, hr⟩ := d.exists_run? hlen
    exact .inl ⟨ns, r, rfl, hlen, hr, ask_of_fits ns hlen hr label⟩
  · exact .inr ⟨_, _, _, HostFunction.call_of_misfit h label d⟩

/-- What is set in a world is found there. -/
def View.Lawful (view : View σ Drac) : Prop := ∀ w d, view.get (view.set w d) = d

/-- A call through a view is the call in the state that the view shows. -/
theorem call_eq_ask {view : View σ Drac} (lawful : view.Lawful) (id : Nat) (label : String) (op : Op)
    (args : List Value) (w : σ) :
    ((function view id op).call label args w).1 = ((view.get w).ask label op args).1 ∧
      view.get ((function view id op).call label args w).2 = ((view.get w).ask label op args).2 := by
  by_cases h : args.map Value.type = List.replicate op.arity .i32
  · obtain ⟨ns, rfl, hlen⟩ := eq_i32s_of_accepts h
    obtain ⟨r, hr⟩ := (view.get w).exists_run? hlen
    rw [call_of_fits hlen hr, ask_of_fits ns hlen hr]
    exact ⟨rfl, lawful w _⟩
  · rw [HostFunction.call_of_misfit h, ask, HostFunction.call_of_misfit h]
    exact ⟨rfl, rfl⟩

/-! ## 3. Effects -/

/-- What a call does to the arrays. -/
inductive Effect where
  | nothing
  | made (contents : List Int32)
  | added (handle value : Int32)
  | changed (handle index value : Int32)
  deriving DecidableEq

namespace Effect

/-- What becomes of the array with a number. -/
def edit (k : Nat) : Effect → List Int32 → List Int32
  | .added h x, a => if h.toInt = k then a ++ [x] else a
  | .changed h i x, a => if h.toInt = k then a.set i.toInt.toNat x else a
  | _, a => a

/-- The array that is new. -/
def fresh? : Effect → Option (List Int32)
  | .made a => some a
  | _ => none

/-- The arrays after an effect: each is edited by itself, and a new one goes to the end. -/
def on (e : Effect) (ls : List (List Int32)) : List (List Int32) :=
  ls.mapIdx (fun k a => e.edit k a) ++ e.fresh?.toList

/-- The array with a number as some effects tell it, `n` arrays being there before: it is what it was made
    as, with what the later effects do to it, in their order. -/
def contents (k : Nat) : (n : Nat) → List Effect → Option (List Int32)
  | _, [] => none
  | n, e :: later =>
    match e.fresh? with
    | some a => if n = k then some (later.foldl (fun a e => e.edit k a) a) else contents k (n + 1) later
    | none => contents k n later

theorem length_on (e : Effect) (ls : List (List Int32)) :
    (e.on ls).length = ls.length + e.fresh?.toList.length := by
  rw [on, List.length_append, List.length_mapIdx]

/-- The arrays that are there are edited. -/
theorem getElem?_on_of_lt (e : Effect) {ls : List (List Int32)} {k : Nat} (h : k < ls.length) :
    (e.on ls)[k]? = ls[k]?.map (e.edit k) := by
  rw [on, List.getElem?_append_left (by rwa [List.length_mapIdx]), List.getElem?_mapIdx]

/-- **The arrays after some effects**: those that were there, edited, and those that are told of. -/
theorem getElem?_foldl_on (k : Nat) : ∀ (es : List Effect) (ls : List (List Int32)),
    (es.foldl (fun ls e => e.on ls) ls)[k]? =
      if k < ls.length then ls[k]?.map fun a => es.foldl (fun a e => e.edit k a) a
      else contents k ls.length es
  | [], ls => by
      by_cases h : k < ls.length
      · simp [h]
      · simp [h, contents]
  | e :: es, ls => by
      rw [List.foldl_cons, getElem?_foldl_on k es (e.on ls), length_on]
      by_cases h : k < ls.length
      · rw [if_pos h, if_pos (by omega), getElem?_on_of_lt e h, Option.map_map]
        rfl
      · rw [if_neg h, contents]
        cases he : e.fresh? with
        | none => simp [h]
        | some a =>
          by_cases hk : ls.length = k
          · have hlast : (e.on ls)[k]? = some a := by
              rw [on, he, List.getElem?_append_right (by rw [List.length_mapIdx]; omega), List.length_mapIdx, hk]
              simp
            simp [hk, hlast]
          · have hbeyond : ¬ k < ls.length + 1 := by omega
            simp [hk, hbeyond]

end Effect

/-! ## 4. Exchanges -/

/-- A call of a function of the library, with the input that was not read yet, and its answer. -/
structure Exchange where
  op : Op
  args : List Value
  input : List UInt8
  answer : Except HostError (List Value)

/-- The code points of the line at the beginning of some input, without what ends the line. -/
def lineContents (input : List UInt8) : List Int32 :=
  match (takeLine input).1 with
  | .ok line => codes (line.getD [])
  | .error _ => []

namespace Exchange

/-- What a call did to the arrays. A call that failed did nothing. -/
def effect (e : Exchange) : Effect :=
  match e.answer with
  | .error _ => .nothing
  | .ok _ =>
    match e.op, e.args with
    | .new, _ => .made []
    | .reads, _ => .made (lineContents e.input)
    | .add, [.i32 h, .i32 x] => .added h x
    | .set, [.i32 h, .i32 i, .i32 x] => .changed h i x
    | _, _ => .nothing

/-- Did a call make a new array? -/
def makes (e : Exchange) : Bool := (e.op == .new || e.op == .reads) && e.answer.isOk

theorem effect_of_error {e : Exchange} {f : HostError} (h : e.answer = .error f) : e.effect = .nothing := by
  unfold effect
  rw [h]

/-- A call made a new array iff its effect has one. -/
theorem makes_eq (e : Exchange) : e.makes = e.effect.fresh?.isSome := by
  obtain ⟨op, args, input, answer⟩ := e
  unfold makes effect
  cases answer with
  | error f => exact Bool.and_false _
  | ok vs =>
    dsimp only
    split
    · rfl
    · rfl
    · rfl
    · rfl
    · rename_i hnew hreads _ _
      cases op with
      | new => exact absurd rfl (hnew ·)
      | reads => exact absurd rfl (hreads ·)
      | _ => rfl

end Exchange

/-- A call as an exchange. -/
def exchange (d : Drac) (label : String) (op : Op) (args : List Value) : Exchange :=
  ⟨op, args, d.input, (d.ask label op args).1⟩

theorem on_nothing (ls : List (List Int32)) : Effect.nothing.on ls = ls := by
  show ls.mapIdx (fun _ a => a) ++ [] = ls
  rw [List.append_nil]
  apply List.ext_getElem?
  intro k
  rw [List.getElem?_mapIdx]
  cases ls[k]? with
  | none => rfl
  | some a => rfl

/-- An array with a number is changed by putting the edited one in its place. -/
theorem set_eq_mapIdx {ls : List (List Int32)} {k : Nat} {a : List Int32} (ha : ls[k]? = some a)
    {f : Nat → List Int32 → List Int32} (hother : ∀ j b, j ≠ k → f j b = b) :
    ls.set k (f k a) = ls.mapIdx f := by
  apply List.ext_getElem?
  intro j
  rw [List.getElem?_set, List.getElem?_mapIdx]
  by_cases hj : k = j
  · subst hj
    obtain ⟨hlt, rfl⟩ := List.getElem?_eq_some_iff.mp ha
    simp [hlt]
  · rw [if_neg hj]
    cases ls[j]? with
    | none => rfl
    | some b => rw [Option.map_some, hother j b (Ne.symm hj)]

/-- The array behind a handle, by its number. -/
theorem array?_eq_some {d : Drac} {h : Int32} {a : List Int32} :
    d.array? h = some a ↔ 0 ≤ h.toInt ∧ d.arrays[h.toInt.toNat]? = some a := by
  unfold array?
  by_cases hpos : 0 ≤ h.toInt
  · simp [hpos]
  · simp [hpos]

/-! ## 5. One call -/

/-- The library with some more bytes taken by its writer. -/
def taking (d : Drac) (bs : List UInt8) : Drac := { d with output := d.output.taking bs }

section Write

variable {d : Drac} {cs : List Char}

/-- What the writer takes is written. -/
theorem write_of_takes (h : d.output.receive (Text.Utf8.encode cs) = .takes) :
    d.write cs = (.ok 0, d.taking (Text.Utf8.encode cs)) := by
  rw [write, Sink.write_of_takes h]
  rfl

/-- **If the writer fails, so does the function**, and what the writer has taken until then is written. -/
theorem write_of_fails {n : Nat} {e : String} (h : d.output.receive (Text.Utf8.encode cs) = .fails n e) :
    d.write cs = (.error (writeFailed e), d.taking ((Text.Utf8.encode cs).take n)) := by
  rw [write, Sink.write_of_fails h]
  rfl

theorem write_output (d : Drac) (cs : List Char) :
    (d.write cs).2.output = (d.output.write (Text.Utf8.encode cs)).2 := by
  cases h : d.output.receive (Text.Utf8.encode cs) with
  | takes => rw [write_of_takes h, Sink.write_of_takes h]; rfl
  | fails n e => rw [write_of_fails h, Sink.write_of_fails h]; rfl

theorem write_arrays (d : Drac) (cs : List Char) : (d.write cs).2.arrays = d.arrays := by
  cases h : d.output.receive (Text.Utf8.encode cs) with
  | takes => rw [write_of_takes h]; rfl
  | fails n e => rw [write_of_fails h]; rfl

end Write

/-- The functions that neither make nor edit arrays. -/
def Op.looksOnly : Op → Bool
  | .reads | .new | .add | .set => false
  | _ => true

/-- A new array gets the next handle, as long as there is one. -/
theorem allocate_cases (d : Drac) (a : List Int32) :
    (d.arrays.length < pow2 31 ∧
      d.allocate a = (.ok (Int32.ofNat d.arrays.length), { d with arrays := d.arrays ++ [a] })) ∨
    (pow2 31 ≤ d.arrays.length ∧ d.allocate a = (.error (failure "out of handles"), d)) := by
  unfold allocate
  by_cases h : d.arrays.length < pow2 31
  · rw [if_pos h]
    exact .inl ⟨h, rfl⟩
  · rw [if_neg h]
    exact .inr ⟨Nat.le_of_not_lt h, rfl⟩

theorem allocate_output (d : Drac) (a : List Int32) : (d.allocate a).2.output = d.output := by
  rcases d.allocate_cases a with ⟨-, h⟩ | ⟨-, h⟩ <;> rw [h]

/-- What a function does: it writes, makes or edits an array, reads, or only has an answer or a complaint. -/
inductive Does (d : Drac) (op : Op) : Result → Prop
  | write (cs : List Char) : Does d op (d.write cs)
  | answer (v : Int32) : Does d op (.ok v, d)
  | complain (text : String) : Does d op (.error (.failed text), d)
  | make (a : List Int32) (h : op = .new) : Does d op (d.allocate a)
  | edit (handle : Int32) (a : List Int32) (h : op = .add ∨ op = .set) : Does d op (.ok 0, d.setArray handle a)
  | readi (h : op = .readi) : Does d op d.readi
  | reads (h : op = .reads) : Does d op d.reads

section Does

variable {d : Drac}

theorem charOf_cases (c : Int32) : (∃ x, charOf c = .ok x) ∨ ∃ text, charOf c = .error (.failed text) := by
  unfold charOf
  dsimp only
  split
  · exact .inl ⟨_, rfl⟩
  · exact .inr ⟨_, rfl⟩

theorem printc_does (op : Op) (c : Int32) : Does d op (d.printc c) := by
  unfold printc
  rcases charOf_cases c with ⟨x, h⟩ | ⟨text, h⟩ <;> rw [h]
  · exact .write [x]
  · exact .complain text

theorem prints_does (op : Op) (handle : Int32) : Does d op (d.prints handle) := by
  unfold prints
  cases d.array? handle with
  | none => exact .complain _
  | some a =>
    dsimp only
    cases h : a.mapM charOf with
    | ok cs => exact .write cs
    | error e =>
      obtain ⟨_, c, _, -, -, hc⟩ := mapM_eq_error_iff.mp h
      rcases charOf_cases c with ⟨x, hx⟩ | ⟨text, htext⟩
      · cases hx.symm.trans hc
      · cases htext.symm.trans hc
        exact .complain text

theorem new_does (n : Int32) : Does d .new (d.new n) := by
  unfold new
  split
  · exact .complain _
  · exact .make [] rfl

theorem size_does (op : Op) (handle : Int32) : Does d op (d.size handle) := by
  unfold size
  split
  · exact .complain _
  · split
    · exact .answer _
    · exact .complain _

theorem add_does (handle value : Int32) : Does d .add (d.add handle value) := by
  unfold add
  split
  · exact .complain _
  · exact .edit handle _ (.inl rfl)

theorem get_does (op : Op) (handle index : Int32) : Does d op (d.get handle index) := by
  unfold get
  split
  · exact .complain _
  · split
    · exact .answer _
    · exact .complain _

theorem set_does (handle index value : Int32) : Does d .set (d.set handle index value) := by
  unfold Drac.set
  split
  · exact .complain _
  · split
    · exact .edit handle _ (.inr rfl)
    · exact .complain _

theorem behind_does {op : Op} {handle : Int32} {rest : Option Result} {r : Result}
    (h : d.behind handle rest = some r) (hrest : ∀ r, rest = some r → Does d op r) : Does d op r := by
  unfold behind at h
  split at h
  · cases h
    exact .complain _
  · exact hrest r h

/-- **What a function does is one of these things.** -/
theorem run?_does {op : Op} {ns : List Int32} {r : Result} (h : d.run? op ns = some r) : Does d op r := by
  cases op with
  | printi =>
    obtain ⟨n, -, rfl⟩ := Option.map_eq_some_iff.mp h
    exact .write _
  | printc =>
    obtain ⟨c, -, rfl⟩ := Option.map_eq_some_iff.mp h
    exact printc_does _ c
  | prints =>
    obtain ⟨handle, -, rfl⟩ := Option.map_eq_some_iff.mp h
    exact prints_does _ handle
  | println =>
    cases h
    exact .write _
  | readi =>
    cases h
    exact .readi rfl
  | reads =>
    cases h
    exact .reads rfl
  | new =>
    obtain ⟨n, -, rfl⟩ := Option.map_eq_some_iff.mp h
    exact new_does n
  | size =>
    obtain ⟨handle, -, rfl⟩ := Option.map_eq_some_iff.mp h
    exact size_does _ handle
  | add =>
    obtain ⟨handle, -, h⟩ := Option.bind_eq_some_iff.mp h
    refine behind_does h fun r hr => ?_
    obtain ⟨value, -, rfl⟩ := Option.map_eq_some_iff.mp hr
    exact add_does handle value
  | get =>
    obtain ⟨handle, -, h⟩ := Option.bind_eq_some_iff.mp h
    refine behind_does h fun r hr => ?_
    obtain ⟨index, -, rfl⟩ := Option.map_eq_some_iff.mp hr
    exact get_does _ handle index
  | set =>
    obtain ⟨handle, -, h⟩ := Option.bind_eq_some_iff.mp h
    refine behind_does h fun r hr => ?_
    obtain ⟨index, -, hr⟩ := Option.bind_eq_some_iff.mp hr
    obtain ⟨value, -, hr⟩ := Option.bind_eq_some_iff.mp hr
    cases hr
    exact set_does handle index value

theorem reads_output (d : Drac) : d.reads.2.output = d.output := by
  unfold reads
  split
  · rfl
  · exact allocate_output _ _

/-- Only writing touches the output. -/
theorem Does.output {op : Op} {r : Result} (h : Does d op r) :
    (∃ cs, r = d.write cs) ∨ r.2.output = d.output := by
  cases h with
  | write cs => exact .inl ⟨cs, rfl⟩
  | answer v => exact .inr rfl
  | complain text => exact .inr rfl
  | make a _ => exact .inr (d.allocate_output a)
  | edit handle a _ => exact .inr rfl
  | readi _ => exact .inr rfl
  | reads _ => exact .inr d.reads_output

/-- No call replaces the writer. -/
theorem ask_writer (d : Drac) (label : String) (op : Op) (args : List Value) :
    (d.ask label op args).2.output.writer = d.output.writer := by
  rcases d.ask_cases label op args with ⟨ns, r, rfl, -, hr, hask⟩ | ⟨_, _, _, hask⟩
  · rw [hask]
    rcases (run?_does hr).output with ⟨cs, rfl⟩ | hsame
    · show (d.write cs).2.output.writer = _
      rw [write_output, Sink.write_writer]
    · rw [hsame]
  · rw [hask]

theorem Does.arrays_of_looksOnly {op : Op} {r : Result} (h : Does d op r) (hlooks : op.looksOnly = true) :
    r.2.arrays = d.arrays := by
  cases h with
  | write cs => exact d.write_arrays cs
  | answer v => rfl
  | complain text => rfl
  | make a h => subst h; cases hlooks
  | edit handle a h => rcases h with rfl | rfl <;> cases hlooks
  | readi _ => rfl
  | reads h => subst h; cases hlooks

end Does

theorem effect_of_looksOnly {e : Exchange} (h : e.op.looksOnly = true) : e.effect = .nothing := by
  unfold Exchange.effect
  split
  · rfl
  · split <;> simp_all [Op.looksOnly]

/-- What a call did to the arrays is what its effect says, and a new array got the next handle. -/
structure Effective (d : Drac) (e : Exchange) (d' : Drac) : Prop where
  arrays : d'.arrays = e.effect.on d.arrays
  handle : e.makes = true →
    d.arrays.length < pow2 31 ∧ e.answer = .ok [.i32 (Int32.ofNat d.arrays.length)]

theorem Effective.of_nothing {d d' : Drac} {e : Exchange} (h : e.effect = .nothing)
    (hsame : d'.arrays = d.arrays) : Effective d e d' where
  arrays := by rw [h, on_nothing, hsame]
  handle := by
    rw [e.makes_eq, h]
    exact fun hfresh => absurd hfresh Bool.false_ne_true

/-- A call that failed and left the arrays as they were. -/
theorem Effective.of_error {d d' : Drac} {e : Exchange} {f : HostError} (h : e.answer = .error f)
    (hsame : d'.arrays = d.arrays) : Effective d e d' :=
  .of_nothing (Exchange.effect_of_error h) hsame

/-- A call that makes an array, or fails for want of handles. -/
theorem Effective.of_allocate {d : Drac} {e : Exchange} {a : List Int32}
    (hanswer : e.answer = (d.allocate a).1.map fun v => [.i32 v])
    (ha : ∀ vs, e.answer = .ok vs → e.effect = .made a) : Effective d e (d.allocate a).2 := by
  rcases d.allocate_cases a with ⟨hroom, h⟩ | ⟨-, h⟩
  · rw [h] at hanswer ⊢
    refine ⟨?_, fun _ => ⟨hroom, hanswer⟩⟩
    rw [ha _ hanswer]
    -- the arrays before the new one are as after an effect that does nothing
    show d.arrays ++ [a] = d.arrays.mapIdx (fun _ b => b) ++ [a]
    have hsame : d.arrays.mapIdx (fun _ b => b) ++ [] = d.arrays := on_nothing d.arrays
    rw [List.append_nil] at hsame
    rw [hsame]
  · rw [h] at hanswer ⊢
    exact .of_error hanswer rfl

/-- A call that edits the array behind a handle. -/
theorem Effective.of_edit {d : Drac} {e : Exchange} {h : Int32} {a b : List Int32} (ha : d.array? h = some a)
    (hfresh : e.effect.fresh? = none) (hself : e.effect.edit h.toInt.toNat a = b)
    (hother : ∀ (k : Nat) c, h.toInt ≠ k → e.effect.edit k c = c) : Effective d e (d.setArray h b) := by
  obtain ⟨hpos, hplace⟩ := array?_eq_some.mp ha
  refine ⟨?_, by rw [e.makes_eq, hfresh]; exact fun h => absurd h Bool.false_ne_true⟩
  rw [Effect.on, hfresh, Option.toList_none, List.append_nil]
  have hedit := set_eq_mapIdx (f := fun k a => e.effect.edit k a) hplace fun j c hj =>
    hother j c (by omega)
  rw [← hedit, hself]
  rfl

theorem new_effective (d : Drac) (n : Int32) {e : Exchange} (hop : e.op = .new)
    (hanswer : e.answer = (d.new n).1.map fun v => [.i32 v]) : Effective d e (d.new n).2 := by
  unfold new at hanswer ⊢
  by_cases hn : n.toInt < 0
  · rw [if_pos hn] at hanswer ⊢
    exact .of_error hanswer rfl
  · rw [if_neg hn] at hanswer ⊢
    refine .of_allocate hanswer fun vs hvs => ?_
    unfold Exchange.effect
    rw [hvs, hop]

theorem reads_effective (d : Drac) {e : Exchange} (hop : e.op = .reads)
    (hanswer : e.answer = d.reads.1.map fun v => [.i32 v]) (hinput : e.input = d.input) :
    Effective d e d.reads.2 := by
  unfold reads at hanswer ⊢
  rcases hline : takeLine d.input with ⟨line, input⟩
  rw [hline] at hanswer
  cases line with
  | error f => exact .of_error hanswer rfl
  | ok line =>
    -- the arrays do not know of the input
    have hmade := Effective.of_allocate (d := { d with input }) hanswer fun vs hvs => by
      unfold Exchange.effect lineContents
      rw [hvs, hop, hinput, hline]
    exact ⟨hmade.arrays, hmade.handle⟩

theorem add_effective (d : Drac) (h x : Int32) {e : Exchange} (hop : e.op = .add)
    (hargs : e.args = [.i32 h, .i32 x]) (hanswer : e.answer = (d.add h x).1.map fun v => [.i32 v]) :
    Effective d e (d.add h x).2 := by
  unfold add at hanswer ⊢
  cases ha : d.array? h with
  | none =>
    rw [ha] at hanswer
    exact .of_error hanswer rfl
  | some a =>
    rw [ha] at hanswer
    have heffect : e.effect = .added h x := by
      unfold Exchange.effect
      rw [hanswer, hop, hargs]
      rfl
    have hpos := (array?_eq_some.mp ha).1
    refine .of_edit ha (by rw [heffect]; rfl) ?_ ?_
    · rw [heffect, Effect.edit, if_pos (by omega)]
    · intro k c hk
      rw [heffect, Effect.edit, if_neg hk]

theorem set_effective (d : Drac) (h i x : Int32) {e : Exchange} (hop : e.op = .set)
    (hargs : e.args = [.i32 h, .i32 i, .i32 x])
    (hanswer : e.answer = (d.set h i x).1.map fun v => [.i32 v]) : Effective d e (d.set h i x).2 := by
  unfold Drac.set at hanswer ⊢
  cases ha : d.array? h with
  | none =>
    rw [ha] at hanswer
    exact .of_error hanswer rfl
  | some a =>
    rw [ha] at hanswer
    dsimp only at hanswer ⊢
    by_cases hi : hasIndex a i = true
    · rw [if_pos hi] at hanswer ⊢
      have heffect : e.effect = .changed h i x := by
        unfold Exchange.effect
        rw [hanswer, hop, hargs]
        rfl
      have hpos := (array?_eq_some.mp ha).1
      refine .of_edit ha (by rw [heffect]; rfl) ?_ ?_
      · rw [heffect, Effect.edit, if_pos (by omega)]
      · intro k c hk
        rw [heffect, Effect.edit, if_neg hk]
    · rw [if_neg hi] at hanswer ⊢
      exact .of_error hanswer rfl

/-- **One call does to the arrays what its effect says.** -/
theorem ask_effective (d : Drac) (label : String) (op : Op) (args : List Value) :
    Effective d (d.exchange label op args) (d.ask label op args).2 := by
  rcases d.ask_cases label op args with ⟨ns, r, rfl, hlen, hr, hask⟩ | ⟨_, _, _, hask⟩
  · have hanswer : (d.exchange label op (ns.map .i32)).answer = r.1.map fun v => [.i32 v] :=
      congrArg Prod.fst hask
    rw [hask]
    cases hlooks : op.looksOnly with
    | true => exact .of_nothing (effect_of_looksOnly hlooks) ((run?_does hr).arrays_of_looksOnly hlooks)
    | false =>
      cases op with
      | reads =>
        cases hr
        exact d.reads_effective rfl hanswer rfl
      | new =>
        obtain ⟨n, rfl⟩ := List.length_eq_one_iff.mp hlen
        cases hr
        exact d.new_effective n rfl hanswer
      | add =>
        obtain ⟨h, x, rfl⟩ := List.length_eq_two.mp hlen
        rw [run?_add] at hr
        cases hr
        exact d.add_effective h x rfl rfl hanswer
      | set =>
        obtain ⟨h, i, x, rfl⟩ := List.length_eq_three.mp hlen
        rw [run?_set] at hr
        cases hr
        exact d.set_effective h i x rfl rfl hanswer
      | _ => cases hlooks
  · refine .of_error (congrArg Prod.fst hask) ?_
    rw [hask]

/-! ## 6. Calls that fail -/

/-- What a call that fails with an error leaves of the output: all as it was, or, if it was the writer that
    failed, what the writer has taken until then in addition. -/
def LeftBy (s : Sink) (e : HostError) (s' : Sink) : Prop :=
  s' = s ∨ ∃ offered n text, s.receive offered = .fails n text ∧ e = writeFailed text ∧
    s' = s.taking (offered.take n)

theorem write_leftBy {d : Drac} {cs : List Char} {e : HostError} (h : (d.write cs).1 = .error e) :
    LeftBy d.output e (d.write cs).2.output := by
  cases hreceive : d.output.receive (Text.Utf8.encode cs) with
  | takes =>
    rw [write_of_takes hreceive] at h
    cases h
  | fails n text =>
    rw [write_of_fails hreceive] at h ⊢
    cases h
    exact .inr ⟨_, n, text, hreceive, rfl, rfl⟩

/-- A writer that takes nothing when it fails leaves nothing behind. -/
theorem LeftBy.written_eq {s s' : Sink} {e : HostError} (h : LeftBy s e s') (hclean : s.writer.AllOrNothing) :
    s'.written = s.written := by
  rcases h with rfl | ⟨offered, n, text, hfails, -, rfl⟩
  · rfl
  · rw [hclean _ _ _ _ _ hfails]
    exact List.append_nil _

/-- **A call that fails leaves the arrays as they are, and the output too unless the writer has failed.** -/
theorem ask_error {d d' : Drac} {label : String} {op : Op} {args : List Value} {e : HostError}
    (h : d.ask label op args = (.error e, d')) : d'.arrays = d.arrays ∧ LeftBy d.output e d'.output := by
  constructor
  · have harrays := (d.ask_effective label op args).arrays
    rwa [Exchange.effect_of_error (e := d.exchange label op args) (congrArg Prod.fst h), on_nothing, h] at harrays
  · rcases d.ask_cases label op args with ⟨ns, r, rfl, -, hr, hask⟩ | ⟨_, _, _, hask⟩
    · rw [hask] at h
      obtain ⟨hanswer, rfl⟩ := Prod.mk.inj h
      rcases (run?_does hr).output with ⟨cs, rfl⟩ | hsame
      · exact write_leftBy (map_eq_error_iff.mp hanswer)
      · exact .inl hsame
    · rw [hask] at h
      cases h
      exact .inl rfl

end Drac

end Embedder
