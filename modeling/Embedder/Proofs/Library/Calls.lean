import Embedder.Library.Standard
import Embedder.Proofs.Library.Effects
import Embedder.Proofs.Library.Power
import Embedder.Proofs.Registry
import Embedder.Proofs.Steps

/-!
# Calls of the standard functions

A function of the standard libraries does not look at the types of its arguments. It passes over values that are
no 32-bit integers and takes what is left from positions that it expects to be there; the check of its signature,
which comes first, has to make sure of that. A position that is not there is seen in `Drac.run?`, which then
has no result.

* **`Drac.run?_eq_none_iff`** -- a position is missing iff there are fewer integers than the function has
  parameters, unless the first of them is a handle with no array behind it, after which nothing is read;
* **`Drac.Does.fails`** -- the functions fail with an error of their own only;
* `HostFunction.Guarded` -- a call is refused for its types, or it has one result of the declared type or fails;
* **`callsGuarded`** -- this is so for all twelve functions.
-/

namespace Embedder

variable {σ : Type}

/-! ## 1. Arguments by position -/

namespace Drac

theorem behind_eq_none_iff {d : Drac} {handle : Int32} {rest : Option Result} :
    d.behind handle rest = none ↔ (d.array? handle).isSome = true ∧ rest = none := by
  unfold behind
  cases d.array? handle with
  | none => simp
  | some a => simp

/-- **A position is missing iff there are too few integers**, and the first of them is no bad handle. Those beyond
    the last parameter are never read. -/
theorem run?_eq_none_iff (d : Drac) (op : Op) (ns : List Int32) :
    d.run? op ns = none ↔
      ns.length < op.arity ∧ ∀ handle, ns.head? = some handle → (d.array? handle).isSome = true := by
  rcases ns with _ | ⟨a, _ | ⟨b, _ | ⟨c, ns⟩⟩⟩ <;> cases op <;>
    simp [run?, Op.arity, behind_eq_none_iff]

/-! ## 2. Errors of the library -/

/-- If there is an error, then one that the function reports itself. -/
def FailsPlainly {α : Type} (r : Except HostError α) : Prop := ∀ e, r = .error e → ∃ text, e = .failed text

theorem failsPlainly_ok {α : Type} (a : α) : FailsPlainly (.ok a : Except HostError α) := fun _ h => by cases h

theorem failsPlainly_failed {α : Type} (text : String) :
    FailsPlainly (.error (.failed text) : Except HostError α) := by
  rintro e h
  cases h
  exact ⟨text, rfl⟩

theorem write_fails (d : Drac) (cs : List Char) : FailsPlainly (d.write cs).1 := by
  cases h : d.output.receive (Text.Utf8.encode cs) with
  | takes =>
    rw [write_of_takes h]
    exact failsPlainly_ok 0
  | fails n e =>
    rw [write_of_fails h]
    exact failsPlainly_failed _

theorem allocate_fails (d : Drac) (a : List Int32) : FailsPlainly (d.allocate a).1 := by
  rcases d.allocate_cases a with ⟨-, h⟩ | ⟨-, h⟩
  · rw [h]
    exact failsPlainly_ok _
  · rw [h]
    exact failsPlainly_failed _

theorem takeLine_fails (input : List UInt8) : FailsPlainly (takeLine input).1 := by
  unfold takeLine
  split
  · exact failsPlainly_ok none
  · dsimp only
    split
    · exact failsPlainly_ok _
    · exact failsPlainly_failed _

/-- Whatever the rounds, an integer is missing for the reason that a line is, or because the input is at its end. -/
theorem takeInt_fails : ∀ (rounds : Nat) (input : List UInt8), FailsPlainly (takeInt rounds input).1
  | 0, _ => failsPlainly_failed _
  | rounds + 1, input => by
      have hline := takeLine_fails input
      unfold takeInt
      split
      · rename_i e rest h
        rw [h] at hline
        intro f hf
        cases hf
        exact hline e rfl
      · exact failsPlainly_failed _
      · split
        · exact failsPlainly_ok _
        · exact takeInt_fails rounds _

theorem reads_fails (d : Drac) : FailsPlainly d.reads.1 := by
  have hline := takeLine_fails d.input
  unfold reads
  split
  · rename_i e input h
    rw [h] at hline
    exact fun f hf => hline f (by cases hf; rfl)
  · exact allocate_fails _ _

/-- **A function fails with an error of its own only.** -/
theorem Does.fails {d : Drac} {op : Op} {r : Result} (h : Does d op r) : FailsPlainly r.1 := by
  cases h with
  | write cs => exact d.write_fails cs
  | answer v => exact failsPlainly_ok v
  | complain text => exact failsPlainly_failed text
  | make a _ => exact d.allocate_fails a
  | edit handle a _ => exact failsPlainly_ok 0
  | readi _ => exact takeInt_fails (d.input.length + 1) d.input
  | reads _ => exact d.reads_fails

end Drac

/-! ## 3. Calls behind the check -/

/-- What comes of a call of a function that relies on the check of its signature. -/
structure HostFunction.Guarded (f : HostFunction σ) (label : String) (args : List Value) (w : σ) : Prop where
  /-- The arguments are refused iff they are not of the declared types. -/
  refused : (∃ n expected actual, (f.call label args w).1 = .error (.invalidArguments n expected actual)) ↔
    args.map Value.type ≠ f.signature.params
  /-- Then nothing has been touched. -/
  untouched : args.map Value.type ≠ f.signature.params →
    f.call label args w = (.error (.invalidArguments label f.signature.text (Value.describe args)), w)
  /-- Otherwise the function reports a failure, or it has exactly one result, of the declared type. -/
  answered : args.map Value.type = f.signature.params →
    (∃ text, (f.call label args w).1 = .error (.failed text)) ∨
      ∃ v, (f.call label args w).1 = .ok [v] ∧ f.signature.results = [v.type]
  /-- Its results are never refused. -/
  kept : ∀ n expected actual, (f.call label args w).1 ≠ .error (.invalidResults n expected actual)

theorem HostFunction.Guarded.of_run {f : HostFunction σ} {args : List Value} {w : σ} (label : String)
    (h : args.map Value.type = f.signature.params → (∃ text, (f.run args w).1 = .error (.failed text)) ∨
      ∃ v, (f.run args w).1 = .ok [v] ∧ f.signature.results = [v.type]) : f.Guarded label args w := by
  by_cases htypes : args.map Value.type = f.signature.params
  · have hanswered : (∃ text, (f.call label args w).1 = .error (.failed text)) ∨
        ∃ v, (f.call label args w).1 = .ok [v] ∧ f.signature.results = [v.type] := by
      rw [call_of_fits htypes]
      rcases h htypes with ⟨text, hrun⟩ | ⟨v, hrun, hresults⟩
      · exact .inl ⟨text, by rw [hrun]; rfl⟩
      · have hreturns : f.signature.returns [v] = true := Signature.returns_iff.mpr hresults.symm
        refine .inr ⟨v, ?_, hresults⟩
        rw [hrun]
        show f.checkResults label [v] = _
        rw [checkResults, if_pos hreturns]
    refine ⟨⟨?_, fun hmisfit => absurd htypes hmisfit⟩, fun hmisfit => absurd htypes hmisfit,
      fun _ => hanswered, ?_⟩
    · rintro ⟨n, expected, actual, hrefused⟩
      rcases hanswered with ⟨text, hc⟩ | ⟨v, hc, -⟩ <;> rw [hc] at hrefused <;> cases hrefused
    · intro n expected actual hinvalid
      rcases hanswered with ⟨text, hc⟩ | ⟨v, hc, -⟩ <;> rw [hc] at hinvalid <;> cases hinvalid
  · have hcall := call_of_misfit htypes label w
    refine ⟨⟨fun _ => htypes, fun _ => ⟨_, _, _, by rw [hcall]⟩⟩, fun _ => hcall,
      fun hfits => absurd hfits htypes, ?_⟩
    intro n expected actual hinvalid
    rw [hcall] at hinvalid
    cases hinvalid

namespace Drac

/-- **A function that has passed the check has every argument that it reads**, and does with them what it does. -/
theorem call_of_types (view : View σ Drac) (id : Nat) (label : String) {op : Op} {args : List Value}
    (h : args.map Value.type = op.signature.params) (w : σ) :
    ∃ r, (view.get w).run? op (args.filterMap Value.asI32?) = some r ∧
      (function view id op).call label args w = (r.1.map fun v => [.i32 v], view.set w r.2) := by
  obtain ⟨ns, rfl, hlen⟩ := eq_i32s_of_accepts h
  obtain ⟨r, hr⟩ := (view.get w).exists_run? hlen
  exact ⟨r, by rw [filterMap_asI32?, hr], call_of_fits hlen hr id label⟩

theorem function_guarded (view : View σ Drac) (id : Nat) (op : Op) (label : String) (args : List Value) (w : σ) :
    (function view id op).Guarded label args w := by
  refine .of_run label fun h => ?_
  obtain ⟨⟨answer, d⟩, hr, -⟩ := call_of_types view id label h w
  have hplain := (run?_does hr).fails
  dsimp only [function]
  rw [hr]
  cases answer with
  | error e =>
    obtain ⟨text, rfl⟩ := hplain e rfl
    exact .inl ⟨text, rfl⟩
  | ok v => exact .inr ⟨.i32 v, rfl, rfl⟩

end Drac

namespace Math

/-- Values of the types of the parameters are a base and an exponent. -/
theorem eq_i64s_of_fits {args : List Value} (h : args.map Value.type = powSignature.params) :
    ∃ base exponent, args = [.i64 base, .i64 exponent] := by
  have hlen : args.length = 2 := by
    rw [← List.length_map (f := Value.type), h]
    rfl
  obtain ⟨a, b, rfl⟩ := List.length_eq_two.mp hlen
  cases a <;> cases b <;> first | exact ⟨_, _, rfl⟩ | cases h

theorem pow_cases (base exponent : Int64) :
    (∃ n : Int, pow base exponent = .error (.failed ("pow: negative exponent " ++ toString n))) ∨
      ∃ v, pow base exponent = .ok v := by
  unfold pow
  split
  · exact .inl ⟨_, rfl⟩
  · exact .inr ⟨_, rfl⟩

theorem powFunction_guarded (id : Nat) (label : String) (args : List Value) (w : σ) :
    (powFunction id).Guarded label args w := by
  refine .of_run label fun h => ?_
  obtain ⟨base, exponent, rfl⟩ := eq_i64s_of_fits h
  dsimp only [powFunction]
  rcases pow_cases base exponent with ⟨n, hpow⟩ | ⟨v, hpow⟩
  · exact .inl ⟨_, by rw [hpow]; rfl⟩
  · exact .inr ⟨.i64 v, by rw [hpow]; rfl, rfl⟩

/-- The complaint about other arguments than two integers is never made: `pow` complains of exponents only. -/
theorem call_ne_complaint (id : Nat) (label : String) (args : List Value) (w : σ) :
    ((powFunction id).call label args w).1 ≠ .error (.failed "pow expects two i64 arguments") := by
  by_cases h : args.map Value.type = powSignature.params
  · obtain ⟨base, exponent, rfl⟩ := eq_i64s_of_fits h
    rw [call_powFunction]
    rcases pow_cases base exponent with ⟨n, hpow⟩ | ⟨v, hpow⟩
    · rw [hpow]
      intro hsame
      have htext : "pow: negative exponent " ++ toString n = "pow expects two i64 arguments" :=
        HostError.failed.inj (Except.error.inj hsame)
      -- the two texts differ in their fourth character
      have hchars := congrArg (fun s : String => s.toList[3]?) htext
      simp at hchars
    · rw [hpow]
      exact fun hsame => by cases hsame
  · rw [HostFunction.call_of_misfit h]
    exact fun hsame => by cases hsame

end Math

/-! ## 4. The law -/

/-- What is sure of the functions of the standard libraries, in a world that holds the state of one. -/
structure CallsGuarded (view : Drac.View σ Drac) : Prop where
  /-- Every function of the two libraries is guarded, whatever it is called with and in whatever state. -/
  guarded : ∀ id (e : Entry σ), e ∈ Math.entries id ∨ e ∈ Drac.entries view id →
    ∀ label args w, e.function.Guarded label args w
  /-- A function of the second library would miss an argument iff it were given too few integers, and did not fail
      for the handle among them before. -/
  missing : ∀ (d : Drac) op ns, d.run? op ns = none ↔
    ns.length < op.arity ∧ ∀ handle, ns.head? = some handle → (d.array? handle).isSome = true
  /-- It never does, though what is no integer is passed over. -/
  positions : ∀ id op label args w, args.map Value.type = op.signature.params →
    ∃ r, (view.get w).run? op (args.filterMap Value.asI32?) = some r ∧
      (Drac.function view id op).call label args w = (r.1.map fun v => [.i32 v], view.set w r.2)
  /-- Nor does the function of the first: it gets a base and an exponent, and never complains of anything else. -/
  power : ∀ id label args (w : σ),
    (args.map Value.type = Math.powSignature.params → ∃ base exponent, args = [.i64 base, .i64 exponent] ∧
      (Math.powFunction id).call label args w = ((Math.pow base exponent).map fun v => [.i64 v], w)) ∧
    ((Math.powFunction id).call label args w).1 ≠ .error (.failed "pow expects two i64 arguments")
  /-- These are the functions that registering a library puts into a registry. -/
  registered : ∀ id (r : Registry σ), ∀ es ∈ [Math.entries id, Drac.entries view id],
    (r.registerAll es).2 = .ok () → ∀ e ∈ es, (r.registerAll es).1.lookup e.space e.name = some e.function

/-- **The standard functions are safe behind the check of their signatures**: they never read an argument that is
    not there, and never return what they may not. -/
theorem callsGuarded (view : Drac.View σ Drac) : CallsGuarded view where
  guarded id e he label args w := by
    rcases he with he | he
    · obtain rfl := List.mem_singleton.mp he
      exact Math.powFunction_guarded id label args w
    · obtain ⟨⟨op, k⟩, -, rfl⟩ := List.mem_map.mp he
      exact Drac.function_guarded view (id + k) op label args w
  missing := Drac.run?_eq_none_iff
  positions id _ label _ w h := Drac.call_of_types view id label h w
  power id label args w := by
    refine ⟨fun h => ?_, Math.call_ne_complaint id label args w⟩
    obtain ⟨base, exponent, rfl⟩ := Math.eq_i64s_of_fits h
    exact ⟨base, exponent, rfl, Math.call_powFunction id label base exponent w⟩
  registered id r es hes h := by
    refine Registry.at?_of_registerAll h ?_
    simp only [List.mem_cons, List.not_mem_nil, or_false] at hes
    rcases hes with rfl | rfl
    · exact List.nodup_singleton _
    · show (Drac.Op.all.map fun op => (Drac.space, op.name)).Nodup
      decide

end Embedder
