import Embedder.Proofs.Run

/-!
# The life of an instance

An instance is asked one operation after the other (`Instance.performAll`). Some of them make a run of
the engine (`Instance.engineRun?`): a call that is admitted. Everything that happens to an instance
happens in such a run:

* **`perform_cases`** -- one operation either makes no run and changes nothing, or it makes a run on a
  ready instance; the run completes, and is counted, or it fails, and leaves the instance trapped with
  the text of the error that the operation answers;
* **`performAll_invariant`** -- so what runs keep of an instance holds after any operations;
* **`performAll_of_trapped`** -- a trapped instance stays as it is;
* **`lifecycle_performAll`**, `invocations_performAll` -- the state after any operations is decided
  by the first run that failed, and the counter by the number of runs that completed.
-/

namespace Embedder

variable {σ : Type}

/-! ## 1. Operations -/

/-- What an instance can be asked. -/
inductive Operation where
  | invoke (name : String) (args : List Value)
  | invokeMain (name : String)
  | exportSignature (name : String)
  | global (name : String)
  | readMemory (name : String) (offset length : Nat)

/-- What an operation answers. -/
inductive Answer where
  | results (r : Except RuntimeError (List Value))
  | status (r : Except RuntimeError ExitStatus)
  | signature (r : Except RuntimeError Signature)
  | value (r : Except RuntimeError Value)
  | bytes (r : Except RuntimeError (List UInt8))

/-- The error in a result. -/
def errorIn {ε α : Type} : Except ε α → Option ε
  | .ok _ => none
  | .error e => some e

/-- The error that an operation answers. -/
def Answer.error? : Answer → Option RuntimeError
  | .results r => errorIn r
  | .status r => errorIn r
  | .signature r => errorIn r
  | .value r => errorIn r
  | .bytes r => errorIn r

/-- The name and the arguments of the call that an operation asks for. -/
def Operation.call? : Operation → Option (String × List Value)
  | .invoke name args => some (name, args)
  | .invokeMain name => some (name, [])
  | _ => none

namespace Instance

/-- Performs one operation. -/
def perform (i : Instance σ) (o : Operation) (w : σ) : Answer × Instance σ × σ :=
  match o with
  | .invoke name args => let (r, i', w') := i.invoke name args w; (.results r, i', w')
  | .invokeMain name => let (r, i', w') := i.invokeMain name w; (.status r, i', w')
  | .exportSignature name => (.signature (i.exportSignature name), i, w)
  | .global name => (.value (i.global name), i, w)
  | .readMemory name offset length => (.bytes (i.readMemory name offset length), i, w)

/-- The run of the engine that a call makes: none if the call is refused. -/
def callRun? (i : Instance σ) (name : String) (args : List Value) (w : σ) : Option (Run σ) :=
  match i.admitCall name args with
  | .ok (s, f) =>
    some (runFunction i.module i.slots i.state f (args.map Value.slot) s.results.length w)
  | .error _ => none

/-- The run of the engine that an operation makes. -/
def engineRun? (i : Instance σ) (o : Operation) (w : σ) : Option (Run σ) :=
  o.call?.bind fun c => i.callRun? c.1 c.2 w

/-- The instance after a run that completed. -/
def counted (i : Instance σ) (run : Run σ) : Instance σ :=
  { i with state := run.state, invocations := i.invocations + 1 }

/-- The instance after a run that failed with an error. -/
def spoiled (i : Instance σ) (run : Run σ) (e : RuntimeError) : Instance σ :=
  { i with state := run.state, lifecycle := .trapped e.message }

/-! ## 2. One operation -/

theorem admitCall_ready {i : Instance σ} {name : String} {args : List Value} {sf : Signature × Nat}
    (h : i.admitCall name args = .ok sf) : i.lifecycle = .ready := by
  unfold admitCall at h
  cases hs : i.exportSignature name with
  | error e =>
    rw [hs] at h
    cases h
  | ok s =>
    rw [hs] at h
    cases hl : i.lifecycle with
    | ready => rfl
    | trapped reason =>
      rw [hl] at h
      cases h

/-- What a call does: nothing if it makes no run, and otherwise what the run says. -/
theorem invoke_cases (i : Instance σ) (name : String) (args : List Value) (w : σ) :
    (i.callRun? name args w = none ∧ ∃ e, i.invoke name args w = (.error e, i, w)) ∨
    ∃ run, i.callRun? name args w = some run ∧ i.lifecycle = .ready ∧
      ((∃ rs vs, run.result = .ok rs ∧ i.invoke name args w = (.ok vs, i.counted run, run.world)) ∨
       ∃ e, run.result = .error e ∧ i.invoke name args w =
         (.error (.ofEngineError name e), i.spoiled run (.ofEngineError name e), run.world)) := by
  unfold callRun? invoke
  cases h : i.admitCall name args with
  | error e => exact .inl ⟨rfl, e, rfl⟩
  | ok sf =>
    obtain ⟨s, f⟩ := sf
    refine .inr ⟨_, rfl, admitCall_ready h, ?_⟩
    unfold callFunction
    dsimp only
    cases hr : (runFunction i.module i.slots i.state f (args.map Value.slot) s.results.length w).result with
    | ok rs => exact .inl ⟨rs, _, rfl, rfl⟩
    | error e => exact .inr ⟨e, rfl, rfl⟩

theorem perform_of_no_call {o : Operation} (h : o.call? = none) (i : Instance σ) (w : σ) :
    (i.perform o w).2 = (i, w) := by
  cases o with
  | invoke name args => cases h
  | invokeMain name => cases h
  | exportSignature name => rfl
  | global name => rfl
  | readMemory name offset length => rfl

/-- An operation that asks for a call does to the instance what the call does, and fails if the call does. -/
theorem perform_of_call {o : Operation} {name : String} {args : List Value}
    (h : o.call? = some (name, args)) (i : Instance σ) (w : σ) :
    (i.perform o w).2 = (i.invoke name args w).2 ∧
      ∀ e, (i.invoke name args w).1 = .error e → (i.perform o w).1.error? = some e := by
  cases o with
  | invoke name args =>
    cases h
    refine ⟨rfl, fun e he => ?_⟩
    unfold perform
    dsimp only [Answer.error?]
    rw [he]
    rfl
  | invokeMain name =>
    cases h
    unfold perform invokeMain
    dsimp only
    rcases i.invoke name [] w with ⟨_ | results, i', w'⟩
    · refine ⟨rfl, fun e he => ?_⟩
      cases he
      rfl
    · exact ⟨rfl, fun e he => nomatch he⟩
  | exportSignature name => cases h
  | global name => cases h
  | readMemory name offset length => cases h

/-- **What an operation does**: nothing if it makes no run; otherwise the instance was ready, and the run
    completed and is counted, or it failed and the instance is trapped with the text of the error that
    the operation answers. -/
theorem perform_cases (i : Instance σ) (o : Operation) (w : σ) :
    (i.engineRun? o w = none ∧ (i.perform o w).2 = (i, w)) ∨
    ∃ run, i.engineRun? o w = some run ∧ i.lifecycle = .ready ∧
      ((∃ rs, run.result = .ok rs ∧ (i.perform o w).2 = (i.counted run, run.world)) ∨
       ∃ e name, run.result = .error e ∧
         (i.perform o w).1.error? = some (.ofEngineError name e) ∧
         (i.perform o w).2 = (i.spoiled run (.ofEngineError name e), run.world)) := by
  unfold engineRun?
  cases hcall : o.call? with
  | none => exact .inl ⟨rfl, perform_of_no_call hcall i w⟩
  | some call =>
    obtain ⟨name, args⟩ := call
    obtain ⟨hafter, herror⟩ := perform_of_call hcall i w
    rw [Option.bind_some, hafter]
    rcases i.invoke_cases name args w with ⟨hn, e, he⟩ | ⟨run, hrun, hl, ⟨rs, vs, hr, hi⟩ | ⟨e, hr, hi⟩⟩
    · rw [he]
      exact .inl ⟨hn, rfl⟩
    · rw [hi]
      exact .inr ⟨run, hrun, hl, .inl ⟨rs, hr, rfl⟩⟩
    · have hanswer := herror _ (congrArg Prod.fst hi)
      rw [hi]
      exact .inr ⟨run, hrun, hl, .inr ⟨e, name, hr, hanswer, rfl⟩⟩

/-- The run that an operation makes is that of the function whose call was admitted. -/
theorem engineRun?_eq_some {i : Instance σ} {o : Operation} {w : σ} {run : Run σ} (h : i.engineRun? o w = some run) :
    ∃ name args s f, i.admitCall name args = .ok (s, f) ∧
      run = runFunction i.module i.slots i.state f (args.map Value.slot) s.results.length w := by
  unfold engineRun? at h
  obtain ⟨⟨name, args⟩, -, hcall⟩ := Option.bind_eq_some_iff.mp h
  unfold callRun? at hcall
  split at hcall
  · rename_i s f hallowed
    cases hcall
    exact ⟨name, args, s, f, hallowed, rfl⟩
  · cases hcall

/-- A trapped instance makes no run, and no operation changes it. -/
theorem perform_of_trapped {i : Instance σ} {reason : String} (h : i.lifecycle = .trapped reason)
    (o : Operation) (w : σ) : i.engineRun? o w = none ∧ (i.perform o w).2 = (i, w) := by
  rcases i.perform_cases o w with hnone | ⟨_, _, hl, _⟩
  · exact hnone
  · rw [h] at hl
    cases hl

end Instance

/-! ## 3. Any operations -/

/-- An operation as it was performed. -/
structure Performed (σ : Type) where
  operation : Operation
  answer : Answer
  /-- The run of the engine that it made. -/
  run : Option (Run σ)

namespace Performed

/-- Did it make a run that completed? -/
def completed (p : Performed σ) : Bool :=
  match p.run with
  | some ⟨.ok _, _, _⟩ => true
  | _ => false

/-- The error that it answered, if it made a run that failed. -/
def failure? (p : Performed σ) : Option RuntimeError :=
  match p.run with
  | some ⟨.error _, _, _⟩ => p.answer.error?
  | _ => none

end Performed

/-- Performs operations one after the other; gives what was performed, and instance and world at the
    end. -/
def Instance.performAll (i : Instance σ) : List Operation → σ → List (Performed σ) × Instance σ × σ
  | [], w => ([], i, w)
  | o :: os, w =>
    let (a, i', w') := i.perform o w
    let (ps, after) := i'.performAll os w'
    (⟨o, a, i.engineRun? o w⟩ :: ps, after)

/-- The error of the first run that failed. -/
def firstFailure (ps : List (Performed σ)) : Option RuntimeError := ps.findSome? Performed.failure?

namespace Instance

theorem performAll_cons (i : Instance σ) (o : Operation) (os : List Operation) (w : σ) :
    i.performAll (o :: os) w =
      (⟨o, (i.perform o w).1, i.engineRun? o w⟩ ::
          ((i.perform o w).2.1.performAll os (i.perform o w).2.2).1,
        ((i.perform o w).2.1.performAll os (i.perform o w).2.2).2) := rfl

/-- **What every run keeps of an instance**, completed or failed, holds of it after any operations. -/
theorem performAll_invariant {I : Instance σ → Prop}
    (hkeeps : ∀ {i : Instance σ} {o : Operation} {w : σ} {run : Run σ}, I i → i.engineRun? o w = some run →
      I (i.counted run) ∧ ∀ e, I (i.spoiled run e)) :
    ∀ (os : List Operation) {i : Instance σ} (_ : I i) (w : σ), I (i.performAll os w).2.1
  | [], _, hi, _ => hi
  | o :: os, i, hi, w => by
      rw [performAll_cons]
      refine performAll_invariant hkeeps os ?_ _
      rcases i.perform_cases o w with ⟨-, hsame⟩ | ⟨run, hrun, -, ⟨rs, -, hafter⟩ | ⟨e, name, -, -, hafter⟩⟩
      · rw [hsame]
        exact hi
      · rw [hafter]
        exact (hkeeps hi hrun).1
      · rw [hafter]
        exact (hkeeps hi hrun).2 _

/-- **A trapped instance stays as it is**: whatever is asked, no run is made. -/
theorem performAll_of_trapped {i : Instance σ} {reason : String} (h : i.lifecycle = .trapped reason)
    (w : σ) : ∀ os : List Operation,
    (i.performAll os w).2 = (i, w) ∧ ∀ p ∈ (i.performAll os w).1, p.run = none
  | [] => ⟨rfl, by simp [performAll]⟩
  | o :: os => by
      obtain ⟨hrun, hsame⟩ := perform_of_trapped h o w
      obtain ⟨hafter, hnone⟩ := performAll_of_trapped h w os
      rw [performAll_cons, hsame]
      refine ⟨hafter, fun p hp => ?_⟩
      rcases List.mem_cons.mp hp with rfl | hp
      · exact hrun
      · exact hnone p hp

/-- **The state of an instance is decided by the first run that failed.** -/
theorem lifecycle_performAll : ∀ (os : List Operation) {i : Instance σ} (_ : i.lifecycle = .ready)
    (w : σ), (i.performAll os w).2.1.lifecycle =
      match firstFailure (i.performAll os w).1 with
      | none => .ready
      | some e => .trapped e.message
  | [], i, h, w => h
  | o :: os, i, h, w => by
      rw [performAll_cons]
      rcases i.perform_cases o w with ⟨hrun, hsame⟩ | ⟨run, hrun, _, ⟨rs, hr, hi⟩ | ⟨e, name, hr, ha, hi⟩⟩
      · rw [hsame, firstFailure, List.findSome?_cons]
        simp only [Performed.failure?, hrun]
        exact lifecycle_performAll os h w
      · rw [hi, firstFailure, List.findSome?_cons]
        obtain ⟨result, s, w'⟩ := run
        cases hr
        simp only [Performed.failure?, hrun]
        exact lifecycle_performAll os (i := i.counted ⟨.ok rs, s, w'⟩) h w'
      · obtain ⟨result, s, w'⟩ := run
        cases hr
        have htrapped : (i.spoiled ⟨.error e, s, w'⟩ (.ofEngineError name e)).lifecycle =
            .trapped (RuntimeError.ofEngineError name e).message := rfl
        rw [hi, (performAll_of_trapped htrapped w' os).1, firstFailure, List.findSome?_cons]
        simp only [Performed.failure?, hrun, ha]
        exact htrapped

theorem length_performAll : ∀ (os : List Operation) (i : Instance σ) (w : σ),
    (i.performAll os w).1.length = os.length
  | [], _, _ => rfl
  | o :: os, i, w => congrArg (· + 1) (length_performAll os (i.perform o w).2.1 (i.perform o w).2.2)

/-- **The counter is the number of runs that completed.** -/
theorem invocations_performAll : ∀ (os : List Operation) (i : Instance σ) (w : σ),
    (i.performAll os w).2.1.invocations =
      i.invocations + (i.performAll os w).1.countP Performed.completed
  | [], i, w => rfl
  | o :: os, i, w => by
      rw [performAll_cons]
      rcases i.perform_cases o w with ⟨hrun, hsame⟩ | ⟨run, hrun, _, ⟨rs, hr, hi⟩ | ⟨e, name, hr, _, hi⟩⟩
      · rw [hsame, List.countP_cons, invocations_performAll os i w]
        simp [Performed.completed, hrun]
      · obtain ⟨result, s, w'⟩ := run
        cases hr
        rw [hi, List.countP_cons, invocations_performAll os (i.counted _) w']
        simp only [Performed.completed, hrun, counted, if_true]
        omega
      · obtain ⟨result, s, w'⟩ := run
        cases hr
        rw [hi, List.countP_cons, invocations_performAll os (i.spoiled _ _) w']
        simp [Performed.completed, hrun, spoiled]

/-- The error of a run that failed is a trap. -/
theorem firstFailure_trap : ∀ (os : List Operation) (i : Instance σ) (w : σ) {e : RuntimeError},
    firstFailure (i.performAll os w).1 = some e → ∃ name kind text, e = .trap name kind text
  | [], _, _, _, h => by cases h
  | o :: os, i, w, e, h => by
      rw [performAll_cons, firstFailure, List.findSome?_cons] at h
      rcases i.perform_cases o w with ⟨hrun, _⟩ | ⟨run, hrun, _, ⟨rs, hr, _⟩ | ⟨e', name, hr, ha, _⟩⟩
      · simp only [Performed.failure?, hrun] at h
        exact firstFailure_trap os _ _ h
      · obtain ⟨result, s, w'⟩ := run
        cases hr
        simp only [Performed.failure?, hrun] at h
        exact firstFailure_trap os _ _ h
      · obtain ⟨result, s, w'⟩ := run
        cases hr
        simp only [Performed.failure?, hrun, ha] at h
        cases h
        exact ⟨name, e'.kind, e'.message, rfl⟩

/-- An operation that made a run that failed answers the trap that the run's error comes to. -/
theorem error_of_failed_run : ∀ (os : List Operation) (i : Instance σ) (w : σ),
    ∀ p ∈ (i.performAll os w).1, ∀ (run : Run σ) (e : EngineError), p.run = some run →
      run.result = .error e → ∃ name, p.answer.error? = some (.ofEngineError name e)
  | [], _, _, p, hp => by cases hp
  | o :: os, i, w, p, hp => by
      rw [performAll_cons] at hp
      intro run e hrun hr
      rcases List.mem_cons.mp hp with rfl | hp
      · rcases i.perform_cases o w with ⟨hn, _⟩ | ⟨run', hrun', _, ⟨rs, hr', _⟩ | ⟨e', name, hr', ha, _⟩⟩
        · rw [hn] at hrun
          cases hrun
        · rw [hrun'] at hrun
          cases hrun
          rw [hr'] at hr
          cases hr
        · rw [hrun'] at hrun
          cases hrun
          rw [hr'] at hr
          cases hr
          exact ⟨name, ha⟩
      · exact error_of_failed_run os _ _ p hp run e hrun hr

/-! ## 4. Refusals of a trapped instance -/

theorem exportSignature_of_missing {i : Instance σ} {name : String}
    (h : i.module.export? name = none) : i.exportSignature name = .error (.exportNotFound name) := by
  unfold exportSignature exportOf
  rw [h]
  rfl

theorem exportSignature_of_export {i : Instance σ} {name : String} {d : ExportDeclaration}
    (h : i.module.export? name = some d) : i.exportSignature name =
      match d.kind with
      | .function s => .ok s
      | k => .error (.exportKindMismatch name "function" k.name) := by
  unfold exportSignature exportOf
  rw [h]
  obtain ⟨n, kind⟩ := d
  cases kind <;> rfl

/-- There is no signature where nothing is exported, or no function. -/
theorem exportSignature_error {i : Instance σ} {name : String} {e : RuntimeError}
    (h : i.exportSignature name = .error e) :
    e = .exportNotFound name ∨ ∃ actual, e = .exportKindMismatch name "function" actual := by
  cases hd : i.module.export? name with
  | none =>
    rw [exportSignature_of_missing hd] at h
    cases h
    exact .inl rfl
  | some d =>
    rw [exportSignature_of_export hd] at h
    split at h
    · cases h
    · cases h
      exact .inr ⟨_, rfl⟩

theorem admitCall_of_error {i : Instance σ} {name : String} {e : RuntimeError}
    (h : i.exportSignature name = .error e) (args : List Value) : i.admitCall name args = .error e := by
  unfold admitCall
  rw [h]
  rfl

theorem admitCall_of_trapped {i : Instance σ} {name reason : String} {s : Signature}
    (hl : i.lifecycle = .trapped reason) (hs : i.exportSignature name = .ok s) (args : List Value) :
    i.admitCall name args = .error (.instanceTrapped reason) := by
  unfold admitCall
  rw [hs, hl]
  rfl

theorem invoke_of_refused {i : Instance σ} {name : String} {args : List Value} {e : RuntimeError}
    (h : i.admitCall name args = .error e) (w : σ) : i.invoke name args w = (.error e, i, w) := by
  unfold invoke
  rw [h]

/-- A call fails because it is refused, or because code that it runs fails. -/
theorem invoke_error {i : Instance σ} {name : String} {args : List Value} {w : σ} {e : RuntimeError}
    (h : (i.invoke name args w).1 = .error e) :
    i.admitCall name args = .error e ∨ ∃ fault, e = .ofEngineError name fault := by
  cases hallowed : i.admitCall name args with
  | error e' =>
    rw [invoke_of_refused hallowed] at h
    cases h
    exact .inl rfl
  | ok sf =>
    rcases i.invoke_cases name args w with ⟨hnone, -⟩ | ⟨run, -, -, ⟨rs, vs, -, hi⟩ | ⟨fault, -, hi⟩⟩
    · unfold callRun? at hnone
      rw [hallowed] at hnone
      cases hnone
    · rw [hi] at h
      cases h
    · rw [hi] at h
      cases h
      exact .inr ⟨fault, rfl⟩

/-- An instance that is trapped for a reason, and what comes of everything that it is asked. -/
structure StaysTrapped (i : Instance σ) (w : σ) (reason : String) : Prop where
  lifecycle : i.lifecycle = .trapped reason
  /-- Guest and host stay as they are. -/
  unchanged : ∀ os, (i.performAll os w).2 = (i, w)
  /-- No operation runs code of the guest or of the host. -/
  silent : (∀ os, ∀ p ∈ (i.performAll os w).1, p.run = none) ∧
    ∀ name args, i.invocationMoments name args w = []
  /-- A call of an exported function is refused for that reason, whatever its arguments. -/
  refused : ∀ name args d s, i.module.export? name = some d → d.kind = .function s →
    i.invoke name args w = (.error (.instanceTrapped reason), i, w)
  /-- A name that is not exported is still reported as such. -/
  missing : ∀ name args, i.module.export? name = none →
    i.invoke name args w = (.error (.exportNotFound name), i, w)
  /-- And so is an export that is no function. -/
  otherKind : ∀ name args d, i.module.export? name = some d → d.kind.signature? = none →
    i.invoke name args w = (.error (.exportKindMismatch name "function" d.kind.name), i, w)

theorem staysTrapped {i : Instance σ} {reason : String} (h : i.lifecycle = .trapped reason) (w : σ) :
    StaysTrapped i w reason where
  lifecycle := h
  unchanged os := (performAll_of_trapped h w os).1
  silent := by
    refine ⟨fun os => (performAll_of_trapped h w os).2, fun name args => ?_⟩
    unfold invocationMoments
    cases ha : i.admitCall name args with
    | error e => rfl
    | ok sf =>
      have hready := admitCall_ready ha
      rw [h] at hready
      cases hready
  refused name args d s hd hk := by
    have hs : i.exportSignature name = .ok s := by rw [exportSignature_of_export hd, hk]
    exact invoke_of_refused (admitCall_of_trapped h hs args) w
  missing name args hn :=
    invoke_of_refused (admitCall_of_error (exportSignature_of_missing hn) args) w
  otherKind name args d hd hk := by
    refine invoke_of_refused (admitCall_of_error ?_ args) w
    rw [exportSignature_of_export hd]
    obtain ⟨n, kind⟩ := d
    cases kind with
    | function s => cases hk
    | memory => rfl
    | global => rfl
    | table => rfl

/-! ## 5. The law -/

/-- What holds after any operations on an instance that was new. -/
structure LifecycleLaw (i : Instance σ) (w : σ) (os : List Operation) : Prop where
  /-- The instance is ready up to the first run that fails, and trapped with the text of its error from
      then on. -/
  state : (i.performAll os w).2.1.lifecycle =
    match firstFailure (i.performAll os w).1 with
    | none => .ready
    | some e => .trapped e.message
  /-- That error is the trap that the operation answered. -/
  answered : (∀ p ∈ (i.performAll os w).1, ∀ (run : Run σ) (e : EngineError), p.run = some run →
      run.result = .error e → ∃ name, p.answer.error? = some (.ofEngineError name e)) ∧
    ∀ e, firstFailure (i.performAll os w).1 = some e → ∃ name kind text, e = .trap name kind text
  /-- Once it is trapped, it stays so. -/
  trapped : ∀ reason, (i.performAll os w).2.1.lifecycle = .trapped reason →
    StaysTrapped (i.performAll os w).2.1 (i.performAll os w).2.2 reason
  /-- The counter has the runs that completed, whatever became of their results. -/
  counter : (i.performAll os w).2.1.invocations = (i.performAll os w).1.countP Performed.completed
  /-- So it is at most the number of operations, and 64 bits are enough for it in any history that has fewer
      than `2 ^ 64` of them. -/
  bounded : (i.performAll os w).2.1.invocations ≤ os.length
  /-- An operation that makes no run changes nothing. -/
  idle : ∀ o, (i.performAll os w).2.1.engineRun? o (i.performAll os w).2.2 = none →
    ((i.performAll os w).2.1.perform o (i.performAll os w).2.2).2 = (i.performAll os w).2

end Instance

/-- A new instance is ready and has counted nothing. -/
theorem instantiate_new {m : Module} {r : Registry σ} {w w' : σ} {i : Instance σ}
    (h : instantiate m r w = (.ok i, w')) : i.lifecycle = .ready ∧ i.invocations = 0 := by
  unfold instantiate at h
  split at h
  · cases h
  · unfold createInstance at h
    split at h
    · cases h
    · dsimp only at h
      split at h
      · cases h
      · cases h
        exact ⟨rfl, rfl⟩

/-- **The life of an instance**: ready until a run fails, trapped ever after. -/
theorem lifecycleLaw {m : Module} {r : Registry σ} {w₀ w : σ} {i : Instance σ}
    (h : instantiate m r w₀ = (.ok i, w)) (os : List Operation) : i.LifecycleLaw w os where
  state := Instance.lifecycle_performAll os (instantiate_new h).1 w
  answered := ⟨Instance.error_of_failed_run os i w, fun _ => Instance.firstFailure_trap os i w⟩
  trapped _ hl := Instance.staysTrapped hl _
  counter := by rw [Instance.invocations_performAll, (instantiate_new h).2, Nat.zero_add]
  bounded := by
    rw [Instance.invocations_performAll, (instantiate_new h).2, Nat.zero_add, ← Instance.length_performAll os i w]
    exact List.countP_le_length
  idle o hnone := by
    rcases Instance.perform_cases _ o _ with ⟨_, hsame⟩ | ⟨run, hrun, _⟩
    · exact hsame
    · rw [hnone] at hrun
      cases hrun

/-- A module with a function that completes with a number that is no exit status, and one that traps. -/
def fickleWasm : Wasm.Module where
  types := [.ofFunc ⟨[], [.num .i64]⟩, .ofFunc ⟨[], []⟩]
  funcs := [0, 1]
  exports := [⟨"big", .func 0⟩, ⟨"fail", .func 1⟩]
  bodies := [⟨[], [.const (.i64 4294967296), .end_]⟩, ⟨[], [.unreachable, .end_]⟩]

/-- The same, loaded. -/
def fickle : Module where
  engine := { id := 0, config := {}, budget := 8 }
  wasm := fickleWasm
  program := fickleWasm.program
  imports := []
  exports := [⟨"big", .function ⟨[], [.i64]⟩⟩, ⟨"fail", .function ⟨[], []⟩⟩]
  valid := by rfl
  runnable := by rfl
  program_eq := rfl
  imports_eq := rfl
  exports_eq := by rfl

theorem lifecycleLaw_fickle :
    let asked := [.invokeMain "big", .invoke "fail" [], .invoke "big" [], .global "fail"]
    ∃ i : Instance Unit, instantiate fickle .empty () = (.ok i, ()) ∧ i.LifecycleLaw () asked ∧
      (i.performAll asked ()).2.1.lifecycle = .trapped
        "Trap in fail: unreachable executed: wasm trap: wasm `unreachable` instruction executed" ∧
      (i.performAll asked ()).2.1.invocations = 1 := by
  refine ⟨_, rfl, @lifecycleLaw Unit fickle .empty () () _ rfl _, ?_, ?_⟩
  · rfl
  · rfl

end Embedder
