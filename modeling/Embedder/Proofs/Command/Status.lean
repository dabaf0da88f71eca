import Embedder.Proofs.Command.Staging
import Mathlib.Data.Int.ModEq

/-!
# The status of an entry point

What an entry point returns becomes the status of the process. It passes through two ranges on its way: as the
status of a run it is an integer of 32 bits, and a process hands on the lowest eight of them.

* `Returns` -- the results that are a status, and which;
* `ofResults_of_returns`, `returns_of_ofResults` -- a run takes these, as they are, and no others;
* **`Job.yields_of_called`** -- if the entry point completes, all that is left of a run is to take its results;
* `processStatus_eq_zero_iff` -- eight bits are zero for every multiple of 256;
* **`exitObserved`** -- so success and failure are told apart as long as no other multiple than zero is returned,
  and `success_of_256` is a program that returns one.
-/

namespace Embedder.Command

open Wasm

/-! ## 1. Results and statuses -/

/-- The results of an entry point are a status: there are none, which means zero, or there is one integer of
    32 bits, be it in 64. -/
inductive Returns : List Value → Int → Prop
  | nothing : Returns [] 0
  | word (v : Int32) : Returns [.i32 v] v.toInt
  | long (v : Int64) (hlow : -2147483648 ≤ v.toInt) (hhigh : v.toInt ≤ 2147483647) : Returns [.i64 v] v.toInt

theorem Returns.unique {results : List Value} {n n' : Int} (h : Returns results n) (h' : Returns results n') :
    n = n' := by
  cases h <;> cases h' <;> rfl

theorem returns_zero_iff {results : List Value} :
    Returns results 0 ↔ results = [] ∨ results = [.i32 0] ∨ results = [.i64 0] := by
  constructor
  · intro h
    generalize hn : (0 : Int) = n at h
    cases h with
    | nothing => exact .inl rfl
    | word v =>
      obtain rfl : v = 0 := Int32.toInt_inj.mp hn.symm
      exact .inr (.inl rfl)
    | long v =>
      obtain rfl : v = 0 := Int64.toInt_inj.mp hn.symm
      exact .inr (.inr rfl)
  · rintro (rfl | rfl | rfl)
    · exact .nothing
    · exact .word 0
    · exact .long 0 (by decide) (by decide)

/-- A status that is returned is taken as it is. -/
theorem ofResults_of_returns {results : List Value} {n : Int} (h : Returns results n) (entry : String) :
    ∃ s, ExitStatus.ofResults entry results = .ok s ∧ s.code.toInt = n := by
  cases h with
  | nothing => exact ⟨⟨0⟩, rfl, rfl⟩
  | word v => exact ⟨⟨v⟩, rfl, rfl⟩
  | long v hlow hhigh =>
    refine ⟨⟨Int32.ofInt v.toInt⟩, ?_, Int32.toInt_ofInt_of_le hlow (by omega)⟩
    unfold ExitStatus.ofResults
    simp [hlow, hhigh]

theorem returns_of_ofResults {entry : String} {results : List Value} {s : ExitStatus}
    (h : ExitStatus.ofResults entry results = .ok s) : Returns results s.code.toInt := by
  unfold ExitStatus.ofResults at h
  split at h
  · cases h
    exact .nothing
  · cases h
    exact .word _
  · rename_i v
    split at h
    · rename_i hrange
      cases h
      obtain ⟨hlow, hhigh⟩ : -2147483648 ≤ v.toInt ∧ v.toInt ≤ 2147483647 := by simpa using hrange
      rw [Int32.toInt_ofInt_of_le hlow (by omega)]
      exact .long v hlow hhigh
    · cases h
  · cases h

theorem success_iff (s : ExitStatus) : s.success = true ↔ s.code.toInt = 0 := by
  unfold ExitStatus.success
  rw [beq_iff_eq, ← Int32.toInt_inj]
  rfl

/-! ## 2. The lowest eight bits -/

theorem processStatus_modEq (s : ExitStatus) : (processStatus s : Int) ≡ s.code.toInt [ZMOD 256] := by
  unfold processStatus
  rw [Int.toNat_of_nonneg (Int.emod_nonneg _ (by decide))]
  exact Int.mod_modEq _ _

theorem processStatus_lt (s : ExitStatus) : processStatus s < 256 := by
  unfold processStatus
  omega

theorem processStatus_eq_zero_iff (s : ExitStatus) : processStatus s = 0 ↔ 256 ∣ s.code.toInt := by
  unfold processStatus
  omega

/-! ## 3. Runs whose entry point completes -/

namespace Job

variable {j : Job} {results : List Value}

/-- What a call that completes has needed. -/
theorem needed_of_called (h : j.called.1 = .ok results) :
    ∃ m i s args, j.module = .ok m ∧ instantiate m (offered j.task.noStdlib) j.fresh = (.ok i, j.made.2) ∧
      i.exportSignature j.task.entry = .ok s ∧ parseArguments j.task.entry s j.task.args = .ok args ∧
      (i.invoke j.task.entry args j.made.2).1 = .ok results := by
  cases hmade : j.made with
  | mk made host =>
    cases made with
    | error e =>
      rw [called, hmade] at h
      cases h
    | ok i =>
      cases hargs : j.arguments with
      | error e =>
        rw [called, hmade, hargs] at h
        cases h
      | ok args =>
        rw [called, hmade, hargs] at h
        obtain ⟨s, hs, hparse⟩ := ok_of_bind hargs
        obtain ⟨m, hm, hlookup⟩ := ok_of_bind hs
        have hmake : instantiate m (offered j.task.noStdlib) j.fresh = (.ok i, host) := by
          rw [← hmade, made, hm]
        refine ⟨m, i, s, args, hm, hmake, ?_, hparse, h⟩
        rw [exportSignature_eq, (instantiate_sound hmake).module]
        exact hlookup

theorem yields_exit (hmain : j.task.main = true) (results : List Value) (host : Drac) :
    Yields (j.exitSteps results) host (ofRuntime (ExitStatus.ofResults j.task.entry results)) host := by
  unfold exitSteps
  rw [hmain]
  exact yields_noted _ _ host

/-- After the call of an entry point that completes, only its results are left to be taken. -/
theorem yields_steps_of_called {host after : Drac} {result : Except Failure ExitStatus}
    (h : j.called = (.ok results, host)) (hexit : Yields (j.exitSteps results) host result after) :
    Yields j.steps j.fresh result after := by
  obtain ⟨m, i, s, args, hm, hi, hs, hargs, hresults⟩ := needed_of_called (congrArg Prod.fst h)
  have hmodule := j.yields_module j.fresh
  have hmake := yields_instantiateModule m (offered j.task.noStdlib) j.fresh
  have hcall := yields_callExport i j.task.entry args j.made.2
  have hmade : j.made = (.ok i, j.made.2) := by
    rw [← hi, made, hm]
  have harguments : j.arguments = .ok args := by
    have hsignature : signatureIn m j.task.entry = .ok s := by
      rw [← hs, exportSignature_eq, (instantiate_sound hi).module]
    rw [arguments, signature, hm]
    show signatureIn m j.task.entry >>= _ = _
    rw [hsignature]
    exact hargs
  have hhost : (i.invoke j.task.entry args j.made.2).2.2 = host := by
    rw [called, hmade, harguments] at h
    exact congrArg Prod.snd h
  rw [hm] at hmodule
  rw [hi] at hmake
  rw [hresults, hhost] at hcall
  refine hmodule.bind ((yields_registerLibraries j.task.noStdlib j.fresh).bind (hmake.bind ?_))
  unfold callSteps
  rw [hs]
  refine (yields_settled _ _).bind ?_
  rw [hargs]
  exact (yields_settled _ _).bind (hcall.bind hexit)

/-- **A run whose entry point completes comes to the status that its results give**, if they are to be one. -/
theorem yields_of_called (hmain : j.task.main = true) (h : j.called.1 = .ok results) :
    Yields j.steps j.fresh (ofRuntime (ExitStatus.ofResults j.task.entry results)) j.called.2 :=
  yields_steps_of_called (Prod.ext h rfl) (yields_exit hmain results j.called.2)

end Job

/-! ## 4. The process -/

/-- What is seen of a process whose entry point has completed with some results, and what its run came to. -/
structure ExitObserved (results : List Value) (result : Except Failure ExitStatus) (o : Outcome) : Prop where
  /-- The run comes to the integer that was returned, and knows whether it means success. -/
  kept : ∀ n, Returns results n → ∃ s, result = .ok s ∧ s.code.toInt = n ∧ (s.success = true ↔ n = 0)
  /-- The process hands on the byte that is congruent to it. -/
  byte : ∀ n, Returns results n → o.status < 256 ∧ (o.status : Int) ≡ n [ZMOD 256]
  /-- Results that are no status are an error. -/
  refused : (¬ ∃ n, Returns results n) → o.status = 75
  /-- Success is reported iff a multiple of 256 was returned. -/
  zero : o.status = 0 ↔ ∃ n, Returns results n ∧ 256 ∣ n
  /-- So it is reported for no result and for zero alone, iff no other such multiple was returned. -/
  faithful : (o.status = 0 ↔ results = [] ∨ results = [.i32 0] ∨ results = [.i64 0]) ↔
    ∀ n, Returns results n → 256 ∣ n → n = 0

theorem outcome_of_yields {ws : List String} {r : Request} {t : RunTask} (hwords : Request.ofWords ws = .ok r)
    (htask : r.task = .run t) {env : Environment} {input : List UInt8} {out : Writer}
    {result : Except Failure ExitStatus} {after : Drac} (h : Yields (Job.steps ⟨env, r.flags, t, input, out⟩)
      (Job.fresh ⟨env, r.flags, t, input, out⟩) result after) :
    (r.attempt env input out).1 = result ∧
      ∃ trail, perform ws env input out = .ofAttempt (.ofEnvironment env r.verbose) result trail := by
  obtain ⟨events, hattempt⟩ := attempt_of_yields htask h
  refine ⟨congrArg Prod.fst hattempt, ⟨events, after⟩, ?_⟩
  rw [perform_of_words hwords, hattempt]

theorem status_eq_zero_iff (entry : String) (results : List Value) (filter : Filter) (trail : Trail) :
    (Outcome.ofAttempt filter (ofRuntime (ExitStatus.ofResults entry results)) trail).status = 0 ↔
      ∃ n, Returns results n ∧ 256 ∣ n := by
  cases hs : ExitStatus.ofResults entry results with
  | ok s =>
    have hreturns := returns_of_ofResults hs
    refine (processStatus_eq_zero_iff s).trans ⟨fun hdvd => ⟨_, hreturns, hdvd⟩, ?_⟩
    rintro ⟨n, hn, hdvd⟩
    rw [hreturns.unique hn]
    exact hdvd
  | error e =>
    have hcode : (Outcome.ofAttempt filter (ofRuntime (.error e)) trail).status = 75 := Job.exitCode_of_status hs
    rw [hcode]
    constructor
    · intro h
      cases h
    · rintro ⟨n, hn, -⟩
      obtain ⟨s, hok, -⟩ := ofResults_of_returns hn entry
      rw [hs] at hok
      cases hok

/-- **What a process shows of what its entry point returns**, wherever its output goes. -/
theorem exitObserved {ws : List String} {r : Request} {t : RunTask} {env : Environment} {input : List UInt8}
    {out : Writer} {results : List Value} (hwords : Request.ofWords ws = .ok r) (htask : r.task = .run t)
    (hmain : t.main = true) (hcompleted : (Job.called ⟨env, r.flags, t, input, out⟩).1 = .ok results) :
    ExitObserved results (r.attempt env input out).1 (perform ws env input out) := by
  have hyields := Job.yields_of_called hmain hcompleted
  obtain ⟨hattempt, trail, hperform⟩ := outcome_of_yields hwords htask hyields
  rw [hattempt, hperform]
  have hzero := status_eq_zero_iff t.entry results (.ofEnvironment env r.verbose) trail
  refine ⟨fun n hn => ?_, fun n hn => ?_, fun hnone => ?_, hzero, ?_⟩
  · obtain ⟨s, hs, rfl⟩ := ofResults_of_returns hn t.entry
    exact ⟨s, congrArg ofRuntime hs, rfl, success_iff s⟩
  · obtain ⟨s, hs, rfl⟩ := ofResults_of_returns hn t.entry
    rw [hs]
    exact ⟨processStatus_lt s, processStatus_modEq s⟩
  · cases hs : ExitStatus.ofResults t.entry results with
    | ok s => exact absurd ⟨_, returns_of_ofResults hs⟩ hnone
    | error e => exact Job.exitCode_of_status hs
  · rw [hzero, ← returns_zero_iff]
    constructor
    · intro hfaithful n hn hdvd
      exact hn.unique (hfaithful.mp ⟨n, hn, hdvd⟩)
    · intro hnone
      refine ⟨?_, fun h => ⟨0, h, Int.dvd_zero 256⟩⟩
      rintro ⟨n, hn, hdvd⟩
      rw [← hnone n hn hdvd]
      exact hn

/-- The entry point returns the number -1 in 64 bits, and the process reports the largest byte. -/
theorem exitObserved_minusOne :
    let ws := ["run", "--main", "m.wasm"]
    let t : RunTask := { file := "m.wasm", main := true }
    let r : Request := ⟨{}, false, .run t⟩
    let env := constant 126 66 [127]
    Request.ofWords ws = .ok r ∧ (Job.called ⟨env, r.flags, t, [], .willing⟩).1 = .ok [.i64 (-1)] ∧
      ExitObserved [.i64 (-1)] (r.attempt env [] .willing).1 (perform ws env [] .willing) ∧ (perform ws env [] .willing).status = 255 := by
  refine ⟨rfl, ?_, exitObserved rfl rfl rfl ?_, ?_⟩ <;> decide +kernel

/-- **A program that returns 256 is reported as a success.** -/
theorem success_of_256 :
    let ws := ["run", "--main", "m.wasm"]
    let t : RunTask := { file := "m.wasm", main := true }
    let env := constant 127 65 [128, 2]
    let results : List Value := [.i32 256]
    Request.ofWords ws = .ok ⟨{}, false, .run t⟩ ∧ (Job.called ⟨env, {}, t, [], .willing⟩).1 = .ok results ∧
      (perform ws env [] .willing).status = 0 ∧
      ¬ ((perform ws env [] .willing).status = 0 ↔ results = [] ∨ results = [.i32 0] ∨ results = [.i64 0]) := by
  refine ⟨rfl, ?_, ?_, ?_⟩ <;> decide +kernel

end Embedder.Command
