import Embedder.Instance

/-!
# Runs as chains of moments

A `Moment` is what guest and host are between two steps of a run. `Moment.advance` is one step: the run
goes on at the next moment, or it ends. The run of a machine is the chain of moments from its first one
on (`drive_eq`), and `moments` lists them: each is a step of the guest, and those whose machine wishes to
call a function of the host are the only ones at which host code runs.

* **`moments_invariant`** -- what one step keeps holds at every moment of a run;
* `moments_split`, `drive_of_ends` -- after a moment comes the run from the next one on; a moment that ends
  the run is the last and gives the run's outcome;
* **`drive_cases`** -- a run has such a last moment, or goes on until its steps are used up.

`instantiationMoments` and `Instance.invocationMoments` are the moments of the run that an operation
makes, none if it makes no run.
-/

namespace Embedder

variable {σ : Type}

/-! ## 1. One step -/

/-- Guest and host at one point of a run. -/
structure Moment (σ : Type) where
  machine : Wasm.Machine
  world : σ

/-- What a step of a run leads to. -/
inductive Advance (σ : Type) where
  | goesOn (next : Moment σ)
  | ends (r : Run σ)

/-- One step of a run. -/
def Moment.advance (p : Wasm.Program) (slots : List (Slot σ)) (t : Moment σ) : Advance σ :=
  match t.machine.step p with
  | .running m => .goesOn ⟨m, t.world⟩
  | .finished results s => .ends ⟨.ok results.reverse, s, t.world⟩
  | .trapped e s => .ends ⟨.error { cause := .trap e }, s, t.world⟩
  | .calling i args m =>
    match callImport slots i args t.world with
    | (.ok results, w) => .goesOn ⟨m.resume results, w⟩
    | (.error e, w) => .ends ⟨.error e, m.state, w⟩

/-- **A run is a step and the run from there on.** -/
theorem drive_eq (p : Wasm.Program) (slots : List (Slot σ)) (budget : Nat) (t : Moment σ) :
    drive p slots (budget + 1) t.machine t.world =
      match t.advance p slots with
      | .goesOn next => drive p slots budget next.machine next.world
      | .ends r => r := by
  rw [drive]
  unfold Moment.advance
  cases t.machine.step p with
  | running m => rfl
  | finished results s => rfl
  | trapped e s => rfl
  | calling i args m =>
    dsimp only
    rcases callImport slots i args t.world with ⟨result, w⟩
    cases result with
    | ok results => rfl
    | error e => rfl

/-- **How a step ends a run**: the machine is finished or traps, or the function that it calls fails. -/
theorem Moment.advance_ends {p : Wasm.Program} {slots : List (Slot σ)} {t : Moment σ} {r : Run σ}
    (h : t.advance p slots = .ends r) :
    (∃ results s, t.machine.step p = .finished results s ∧ r = ⟨.ok results.reverse, s, t.world⟩) ∨
    (∃ e s, t.machine.step p = .trapped e s ∧ r = ⟨.error { cause := .trap e }, s, t.world⟩) ∨
    ∃ k args m e w, t.machine.step p = .calling k args m ∧
      callImport slots k args t.world = (.error e, w) ∧ r = ⟨.error e, m.state, w⟩ := by
  unfold Moment.advance at h
  cases hstep : t.machine.step p with
  | running m =>
    rw [hstep] at h
    cases h
  | finished results s =>
    rw [hstep] at h
    cases h
    exact .inl ⟨results, s, rfl, rfl⟩
  | trapped e s =>
    rw [hstep] at h
    cases h
    exact .inr (.inl ⟨e, s, rfl, rfl⟩)
  | calling k args m =>
    rw [hstep] at h
    dsimp only at h
    split at h
    · cases h
    · rename_i e w hcall
      cases h
      exact .inr (.inr ⟨k, args, m, e, w, rfl, hcall, rfl⟩)

/-! ## 2. Whole runs -/

/-- The moments of a run of at most `budget` steps, each of which takes its step. -/
def moments (p : Wasm.Program) (slots : List (Slot σ)) : (budget : Nat) → Moment σ → List (Moment σ)
  | 0, _ => []
  | budget + 1, t =>
    t :: match t.advance p slots with
      | .goesOn next => moments p slots budget next
      | .ends _ => []

section Chain

variable {p : Wasm.Program} {slots : List (Slot σ)}

/-- **What a step keeps holds at every moment of a run.** -/
theorem moments_invariant {I : Moment σ → Prop}
    (hstep : ∀ t next, I t → t.advance p slots = .goesOn next → I next) :
    ∀ (budget : Nat) (t : Moment σ), I t → ∀ u ∈ moments p slots budget t, I u := by
  intro budget
  induction budget with
  | zero => intro t _ u hu; cases hu
  | succ budget ih =>
    intro t ht u hu
    rcases List.mem_cons.mp hu with rfl | hlater
    · exact ht
    · cases h : t.advance p slots with
      | ends r =>
        rw [h] at hlater
        cases hlater
      | goesOn next =>
        rw [h] at hlater
        exact ih next (hstep t next ht h) u hlater

/-- **What comes after a moment of a run** is the run from the next moment on, and nothing after one that
    ends the run. -/
theorem moments_split {t u : Moment σ} {before after : List (Moment σ)} :
    ∀ {budget : Nat}, moments p slots budget t = before ++ u :: after →
      after = match u.advance p slots with
        | .goesOn next => moments p slots (budget - (before.length + 1)) next
        | .ends _ => [] := by
  intro budget
  induction budget generalizing t before with
  | zero => intro h; cases before <;> cases h
  | succ budget ih =>
    intro h
    cases before with
    | nil =>
      cases h
      rfl
    | cons b before =>
      obtain ⟨rfl, hlater⟩ := List.cons.inj h
      rw [List.length_cons, Nat.add_sub_add_right]
      cases ht : t.advance p slots with
      | ends r =>
        rw [ht] at hlater
        cases before <;> cases hlater
      | goesOn next =>
        rw [ht] at hlater
        exact ih hlater

/-- **A moment that ends the run gives its outcome.** -/
theorem drive_of_ends {u : Moment σ} {r : Run σ} (hend : u.advance p slots = .ends r) :
    ∀ {budget : Nat} {t : Moment σ}, u ∈ moments p slots budget t →
      drive p slots budget t.machine t.world = r := by
  intro budget
  induction budget with
  | zero => intro t hu; cases hu
  | succ budget ih =>
    intro t hu
    rw [drive_eq]
    rcases List.mem_cons.mp hu with rfl | hlater
    · rw [hend]
    · cases h : t.advance p slots with
      | ends r' =>
        rw [h] at hlater
        cases hlater
      | goesOn next =>
        rw [h] at hlater
        exact ih hlater

/-- **How a run ends**: all its moments but the last go on, and the last one ends it; or all of them go on,
    and its steps are used up. -/
theorem drive_cases : ∀ (budget : Nat) (t : Moment σ),
    (∃ before last, moments p slots budget t = before ++ [last] ∧
      (∀ u ∈ before, ∃ next, u.advance p slots = .goesOn next) ∧
      last.advance p slots = .ends (drive p slots budget t.machine t.world)) ∨
    (∀ u ∈ moments p slots budget t, ∃ next, u.advance p slots = .goesOn next) ∧
      (drive p slots budget t.machine t.world).result = .error { cause := .trap .interrupt } := by
  intro budget
  induction budget with
  | zero => intro t; exact .inr ⟨by simp [moments], rfl⟩
  | succ budget ih =>
    intro t
    rw [drive_eq, moments]
    cases h : t.advance p slots with
    | ends r => exact .inl ⟨[], t, rfl, by simp, h⟩
    | goesOn next =>
      rcases ih next with ⟨before, last, hrun, hbefore, hlast⟩ | ⟨hall, hstop⟩
      · refine .inl ⟨t :: before, last, congrArg (t :: ·) hrun, fun u hu => ?_, hlast⟩
        rcases List.mem_cons.mp hu with rfl | hu
        · exact ⟨next, h⟩
        · exact hbefore u hu
      · refine .inr ⟨fun u hu => ?_, hstop⟩
        rcases List.mem_cons.mp hu with rfl | hu
        · exact ⟨next, h⟩
        · exact hall u hu

/-- What every moment of a run leads to, at its end or when its steps are used up, holds of the run. -/
theorem drive_invariant {I : Moment σ → Prop} {R : Run σ → Prop}
    (hstep : ∀ t next, I t → t.advance p slots = .goesOn next → I next)
    (hend : ∀ t r, I t → t.advance p slots = .ends r → R r)
    (hstop : ∀ t, I t → R ⟨.error { cause := .trap .interrupt }, t.machine.state, t.world⟩) :
    ∀ (budget : Nat) (t : Moment σ), I t → R (drive p slots budget t.machine t.world) := by
  intro budget
  induction budget with
  | zero => exact hstop
  | succ budget ih =>
    intro t ht
    rw [drive_eq]
    cases h : t.advance p slots with
    | goesOn next => exact ih next (hstep t next ht h)
    | ends r => exact hend t r ht h

end Chain

/-! ## 3. The runs of the operations -/

/-- The moments of a call of one function of a module. -/
def functionMoments (m : Module) (slots : List (Slot σ)) (s : Wasm.State) (func : Nat)
    (args : List Nat) (results : Nat) (w : σ) : List (Moment σ) :=
  moments m.program slots m.engine.budget ⟨.start s func args results, w⟩

/-- The moments of the start function of a module, as it is instantiated. -/
def instantiationMoments (m : Module) (r : Registry σ) (w : σ) : List (Moment σ) :=
  match prepare m r, m.wasm.initialState, m.start with
  | .ok (_, slots), .ok s, some f => functionMoments m slots s f [] 0 w
  | _, _, _ => []

/-- The moments of a call of the exported function with a name. -/
def Instance.invocationMoments (i : Instance σ) (name : String) (args : List Value) (w : σ) :
    List (Moment σ) :=
  match i.admitCall name args with
  | .ok (s, f) =>
    functionMoments i.module i.slots i.state f (args.map Value.slot) s.results.length w
  | .error _ => []

end Embedder
