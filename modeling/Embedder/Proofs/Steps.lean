/-!
# Steps that may fail

Steps are taken one after the other. Each can read and change a state and can fail, and what it did to the
state stays done. `outcome` is what comes of steps that begin in a state, and **`outcome_bind`** says that the
first step that fails ends them.

Where the same step is taken for each item of a list, **`mapM_eq_error_iff`** says that the error is that of the
first item that fails.
-/

namespace Embedder

variable {ε σ α β : Type}

/-! ## 1. Steps one after the other -/

/-- What comes of steps that begin in a state: a result or an error, and the state afterwards. -/
def outcome (x : ExceptT ε (StateM σ) α) (s : σ) : Except ε α × σ := x.run.run s

/-- **A step that fails ends the steps**; otherwise the next ones begin where it left off. -/
theorem outcome_bind (x : ExceptT ε (StateM σ) α) (f : α → ExceptT ε (StateM σ) β) (s : σ) :
    outcome (x >>= f) s = match outcome x s with
      | (.ok a, s') => outcome (f a) s'
      | (.error e, s') => (.error e, s') := by
  show (ExceptT.bindCont f (outcome x s).1) (outcome x s).2 = _
  rcases outcome x s with ⟨_ | a, s'⟩ <;> rfl

theorem outcome_bind_of_ok {x : ExceptT ε (StateM σ) α} {s s' : σ} {a : α} (h : outcome x s = (.ok a, s'))
    (f : α → ExceptT ε (StateM σ) β) : outcome (x >>= f) s = outcome (f a) s' := by
  rw [outcome_bind, h]

theorem outcome_bind_of_error {x : ExceptT ε (StateM σ) α} {s s' : σ} {e : ε}
    (h : outcome x s = (.error e, s')) (f : α → ExceptT ε (StateM σ) β) :
    outcome (x >>= f) s = (.error e, s') := by
  rw [outcome_bind, h]

theorem ok_of_bind {x : Except ε α} {f : α → Except ε β} {b : β} (h : (x >>= f) = .ok b) :
    ∃ a, x = .ok a ∧ f a = .ok b := by
  cases x with
  | error e => cases h
  | ok a => exact ⟨a, rfl, h⟩

theorem ok_of_map {x : Except ε α} {f : α → β} {b : β} (h : x.map f = .ok b) : ∃ a, x = .ok a ∧ f a = b := by
  cases x with
  | error e => cases h
  | ok a =>
    cases h
    exact ⟨a, rfl, rfl⟩

theorem map_eq_error_iff {x : Except ε α} {f : α → β} {e : ε} : x.map f = .error e ↔ x = .error e := by
  cases x with
  | error e' => simp [Except.map]
  | ok a => simp [Except.map]

theorem map_isOk_iff {x : Except ε α} {f : α → β} : (∃ b, x.map f = .ok b) ↔ ∃ a, x = .ok a := by
  cases x with
  | error e => simp [Except.map]
  | ok a => simp [Except.map]

/-! ## 2. The same step for each item -/

/-- Where not all items have a property there is a first one without it. -/
theorem exists_first {p : α → Prop} : ∀ {xs : List α}, (¬ ∀ x ∈ xs, p x) →
    ∃ before x after, xs = before ++ x :: after ∧ (∀ y ∈ before, p y) ∧ ¬ p x
  | [], h => absurd (fun x hx => absurd hx List.not_mem_nil) h
  | x :: xs, h => by
      by_cases hx : p x
      · have hrest : ¬ ∀ y ∈ xs, p y := fun hall => h (List.forall_mem_cons.mpr ⟨hx, hall⟩)
        obtain ⟨before, y, after, rfl, hbefore, hy⟩ := exists_first hrest
        exact ⟨x :: before, y, after, rfl, List.forall_mem_cons.mpr ⟨hx, hbefore⟩, hy⟩
      · exact ⟨[], x, xs, rfl, fun y hy => absurd hy List.not_mem_nil, hx⟩

section Items

variable {f : α → Except ε β} {e : ε}

theorem mapM_of_error {x : α} (hx : f x = .error e) (after : List α) : ∀ {before : List α},
    (∀ y ∈ before, ∃ b, f y = .ok b) → (before ++ x :: after).mapM f = .error e
  | [], _ => by
      rw [List.nil_append, List.mapM_cons, hx]
      rfl
  | y :: before, h => by
      obtain ⟨⟨b, hb⟩, hrest⟩ := List.forall_mem_cons.mp h
      rw [List.cons_append, List.mapM_cons, hb]
      show (before ++ x :: after).mapM f >>= _ = _
      rw [mapM_of_error hx after hrest]
      rfl

theorem mapM_of_ok : ∀ {xs : List α}, (∀ x ∈ xs, ∃ b, f x = .ok b) → ∃ ys, xs.mapM f = .ok ys
  | [], _ => ⟨[], rfl⟩
  | x :: xs, h => by
      obtain ⟨⟨b, hb⟩, hrest⟩ := List.forall_mem_cons.mp h
      obtain ⟨ys, hys⟩ := mapM_of_ok hrest
      refine ⟨b :: ys, ?_⟩
      rw [List.mapM_cons, hb]
      show xs.mapM f >>= _ = _
      rw [hys]
      rfl

/-- **The error is that of the first item that fails.** -/
theorem mapM_eq_error_iff {xs : List α} : xs.mapM f = .error e ↔
    ∃ before x after, xs = before ++ x :: after ∧ (∀ y ∈ before, ∃ b, f y = .ok b) ∧ f x = .error e := by
  constructor
  · intro h
    by_cases hall : ∀ x ∈ xs, ∃ b, f x = .ok b
    · obtain ⟨ys, hys⟩ := mapM_of_ok hall
      rw [hys] at h
      cases h
    · obtain ⟨before, x, after, rfl, hbefore, hx⟩ := exists_first hall
      refine ⟨before, x, after, rfl, hbefore, ?_⟩
      cases hfx : f x with
      | ok b => exact absurd ⟨b, hfx⟩ hx
      | error e' =>
        rw [mapM_of_error hfx after hbefore] at h
        cases h
        rfl
  · rintro ⟨before, x, after, rfl, hbefore, hx⟩
    exact mapM_of_error hx after hbefore

/-- Where no item fails there is a result. -/
theorem mapM_isOk_iff {xs : List α} : (∃ ys, xs.mapM f = .ok ys) ↔ ∀ x ∈ xs, ∃ b, f x = .ok b := by
  refine ⟨fun ⟨ys, hys⟩ => ?_, mapM_of_ok⟩
  refine Classical.byContradiction fun hall => ?_
  obtain ⟨before, x, after, rfl, hbefore, hx⟩ := exists_first hall
  cases hfx : f x with
  | ok b => exact hx ⟨b, hfx⟩
  | error e' =>
    rw [mapM_of_error hfx after hbefore] at hys
    cases hys

end Items

end Embedder
