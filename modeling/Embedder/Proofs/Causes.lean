import Embedder.Error
import Mathlib.Data.List.Induction
import Mathlib.Logic.Function.Iterate

/-!
# Contexts do not hide a cause

On its way out an engine error gets contexts, and the error that is made of it may become the source of start traps,
one around the other. Three questions are asked of the engine error, each of its whole chain, and one of the start
trap. None of the answers depends on what was put around a host error or a trap:

* `hostError?_eq`, `engineTrap?_eq` -- looking along a chain finds the host error or the trap that is its cause, and
  nothing else;
* **`foldl_within`** -- what one context does not change, no contexts change;
* `fullText_within`, `fullText_under` -- each context comes before the text there was, so the last one comes first;
* `trapKind_layers`, `message_layers`, `source_layers` -- what is told of start traps around an error;
* **`causeTold`** -- all of this of a cause, under any contexts and any number of start traps.
-/

namespace Embedder

/-! ## 1. Chains -/

namespace EngineError

/-- A context is neither a host error nor a trap, so the search goes on to the cause. -/
theorem findSome?_chain {α : Type} {find : Link → Option α} (hfind : ∀ text, find (.context text) = none)
    (e : EngineError) : e.chain.findSome? find = find (.cause e.cause) := by
  have hcontexts : (e.contexts.map Link.context).findSome? find = none := by
    simp [hfind]
  rw [chain, List.findSome?_append, hcontexts]
  simp

theorem hostError?_eq (e : EngineError) : e.hostError? = Link.hostError? (.cause e.cause) :=
  findSome?_chain (fun _ => rfl) e

theorem engineTrap?_eq (e : EngineError) : e.engineTrap? = Link.engineTrap? (.cause e.cause) :=
  findSome?_chain (fun _ => rfl) e

/-! ## 2. Contexts -/

/-- **What one context does not change, no contexts change.** -/
theorem foldl_within {α : Type} {ask : EngineError → α} (hask : ∀ e context, ask (e.within context) = ask e)
    (contexts : List String) (e : EngineError) : ask (contexts.foldl within e) = ask e := by
  induction contexts generalizing e with
  | nil => rfl
  | cons context contexts ih => rw [List.foldl_cons, ih, hask]

theorem hostError?_within (e : EngineError) (context : String) : (e.within context).hostError? = e.hostError? := by
  rw [hostError?_eq, hostError?_eq]
  rfl

theorem engineTrap?_within (e : EngineError) (context : String) : (e.within context).engineTrap? = e.engineTrap? := by
  rw [engineTrap?_eq, engineTrap?_eq]
  rfl

theorem kind_within (e : EngineError) (context : String) : (e.within context).kind = e.kind := by
  unfold kind
  rw [hostError?_within, engineTrap?_within]

theorem isGuestFault_within (e : EngineError) (context : String) :
    (e.within context).isGuestFault = e.isGuestFault := by
  unfold isGuestFault
  rw [hostError?_within, engineTrap?_within]

theorem intercalate_cons_snoc (separator first last : String) (texts : List String) :
    separator.intercalate (first :: (texts ++ [last])) =
      first ++ separator ++ separator.intercalate (texts ++ [last]) := by
  cases texts with
  | nil => exact String.intercalate_cons_cons
  | cons text texts => exact String.intercalate_cons_cons

/-- A context comes before the text there was. -/
theorem fullText_within (e : EngineError) (context : String) :
    (e.within context).fullText = context ++ ": " ++ e.fullText :=
  intercalate_cons_snoc ": " context e.cause.message e.contexts

end EngineError

/-- A cause under contexts, the last of them the outermost. -/
def Cause.under (c : Cause) (contexts : List String) : EngineError :=
  contexts.foldl EngineError.within { cause := c }

namespace Cause

variable (c : Cause) (contexts : List String)

theorem under_snoc (context : String) : c.under (contexts ++ [context]) = (c.under contexts).within context := by
  simp [under]

theorem hostError?_under : (c.under contexts).hostError? = Link.hostError? (.cause c) :=
  (EngineError.foldl_within EngineError.hostError?_within contexts _).trans (EngineError.hostError?_eq _)

theorem engineTrap?_under : (c.under contexts).engineTrap? = Link.engineTrap? (.cause c) :=
  (EngineError.foldl_within EngineError.engineTrap?_within contexts _).trans (EngineError.engineTrap?_eq _)

theorem kind_under : (c.under contexts).kind = (c.under []).kind :=
  EngineError.foldl_within EngineError.kind_within contexts _

theorem isGuestFault_under : (c.under contexts).isGuestFault = (c.under []).isGuestFault :=
  EngineError.foldl_within EngineError.isGuestFault_within contexts _

/-- The contexts stand in the full text with the outermost first, then the cause. -/
theorem fullText_under : (c.under contexts).fullText = ": ".intercalate (contexts.reverse ++ [c.message]) := by
  induction contexts using List.reverseRecOn with
  | nil => rfl
  | append_singleton contexts context ih =>
    rw [under_snoc, EngineError.fullText_within, ih, List.reverse_concat, List.cons_append,
      EngineError.intercalate_cons_snoc]

/-- A host error and a trap speak for themselves. -/
theorem message_under : (c.under contexts).message =
    match c with
    | .host h => h.message
    | .trap t => t.message
    | .other text => ": ".intercalate (contexts.reverse ++ [text]) := by
  unfold EngineError.message
  rw [hostError?_under, engineTrap?_under]
  cases c with
  | host h => rfl
  | trap t => rfl
  | other text => exact fullText_under _ contexts

end Cause

/-! ## 3. Start traps -/

namespace RuntimeError

theorem trapKind_layers (e : RuntimeError) (n : Nat) : (startRoutineTrap^[n] e).trapKind = e.trapKind := by
  induction n with
  | zero => rfl
  | succ n ih =>
    rw [Function.iterate_succ_apply', ← ih]
    rfl

theorem message_layers (e : RuntimeError) (n : Nat) :
    (startRoutineTrap^[n] e).message = ("Start routine trapped: " ++ ·)^[n] e.message := by
  induction n with
  | zero => rfl
  | succ n ih =>
    rw [Function.iterate_succ_apply', Function.iterate_succ_apply', ← ih]
    rfl

theorem source_layers (e : RuntimeError) (n : Nat) :
    (startRoutineTrap^[n + 1] e).source = some (startRoutineTrap^[n] e) := by
  rw [Function.iterate_succ_apply']
  rfl

end RuntimeError

/-! ## 4. The law -/

/-- What is told of a cause under contexts, when it ends a call of a function. -/
structure CauseTold (c : Cause) (contexts : List String) (function : String) : Prop where
  /-- A host error is told as one, in its own words. -/
  host : ∀ h, c = .host h → (c.under contexts).kind = .hostFunction ∧ (c.under contexts).isGuestFault = true ∧
    RuntimeError.ofEngineError function (c.under contexts) = .trap function .hostFunction h.message
  /-- A trap is told by its kind, in the words of the engine. -/
  trap : ∀ t, c = .trap t → (c.under contexts).kind = t.kind ∧ (c.under contexts).isGuestFault = true ∧
    RuntimeError.ofEngineError function (c.under contexts) = .trap function t.kind t.message
  /-- Anything else is told with all its contexts. -/
  other : ∀ text, c = .other text → (c.under contexts).kind = .other ∧ (c.under contexts).isGuestFault = false ∧
    RuntimeError.ofEngineError function (c.under contexts) =
      .trap function .other (": ".intercalate (contexts.reverse ++ [text]))
  /-- The contexts of a host error or a trap change nothing. -/
  same : (∀ text, c ≠ .other text) → (c.under contexts).kind = (c.under []).kind ∧
    (c.under contexts).isGuestFault = (c.under []).isGuestFault ∧
    RuntimeError.ofEngineError function (c.under contexts) = .ofEngineError function (c.under [])
  /-- Start traps around it keep the kind, say once each that they are such, and have what they are around as source. -/
  layers : ∀ n, let e := RuntimeError.ofEngineError function (c.under contexts)
    (RuntimeError.startRoutineTrap^[n] e).trapKind = some (c.under contexts).kind ∧
    (RuntimeError.startRoutineTrap^[n] e).message = ("Start routine trapped: " ++ ·)^[n] e.message ∧
    (RuntimeError.startRoutineTrap^[n + 1] e).source = some (RuntimeError.startRoutineTrap^[n] e)

/-- **A cause is told whatever is around it.** -/
theorem causeTold (c : Cause) (contexts : List String) (function : String) : CauseTold c contexts function where
  host h hc := by
    subst hc
    have hkind : (Cause.under (.host h) contexts).kind = .hostFunction := Cause.kind_under _ contexts
    refine ⟨hkind, Cause.isGuestFault_under _ contexts, ?_⟩
    rw [RuntimeError.ofEngineError, hkind, Cause.message_under]
  trap t hc := by
    subst hc
    have hkind : (Cause.under (.trap t) contexts).kind = t.kind := Cause.kind_under _ contexts
    refine ⟨hkind, Cause.isGuestFault_under _ contexts, ?_⟩
    rw [RuntimeError.ofEngineError, hkind, Cause.message_under]
  other text hc := by
    subst hc
    have hkind : (Cause.under (.other text) contexts).kind = .other := Cause.kind_under _ contexts
    refine ⟨hkind, Cause.isGuestFault_under _ contexts, ?_⟩
    rw [RuntimeError.ofEngineError, hkind, Cause.message_under]
  same hc := by
    refine ⟨c.kind_under contexts, c.isGuestFault_under contexts, ?_⟩
    unfold RuntimeError.ofEngineError
    rw [c.kind_under contexts, c.message_under contexts, c.message_under []]
    cases c with
    | host h => rfl
    | trap t => rfl
    | other text => exact absurd rfl (hc text)
  layers n := by
    refine ⟨?_, RuntimeError.message_layers _ n, RuntimeError.source_layers _ n⟩
    rw [RuntimeError.trapKind_layers]
    rfl

end Embedder
