import Embedder.Instance
import Embedder.Proofs.Wasm.Runnable

/-!
# What the interface of a module says

The declarations of a module are read off its imports and exports one by one, in order. A signature in them
is the function type that stands behind it: `Signature.Describes`.

* `describeImport_function`, `describeExport_function` -- a function that is declared is a function of the
  module, and its signature is the type of it;
* `exportKind_cases` -- what is declared as exported, of whatever kind, is an item of the module;
* **`Instance.admitCall_described`** -- a call that is admitted has arguments of the types of the function
  that it runs;
* `Instance.admitCall_of_types` -- and a call of a ready instance with such arguments is admitted.
-/

namespace Embedder

open Wasm

variable {σ : Type}

/-! ## 1. Signatures -/

/-- The signature has the types of a function, all of them numbers. -/
structure Signature.Describes (s : Signature) (t : FuncType Nat) : Prop where
  params : t.params.map ValType.number? = s.params.map some
  results : t.results.map ValType.number? = s.results.map some

/-- A host knows numbers, and nothing else. -/
theorem hostTypes_eq_ok_iff : ∀ {ts : List (ValType Nat)} {vs : List ValueType},
    hostTypes ts = .ok vs ↔ ts = vs.map .num
  | [], vs => by cases vs <;> simp [hostTypes]
  | .num t :: ts, vs => by
      constructor
      · intro h
        obtain ⟨vs, hvs, rfl⟩ := ok_of_map h
        rw [hostTypes_eq_ok_iff.mp hvs]
        rfl
      · intro h
        cases vs with
        | nil => cases h
        | cons v vs =>
          obtain ⟨hv, hts⟩ := List.cons.inj h
          cases hv
          unfold hostTypes
          rw [hostTypes_eq_ok_iff.mpr hts]
          rfl
  | .v128 :: _, vs => by cases vs <;> simp [hostTypes]
  | .ref _ :: _, vs => by cases vs <;> simp [hostTypes]

theorem hostTypes_eq_ok {ts : List (ValType Nat)} {vs : List ValueType} (h : hostTypes ts = .ok vs) :
    ts.map ValType.number? = vs.map some := by
  rw [hostTypes_eq_ok_iff.mp h, List.map_map]
  rfl

theorem describeFunc_function {item : String} {t : FuncType Nat} {kind : ExternKind}
    (h : describeFunc item t = .ok kind) : ∃ s : Signature, kind = .function s ∧ s.Describes t := by
  unfold describeFunc at h
  split at h
  · rename_i s hs
    cases h
    obtain ⟨params, hparams, hs⟩ := ok_of_bind hs
    obtain ⟨results, hresults, hs⟩ := ok_of_bind hs
    cases hs
    exact ⟨_, rfl, hostTypes_eq_ok hparams, hostTypes_eq_ok hresults⟩
  · cases h

/-! ## 2. Declarations -/

theorem forall₂_of_mapM {ε α β : Type} {f : α → Except ε β} : ∀ {xs : List α} {ys : List β},
    xs.mapM f = .ok ys → List.Forall₂ (fun x y => f x = .ok y) xs ys
  | [], ys, h => by
      cases h
      exact .nil
  | x :: xs, ys, h => by
      rw [List.mapM_cons] at h
      obtain ⟨y, hy, h⟩ := ok_of_bind h
      obtain ⟨ys, hys, h⟩ := ok_of_bind h
      cases h
      exact .cons hy (forall₂_of_mapM hys)

section Declarations

variable {m : Wasm.Module}

/-- An import that is declared as a function is one. -/
theorem describeImport_function {i : Import} {d : ImportDeclaration} {s : Signature}
    (h : m.describeImport i = .ok d) (hs : d.kind = .function s) :
    ∃ j, i.func? = some j ∧ s.Describes (m.funcTypeD j) := by
  obtain ⟨kind, hkind, rfl⟩ := ok_of_map h
  cases hs
  unfold Wasm.Module.importKind at hkind
  unfold Import.func?
  cases hi : i.kind with
  | func j =>
    rw [hi] at hkind
    obtain ⟨s', hs', hdescribes⟩ := describeFunc_function hkind
    cases hs'
    exact ⟨j, rfl, hdescribes⟩
  | memory t | table t | global t | tag t =>
    rw [hi] at hkind
    cases hkind

theorem supported_eq_ok {α : Type} {item : String} {o : Option α} {a : α} (h : supported item o = .ok a) :
    o = some a := by
  cases o with
  | none => cases h
  | some b =>
    cases h
    rfl

/-- **What the kind of an export says**: the item is there, and the kind describes it. -/
theorem exportKind_cases {e : Export} {kind : ExternKind} (h : m.exportKind e = .ok kind) :
    (∃ f t s, e.kind = .func f ∧ m.typeOfFunc? f = some t ∧ kind = .function s ∧ s.Describes t) ∨
    (∃ k t, e.kind = .memory k ∧ m.memoryTypes[k]? = some t ∧ kind = describeMemory t) ∨
    (∃ k t, e.kind = .table k ∧ m.tableTypes[k]? = some t ∧ kind = describeTable t) ∨
    ∃ k t, e.kind = .global k ∧ m.globalTypes[k]? = some t ∧ kind = describeGlobal t := by
  unfold Wasm.Module.exportKind at h
  cases he : e.kind with
  | func f =>
    rw [he] at h
    obtain ⟨t, ht, h⟩ := ok_of_bind h
    obtain ⟨s, hs, hdescribes⟩ := describeFunc_function h
    exact .inl ⟨f, t, s, rfl, supported_eq_ok ht, hs, hdescribes⟩
  | memory k =>
    rw [he] at h
    obtain ⟨t, ht, hkind⟩ := ok_of_map h
    exact .inr (.inl ⟨k, t, rfl, supported_eq_ok ht, hkind.symm⟩)
  | table k =>
    rw [he] at h
    obtain ⟨t, ht, hkind⟩ := ok_of_map h
    exact .inr (.inr (.inl ⟨k, t, rfl, supported_eq_ok ht, hkind.symm⟩))
  | global k =>
    rw [he] at h
    obtain ⟨t, ht, hkind⟩ := ok_of_map h
    exact .inr (.inr (.inr ⟨k, t, rfl, supported_eq_ok ht, hkind.symm⟩))
  | tag k =>
    rw [he] at h
    cases h

/-- An export that is declared as a function is one. -/
theorem describeExport_function {e : Export} {d : ExportDeclaration} {s : Signature}
    (h : m.describeExport e = .ok d) (hs : d.kind = .function s) :
    ∃ f t, e.kind = .func f ∧ m.typeOfFunc? f = some t ∧ s.Describes t := by
  obtain ⟨kind, hkind, rfl⟩ := ok_of_map h
  cases hs
  rcases exportKind_cases hkind with ⟨f, t, s', he, ht, hs', hdescribes⟩ | ⟨k, t, -, -, hother⟩ |
    ⟨k, t, -, -, hother⟩ | ⟨k, t, -, -, hother⟩
  · cases hs'
    exact ⟨f, t, he, ht, hdescribes⟩
  all_goals cases hother

theorem describeExport_name {e : Export} {d : ExportDeclaration} (h : m.describeExport e = .ok d) :
    d.name = e.name := by
  obtain ⟨kind, -, rfl⟩ := ok_of_map h
  rfl

/-- The declaration under a name is that of the export under it. -/
theorem find?_described {name : String} {d : ExportDeclaration} : ∀ {es : List Export}
    {ds : List ExportDeclaration}, List.Forall₂ (fun e d => m.describeExport e = .ok d) es ds →
      ds.find? (fun d => d.name == name) = some d →
        ∃ e, es.find? (fun e => e.name == name) = some e ∧ m.describeExport e = .ok d
  | _, _, .nil, hd => by cases hd
  | e :: es, d' :: ds, .cons h rest, hd => by
      rw [List.find?_cons, describeExport_name h] at hd
      rw [List.find?_cons]
      cases hname : e.name == name with
      | true =>
        rw [hname] at hd
        cases hd
        exact ⟨e, rfl, h⟩
      | false =>
        rw [hname] at hd
        exact find?_described rest hd

end Declarations

/-! ## 3. Modules -/

section Modules

variable {m : Module}

theorem Module.wasm_runnable (m : Module) : m.wasm.Runnable := checked_of_check m.runnable

/-- The declared imports are the imports, in order. -/
theorem imports_described (m : Module) :
    List.Forall₂ (fun i d => m.wasm.describeImport i = .ok d) m.wasm.imports m.imports :=
  forall₂_of_mapM m.imports_eq

/-- The declaration of the import at a place. -/
theorem import_described {k : Nat} {i : Import} (hi : m.wasm.imports[k]? = some i) :
    ∃ d, m.imports[k]? = some d ∧ m.wasm.describeImport i = .ok d := by
  obtain ⟨hk, rfl⟩ := List.getElem?_eq_some_iff.mp hi
  have hk' : k < m.imports.length := (imports_described m).length_eq ▸ hk
  exact ⟨_, List.getElem?_eq_getElem hk', List.forall₂_iff_get.mp (imports_described m) |>.2 k hk hk'⟩

/-- The signature under a name is that of the function that is exported under it. -/
theorem Instance.exportSignature_described {i : Instance σ} {name : String} {s : Signature}
    (h : i.exportSignature name = .ok s) :
    ∃ f t, i.funcIndex? name = some f ∧ i.module.wasm.typeOfFunc? f = some t ∧ s.Describes t := by
  obtain ⟨d, hd, hkind⟩ := ok_of_bind h
  have hexport : i.module.export? name = some d := by
    unfold exportOf at hd
    split at hd
    · cases hd
      assumption
    · cases hd
  have hfunction : d.kind = .function s := by
    cases hk : d.kind <;> rw [hk] at hkind <;> cases hkind
    rfl
  obtain ⟨e, he, hdescribed⟩ := find?_described (forall₂_of_mapM i.module.exports_eq) hexport
  obtain ⟨f, t, hf, ht, hdescribes⟩ := describeExport_function hdescribed hfunction
  refine ⟨f, t, ?_, ht, hdescribes⟩
  unfold funcIndex? target?
  rw [he, Option.map_some, hf]

/-- **A call that is admitted** has arguments of the types of the function that it runs. -/
theorem Instance.admitCall_described {i : Instance σ} {name : String} {args : List Value} {s : Signature}
    {f : Nat} (h : i.admitCall name args = .ok (s, f)) :
    args.map Value.type = s.params ∧
      ∃ t, i.module.wasm.typeOfFunc? f = some t ∧ s.Describes t := by
  obtain ⟨s', hs, h⟩ := ok_of_bind h
  obtain ⟨f', t, hindex, ht, hdescribes⟩ := Instance.exportSignature_described hs
  rw [hindex] at h
  split at h
  · cases h
  · split at h
    · cases h
      exact ⟨Signature.accepts_iff.mp ‹_›, t, ht, hdescribes⟩
    · cases h

/-- A ready instance admits a call with arguments of the types of the signature. -/
theorem Instance.admitCall_of_types {i : Instance σ} {name : String} {args : List Value} {s : Signature}
    (hready : i.lifecycle = .ready) (hs : i.exportSignature name = .ok s)
    (htypes : args.map Value.type = s.params) : ∃ f, i.admitCall name args = .ok (s, f) := by
  obtain ⟨f, _, hindex, -⟩ := Instance.exportSignature_described hs
  refine ⟨f, ?_⟩
  unfold Instance.admitCall
  rw [hs, hready]
  show (if s.accepts args then _ else _) = _
  rw [if_pos (Signature.accepts_iff.mpr htypes), hindex]
  rfl

end Modules

end Embedder
