import Embedder.Proofs.Boundary
import Embedder.Proofs.Wasm.Memories
import Mathlib.Data.List.Nodup

/-!
# Looking up exports

What stands under the name of an export is known twice. A module has its declarations, which were made when it
was loaded, and an instance has the item itself. Every lookup asks the first for the kind and the second for the
item, and either can answer that there is no such export. The two agree, whatever the instance has gone through:

* **`Module.declared_eq_some_iff`**, `Module.declared_eq_none_iff` -- the declarations are those of the exports of
  the module, one for each;
* `Instance.Furnished`, **`furnished`** -- an instance has all globals and memories of its module, at any time;
* `Instance.Furnished.globalSlot?_of_declared`, `memory?_of_declared` -- so it has the item that is declared;
* `LooksUp` -- a lookup fails iff nothing, or an item of another kind, is declared under the name;
* **`exportsFound`** -- every lookup is one of these, but for a memory that is shared: it is declared and there,
  and it is reported missing. `missing_shared` is a module with such a memory.
-/

namespace Embedder

variable {σ : Type}

/-! ## 1. Declarations -/

theorem exportKind_global {m : Wasm.Module} {e : Wasm.Export} {t : Option ValueType} {isMutable : Bool}
    (h : m.exportKind e = .ok (.global t isMutable)) : ∃ k g, e.kind = .global k ∧ m.globalTypes[k]? = some g := by
  rcases exportKind_cases h with ⟨_, _, _, -, -, hother, -⟩ | ⟨_, _, -, -, hother⟩ | ⟨_, _, -, -, hother⟩ |
    ⟨k, g, hk, hg, -⟩
  · cases hother
  · cases hother
  · cases hother
  · exact ⟨k, g, hk, hg⟩

theorem exportKind_memory {m : Wasm.Module} {e : Wasm.Export} {least : Nat} {most : Option Nat} {shared : Bool}
    (h : m.exportKind e = .ok (.memory least most shared)) :
    ∃ k t, e.kind = .memory k ∧ m.memoryTypes[k]? = some t ∧ t.shared = shared := by
  rcases exportKind_cases h with ⟨_, _, _, -, -, hother, -⟩ | ⟨k, t, hk, ht, hkind⟩ | ⟨_, _, -, -, hother⟩ |
    ⟨_, _, -, -, hother⟩
  · cases hother
  · cases hkind
    exact ⟨k, t, hk, ht, rfl⟩
  · cases hother
  · cases hother

theorem names_described {m : Wasm.Module} : ∀ {es : List Wasm.Export} {ds : List ExportDeclaration},
    List.Forall₂ (fun e d => m.describeExport e = .ok d) es ds →
      ds.map ExportDeclaration.name = es.map Wasm.Export.name
  | _, _, .nil => rfl
  | _, _, .cons h rest => by
      rw [List.map_cons, List.map_cons, describeExport_name h, names_described rest]

namespace Module

variable {m : Module} {name : String} {kind : ExternKind}

/-- The kind that a module declares under the name of an export. -/
def declared (m : Module) (name : String) : Option ExternKind := (m.export? name).map ExportDeclaration.kind

/-- The exports are declared in order, each under its name. -/
theorem declared_names (m : Module) :
    m.exports.map ExportDeclaration.name = m.wasm.exports.map Wasm.Export.name :=
  names_described (forall₂_of_mapM m.exports_eq)

/-- Nothing is declared under a name iff nothing is exported under it. -/
theorem declared_eq_none_iff : m.declared name = none ↔ ∀ e ∈ m.wasm.exports, e.name ≠ name := by
  have hnames : name ∈ m.exports.map ExportDeclaration.name ↔ name ∈ m.wasm.exports.map Wasm.Export.name := by
    rw [m.declared_names]
  unfold declared export?
  rw [Option.map_eq_none_iff, List.find?_eq_none]
  simp only [List.mem_map] at hnames
  constructor
  · rintro hnone e he rfl
    obtain ⟨d, hd, hname⟩ := hnames.mpr ⟨e, he, rfl⟩
    exact hnone d hd (beq_iff_eq.mpr hname)
  · intro hnone d hd hname
    obtain ⟨e, he, heq⟩ := hnames.mp ⟨d, hd, beq_iff_eq.mp hname⟩
    exact hnone e he heq

/-- What is declared is the kind of the item that an instance finds under the name. -/
theorem find?_of_declared (h : m.declared name = some kind) :
    ∃ e, m.wasm.exports.find? (fun e => e.name == name) = some e ∧ m.wasm.exportKind e = .ok kind := by
  obtain ⟨d, hd, rfl⟩ := Option.map_eq_some_iff.mp h
  obtain ⟨e, he, hdescribed⟩ := find?_described (forall₂_of_mapM m.exports_eq) hd
  obtain ⟨kind, hkind, rfl⟩ := ok_of_map hdescribed
  exact ⟨e, he, hkind⟩

/-- **A declaration is that of the one export with its name.** -/
theorem declared_eq_some_iff : m.declared name = some kind ↔
    ∃ e ∈ m.wasm.exports, e.name = name ∧ m.wasm.exportKind e = .ok kind := by
  have hfound : ∀ {kind}, m.declared name = some kind →
      ∃ e ∈ m.wasm.exports, e.name = name ∧ m.wasm.exportKind e = .ok kind := by
    intro kind h
    obtain ⟨e, he, hkind⟩ := find?_of_declared h
    have hname := List.find?_some he
    exact ⟨e, List.mem_of_find?_eq_some he, beq_iff_eq.mp hname, hkind⟩
  refine ⟨hfound, ?_⟩
  rintro ⟨e, he, hname, hkind⟩
  cases hd : m.declared name with
  | none => exact absurd hname (declared_eq_none_iff.mp hd e he)
  | some kind' =>
    obtain ⟨e', he', hname', hkind'⟩ := hfound hd
    obtain rfl := List.inj_on_of_nodup_map m.wasm_runnable.exports he he' (hname.trans hname'.symm)
    rw [hkind] at hkind'
    cases hkind'
    rfl

end Module

/-! ## 2. Items -/

/-- The instance has every global and every memory of its module. -/
structure Instance.Furnished (m : Module) (i : Instance σ) : Prop where
  module : i.module = m
  globals : i.state.globals.size = m.wasm.globalTypes.length
  memories : i.state.HasMemories m.wasm.memoryTypes.length

theorem instantiate_counts {m : Module} {r : Registry σ} {w w₁ : σ} {i : Instance σ}
    (h : instantiate m r w = (.ok i, w₁)) : i.state.HasMemories m.wasm.memories.length := by
  obtain ⟨bindings, s, -, hs, rfl⟩ := instantiate_ok h
  have hstate := Wasm.initialState_counts hs
  dsimp only
  unfold runStart
  split
  · exact hstate
  · exact drive_counts _ _ _ ⟨_, w⟩ hstate

theorem Instance.performAll_counts {n : Nat} (os : List Operation) {i : Instance σ} (hi : i.state.HasMemories n)
    (w : σ) : (i.performAll os w).2.1.state.HasMemories n := by
  refine Instance.performAll_invariant (I := fun i => i.state.HasMemories n) (fun {i o w run} hi hrun => ?_) os hi w
  obtain ⟨name, args, s, f, -, rfl⟩ := Instance.engineRun?_eq_some hrun
  have hstate := drive_counts i.module.program i.slots i.module.engine.budget
    ⟨.start i.state f (args.map Value.slot) s.results.length, w⟩ hi
  exact ⟨hstate, fun _ => hstate⟩

/-- **An instance has the items of its module, whatever it was asked.** -/
theorem furnished {m : Module} {r : Registry σ} {w w₁ : σ} {i : Instance σ}
    (h : instantiate m r w = (.ok i, w₁)) (os : List Operation) : (i.performAll os w₁).2.1.Furnished m := by
  have hsound := Instance.Sound.performAll os (instantiate_sound h) w₁
  refine ⟨hsound.module, ?_, ?_⟩
  · have hlength := hsound.state.globals.length_eq
    rw [Array.length_toList] at hlength
    rw [← hlength]
    exact List.length_map _
  · rw [memoryTypes_eq hsound.serves]
    exact Instance.performAll_counts os (instantiate_counts h) w₁

section Items

variable {m : Module} {i : Instance σ} {name : String}

theorem Instance.Furnished.target?_of_find (hi : i.Furnished m) {e : Wasm.Export}
    (he : m.wasm.exports.find? (fun e => e.name == name) = some e) : i.target? name = some e.kind := by
  unfold Instance.target?
  rw [hi.module, he, Option.map_some]

/-- A global that is declared is there. -/
theorem Instance.Furnished.globalSlot?_of_declared (hi : i.Furnished m) {t : Option ValueType} {isMutable : Bool}
    (h : m.declared name = some (.global t isMutable)) : ∃ n, i.globalSlot? name = some n := by
  obtain ⟨e, he, hkind⟩ := Module.find?_of_declared h
  obtain ⟨k, g, hk, hg⟩ := exportKind_global hkind
  have hlt : k < i.state.globals.size := by
    rw [hi.globals]
    exact (List.getElem?_eq_some_iff.mp hg).1
  unfold Instance.globalSlot?
  rw [hi.target?_of_find he, hk]
  exact ⟨_, Array.getElem?_eq_getElem hlt⟩

/-- A memory that is declared is there, but it is not found if it is shared. -/
theorem Instance.Furnished.memory?_of_declared (hi : i.Furnished m) {least : Nat} {most : Option Nat}
    {shared : Bool} (h : m.declared name = some (.memory least most shared)) :
    ∃ mem, i.memory? name = if shared then none else some mem := by
  obtain ⟨e, he, hkind⟩ := Module.find?_of_declared h
  obtain ⟨k, t, hk, ht, rfl⟩ := exportKind_memory hkind
  have hlt : k < i.state.memories.size := by
    rw [hi.memories]
    exact (List.getElem?_eq_some_iff.mp ht).1
  unfold Instance.memory?
  rw [hi.target?_of_find he, hk]
  dsimp only
  rw [hi.module, ht, Array.getElem?_eq_getElem hlt]
  exact ⟨_, rfl⟩

end Items

/-! ## 3. Lookups -/

/-- Is the error that of a lookup? -/
def RuntimeError.isLookup : RuntimeError → Bool
  | .exportNotFound _ | .exportKindMismatch .. => true
  | _ => false

/-- A lookup of an item of a kind, by what is declared under the name: it finds nothing iff nothing is declared,
    and it finds another kind iff another kind is declared. -/
structure LooksUp {α : Type} (declared : Option ExternKind) (name wanted : String) (r : Except RuntimeError α) :
    Prop where
  notFound : ∀ n, r = .error (.exportNotFound n) ↔ n = name ∧ declared = none
  mismatch : ∀ n expected actual, r = .error (.exportKindMismatch n expected actual) ↔
    n = name ∧ expected = wanted ∧ ∃ kind, declared = some kind ∧ kind.name = actual ∧ actual ≠ wanted

section Lookups

variable {α : Type} {name wanted : String} {kind : ExternKind} {r : Except RuntimeError α}

theorem looksUp_missing : LooksUp none name wanted (.error (.exportNotFound name) : Except RuntimeError α) := by
  refine ⟨fun n => ?_, fun n expected actual => ?_⟩
  · simp [eq_comm]
  · simp

theorem looksUp_other (hkind : kind.name ≠ wanted) :
    LooksUp (some kind) name wanted (.error (.exportKindMismatch name wanted kind.name) : Except RuntimeError α) := by
  refine ⟨fun n => ?_, fun n expected actual => ?_⟩
  · simp
  · constructor
    · intro h
      cases h
      exact ⟨rfl, rfl, kind, rfl, rfl, hkind⟩
    · rintro ⟨rfl, rfl, kind', hkind', rfl, -⟩
      cases hkind'
      rfl

theorem looksUp_found (hkind : kind.name = wanted) (h : ∀ e, r = .error e → e.isLookup = false) :
    LooksUp (some kind) name wanted r := by
  refine ⟨fun n => ?_, fun n expected actual => ?_⟩
  · constructor
    · intro hr
      cases h _ hr
    · rintro ⟨-, hnone⟩
      cases hnone
  · constructor
    · intro hr
      cases h _ hr
    · rintro ⟨-, -, kind', hkind', rfl, hother⟩
      cases hkind'
      exact absurd hkind hother

/-- Two results with the same errors of lookups. -/
theorem LooksUp.of_agree {β : Type} {declared : Option ExternKind} {r' : Except RuntimeError β}
    (h : LooksUp declared name wanted r) (hagree : ∀ e, e.isLookup = true → (r' = .error e ↔ r = .error e)) :
    LooksUp declared name wanted r' where
  notFound n := (hagree _ rfl).trans (h.notFound n)
  mismatch n expected actual := (hagree _ rfl).trans (h.mismatch n expected actual)

/-- **A lookup asks for the declaration first**, refuses one of another kind, and goes on with one of its own. -/
theorem Instance.looksUp_bind {i : Instance σ} {found : ExportDeclaration → Except RuntimeError α}
    (hother : ∀ d, d.kind.name ≠ wanted → found d = .error (.exportKindMismatch name wanted d.kind.name))
    (hfound : ∀ kind, i.module.declared name = some kind → kind.name = wanted →
      ∀ e, i.exportOf name >>= found = .error e → e.isLookup = false) :
    LooksUp (i.module.declared name) name wanted (i.exportOf name >>= found) := by
  cases hd : i.module.export? name with
  | none =>
    unfold Module.declared Instance.exportOf
    rw [hd]
    exact looksUp_missing
  | some d =>
    have hdeclared : i.module.declared name = some d.kind := by
      unfold Module.declared
      rw [hd, Option.map_some]
    by_cases hkind : d.kind.name = wanted
    · have hnone := hfound d.kind hdeclared hkind
      rw [hdeclared]
      exact looksUp_found hkind hnone
    · have hexport : i.exportOf name = .ok d := by
        unfold Instance.exportOf
        rw [hd]
      rw [hdeclared, hexport]
      show LooksUp _ _ _ (found d)
      rw [hother d hkind]
      exact looksUp_other hkind

end Lookups

namespace Instance

variable {m : Module} {i : Instance σ} {name : String}

theorem exportSignature_looksUp (i : Instance σ) (name : String) :
    LooksUp (i.module.declared name) name "function" (i.exportSignature name) := by
  refine looksUp_bind (fun d hd => ?_) (fun kind hdeclared hkind e he => ?_)
  · obtain ⟨n, kind⟩ := d
    cases kind with
    | function s => exact absurd rfl hd
    | memory | global | table => rfl
  · obtain ⟨⟨_, kind⟩, hd, rfl⟩ := Option.map_eq_some_iff.mp hdeclared
    have hanswer := (exportSignature_of_export hd).symm.trans he
    cases kind with
    | function s => cases hanswer
    | memory | global | table => simp [ExternKind.name] at hkind

/-- Once the signature is known a call is not refused for want of the function. -/
theorem isLookup_of_admitCall {args : List Value} {s : Signature} {e : RuntimeError}
    (hs : i.exportSignature name = .ok s) (h : i.admitCall name args = .error e) : e.isLookup = false := by
  obtain ⟨f, -, hf, -⟩ := exportSignature_described hs
  unfold admitCall at h
  rw [hs] at h
  dsimp only [bind, Except.bind] at h
  split at h
  · cases h
    rfl
  · split at h
    · rw [hf] at h
      cases h
    · cases h
      rfl

theorem invoke_error_iff (i : Instance σ) (name : String) (args : List Value) (w : σ) {e : RuntimeError}
    (he : e.isLookup = true) : (i.invoke name args w).1 = .error e ↔ i.exportSignature name = .error e := by
  cases hs : i.exportSignature name with
  | error e' =>
    rw [invoke_of_refused (admitCall_of_error hs args) w]
    constructor
    · intro h
      cases h
      rfl
    · intro h
      cases h
      rfl
  | ok s =>
    refine ⟨fun h => ?_, fun h => nomatch h⟩
    rcases invoke_error h with hrefused | ⟨fault, rfl⟩
    · rw [isLookup_of_admitCall hs hrefused] at he
      cases he
    · cases he

theorem invoke_looksUp (i : Instance σ) (name : String) (args : List Value) (w : σ) :
    LooksUp (i.module.declared name) name "function" (i.invoke name args w).1 :=
  (i.exportSignature_looksUp name).of_agree fun _ he => i.invoke_error_iff name args w he

/-- A memory that is declared is asked for, and read if it is there. -/
theorem readMemory_of_declared {least : Nat} {most : Option Nat} {shared : Bool}
    (h : i.module.declared name = some (.memory least most shared)) (offset length : Nat) :
    i.readMemory name offset length =
      match i.memory? name with
      | none => .error (.exportNotFound name)
      | some mem =>
        if mem.inRange offset length then .ok (mem.readBytes offset length)
        else .error (.memoryAccess name offset length mem.size) := by
  obtain ⟨⟨_, kind⟩, hd, rfl⟩ := Option.map_eq_some_iff.mp h
  unfold Instance.readMemory Instance.exportOf
  rw [hd]
  rfl

section Furnished

variable (hi : i.Furnished m)

include hi

/-- What an instance answers for a global. -/
theorem Furnished.global_eq {t : Option ValueType} {isMutable : Bool}
    (h : m.declared name = some (.global t isMutable)) : ∃ n, i.global name =
      match t with
      | some t => .ok (Value.ofSlot t n)
      | none =>
        .error (.arityOrTypeMismatch name "a numeric global" "engine value has no host representation") := by
  obtain ⟨n, hn⟩ := hi.globalSlot?_of_declared h
  obtain ⟨⟨_, kind⟩, hd, rfl⟩ := Option.map_eq_some_iff.mp h
  refine ⟨n, ?_⟩
  unfold Instance.global Instance.exportOf
  rw [hi.module, hd, hn]
  cases t <;> rfl

/-- What an instance answers for a memory: nothing is found if it is shared. -/
theorem Furnished.readMemory_eq {least : Nat} {most : Option Nat} {shared : Bool}
    (h : m.declared name = some (.memory least most shared)) : ∃ mem : Wasm.Memory, ∀ offset length,
      i.readMemory name offset length =
        if shared then .error (.exportNotFound name)
        else if mem.inRange offset length then .ok (mem.readBytes offset length)
        else .error (.memoryAccess name offset length mem.size) := by
  obtain ⟨mem, hmem⟩ := hi.memory?_of_declared h
  refine ⟨mem, fun offset length => ?_⟩
  rw [readMemory_of_declared (by rw [hi.module]; exact h), hmem]
  cases shared <;> rfl

theorem Furnished.global_looksUp : LooksUp (m.declared name) name "global" (i.global name) := by
  rw [← hi.module]
  refine looksUp_bind (fun d hd => ?_) (fun kind hdeclared hkind e he => ?_)
  · obtain ⟨n, kind⟩ := d
    cases kind with
    | global => exact absurd rfl hd
    | function | memory | table => rfl
  · rw [hi.module] at hdeclared
    cases kind with
    | global t isMutable =>
      obtain ⟨n, hanswer⟩ := hi.global_eq hdeclared
      have hanswer := hanswer.symm.trans he
      cases t with
      | none =>
        cases hanswer
        rfl
      | some t => cases hanswer
    | function | memory | table => simp [ExternKind.name] at hkind

theorem Furnished.readMemory_looksUp (hshared : ∀ least most, m.declared name ≠ some (.memory least most true))
    (offset length : Nat) : LooksUp (m.declared name) name "memory" (i.readMemory name offset length) := by
  rw [← hi.module]
  refine looksUp_bind (fun d hd => ?_) (fun kind hdeclared hkind e he => ?_)
  · obtain ⟨n, kind⟩ := d
    cases kind with
    | memory => exact absurd rfl hd
    | function | global | table => rfl
  · rw [hi.module] at hdeclared
    cases kind with
    | memory least most shared =>
      obtain ⟨mem, hanswer⟩ := hi.readMemory_eq hdeclared
      have hanswer := (hanswer offset length).symm.trans he
      cases shared with
      | true => exact absurd hdeclared (hshared least most)
      | false =>
        rw [if_neg Bool.false_ne_true] at hanswer
        split at hanswer
        · cases hanswer
        · cases hanswer
          rfl
    | function | global | table => simp [ExternKind.name] at hkind

end Furnished

end Instance

/-! ## 4. The law -/

/-- What an instance of a module answers for a name, by what the module declares under it. -/
structure ExportsFound (m : Module) (i : Instance σ) (name : String) : Prop where
  /-- The declarations are those of the exports. -/
  declared : (m.declared name = none ↔ ∀ e ∈ m.wasm.exports, e.name ≠ name) ∧
    ∀ kind, m.declared name = some kind ↔
      ∃ e ∈ m.wasm.exports, e.name = name ∧ m.wasm.exportKind e = .ok kind
  signature : LooksUp (m.declared name) name "function" (i.exportSignature name)
  call : ∀ args w, LooksUp (m.declared name) name "function" (i.invoke name args w).1
  global : LooksUp (m.declared name) name "global" (i.global name)
  /-- A memory that is not shared is found. -/
  memory : (∀ least most, m.declared name ≠ some (.memory least most true)) →
    ∀ offset length, LooksUp (m.declared name) name "memory" (i.readMemory name offset length)
  /-- A memory that is shared is declared and not found. -/
  shared : ∀ least most, m.declared name = some (.memory least most true) →
    ∀ offset length, i.readMemory name offset length = .error (.exportNotFound name)
  /-- A global has a value of its type, if hosts know values of it. -/
  value : ∀ t isMutable, m.declared name = some (.global t isMutable) →
    (∀ type, (∃ v, i.global name = .ok v ∧ v.type = type) ↔ t = some type) ∧
    ((∃ n expected actual, i.global name = .error (.arityOrTypeMismatch n expected actual)) ↔ t = none)
  /-- A memory has a size, and gives the bytes of every range in it. -/
  bytes : ∀ least most, m.declared name = some (.memory least most false) →
    ∃ size, ∀ offset length,
      if offset + length ≤ size then ∃ bytes, i.readMemory name offset length = .ok bytes ∧ bytes.length = length
      else i.readMemory name offset length = .error (.memoryAccess name offset length size)

/-- **What is exported is found**, in an instance that was asked anything before, but for a shared memory. -/
theorem exportsFound {m : Module} {r : Registry σ} {w w₁ : σ} {i : Instance σ}
    (h : instantiate m r w = (.ok i, w₁)) (os : List Operation) (name : String) :
    ExportsFound m (i.performAll os w₁).2.1 name where
  declared := ⟨Module.declared_eq_none_iff, fun _ => Module.declared_eq_some_iff⟩
  signature := by
    rw [← (furnished h os).module]
    exact Instance.exportSignature_looksUp _ name
  call args w := by
    rw [← (furnished h os).module]
    exact Instance.invoke_looksUp _ name args w
  global := (furnished h os).global_looksUp
  memory hshared := (furnished h os).readMemory_looksUp hshared
  shared least most hdeclared offset length := by
    obtain ⟨mem, hanswer⟩ := (furnished h os).readMemory_eq hdeclared
    exact hanswer offset length
  value t isMutable hdeclared := by
    obtain ⟨n, hanswer⟩ := (furnished h os).global_eq hdeclared
    rw [hanswer]
    cases t with
    | none => simp
    | some t => simp [Value.type_ofSlot]
  bytes least most hdeclared := by
    obtain ⟨mem, hanswer⟩ := (furnished h os).readMemory_eq hdeclared
    refine ⟨mem.size, fun offset length => ?_⟩
    have hanswer := hanswer offset length
    rw [if_neg Bool.false_ne_true] at hanswer
    unfold Wasm.Memory.inRange at hanswer
    split
    · rename_i hin
      rw [if_pos (decide_eq_true hin)] at hanswer
      exact ⟨_, hanswer, by simp [Wasm.Memory.readBytes]⟩
    · rename_i hout
      rwa [if_neg fun hin => hout (of_decide_eq_true hin)] at hanswer

/-- A module that exports one item of each kind, and a function that counts up a global and traps. -/
def stockedWasm : Wasm.Module where
  types := [.ofFunc ⟨[], []⟩]
  funcs := [0]
  tables := [⟨⟨⟨true, .func⟩, ⟨1, none⟩, false, false⟩, none⟩]
  memories := [⟨⟨1, some 2⟩, false, false, false⟩]
  globals := [⟨⟨.num .i32, true, false⟩, [.const (.i32 7), .end_]⟩,
    ⟨⟨.ref ⟨true, .func⟩, false, false⟩, [.refNull .func, .end_]⟩]
  exports := [⟨"go", .func 0⟩, ⟨"count", .global 0⟩, ⟨"hook", .global 1⟩, ⟨"page", .memory 0⟩, ⟨"table", .table 0⟩]
  bodies := [⟨[], [.globalGet 0, .const (.i32 1), .numeric (.intBinary .w32 .add), .globalSet 0, .unreachable, .end_]⟩]

/-- The same, loaded. -/
def stocked : Module where
  engine := { id := 0, config := {}, budget := 8 }
  wasm := stockedWasm
  program := stockedWasm.program
  imports := []
  exports := [⟨"go", .function ⟨[], []⟩⟩, ⟨"count", .global (some .i32) true⟩, ⟨"hook", .global none false⟩,
    ⟨"page", .memory 1 (some 2) false⟩, ⟨"table", .table 1 none⟩]
  valid := by rfl
  runnable := by rfl
  program_eq := rfl
  imports_eq := rfl
  exports_eq := by rfl

/-- After a trap that left the global changed, each name is found as it was declared. -/
theorem exportsFound_stocked :
    ∃ i : Instance Unit, instantiate stocked .empty () = (.ok i, ()) ∧
      let after := (i.performAll [.invoke "go" []] ()).2.1
      (∀ name, ExportsFound stocked after name) ∧ after.isReady = false ∧
        after.global "count" = .ok (.i32 8) ∧
        after.global "page" = .error (.exportKindMismatch "page" "global" "memory") ∧
        after.readMemory "page" 65535 1 = .ok [0] ∧
        (after.invoke "gone" [] ()).1 = .error (.exportNotFound "gone") :=
  ⟨_, rfl, @exportsFound Unit stocked .empty () () _ rfl _, by decide +kernel⟩

/-- A module that exports a shared memory. -/
def pooledWasm : Wasm.Module where
  memories := [⟨⟨1, some 1⟩, true, false, false⟩]
  exports := [⟨"m", .memory 0⟩]

/-- The same, loaded. -/
def pooled : Module where
  engine := { id := 0, config := {}, budget := 8 }
  wasm := pooledWasm
  program := pooledWasm.program
  imports := []
  exports := [⟨"m", .memory 1 (some 1) true⟩]
  valid := by rfl
  runnable := by rfl
  program_eq := rfl
  imports_eq := rfl
  exports_eq := by rfl

/-- **A shared memory is declared and reported missing.** -/
theorem missing_shared :
    pooled.declared "m" = some (.memory 1 (some 1) true) ∧
      ∃ i : Instance Unit, instantiate pooled .empty () = (.ok i, ()) ∧
        i.readMemory "m" 0 1 = .error (.exportNotFound "m") ∧
        ¬ LooksUp (pooled.declared "m") "m" "memory" (i.readMemory "m" 0 1) := by
  refine ⟨rfl, _, rfl, rfl, fun h => ?_⟩
  cases ((h.notFound "m").mp rfl).2

end Embedder
