import Embedder.Proofs.Interface
import Embedder.Proofs.Wasm.Sections

/-!
# Which modules are admitted

A module that is valid and that the engine can run is admitted iff the functions between it and its host take and
return numbers only. Nothing else in it can have it turned away, and what it is turned away for is the first type, of
the first item, that is in the way. All this holds whoever has judged the bodies of its functions, so also for
instructions that the machine does not know.

* `hostTypes_eq_error_iff`, `Signature.ofFuncType_eq_error_iff` -- the first type that is no number;
* `ItemType` -- the type that a module declares an item with; `importType?_isSome`, `exportType?_isSome` -- every item
  of a module that was checked has one;
* `FirstOffence` -- the item and the type that are in the way;
* **`boundaryChecked`** -- a module is admitted iff there is no offence, and what it declares is then what it has.
-/

namespace Embedder

open Wasm

/-! ## 1. Types -/

/-- The first of some types that is no number. -/
def FirstForeign (ts : List (ValType Nat)) (v : ValType Nat) : Prop :=
  ∃ before after, ts = before ++ v :: after ∧ (∀ t ∈ before, ∃ n, t = .num n) ∧ ¬ ∃ n, v = .num n

/-- All types of a function are numbers. -/
def Numeric (t : FuncType Nat) : Prop := ∀ v ∈ t.params ++ t.results, ∃ n, v = .num n

theorem firstForeign_num {n : ValueType} {ts : List (ValType Nat)} {v : ValType Nat} :
    FirstForeign (.num n :: ts) v ↔ FirstForeign ts v := by
  constructor
  · rintro ⟨_ | ⟨t, before⟩, after, heq, hbefore, hv⟩
    · cases heq
      exact absurd ⟨n, rfl⟩ hv
    · cases heq
      exact ⟨before, after, rfl, (List.forall_mem_cons.mp hbefore).2, hv⟩
  · rintro ⟨before, after, rfl, hbefore, hv⟩
    exact ⟨.num n :: before, after, rfl, List.forall_mem_cons.mpr ⟨⟨n, rfl⟩, hbefore⟩, hv⟩

theorem firstForeign_foreign {t v : ValType Nat} {ts : List (ValType Nat)} (ht : ¬ ∃ n, t = .num n) :
    FirstForeign (t :: ts) v ↔ v = t := by
  constructor
  · rintro ⟨_ | ⟨t', before⟩, after, heq, hbefore, -⟩
    · cases heq
      rfl
    · cases heq
      exact absurd (hbefore t List.mem_cons_self) ht
  · rintro rfl
    exact ⟨[], ts, rfl, fun _ h => absurd h List.not_mem_nil, ht⟩

theorem hostTypes_eq_error_iff {v : ValType Nat} : ∀ {ts : List (ValType Nat)},
    hostTypes ts = .error v ↔ FirstForeign ts v
  | [] => by
      constructor
      · intro h
        cases h
      · rintro ⟨_ | ⟨t, before⟩, after, heq, -⟩ <;> cases heq
  | .num t :: ts => by
      rw [firstForeign_num, ← hostTypes_eq_error_iff]
      show (hostTypes ts).map (t :: ·) = .error v ↔ _
      cases hostTypes ts <;> simp [Except.map]
  | .v128 :: ts => by
      rw [firstForeign_foreign (by simp)]
      simp [hostTypes, eq_comm]
  | .ref r :: ts => by
      rw [firstForeign_foreign (by simp)]
      simp [hostTypes, eq_comm]

theorem hostTypes_append : ∀ (ts us : List (ValType Nat)),
    hostTypes (ts ++ us) = hostTypes ts >>= fun vs => (hostTypes us).map (vs ++ ·)
  | [], us => by
      show hostTypes us = (hostTypes us).map id
      cases hostTypes us <;> rfl
  | .num t :: ts, us => by
      show (hostTypes (ts ++ us)).map (t :: ·) = (hostTypes ts).map (t :: ·) >>= _
      rw [hostTypes_append ts us]
      cases hostTypes ts with
      | error v => rfl
      | ok vs => cases hostTypes us <;> rfl
  | .v128 :: ts, us => rfl
  | .ref r :: ts, us => rfl

namespace Signature

variable {t : FuncType Nat}

/-- A signature is a function type of numbers. -/
theorem ofFuncType_eq_ok_iff {s : Signature} :
    ofFuncType t = .ok s ↔ t = ⟨s.params.map .num, s.results.map .num⟩ := by
  constructor
  · intro h
    obtain ⟨params, hparams, h⟩ := ok_of_bind h
    obtain ⟨results, hresults, h⟩ := ok_of_bind h
    cases h
    rw [← hostTypes_eq_ok_iff.mp hparams, ← hostTypes_eq_ok_iff.mp hresults]
  · rintro rfl
    unfold ofFuncType
    rw [hostTypes_eq_ok_iff.mpr rfl, hostTypes_eq_ok_iff.mpr rfl]
    rfl

/-- **A function type has no signature because of the first type that is no number**, parameters before results. -/
theorem ofFuncType_eq_error_iff {v : ValType Nat} :
    ofFuncType t = .error v ↔ FirstForeign (t.params ++ t.results) v := by
  rw [← hostTypes_eq_error_iff, hostTypes_append]
  unfold ofFuncType
  cases hostTypes t.params with
  | error w => simp [bind, Except.bind]
  | ok ps => cases hostTypes t.results <;> simp [bind, Except.bind, Except.map, pure, Except.pure]

theorem ofFuncType_isOk_iff : (∃ s, ofFuncType t = .ok s) ↔ Numeric t := by
  unfold Numeric
  constructor
  · rintro ⟨s, hs⟩
    rw [ofFuncType_eq_ok_iff.mp hs]
    intro v hv
    rw [← List.map_append, List.mem_map] at hv
    obtain ⟨n, -, rfl⟩ := hv
    exact ⟨n, rfl⟩
  · intro hall
    cases h : ofFuncType t with
    | ok s => exact ⟨s, rfl⟩
    | error v =>
      obtain ⟨before, after, hsplit, -, hv⟩ := ofFuncType_eq_error_iff.mp h
      exact absurd (hall v (by rw [hsplit]; simp)) hv

end Signature

/-! ## 2. Items -/

/-- The type that a module declares an item with. -/
inductive ItemType where
  | func (t : FuncType Nat)
  | memory (t : MemoryType)
  | table (t : TableType Nat)
  | global (t : GlobalType Nat)

namespace ItemType

/-- How a host is told of the type of an item: functions by their types, memories and tables by their limits, and
    globals by the type of number that they hold, if it is one. -/
inductive Told : ItemType → ExternKind → Prop where
  | func (params results : List ValueType) :
      Told (.func ⟨params.map .num, results.map .num⟩) (.function ⟨params, results⟩)
  | memory (t : MemoryType) : Told (.memory t) (.memory t.limits.minimum t.limits.maximum t.shared)
  | table (t : TableType Nat) : Told (.table t) (.table t.limits.minimum t.limits.maximum)
  | global (t : GlobalType Nat) : Told (.global t) (.global t.content.number? t.mutable)

/-- Only a function of other types than numbers cannot cross the boundary. -/
def Crosses (t : ItemType) : Prop := ∀ f, t = .func f → Numeric f

/-- The description of an item, named in a complaint as `item`. -/
def describe (item : String) : ItemType → Except String ExternKind
  | .func t => describeFunc item t
  | .memory t => .ok (describeMemory t)
  | .table t => .ok (describeTable t)
  | .global t => .ok (describeGlobal t)

variable {item : String} {t : ItemType}

theorem told_of_describe {kind : ExternKind} (h : t.describe item = .ok kind) : Told t kind := by
  cases t with
  | func f =>
    unfold describe describeFunc at h
    dsimp only at h
    split at h
    · rename_i s hs
      cases h
      rw [Signature.ofFuncType_eq_ok_iff.mp hs]
      exact .func s.params s.results
    · cases h
  | memory t =>
    cases h
    exact .memory t
  | table t =>
    cases h
    exact .table t
  | global t =>
    cases h
    exact .global t

theorem describe_isOk_iff : (∃ kind, t.describe item = .ok kind) ↔ t.Crosses := by
  cases t with
  | func f =>
    have hnumeric : Crosses (.func f) ↔ Numeric f :=
      ⟨fun h => h f rfl, fun h g hg => by cases hg; exact h⟩
    rw [hnumeric, ← Signature.ofFuncType_isOk_iff]
    unfold describe describeFunc
    cases h : Signature.ofFuncType f <;> simp [h]
  | memory t => exact ⟨fun _ f hf => (nomatch hf), fun _ => ⟨_, rfl⟩⟩
  | table t => exact ⟨fun _ f hf => (nomatch hf), fun _ => ⟨_, rfl⟩⟩
  | global t => exact ⟨fun _ f hf => (nomatch hf), fun _ => ⟨_, rfl⟩⟩

theorem describe_eq_error_iff {complaint : String} : t.describe item = .error complaint ↔
    ∃ f v, t = .func f ∧ FirstForeign (f.params ++ f.results) v ∧ complaint = boundaryText item v := by
  cases t with
  | func f =>
    simp only [← Signature.ofFuncType_eq_error_iff]
    unfold describe describeFunc
    cases h : Signature.ofFuncType f <;> simp [h, eq_comm]
  | memory t => simp [describe]
  | table t => simp [describe]
  | global t => simp [describe]

end ItemType

/-- How a complaint names an import. -/
def Wasm.Import.item (i : Import) : String := "import " ++ i.module ++ "." ++ i.name

/-- How a complaint names an export. -/
def Wasm.Export.item (e : Export) : String := "export " ++ e.name

namespace Wasm.Module

variable {β : Type}

/-- The type of an import. There are no tags at the boundary. -/
def importType? (m : Wasm.Module β) (i : Import) : Option ItemType :=
  match i.kind with
  | .func j => (m.funcType? j).map .func
  | .memory t => some (.memory t)
  | .table t => some (.table t)
  | .global t => some (.global t)
  | .tag _ => none

/-- The type of an export, which may be that of an import. -/
def exportType? (m : Wasm.Module β) (e : Export) : Option ItemType :=
  match e.kind with
  | .func k => (m.typeOfFunc? k).map .func
  | .memory k => m.memoryTypes[k]?.map .memory
  | .table k => m.tableTypes[k]?.map .table
  | .global k => m.globalTypes[k]?.map .global
  | .tag _ => none

section Items

variable {check : Context → FuncType Nat → β → Check Unit} {m : Wasm.Module β} {t : ItemType}

theorem importKind_eq {i : Import} (h : m.importType? i = some t) : m.importKind i = t.describe i.item := by
  unfold importType? at h
  unfold importKind
  cases hkind : i.kind with
  | func j =>
    rw [hkind] at h
    obtain ⟨f, hf, rfl⟩ := Option.map_eq_some_iff.mp h
    simp only [hf]
    rfl
  | memory t | table t | global t =>
    rw [hkind] at h
    cases h
    rfl
  | tag j =>
    rw [hkind] at h
    cases h

theorem exportKind_eq {e : Export} (h : m.exportType? e = some t) : m.exportKind e = t.describe e.item := by
  unfold exportType? at h
  unfold exportKind
  cases hkind : e.kind with
  | func k | memory k | table k | global k =>
    rw [hkind] at h
    obtain ⟨x, hx, rfl⟩ := Option.map_eq_some_iff.mp h
    simp only [hx]
    rfl
  | tag k =>
    rw [hkind] at h
    cases h

/-- The features of the engine leave out exceptions, so there are no tags. -/
theorem checkTag_runnable (j : Nat) : (m.context .runnable).checkTag j ≠ .ok () := by
  intro h
  obtain ⟨_, h, -⟩ := ok_of_bind h
  cases h

theorem Checked.not_tag (h : m.Checked check) {i : Import} (hi : i ∈ m.imports) (j : Nat) : i.kind ≠ .tag j := by
  intro hkind
  have hcheck := h.imported i hi
  unfold Context.checkImport at hcheck
  rw [hkind] at hcheck
  exact checkTag_runnable j hcheck

theorem Checked.funcType?_import (h : m.Checked check) {i : Import} (hi : i ∈ m.imports) {j : Nat}
    (hkind : i.kind = .func j) : ∃ f, m.funcType? j = some f := by
  have hcheck := h.imported i hi
  unfold Context.checkImport at hcheck
  rw [hkind] at hcheck
  obtain ⟨f, hf, -⟩ := ok_of_bind hcheck
  exact ⟨f, funcType?_eq rfl hf⟩

/-- **Every import of a module that was checked has a type.** -/
theorem Checked.importType?_isSome (h : m.Checked check) {i : Import} (hi : i ∈ m.imports) :
    ∃ t, m.importType? i = some t := by
  unfold importType?
  cases hkind : i.kind with
  | func j =>
    obtain ⟨f, hf⟩ := h.funcType?_import hi hkind
    exact ⟨.func f, by simp only [hf]; rfl⟩
  | memory t => exact ⟨_, rfl⟩
  | table t => exact ⟨_, rfl⟩
  | global t => exact ⟨_, rfl⟩
  | tag j => exact absurd hkind (h.not_tag hi j)

theorem Checked.typeOfFunc?_isSome (h : m.Checked check) {k : Nat} (hk : k < m.funcIndices.length) :
    ∃ f, m.typeOfFunc? k = some f := by
  have hmem : m.funcIndices[k] ∈ m.imports.filterMap Import.func? ++ m.funcs := List.getElem_mem hk
  have hj : ∃ f, m.funcType? m.funcIndices[k] = some f := by
    rcases List.mem_append.mp hmem with himport | hown
    · obtain ⟨i, hi, hfunc⟩ := List.mem_filterMap.mp himport
      refine h.funcType?_import hi ?_
      unfold Import.func? at hfunc
      split at hfunc
      · rename_i hkind
        cases hfunc
        exact hkind
      · cases hfunc
    · obtain ⟨f, hf⟩ := h.funcs _ hown
      exact ⟨f, funcType?_eq rfl hf⟩
  obtain ⟨f, hf⟩ := hj
  exact ⟨f, by rw [typeOfFunc?, List.getElem?_eq_getElem hk]; exact hf⟩

theorem Checked.tagIndices_eq_nil (h : m.Checked check) : m.tagIndices = [] := by
  refine List.eq_nil_iff_forall_not_mem.mpr fun j hj => ?_
  rcases List.mem_append.mp hj with himport | hown
  · obtain ⟨i, hi, htag⟩ := List.mem_filterMap.mp himport
    split at htag
    · exact h.not_tag hi _ ‹_›
    · cases htag
  · exact checkTag_runnable j (h.tags j hown)

/-- **Every export of a module that was checked has a type.** -/
theorem Checked.exportType?_isSome (h : m.Checked check) {e : Export} (he : e ∈ m.exports) :
    ∃ t, m.exportType? e = some t := by
  have hcheck := h.exported e he
  unfold Context.checkExport at hcheck
  unfold exportType?
  cases hkind : e.kind with
  | func k =>
    rw [hkind] at hcheck
    have hk : k < m.funcIndices.length := by simpa [context] using ensure_eq_ok.mp hcheck
    obtain ⟨f, hf⟩ := h.typeOfFunc?_isSome hk
    exact ⟨.func f, by simp only [hf]; rfl⟩
  | memory k =>
    rw [hkind] at hcheck
    have hk : k < m.memoryTypes.length := by simpa [context] using ensure_eq_ok.mp hcheck
    exact ⟨.memory m.memoryTypes[k], by simp only [List.getElem?_eq_getElem hk]; rfl⟩
  | table k =>
    rw [hkind] at hcheck
    have hk : k < m.tableTypes.length := by simpa [context] using ensure_eq_ok.mp hcheck
    exact ⟨.table m.tableTypes[k], by simp only [List.getElem?_eq_getElem hk]; rfl⟩
  | global k =>
    rw [hkind] at hcheck
    have hk : k < m.globalTypes.length := by simpa [context] using ensure_eq_ok.mp hcheck
    exact ⟨.global m.globalTypes[k], by simp only [List.getElem?_eq_getElem hk]; rfl⟩
  | tag k =>
    rw [hkind] at hcheck
    have hk : k < m.tagIndices.length := by simpa [context] using ensure_eq_ok.mp hcheck
    rw [h.tagIndices_eq_nil] at hk
    exact absurd hk (Nat.not_lt_zero k)

end Items

end Wasm.Module

/-! ## 3. The first item in the way -/

section Items

variable {α β : Type}

/-- All functions among some items take and return numbers only. -/
def AllCross (type? : α → Option ItemType) (xs : List α) : Prop :=
  ∀ x ∈ xs, ∀ f, type? x = some (.func f) → Numeric f

/-- The name of the first function among some items that does not, and the first of its types that is no number. -/
def FirstIn (type? : α → Option ItemType) (item : α → String) (xs : List α) (name : String) (v : ValType Nat) : Prop :=
  ∃ before x after f, xs = before ++ x :: after ∧ AllCross type? before ∧ type? x = some (.func f) ∧
    FirstForeign (f.params ++ f.results) v ∧ name = item x

/-- Items are described by their types. -/
def DescribedBy (type? : α → Option ItemType) (item : α → String) (describe : α → Except String β) (xs : List α) :
    Prop :=
  ∀ x ∈ xs, ∃ t kind, type? x = some t ∧ describe x = (t.describe (item x)).map kind

variable {type? : α → Option ItemType} {item : α → String} {describe : α → Except String β} {xs : List α}

theorem DescribedBy.cross_iff (h : DescribedBy type? item describe xs) :
    (∀ x ∈ xs, ∃ d, describe x = .ok d) ↔ AllCross type? xs := by
  refine forall₂_congr fun x hx => ?_
  obtain ⟨t, kind, ht, hdescribe⟩ := h x hx
  have hcross : (∃ k, t.describe (item x) = .ok k) ↔ t.Crosses := ItemType.describe_isOk_iff
  rw [hdescribe, map_isOk_iff, hcross]
  simp only [ht, Option.some.injEq]
  exact Iff.rfl

theorem DescribedBy.isOk_iff (h : DescribedBy type? item describe xs) :
    (∃ ds, xs.mapM describe = .ok ds) ↔ AllCross type? xs := by
  rw [mapM_isOk_iff, h.cross_iff]

/-- **Items cannot be described because of the first one in the way.** -/
theorem DescribedBy.eq_error_iff (h : DescribedBy type? item describe xs) {complaint : String} :
    xs.mapM describe = .error complaint ↔
      ∃ name v, FirstIn type? item xs name v ∧ complaint = boundaryText name v := by
  rw [mapM_eq_error_iff]
  constructor
  · rintro ⟨before, x, after, rfl, hbefore, hx⟩
    obtain ⟨hearlier, hlater⟩ := List.forall_mem_append.mp h
    obtain ⟨t, kind, ht, hdescribe⟩ := hlater x List.mem_cons_self
    rw [hdescribe, map_eq_error_iff, ItemType.describe_eq_error_iff] at hx
    obtain ⟨f, v, rfl, hv, rfl⟩ := hx
    exact ⟨item x, v, ⟨before, x, after, f, rfl, (cross_iff hearlier).mp hbefore, ht, hv, rfl⟩, rfl⟩
  · rintro ⟨_, v, ⟨before, x, after, f, rfl, hbefore, hf, hv, rfl⟩, rfl⟩
    obtain ⟨hearlier, hlater⟩ := List.forall_mem_append.mp h
    obtain ⟨t, kind, ht, hdescribe⟩ := hlater x List.mem_cons_self
    cases hf.symm.trans ht
    refine ⟨before, x, after, rfl, (cross_iff hearlier).mpr hbefore, ?_⟩
    rw [hdescribe, map_eq_error_iff, ItemType.describe_eq_error_iff]
    exact ⟨f, v, rfl, hv, rfl⟩

end Items

/-! ## 4. Loading -/

section Offences

variable {β : Type}

namespace Wasm.Module

/-- **The offence of a module**: the first function in the way, imports before exports, and the first type of it that is
    no number. -/
def FirstOffence (m : Wasm.Module β) (name : String) (v : ValType Nat) : Prop :=
  FirstIn m.importType? Import.item m.imports name v ∨
    AllCross m.importType? m.imports ∧ FirstIn m.exportType? Export.item m.exports name v

variable {check : Context → FuncType Nat → β → Check Unit} {m : Wasm.Module β}

theorem Checked.imports_describedBy (h : m.Checked check) :
    DescribedBy m.importType? Import.item m.describeImport m.imports := by
  intro i hi
  obtain ⟨t, ht⟩ := h.importType?_isSome hi
  exact ⟨t, fun kind => ⟨i.module, i.name, kind⟩, ht, by rw [describeImport, importKind_eq ht]⟩

theorem Checked.exports_describedBy (h : m.Checked check) :
    DescribedBy m.exportType? Export.item m.describeExport m.exports := by
  intro e he
  obtain ⟨t, ht⟩ := h.exportType?_isSome he
  exact ⟨t, fun kind => ⟨e.name, kind⟩, ht, by rw [describeExport, exportKind_eq ht]⟩

/-- What is said of a module that cannot be described. -/
def Refused (m : Wasm.Module β) (complaint : String) : Prop :=
  m.imports.mapM m.describeImport = .error complaint ∨
    (∃ ds, m.imports.mapM m.describeImport = .ok ds) ∧ m.exports.mapM m.describeExport = .error complaint

theorem Refused.unique {c c' : String} (h : m.Refused c) (h' : m.Refused c') : c = c' := by
  rcases h with h | ⟨⟨ds, hds⟩, h⟩ <;> rcases h' with h' | ⟨⟨ds', hds'⟩, h'⟩
  · cases h.symm.trans h'
    rfl
  · cases h.symm.trans hds'
  · cases hds.symm.trans h'
  · cases h.symm.trans h'
    rfl

theorem Checked.refused_iff (h : m.Checked check) {complaint : String} :
    m.Refused complaint ↔ ∃ name v, m.FirstOffence name v ∧ complaint = boundaryText name v := by
  unfold Refused FirstOffence
  rw [h.imports_describedBy.eq_error_iff, h.imports_describedBy.isOk_iff, h.exports_describedBy.eq_error_iff]
  constructor
  · rintro (⟨name, v, hfirst, rfl⟩ | ⟨hall, name, v, hfirst, rfl⟩)
    · exact ⟨name, v, .inl hfirst, rfl⟩
    · exact ⟨name, v, .inr ⟨hall, hfirst⟩, rfl⟩
  · rintro ⟨name, v, hfirst | ⟨hall, hfirst⟩, rfl⟩
    · exact .inl ⟨name, v, hfirst, rfl⟩
    · exact .inr ⟨hall, name, v, hfirst, rfl⟩

end Wasm.Module

/-- An import is declared as what it is. -/
structure ImportDeclaration.Declares (m : Wasm.Module β) (i : Import) (d : ImportDeclaration) : Prop where
  module : d.module = i.module
  name : d.name = i.name
  type : ∃ t, m.importType? i = some t ∧ t.Told d.kind

/-- An export is declared as what it is. -/
structure ExportDeclaration.Declares (m : Wasm.Module β) (e : Export) (d : ExportDeclaration) : Prop where
  name : d.name = e.name
  type : ∃ t, m.exportType? e = some t ∧ t.Told d.kind

namespace Loaded

variable {J : Judge β} {m : Wasm.Module β}

theorem checked (l : Loaded J) : l.wasm.Checked J.check := checked_of_check l.runnable

theorem imports_declared (l : Loaded J) :
    List.Forall₂ (ImportDeclaration.Declares l.wasm) l.wasm.imports l.imports := by
  have htyped : ∀ i ∈ l.wasm.imports, ∃ t, l.wasm.importType? i = some t :=
    fun i hi => l.checked.importType?_isSome hi
  refine ((List.forall₂_and_left _ _).mpr ⟨htyped, forall₂_of_mapM l.imports_eq⟩).imp ?_
  rintro i d ⟨⟨t, ht⟩, hd⟩
  obtain ⟨kind, hkind, rfl⟩ := ok_of_map hd
  rw [Wasm.Module.importKind_eq ht] at hkind
  exact ⟨rfl, rfl, t, ht, ItemType.told_of_describe hkind⟩

theorem exports_declared (l : Loaded J) :
    List.Forall₂ (ExportDeclaration.Declares l.wasm) l.wasm.exports l.exports := by
  have htyped : ∀ e ∈ l.wasm.exports, ∃ t, l.wasm.exportType? e = some t :=
    fun e he => l.checked.exportType?_isSome he
  refine ((List.forall₂_and_left _ _).mpr ⟨htyped, forall₂_of_mapM l.exports_eq⟩).imp ?_
  rintro e d ⟨⟨t, ht⟩, hd⟩
  obtain ⟨kind, hkind, rfl⟩ := ok_of_map hd
  rw [Wasm.Module.exportKind_eq ht] at hkind
  exact ⟨rfl, t, ht, ItemType.told_of_describe hkind⟩

/-- A loaded module was not refused. -/
theorem not_refused (l : Loaded J) (complaint : String) : ¬ l.wasm.Refused complaint := by
  rintro (h | ⟨-, h⟩)
  · cases l.imports_eq.symm.trans h
  · cases l.exports_eq.symm.trans h

section Judged

variable (hvalid : J.validate m = .ok ()) (hrunnable : J.checkRunnable m = .ok ())

include hvalid hrunnable

/-- A module that passes the checks has only to be described: its imports, and then its exports. -/
theorem ofWasm_cases : (∃ c, m.Refused c ∧ ofWasm J m = .error (.validation c none)) ∨
    ∃ l, l.wasm = m ∧ ofWasm J m = .ok l := by
  unfold ofWasm
  split
  · rename_i hinvalid
    cases hvalid.symm.trans hinvalid
  · split
    · rename_i hunfit
      cases hrunnable.symm.trans hunfit
    · split
      · rename_i c hc
        exact .inl ⟨c, .inl hc, rfl⟩
      · rename_i ds hds
        split
        · rename_i c hc
          exact .inl ⟨c, .inr ⟨⟨ds, hds⟩, hc⟩, rfl⟩
        · exact .inr ⟨_, rfl, rfl⟩

theorem wasm_of_ofWasm {l : Loaded J} (h : ofWasm J m = .ok l) : l.wasm = m := by
  rcases ofWasm_cases hvalid hrunnable with ⟨c, -, herror⟩ | ⟨l', hl', hok⟩
  · cases herror.symm.trans h
  · cases hok.symm.trans h
    exact hl'

theorem ofWasm_eq_error_iff {e : RuntimeError} :
    ofWasm J m = .error e ↔ ∃ c, m.Refused c ∧ e = .validation c none := by
  rcases ofWasm_cases hvalid hrunnable with ⟨c, hrefused, herror⟩ | ⟨l, rfl, hok⟩
  · rw [herror]
    constructor
    · intro h
      cases h
      exact ⟨c, hrefused, rfl⟩
    · rintro ⟨c', hrefused', rfl⟩
      rw [hrefused.unique hrefused']
  · rw [hok]
    constructor
    · intro h
      cases h
    · rintro ⟨c, hrefused, -⟩
      exact absurd hrefused (l.not_refused c)

/-- A module is loaded iff all its functions at the boundary can cross it. -/
theorem ofWasm_isOk_iff :
    (∃ l, ofWasm J m = .ok l) ↔ AllCross m.importType? m.imports ∧ AllCross m.exportType? m.exports := by
  have hm : m.Checked J.check := checked_of_check hrunnable
  rw [← hm.imports_describedBy.isOk_iff, ← hm.exports_describedBy.isOk_iff]
  constructor
  · rintro ⟨l, hl⟩
    cases wasm_of_ofWasm hvalid hrunnable hl
    exact ⟨⟨_, l.imports_eq⟩, ⟨_, l.exports_eq⟩⟩
  · rintro ⟨⟨is, his⟩, ⟨es, hes⟩⟩
    rcases ofWasm_cases hvalid hrunnable with ⟨c, hrefused | ⟨-, hrefused⟩, -⟩ | ⟨l, -, hok⟩
    · cases his.symm.trans hrefused
    · cases hes.symm.trans hrefused
    · exact ⟨l, hok⟩

end Judged

end Loaded

end Offences

/-- What an engine is given is what its own judge lets through. -/
theorem Module.toLoaded_ofBinary (engine : Engine) (bytes : List UInt8) :
    (Module.ofBinary engine bytes).map Module.toLoaded = Loaded.ofBinary .own bytes := by
  unfold Module.ofBinary
  cases Loaded.ofBinary .own bytes with
  | error e => rfl
  | ok l => rfl

/-! ## 5. The check at the boundary -/

section Boundary

variable {β : Type}

open Wasm.Binary in
/-- **What is made of binary code that holds a module which is valid and which the engine can run**, as somebody
    judges it who can read the bodies of its functions. -/
structure BoundaryChecked (J : Judge β) (bytes : List UInt8) (m : Wasm.Module β) : Prop where
  /-- Each part of the module is what the section for it holds. -/
  laidOut : ∃ ss, Sectioned bytes ss ∧ LaidOut J.read m ss
  /-- All its imports and exports have types. -/
  importsTyped : ∀ i ∈ m.imports, ∃ t, m.importType? i = some t
  exportsTyped : ∀ e ∈ m.exports, ∃ t, m.exportType? e = some t
  /-- It is loaded iff the functions among them take and return numbers only. -/
  loaded : (∃ l, Loaded.ofBinary J bytes = .ok l) ↔
    AllCross m.importType? m.imports ∧ AllCross m.exportType? m.exports
  /-- What is then declared is every import and every export, once and in order, as what it is. -/
  imports : ∀ {l}, Loaded.ofBinary J bytes = .ok l →
    List.Forall₂ (ImportDeclaration.Declares m) m.imports l.imports
  exports : ∀ {l}, Loaded.ofBinary J bytes = .ok l →
    List.Forall₂ (ExportDeclaration.Declares m) m.exports l.exports
  /-- The function to start with is the one in the section for it. -/
  start : ∀ {l ss f}, Loaded.ofBinary J bytes = .ok l → Sectioned bytes ss →
    (l.start = some f ↔ ∃ s ∈ ss, s.id = 8 ∧ Encodes s.contents f)
  /-- Otherwise the error is that of the first function in the way. -/
  refused : ∀ e, Loaded.ofBinary J bytes = .error e ↔
    ∃ name v, m.FirstOffence name v ∧ e = .validation (boundaryText name v) none

/-- **The boundary is checked exactly, whoever judges the bodies of functions**, and what an engine is given to run is
    what its own judge lets through. -/
theorem boundaryChecked (J : Judge β) {bytes : List UInt8} {m : Wasm.Module β}
    (hread : Wasm.Binary.Contents.ofBytes J.read bytes = .ok (.module m)) (hvalid : J.validate m = .ok ())
    (hrunnable : J.checkRunnable m = .ok ()) : BoundaryChecked J bytes m ∧
      ∀ engine, (Module.ofBinary engine bytes).map Module.toLoaded = Loaded.ofBinary .own bytes := by
  have hm : m.Checked J.check := checked_of_check hrunnable
  have hload : Loaded.ofBinary J bytes = Loaded.ofWasm J m := by
    unfold Loaded.ofBinary
    rw [hread]
  have hwasm : ∀ {l}, Loaded.ofBinary J bytes = .ok l → l.wasm = m := fun h =>
    Loaded.wasm_of_ofWasm hvalid hrunnable (hload ▸ h)
  obtain ⟨ss, hss, hlaid⟩ := Wasm.Binary.laidOut_of_ofBytes hread
  refine ⟨{
    laidOut := ⟨ss, hss, hlaid⟩
    importsTyped := fun i hi => hm.importType?_isSome hi
    exportsTyped := fun e he => hm.exportType?_isSome he
    loaded := by rw [hload, Loaded.ofWasm_isOk_iff hvalid hrunnable]
    imports := fun {l} h => hwasm h ▸ l.imports_declared
    exports := fun {l} h => hwasm h ▸ l.exports_declared
    start := fun {l ss' f} h hss' => ?_
    refused := fun e => ?_ }, fun engine => Module.toLoaded_ofBinary engine bytes⟩
  · rw [← hss.unique hss']
    show l.wasm.start = some f ↔ _
    rw [hwasm h]
    exact hlaid.start_eq_some_iff
  · rw [hload, Loaded.ofWasm_eq_error_iff hvalid hrunnable]
    constructor
    · rintro ⟨c, hrefused, rfl⟩
      obtain ⟨name, v, hfirst, rfl⟩ := hm.refused_iff.mp hrefused
      exact ⟨name, v, hfirst, rfl⟩
    · rintro ⟨name, v, hfirst, rfl⟩
      exact ⟨_, hm.refused_iff.mpr ⟨name, v, hfirst, rfl⟩, rfl⟩

end Boundary

/-- Binary code with a section of exports and one of code: one function is imported, and of two others the first takes
    a reference and the second is the one to start with. -/
def gatewayCode (exports code : List UInt8) : List UInt8 :=
  Wasm.Binary.magic ++ [1, 0, 0, 0] ++ [1, 13, 3, 0x60, 1, 0x6F, 0, 0x60, 1, 0x7F, 1, 0x7E, 0x60, 0, 0] ++
    [2, 7, 1, 1, 0x65, 1, 0x66, 0, 1] ++ [3, 3, 2, 0, 2] ++ exports ++ [8, 1, 2] ++ code

/-- The module in that code. -/
def gateway {β : Type} (exports : List Export) (bodies : List β) : Wasm.Module β where
  types := [⟨false, [⟨true, [], .func ⟨[.ref ⟨true, .external⟩], []⟩⟩]⟩,
    ⟨false, [⟨true, [], .func ⟨[.num .i32], [.num .i64]⟩⟩]⟩, ⟨false, [⟨true, [], .func ⟨[], []⟩⟩]⟩]
  imports := [⟨"e", "f", .func 1⟩]
  funcs := [0, 2]
  exports
  start := some 2
  bodies

/-- The judge that leaves bodies as the bytes that they are, and has nothing against any. -/
def Judge.trusting : Judge (List UInt8) := ⟨do Wasm.Binary.take (← Wasm.Binary.u32), fun _ _ _ => .ok ()⟩

/-- The function that takes a reference does not matter until it is exported. In the first module the two bodies are
    empty; in the second they have an instruction for vectors and one for atomic access in them. -/
theorem boundaryChecked_gateway :
    (∀ engine, ∃ M, Module.ofBinary engine
      (gatewayCode [7, 5, 1, 1, 0x61, 0, 0] [10, 7, 2, 2, 0, 0x0B, 2, 0, 0x0B]) = .ok M) ∧
    Loaded.ofBinary .trusting (gatewayCode [7, 9, 2, 1, 0x61, 0, 0, 1, 0x62, 0, 1]
      [10, 15, 2, 7, 0, 0x41, 0, 0xFD, 0x11, 0x1A, 0x0B, 5, 0, 0xFE, 3, 0, 0x0B]) = .error
        (.validation "export b uses (ref null extern), which cannot cross the host boundary" none) := by
  have hnumbers : Numeric ⟨[.num .i32], [.num .i64]⟩ := Signature.ofFuncType_isOk_iff.mp ⟨⟨[.i32], [.i64]⟩, rfl⟩
  have himports : ∀ {β : Type} (es : List Export) (bs : List β),
      AllCross (gateway es bs).importType? (gateway es bs).imports := by
    intro β es bs i hi f hf
    cases List.mem_singleton.mp hi
    cases hf
    exact hnumbers
  have hagain : ∀ {β : Type} (es : List Export) (bs : List β),
      AllCross (gateway es bs).exportType? [⟨"a", .func 0⟩] := by
    intro β es bs e he f hf
    cases List.mem_singleton.mp he
    cases hf
    exact hnumbers
  constructor
  · intro engine
    have hread : Wasm.Binary.Contents.ofBytes Judge.own.read (gatewayCode [7, 5, 1, 1, 0x61, 0, 0]
        [10, 7, 2, 2, 0, 0x0B, 2, 0, 0x0B]) =
          .ok (.module (gateway [⟨"a", .func 0⟩] [⟨[], [.end_]⟩, ⟨[], [.end_]⟩])) := rfl
    obtain ⟨h, hown⟩ := boundaryChecked .own hread rfl rfl
    obtain ⟨l, hl⟩ := h.loaded.mpr ⟨himports _ _, hagain _ _⟩
    obtain ⟨M, hM, -⟩ := ok_of_map ((hown engine).trans hl)
    exact ⟨M, hM⟩
  · have hread : Wasm.Binary.Contents.ofBytes Judge.trusting.read (gatewayCode
        [7, 9, 2, 1, 0x61, 0, 0, 1, 0x62, 0, 1]
        [10, 15, 2, 7, 0, 0x41, 0, 0xFD, 0x11, 0x1A, 0x0B, 5, 0, 0xFE, 3, 0, 0x0B]) =
          .ok (.module (gateway [⟨"a", .func 0⟩, ⟨"b", .func 1⟩]
            [[0, 0x41, 0, 0xFD, 0x11, 0x1A, 0x0B], [0, 0xFE, 3, 0, 0x0B]])) := rfl
    obtain ⟨h, -⟩ := boundaryChecked .trusting hread rfl rfl
    have hreference : FirstForeign [.ref ⟨true, .external⟩] (.ref ⟨true, .external⟩) :=
      (firstForeign_foreign (by simp)).mpr rfl
    exact (h.refused _).mpr ⟨"export b", .ref ⟨true, .external⟩, .inr ⟨himports _ _, [⟨"a", .func 0⟩],
      ⟨"b", .func 1⟩, [], ⟨[.ref ⟨true, .external⟩], []⟩, rfl, hagain _ _, rfl, hreference, rfl⟩, rfl⟩

end Embedder
