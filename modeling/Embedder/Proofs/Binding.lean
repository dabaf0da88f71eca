import Embedder.Proofs.Run
import Embedder.Proofs.Steps
import Mathlib.Data.List.Forall2

/-!
# Imports and the functions that serve them

Resolution looks at the imports in declared order and stops at the first that cannot be served. Two
readings of "can be served" are compared here: `resolveImports`, and `Resolvable`, which says that one
of them is a function that the registry has under the same pair with the same signature.

* **`resolveAll_ok_iff`**, **`resolveAll_error_iff`** -- resolution succeeds iff every import is
  resolvable, with the bindings in declared order, and otherwise reports the first import that is not;
* `firstBindings`, **`link_eq`** -- linking never fails, and its linker is the table of the first binding of
  each pair;
* **`prepare_eq`** -- linking adds nothing: although a linker learns each pair once, every import
  gets the function of its own binding;
* `resolutionExact` -- the whole of it for a module, with what instantiation makes of a failure.
-/

namespace Embedder

variable {σ : Type}

/-! ## 1. One import -/

/-- The registry has a function for the import, with the declared signature. -/
def Resolvable (r : Registry σ) (d : ImportDeclaration) : Prop :=
  ∃ f, r.lookup d.module d.name = some f ∧ d.kind = .function f.signature

/-- The binding is the one of the import. -/
structure Serves (r : Registry σ) (d : ImportDeclaration) (b : Binding σ) : Prop where
  declaration : b.declaration = d
  registered : r.lookup d.module d.name = some b.function
  signature : d.kind = .function b.function.signature

/-- Why an import that is not resolvable fails: there is no function for it, be it that its pair is not
    registered or that it is no function, or there is one with another signature. -/
def importFault (r : Registry σ) (d : ImportDeclaration) : RuntimeError :=
  match d.kind, r.lookup d.module d.name with
  | .function declared, some f => .signatureMismatch d.module d.name declared f.signature
  | _, _ => .unresolvedImport d.module d.name

theorem resolveImport_ok_iff {r : Registry σ} {d : ImportDeclaration} {b : Binding σ} :
    resolveImport r d = .ok b ↔ Serves r d b := by
  unfold resolveImport
  constructor
  · intro h
    split at h
    · cases h
    · rename_i f hf
      split at h
      · rename_i expected hk
        split at h
        · rename_i hs
          cases h
          exact ⟨rfl, hf, by rw [hk, hs]⟩
        · cases h
      · cases h
  · rintro ⟨hd, hf, hk⟩
    rw [hf, hk]
    subst hd
    simp

theorem Serves.resolvable {r : Registry σ} {d : ImportDeclaration} {b : Binding σ}
    (h : Serves r d b) : Resolvable r d :=
  ⟨b.function, h.registered, h.signature⟩

/-- The binding at the place of an import serves it. -/
theorem Serves.at {r : Registry σ} {ds : List ImportDeclaration} {bs : List (Binding σ)}
    (h : List.Forall₂ (Serves r) ds bs) {k : Nat} {d : ImportDeclaration} (hd : ds[k]? = some d) :
    ∃ b, bs[k]? = some b ∧ Serves r d b := by
  obtain ⟨hk, rfl⟩ := List.getElem?_eq_some_iff.mp hd
  have hk' : k < bs.length := h.length_eq ▸ hk
  exact ⟨bs[k], List.getElem?_eq_getElem hk', List.forall₂_iff_get.mp h |>.2 k hk hk'⟩

theorem Serves.of_mem {r : Registry σ} {b : Binding σ} : ∀ {ds : List ImportDeclaration} {bs : List (Binding σ)},
    List.Forall₂ (Serves r) ds bs → b ∈ bs → ∃ d, Serves r d b
  | _, _, .cons h rest, hb => by
      rcases List.mem_cons.mp hb with rfl | hb
      · exact ⟨_, h⟩
      · exact Serves.of_mem rest hb

theorem Serves.declarations {r : Registry σ} : ∀ {ds : List ImportDeclaration} {bs : List (Binding σ)},
    List.Forall₂ (Serves r) ds bs → bs.map Binding.declaration = ds
  | _, _, .nil => rfl
  | _, _, .cons h rest => by rw [List.map_cons, h.declaration, Serves.declarations rest]

theorem resolveImport_error_iff {r : Registry σ} {d : ImportDeclaration} {e : RuntimeError} :
    resolveImport r d = .error e ↔ ¬ Resolvable r d ∧ e = importFault r d := by
  unfold resolveImport importFault Resolvable
  cases hf : r.lookup d.module d.name with
  | none => cases d.kind <;> simp [eq_comm]
  | some f =>
    cases hk : d.kind with
    | function expected =>
      by_cases hs : expected = f.signature <;> simp [hs, eq_comm]
    | memory => simp [eq_comm]
    | global => simp [eq_comm]
    | table => simp [eq_comm]

/-! ## 2. All imports -/

theorem map_cons_eq_ok_iff {ε α : Type} {x : Except ε (List α)} {a : α} {as : List α} :
    x.map (a :: ·) = .ok as ↔ ∃ rest, x = .ok rest ∧ as = a :: rest := by
  cases x with
  | error e => simp [Except.map]
  | ok rest => simp [Except.map, eq_comm]

/-- **Resolution gives every import its binding, in declared order.** -/
theorem resolveAll_ok_iff (r : Registry σ) : ∀ (ds : List ImportDeclaration) (bs : List (Binding σ)),
    resolveAll r ds = .ok bs ↔ List.Forall₂ (Serves r) ds bs
  | [], bs => by
      rw [List.forall₂_nil_left_iff]
      simp [resolveAll, eq_comm]
  | d :: ds, bs => by
      rw [List.forall₂_cons_left_iff]
      unfold resolveAll
      cases h : resolveImport r d with
      | error e =>
        have hno := (resolveImport_error_iff.mp h).1
        constructor
        · intro h'; cases h'
        · rintro ⟨b, _, hb, _⟩
          exact absurd hb.resolvable hno
      | ok b =>
        rw [map_cons_eq_ok_iff]
        constructor
        · rintro ⟨rest, hrest, rfl⟩
          exact ⟨b, rest, resolveImport_ok_iff.mp h, (resolveAll_ok_iff r ds rest).mp hrest, rfl⟩
        · rintro ⟨b', rest, hb', hrest, rfl⟩
          rw [← resolveImport_ok_iff, h] at hb'
          cases hb'
          exact ⟨rest, (resolveAll_ok_iff r ds rest).mpr hrest, rfl⟩

/-- **Resolution reports the first import that is not resolvable.** -/
theorem resolveAll_error_iff (r : Registry σ) : ∀ (ds : List ImportDeclaration) (e : RuntimeError),
    resolveAll r ds = .error e ↔ ∃ before d after, ds = before ++ d :: after ∧
      (∀ x ∈ before, Resolvable r x) ∧ ¬ Resolvable r d ∧ e = importFault r d
  | [], e => by simp [resolveAll]
  | d :: ds, e => by
      unfold resolveAll
      cases h : resolveImport r d with
      | error e' =>
        obtain ⟨hno, rfl⟩ := resolveImport_error_iff.mp h
        constructor
        · intro he
          cases he
          exact ⟨[], d, ds, rfl, by simp, hno, rfl⟩
        · rintro ⟨before, x, after, hsplit, hbefore, _, rfl⟩
          cases before with
          | nil => cases hsplit; rfl
          | cons y before =>
            cases hsplit
            exact absurd (hbefore d List.mem_cons_self) hno
      | ok b =>
        have hyes := (resolveImport_ok_iff.mp h).resolvable
        show (resolveAll r ds).map (b :: ·) = .error e ↔ _
        rw [map_eq_error_iff, resolveAll_error_iff r ds e]
        constructor
        · rintro ⟨before, x, after, rfl, hbefore, hx⟩
          refine ⟨d :: before, x, after, rfl, fun y hy => ?_, hx⟩
          rcases List.mem_cons.mp hy with rfl | hy
          · exact hyes
          · exact hbefore y hy
        · rintro ⟨before, x, after, hsplit, hbefore, hno, he⟩
          cases before with
          | nil =>
            cases hsplit
            exact absurd hyes hno
          | cons y before =>
            cases hsplit
            exact ⟨before, x, after, rfl, fun z hz => hbefore z (List.mem_cons_of_mem _ hz), hno, he⟩

theorem resolveAll_isOk_iff (r : Registry σ) (ds : List ImportDeclaration) :
    (∃ bs, resolveAll r ds = .ok bs) ↔ ∀ d ∈ ds, Resolvable r d := by
  constructor
  · rintro ⟨bs, h⟩ d hd
    obtain ⟨k, hk⟩ := List.mem_iff_getElem?.mp hd
    obtain ⟨b, _, hb⟩ := Serves.at ((resolveAll_ok_iff r ds bs).mp h) hk
    exact hb.resolvable
  · intro hall
    cases h : resolveAll r ds with
    | ok bs => exact ⟨bs, rfl⟩
    | error e =>
      obtain ⟨before, d, after, rfl, _, hno, _⟩ := (resolveAll_error_iff r ds e).mp h
      exact absurd (hall d (by simp)) hno

/-! ## 3. Linking -/

namespace Linker

theorem define_new {l : Linker σ} {pair : String × String} (h : l.find? pair = none) (s : Slot σ) :
    l.define pair s = .ok ⟨l.items ++ [(pair, s)]⟩ := by
  unfold define
  rw [h]
  rfl

/-- A pair that is defined is found, and every other pair as before. -/
theorem find?_snoc {l : Linker σ} {pair : String × String} (h : l.find? pair = none) (s : Slot σ)
    (other : String × String) :
    (Linker.mk (l.items ++ [(pair, s)])).find? other =
      if other = pair then some s else l.find? other := by
  unfold find? at h ⊢
  rw [List.find?_append]
  by_cases ho : other = pair
  · subst ho
    rw [Option.map_eq_none_iff] at h
    simp [h]
  · have hp : (pair == other) = false := by simpa using fun e : pair = other => ho e.symm
    simp [List.find?, hp, ho]

end Linker

/-- The first binding of each pair, those of the pairs in `defined` left out. -/
def firstBindings (defined : List (String × String)) : List (Binding σ) → List (Binding σ)
  | [] => []
  | b :: bs =>
    if b.pair ∈ defined then firstBindings defined bs
    else b :: firstBindings (b.pair :: defined) bs

/-- The line of a linker's table that a binding makes. -/
def Binding.item (b : Binding σ) : (String × String) × Slot σ := (b.pair, b.slot)

theorem mem_firstBindings {pair : String × String} : ∀ {bs : List (Binding σ)} {defined : List (String × String)},
    pair ∈ (firstBindings defined bs).map Binding.pair ↔ pair ∈ bs.map Binding.pair ∧ pair ∉ defined
  | [], _ => by simp [firstBindings]
  | b :: bs, defined => by
      unfold firstBindings
      split
      · rename_i hd
        rw [mem_firstBindings, List.map_cons, List.mem_cons]
        constructor
        · rintro ⟨hbs, hnew⟩
          exact ⟨.inr hbs, hnew⟩
        · rintro ⟨rfl | hbs, hnew⟩
          · exact absurd hd hnew
          · exact ⟨hbs, hnew⟩
      · rename_i hd
        rw [List.map_cons, List.mem_cons, mem_firstBindings, List.map_cons, List.mem_cons, List.mem_cons]
        constructor
        · rintro (rfl | ⟨hbs, hnew⟩)
          · exact ⟨.inl rfl, hd⟩
          · exact ⟨.inr hbs, fun h => hnew (.inr h)⟩
        · rintro ⟨rfl | hbs, hnew⟩
          · exact .inl rfl
          · by_cases heq : pair = b.pair
            · exact .inl heq
            · exact .inr ⟨hbs, fun h => h.elim heq hnew⟩

/-- No pair has two first bindings. -/
theorem nodup_firstBindings : ∀ (bs : List (Binding σ)) (defined : List (String × String)),
    ((firstBindings defined bs).map Binding.pair).Nodup
  | [], _ => List.nodup_nil
  | b :: bs, defined => by
      unfold firstBindings
      split
      · exact nodup_firstBindings bs defined
      · refine List.nodup_cons.mpr ⟨fun h => ?_, nodup_firstBindings bs _⟩
        exact (mem_firstBindings.mp h).2 List.mem_cons_self

/-- A first binding comes before all others of its pair. -/
theorem first_of_mem {b : Binding σ} : ∀ {bs : List (Binding σ)} {defined : List (String × String)},
    b ∈ firstBindings defined bs → ∃ before after, bs = before ++ b :: after ∧ ∀ x ∈ before, x.pair ≠ b.pair
  | [], _, h => nomatch h
  | x :: bs, defined, h => by
      have hnew : b.pair ∉ defined := (mem_firstBindings.mp (List.mem_map_of_mem h)).2
      unfold firstBindings at h
      split at h
      · rename_i hd
        obtain ⟨before, after, rfl, hbefore⟩ := first_of_mem h
        refine ⟨x :: before, after, rfl, fun y hy => ?_⟩
        rcases List.mem_cons.mp hy with rfl | hy
        · exact fun heq => hnew (heq ▸ hd)
        · exact hbefore y hy
      · rcases List.mem_cons.mp h with rfl | h
        · exact ⟨[], bs, rfl, by simp⟩
        · have hother : b.pair ∉ x.pair :: defined := (mem_firstBindings.mp (List.mem_map_of_mem h)).2
          obtain ⟨before, after, rfl, hbefore⟩ := first_of_mem h
          refine ⟨x :: before, after, rfl, fun y hy => ?_⟩
          rcases List.mem_cons.mp hy with rfl | hy
          · exact fun heq => hother (heq ▸ List.mem_cons_self)
          · exact hbefore y hy

/-- **Linking never fails, and appends the first binding of each new pair**, whatever the bindings are. -/
theorem linkAll_eq : ∀ (bs : List (Binding σ)) {l : Linker σ} {defined : List (String × String)},
    (∀ pair, pair ∈ defined ↔ (l.find? pair).isSome) →
      linkAll l defined bs = .ok ⟨l.items ++ (firstBindings defined bs).map Binding.item⟩
  | [], l, _, _ => by simp [linkAll, firstBindings]
  | b :: bs, l, defined, hknown => by
      unfold linkAll firstBindings
      by_cases hd : b.pair ∈ defined
      · rw [if_pos (List.contains_iff_mem.mpr hd), if_pos hd]
        exact linkAll_eq bs hknown
      · have hnew : l.find? b.pair = none := by
          rw [← Option.not_isSome_iff_eq_none, ← hknown]
          exact hd
        rw [if_neg (fun hc => hd (List.contains_iff_mem.mp hc)), if_neg hd, Linker.define_new hnew]
        dsimp only
        rw [linkAll_eq bs]
        · rw [List.map_cons, List.append_assoc]
          rfl
        · intro other
          rw [Linker.find?_snoc hnew, List.mem_cons, hknown]
          by_cases ho : other = b.pair <;> simp [ho]

theorem link_eq (bs : List (Binding σ)) : link bs = .ok ⟨(firstBindings [] bs).map Binding.item⟩ := by
  unfold link
  rw [linkAll_eq bs (by simp [Linker.find?])]
  rfl

theorem slotsOf_eq {l : Linker σ} : ∀ {ds : List ImportDeclaration} {bs : List (Binding σ)},
    List.Forall₂ (fun d b => l.find? (d.module, d.name) = some b.slot) ds bs →
      slotsOf l ds = .ok (bs.map Binding.slot)
  | _, _, .nil => rfl
  | _, _, .cons h rest => by
      unfold slotsOf
      rw [h, slotsOf_eq rest]
      rfl

/-- The function that a registry has for a pair, under the name that errors call it by. -/
def Registry.slot? (r : Registry σ) (pair : String × String) : Option (Slot σ) :=
  (r.lookup pair.1 pair.2).map fun f => ⟨pair.1 ++ "." ++ pair.2, f⟩

theorem Serves.slot {r : Registry σ} {d : ImportDeclaration} {b : Binding σ} (h : Serves r d b) :
    r.slot? b.pair = some b.slot := by
  obtain ⟨rfl, hf, _⟩ := h
  unfold Registry.slot? Binding.pair
  rw [hf]
  rfl

/-- A linker finds the function of every binding, given that bindings of one pair have the same function. -/
theorem find?_firstBindings {slotFor : String × String → Option (Slot σ)} {bs : List (Binding σ)}
    (hslots : ∀ b ∈ bs, slotFor b.pair = some b.slot) {b : Binding σ} (hb : b ∈ bs) :
    (Linker.mk ((firstBindings [] bs).map Binding.item)).find? b.pair = some b.slot := by
  have hpair : b.pair ∈ (firstBindings [] bs).map Binding.pair :=
    mem_firstBindings.mpr ⟨List.mem_map_of_mem hb, List.not_mem_nil⟩
  obtain ⟨first, hfirst, heq⟩ := List.mem_map.mp hpair
  unfold Linker.find?
  cases hfind : ((firstBindings [] bs).map Binding.item).find? fun i => i.1 == b.pair with
  | none =>
    have hno := List.find?_eq_none.mp hfind _ (List.mem_map_of_mem hfirst)
    exact absurd (beq_iff_eq.mpr heq) hno
  | some item =>
    -- the item that is found is of a binding of the same pair
    obtain ⟨b', hb', rfl⟩ := List.mem_map.mp (List.mem_of_find?_eq_some hfind)
    have hfound := List.find?_some hfind
    have hsame : b'.pair = b.pair := beq_iff_eq.mp hfound
    obtain ⟨before, after, hsplit, -⟩ := first_of_mem hb'
    have hslot := hslots b' (by simp [hsplit])
    rw [hsame, hslots b hb] at hslot
    exact hslot.symm

/-- **Bindings of a registry link to the functions they have**, import by import. -/
theorem link_serves {r : Registry σ} {ds : List ImportDeclaration} {bs : List (Binding σ)}
    (h : List.Forall₂ (Serves r) ds bs) :
    ∃ l, link bs = .ok l ∧ slotsOf l ds = .ok (bs.map Binding.slot) := by
  have hslots : ∀ b ∈ bs, r.slot? b.pair = some b.slot := by
    intro b hb
    obtain ⟨k, hk, rfl⟩ := List.mem_iff_getElem.mp hb
    have hk' : k < ds.length := h.length_eq ▸ hk
    exact (List.forall₂_iff_get.mp h |>.2 k hk' hk).slot
  refine ⟨_, link_eq bs, slotsOf_eq ?_⟩
  refine List.forall₂_iff_get.mpr ⟨h.length_eq, fun k hk hk' => ?_⟩
  have hserves := List.forall₂_iff_get.mp h |>.2 k hk hk'
  rw [← find?_firstBindings hslots (List.get_mem bs ⟨k, hk'⟩), Binding.pair, hserves.declaration]

/-! ## 4. Modules -/

/-- **Preparing a module is resolving its imports.** -/
theorem prepare_eq (m : Module) (r : Registry σ) :
    prepare m r = (resolveImports m r).map fun bs => (bs, bs.map Binding.slot) := by
  unfold prepare
  cases h : resolveImports m r with
  | error e => rfl
  | ok bs =>
    obtain ⟨l, hlink, hslots⟩ := link_serves ((resolveAll_ok_iff r m.imports bs).mp h)
    simp only [bind, Except.bind, hlink, hslots]
    rfl

/-- A module whose imports cannot be resolved is not instantiated, and nothing has run. -/
theorem instantiate_of_resolve_error {m : Module} {r : Registry σ} {e : RuntimeError}
    (h : resolveImports m r = .error e) (w : σ) :
    instantiate m r w = (.error e, w) ∧ instantiationMoments m r w = [] := by
  have hprepare : prepare m r = .error e := by
    rw [prepare_eq, h]
    rfl
  constructor
  · unfold instantiate
    rw [hprepare]
  · unfold instantiationMoments
    rw [hprepare]

/-- What resolution says of a module and a registry, and what a failure comes to. -/
structure ResolutionExact (m : Module) (r : Registry σ) : Prop where
  /-- It succeeds iff every import is resolvable. -/
  succeeds : (∃ bs, resolveImports m r = .ok bs) ↔ ∀ d ∈ m.imports, Resolvable r d
  /-- There is one binding for each import, in declared order, with its declaration and the registry's
      function for its pair. -/
  binds : ∀ bs, resolveImports m r = .ok bs → bs.map Binding.declaration = m.imports ∧
    ∀ (k : Nat) (d : ImportDeclaration), m.imports[k]? = some d →
      ∃ b : Binding σ, bs[k]? = some b ∧ b.declaration = d ∧
        r.lookup d.module d.name = some b.function ∧ d.kind = .function b.function.signature
  /-- It fails with the fault of the first import that is not resolvable. -/
  fails : ∀ e, resolveImports m r = .error e ↔ ∃ before d after, m.imports = before ++ d :: after ∧
    (∀ x ∈ before, Resolvable r x) ∧ ¬ Resolvable r d ∧ e = importFault r d
  /-- Instantiation fails with the same error; no code of guest or host has run, and the host's world is
      what it was. -/
  silent : ∀ e, resolveImports m r = .error e → ∀ w,
    instantiate m r w = (.error e, w) ∧ instantiationMoments m r w = []

/-- **Resolution is exact, and silent when it fails.** -/
theorem resolutionExact (m : Module) (r : Registry σ) : ResolutionExact m r where
  succeeds := resolveAll_isOk_iff r m.imports
  binds bs h := by
    have hserves := (resolveAll_ok_iff r m.imports bs).mp h
    refine ⟨Serves.declarations hserves, fun k d hd => ?_⟩
    obtain ⟨b, hb, hbd⟩ := Serves.at hserves hd
    exact ⟨b, hb, hbd.declaration, hbd.registered, hbd.signature⟩
  fails := resolveAll_error_iff r m.imports
  silent _ h := instantiate_of_resolve_error h

end Embedder
