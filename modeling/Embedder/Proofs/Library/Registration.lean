import Embedder.Proofs.Registry
import Embedder.Proofs.Steps
import Embedder.Proofs.Library.Effects

/-!
# Registering the drac library

A library is registered function by function, up to the first that is refused, in a registry that may have anything
in it already: functions of the embedder, and those of other libraries.

* `Registry.Refuses` -- the pair of an entry has a function of another signature;
* **`registerAll_isOk_iff`** -- entries for different pairs are all accepted iff the registry refuses none of them
  before the first is registered: they do not stand in each other's way;
* **`registerAll_of_refuses`** -- otherwise the registry ends as the entries before the first refused one leave it;
* `size_registerAll` -- each entry whose pair was missing adds one function, and no other does;
* **`libraryRegistered`** -- what this says of the eleven functions of a library, and whose arrays and streams a
  function uses that is found afterwards.
-/

namespace Embedder

variable {σ : Type}

/-! ## 1. Entries for different pairs -/

namespace Registry

/-- The pair of an entry has a function already, and one of another signature. -/
def Refuses (r : Registry σ) (e : Entry σ) : Prop :=
  ∃ g, r.at? e.pair = some g ∧ g.signature ≠ e.function.signature

section One

variable {r : Registry σ} {c : Entry σ}

theorem registerFunction_of_not_refuses (h : ¬ r.Refuses c) :
    r.registerFunction c.space c.name c.function = (r.accepted c, .ok ()) := by
  cases hg : r.at? c.pair with
  | none => exact registerFunction_new hg
  | some g =>
    have hs : g.signature = c.function.signature := Classical.byContradiction fun hs => h ⟨g, hg, hs⟩
    exact registerFunction_same hg hs

theorem registerAll_cons_of_not_refuses (h : ¬ r.Refuses c) (cs : List (Entry σ)) :
    r.registerAll (c :: cs) = (r.accepted c).registerAll cs := by
  rw [registerAll, registerFunction_of_not_refuses h]

theorem registerAll_cons_of_refuses {g : HostFunction σ} (hg : r.at? c.pair = some g)
    (hs : g.signature ≠ c.function.signature) (cs : List (Entry σ)) : r.registerAll (c :: cs) =
      (r, .error (.duplicateImport c.space c.name g.signature c.function.signature)) := by
  rw [registerAll, registerFunction_other hg hs]

/-- A registration for one pair decides nothing about another. -/
theorem refuses_accepted_iff {e : Entry σ} (h : e.pair ≠ c.pair) : (r.accepted c).Refuses e ↔ r.Refuses e := by
  unfold Refuses
  rw [at?_accepted_other r c h]

end One

/-- The first entry and the others are for different pairs, and so are the others. -/
theorem apart_of_nodup {c : Entry σ} {cs : List (Entry σ)} (h : ((c :: cs).map Entry.pair).Nodup) :
    (∀ e ∈ cs, e.pair ≠ c.pair) ∧ (cs.map Entry.pair).Nodup := by
  rw [List.map_cons, List.nodup_cons] at h
  exact ⟨fun e he hpair => h.1 (List.mem_map.mpr ⟨e, he, hpair⟩), h.2⟩

/-- After an accepted registration the registry refuses none of the entries for other pairs that it did not
    refuse before. -/
theorem not_refuses_accepted {r : Registry σ} {c : Entry σ} {cs : List (Entry σ)}
    (happart : ∀ e ∈ cs, e.pair ≠ c.pair) (h : ∀ e ∈ cs, ¬ r.Refuses e) : ∀ e ∈ cs, ¬ (r.accepted c).Refuses e :=
  fun e he hrefuses => h e he ((refuses_accepted_iff (happart e he)).mp hrefuses)

/-- **Entries for different pairs are all accepted if the registry refuses none of them**, and the next ones are
    registered in what these leave. -/
theorem registerAll_append : ∀ {es : List (Entry σ)} {r : Registry σ}, (es.map Entry.pair).Nodup →
    (∀ e ∈ es, ¬ r.Refuses e) → ∀ fs, r.registerAll (es ++ fs) = (r.registerAll es).1.registerAll fs
  | [], _, _, _, _ => rfl
  | c :: cs, r, hnodup, h, fs => by
      obtain ⟨happart, hrest⟩ := apart_of_nodup hnodup
      obtain ⟨hc, hcs⟩ := List.forall_mem_cons.mp h
      rw [List.cons_append, registerAll_cons_of_not_refuses hc, registerAll_cons_of_not_refuses hc]
      exact registerAll_append hrest (not_refuses_accepted happart hcs) fs

theorem registerAll_isOk : ∀ {es : List (Entry σ)} {r : Registry σ}, (es.map Entry.pair).Nodup →
    (∀ e ∈ es, ¬ r.Refuses e) → (r.registerAll es).2 = .ok ()
  | [], _, _, _ => rfl
  | c :: cs, r, hnodup, h => by
      obtain ⟨happart, hrest⟩ := apart_of_nodup hnodup
      obtain ⟨hc, hcs⟩ := List.forall_mem_cons.mp h
      rw [registerAll_cons_of_not_refuses hc]
      exact registerAll_isOk hrest (not_refuses_accepted happart hcs)

/-- Registering some entries leaves the pairs of those after them alone. -/
theorem at?_registerAll_later {r : Registry σ} {before later : List (Entry σ)}
    (hnodup : ((before ++ later).map Entry.pair).Nodup) {e : Entry σ} (he : e ∈ later) :
    (r.registerAll before).1.at? e.pair = r.at? e.pair := by
  rw [List.map_append, List.nodup_append] at hnodup
  obtain ⟨-, -, hdisjoint⟩ := hnodup
  refine at?_registerAll_other before r fun c hc hpair => ?_
  exact hdisjoint c.pair (List.mem_map_of_mem hc) e.pair (List.mem_map_of_mem he) hpair.symm

/-- **The first refused entry ends the registration**: the registry is as the entries before it leave it, and the
    error is about this entry. -/
theorem registerAll_of_refuses {r : Registry σ} {before after : List (Entry σ)} {c : Entry σ} {g : HostFunction σ}
    (hnodup : ((before ++ c :: after).map Entry.pair).Nodup) (hbefore : ∀ e ∈ before, ¬ r.Refuses e)
    (hg : r.at? c.pair = some g) (hs : g.signature ≠ c.function.signature) :
    r.registerAll (before ++ c :: after) = ((r.registerAll before).1,
      .error (.duplicateImport c.space c.name g.signature c.function.signature)) := by
  -- the function in its way is still there when its turn comes
  have hstill : (r.registerAll before).1.at? c.pair = some g :=
    (at?_registerAll_later hnodup List.mem_cons_self).trans hg
  rw [List.map_append, List.nodup_append] at hnodup
  rw [registerAll_append hnodup.1 hbefore, registerAll_cons_of_refuses hstill hs]

/-- **Entries for different pairs are all accepted iff the registry refuses none of them at the outset.** -/
theorem registerAll_isOk_iff {r : Registry σ} {es : List (Entry σ)} (hnodup : (es.map Entry.pair).Nodup) :
    (r.registerAll es).2 = .ok () ↔ ∀ e ∈ es, ¬ r.Refuses e := by
  refine ⟨fun hok => Classical.byContradiction fun hsome => ?_, registerAll_isOk hnodup⟩
  obtain ⟨before, c, after, rfl, hbefore, hc⟩ := exists_first hsome
  obtain ⟨g, hg, hs⟩ := Classical.not_not.mp hc
  rw [registerAll_of_refuses hnodup hbefore hg hs] at hok
  cases hok

/-! ## 2. How many functions there are -/

/-- A pair is among those of the entries iff it has a function. -/
theorem mem_pairs_iff (r : Registry σ) (pair : String × String) :
    pair ∈ r.entries.map Entry.pair ↔ (r.at? pair).isSome = true := by
  rw [Option.isSome_iff_exists, List.mem_map]
  constructor
  · rintro ⟨e, he, rfl⟩
    exact ⟨e.function, (mem_entries_iff r e).mp he⟩
  · rintro ⟨f, hf⟩
    exact ⟨⟨pair.1, pair.2, f⟩, (mem_entries_iff r _).mpr hf, rfl⟩

/-- The number of functions is decided by which pairs have one. -/
theorem size_of_pairs {r : Registry σ} {pairs : List (String × String)} (hnodup : pairs.Nodup)
    (h : ∀ pair, (r.at? pair).isSome = true ↔ pair ∈ pairs) : r.size = pairs.length := by
  have hperm : (r.entries.map Entry.pair).Perm pairs :=
    (List.perm_ext_iff_of_nodup (nodup_entries r) hnodup).mpr fun pair => by rw [mem_pairs_iff, h]
  rw [← length_entries, ← hperm.length_eq, List.length_map]

/-- An accepted registration adds a function iff its pair had none. -/
theorem size_accepted (r : Registry σ) (c : Entry σ) :
    (r.accepted c).size = r.size + if (r.at? c.pair).isNone then 1 else 0 := by
  have hpairs : ∀ pair, ((r.accepted c).at? pair).isSome = true ↔ pair = c.pair ∨ (r.at? pair).isSome = true := by
    intro pair
    by_cases hpair : pair = c.pair
    · simp [hpair, at?_accepted_self]
    · simp [hpair, at?_accepted_other r c hpair]
  have hold : (r.entries.map Entry.pair).length = r.size := by rw [List.length_map, length_entries]
  cases hc : r.at? c.pair with
  | none =>
    have hnew : c.pair ∉ r.entries.map Entry.pair := by
      rw [mem_pairs_iff, hc]
      exact Bool.false_ne_true
    have hsize := size_of_pairs (r := r.accepted c) (List.nodup_cons.mpr ⟨hnew, nodup_entries r⟩) fun pair => by
      rw [hpairs, List.mem_cons, mem_pairs_iff]
    rw [hsize, List.length_cons, hold]
    rfl
  | some g =>
    have hsize := size_of_pairs (r := r.accepted c) (nodup_entries r) fun pair => by
      rw [hpairs, mem_pairs_iff]
      refine ⟨fun h => h.elim (fun hpair => ?_) id, .inr⟩
      rw [hpair, hc]
      rfl
    rw [hsize, hold]
    rfl

/-- **Entries that are all accepted add as many functions as there were pairs missing.** -/
theorem size_registerAll : ∀ {es : List (Entry σ)} {r : Registry σ}, (es.map Entry.pair).Nodup →
    (∀ e ∈ es, ¬ r.Refuses e) →
    (r.registerAll es).1.size = r.size + es.countP fun e => (r.at? e.pair).isNone
  | [], _, _, _ => rfl
  | c :: cs, r, hnodup, h => by
      obtain ⟨happart, hrest⟩ := apart_of_nodup hnodup
      obtain ⟨hc, hcs⟩ := List.forall_mem_cons.mp h
      have hsame : (cs.countP fun e => ((r.accepted c).at? e.pair).isNone) =
          cs.countP fun e => (r.at? e.pair).isNone :=
        List.countP_congr fun e he => by rw [at?_accepted_other r c (happart e he)]
      rw [registerAll_cons_of_not_refuses hc, size_registerAll hrest (not_refuses_accepted happart hcs),
        size_accepted, hsame, List.countP_cons]
      omega

end Registry

/-! ## 3. The functions of a library -/

namespace Drac

/-- The function of a library that is registered under a name of its own, its identity being its place in the
    order of registration, counted from the first one's. -/
def member (view : View σ Drac) (id : Nat) (op : Op) : HostFunction σ :=
  function view (id + Op.all.idxOf op) op

/-- The entry of a function of a library. -/
def entry (view : View σ Drac) (id : Nat) (op : Op) : Entry σ := ⟨space, op.name, member view id op⟩

theorem entries_eq (view : View σ Drac) (id : Nat) : entries view id = Op.all.map (entry view id) := rfl

theorem Op.mem_all (op : Op) : op ∈ Op.all := by
  cases op <;> decide

theorem nodup_pairs (view : View σ Drac) (id : Nat) : ((Op.all.map (entry view id)).map Entry.pair).Nodup := by
  show (Op.all.map fun op => (space, op.name)).Nodup
  decide

/-- There is a function of another signature under the name of a function of the library. -/
def Clashes (r : Registry σ) (op : Op) : Prop :=
  ∃ g, r.lookup space op.name = some g ∧ g.signature ≠ op.signature

section Register

variable (view : View σ Drac) (id : Nat) (r : Registry σ)

theorem register_eq : register view id r = r.registerAll (Op.all.map (entry view id)) := rfl

/-- **A library is registered iff no name of it has a function of another signature.** -/
theorem register_isOk_iff : (register view id r).2 = .ok () ↔ ∀ op, ¬ Clashes r op := by
  rw [register_eq, Registry.registerAll_isOk_iff (nodup_pairs view id), List.forall_mem_map]
  exact ⟨fun h op => h op op.mem_all, fun h op _ => h op⟩

/-- Pairs that are not the library's keep what they have. -/
theorem at?_register_other {pair : String × String} (h : ∀ op : Op, pair ≠ (space, op.name)) :
    (register view id r).1.at? pair = r.at? pair := by
  refine Registry.at?_registerAll_other _ r ?_
  rw [entries_eq, List.forall_mem_map]
  exact fun op _ => h op

variable {view id r}

theorem lookup_register (hok : (register view id r).2 = .ok ()) (op : Op) :
    (register view id r).1.lookup space op.name = some (member view id op) :=
  Registry.at?_of_registerAll hok (nodup_pairs view id) (entry view id op) (List.mem_map_of_mem op.mem_all)

/-- The names without a function are what a library adds. -/
theorem size_register (hok : (register view id r).2 = .ok ()) :
    (register view id r).1.size = r.size + Op.all.countP fun op => !r.contains space op.name := by
  have hnone := (Registry.registerAll_isOk_iff (nodup_pairs view id)).mp hok
  rw [register_eq, Registry.size_registerAll (nodup_pairs view id) hnone, List.countP_map]
  congr 1
  refine List.countP_congr fun op _ => ?_
  show (r.lookup space op.name).isNone = true ↔ (!(r.lookup space op.name).isSome) = true
  rw [Option.not_isSome]

/-- The pairs of a library have its signatures once it is registered. -/
theorem not_clashes_register (hok : (register view id r).2 = .ok ()) (op : Op) :
    ¬ Clashes (register view id r).1 op := by
  rintro ⟨g, hg, hs⟩
  rw [lookup_register hok op] at hg
  cases hg
  exact hs rfl

theorem register_again (hok : (register view id r).2 = .ok ()) (view' : View σ Drac) (id' : Nat) :
    (register view' id' (register view id r).1).2 = .ok () :=
  (register_isOk_iff view' id' _).mpr (not_clashes_register hok)

/-- Registering a second library finds all names there. -/
theorem size_register_again (hok : (register view id r).2 = .ok ()) (view' : View σ Drac) (id' : Nat) :
    (register view' id' (register view id r).1).1.size = (register view id r).1.size := by
  have hnone : (Op.all.countP fun op => !(register view id r).1.contains space op.name) = 0 := by
    refine List.countP_eq_zero.mpr fun op _ => ?_
    rw [Registry.contains, lookup_register hok op]
    exact Bool.false_ne_true
  rw [size_register (register_again hok view' id'), hnone, Nat.add_zero]

theorem signature_register_again (hok : (register view id r).2 = .ok ()) (view' : View σ Drac) (id' : Nat)
    (pair : String × String) :
    ((register view' id' (register view id r).1).1.at? pair).map HostFunction.signature =
      ((register view id r).1.at? pair).map HostFunction.signature := by
  by_cases hown : ∃ op : Op, pair = (space, op.name)
  · obtain ⟨op, rfl⟩ := hown
    unfold Registry.at?
    rw [lookup_register hok op, lookup_register (register_again hok view' id') op]
    rfl
  · rw [at?_register_other view' id' _ fun op hpair => hown ⟨op, hpair⟩]

end Register

/-! ## 4. The law -/

/-- **What a refused registration leaves**: the functions before the first one with another signature under its name
    are registered, and nothing else has changed. -/
structure Halfway (view : View σ Drac) (id : Nat) (r r' : Registry σ) (e : RuntimeError) (before : List Op) (op : Op)
    (after : List Op) : Prop where
  order : Op.all = before ++ op :: after
  first : ∀ o ∈ before, ¬ Clashes r o
  refused : ∃ g, r.lookup space op.name = some g ∧ g.signature ≠ op.signature ∧
    e = .duplicateImport space op.name g.signature op.signature
  bound : ∀ o ∈ before, r'.lookup space o.name = some (member view id o)
  kept : ∀ o ∈ op :: after, r'.lookup space o.name = r.lookup space o.name
  others : ∀ pair, (∀ o : Op, pair ≠ (space, o.name)) → r'.at? pair = r.at? pair

theorem exists_halfway {view : View σ Drac} {id : Nat} {r : Registry σ} {e : RuntimeError}
    (herror : (register view id r).2 = .error e) :
    ∃ before op after, Halfway view id r (register view id r).1 e before op after := by
  have hsome : ¬ ∀ op ∈ Op.all, ¬ Clashes r op := by
    intro hnone
    have hok := (register_isOk_iff view id r).mpr fun op => hnone op op.mem_all
    rw [hok] at herror
    cases herror
  obtain ⟨before, op, after, horder, hfirst, hop⟩ := exists_first hsome
  obtain ⟨g, hg, hs⟩ := Classical.not_not.mp hop
  have hnodup := nodup_pairs view id
  rw [horder, List.map_append] at hnodup
  have hbefore : ∀ c ∈ before.map (entry view id), ¬ r.Refuses c := List.forall_mem_map.mpr hfirst
  have hregister : register view id r = ((r.registerAll (before.map (entry view id))).1,
      .error (.duplicateImport space op.name g.signature op.signature)) := by
    rw [register_eq, horder, List.map_append]
    exact Registry.registerAll_of_refuses hnodup hbefore hg hs
  refine ⟨before, op, after, horder, hfirst, ⟨g, hg, hs, ?_⟩, fun o ho => ?_, fun o ho => ?_, fun pair hpair => ?_⟩
  · rw [hregister] at herror
    exact (Except.error.inj herror).symm
  · rw [List.map_append, List.nodup_append] at hnodup
    have hok := Registry.registerAll_isOk hnodup.1 hbefore
    rw [hregister]
    exact Registry.at?_of_registerAll hok hnodup.1 (entry view id o) (List.mem_map_of_mem ho)
  · rw [hregister]
    exact Registry.at?_registerAll_later hnodup (List.mem_map_of_mem (f := entry view id) ho)
  · exact at?_register_other view id r hpair

/-- **What registering a library does**, whatever is in the registry. -/
structure LibraryRegistered (view : View σ Drac) (id : Nat) (r : Registry σ) : Prop where
  /-- It succeeds iff no name of the library has a function of another signature. -/
  succeeds : (register view id r).2 = .ok () ↔ ∀ op, ¬ Clashes r op
  /-- Then each name has the library's function, whatever it had. -/
  bound : (register view id r).2 = .ok () →
    ∀ op : Op, (register view id r).1.lookup space op.name = some (member view id op)
  /-- All these functions use the arrays and the streams of this library. -/
  shared : ∀ op label args w,
    ((member view id op).call label args w).1 = ((view.get w).ask label op args).1 ∧
    view.get ((member view id op).call label args w).2 = ((view.get w).ask label op args).2
  /-- They use those of no other library. -/
  apart : ∀ other : View σ Drac, (∀ w d, other.get (view.set w d) = other.get w) →
    ∀ op label args w, other.get ((member view id op).call label args w).2 = other.get w
  kept : (register view id r).2 = .ok () → ∀ pair, (∀ op : Op, pair ≠ (space, op.name)) →
    (register view id r).1.at? pair = r.at? pair
  counted : (register view id r).2 = .ok () →
    (register view id r).1.size = r.size + Op.all.countP fun op => !r.contains space op.name
  /-- Registering this library or another once more succeeds, and changes neither the number of functions nor any
      signature. -/
  again : (register view id r).2 = .ok () → ∀ (view' : View σ Drac) id',
    (register view' id' (register view id r).1).2 = .ok () ∧
    (register view' id' (register view id r).1).1.size = (register view id r).1.size ∧
    ∀ pair, ((register view' id' (register view id r).1).1.at? pair).map HostFunction.signature =
      ((register view id r).1.at? pair).map HostFunction.signature
  /-- Otherwise the error names the first function that clashes, and those before it are registered. -/
  fails : ∀ e, (register view id r).2 = .error e →
    ∃ before op after, Halfway view id r (register view id r).1 e before op after

/-- **A library is registered in any registry as a whole, or up to its first function that clashes.** -/
theorem libraryRegistered {view : View σ Drac} (lawful : view.Lawful) (id : Nat) (r : Registry σ) :
    LibraryRegistered view id r where
  succeeds := register_isOk_iff view id r
  bound := lookup_register
  shared op label args w := call_eq_ask lawful (id + Op.all.idxOf op) label op args w
  apart other hother op label args w := by
    by_cases h : args.map Value.type = (member view id op).signature.params
    · rw [HostFunction.call_of_fits h]
      dsimp only [member, function]
      split
      · exact hother w _
      · rfl
    · rw [HostFunction.call_of_misfit h]
  kept _ _ := at?_register_other view id r
  counted := size_register
  again hok view' id' :=
    ⟨register_again hok view' id', size_register_again hok view' id', signature_register_again hok view' id'⟩
  fails _ := exists_halfway

/-- The second library in a registry that has a function of the first, and one that clashes: a function of each is
    found afterwards. -/
theorem libraryRegistered_mixed :
    let first : View (Drac × Drac) Drac := ⟨Prod.fst, fun w d => (d, w.2)⟩
    let second : View (Drac × Drac) Drac := ⟨Prod.snd, fun w d => (w.1, d)⟩
    let clashing : HostFunction (Drac × Drac) := ⟨0, ⟨[], []⟩, fun _ w => (.ok [], w)⟩
    let r := (Registry.empty.registerEach [⟨space, "add", clashing⟩, entry first 1 .set]).1
    second.Lawful ∧ (∀ w d, first.get (second.set w d) = first.get w) ∧ LibraryRegistered second 12 r ∧
      (register second 12 r).2 = .error (.duplicateImport "drac" "add" ⟨[], []⟩ ⟨[.i32, .i32], [.i32]⟩) ∧
      (register second 12 r).1.lookup "drac" "new" = some (member second 12 .new) ∧
      (register second 12 r).1.lookup "drac" "get" = none ∧
      (register second 12 r).1.lookup "drac" "set" = some (member first 1 .set) :=
  ⟨fun _ _ => rfl, fun _ _ => rfl, libraryRegistered (fun _ _ => rfl) 12 _, rfl, rfl, rfl, rfl⟩

end Drac

end Embedder
