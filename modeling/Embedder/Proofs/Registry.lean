import Embedder.Host.Registry
import Mathlib.Data.List.Perm.Basic
import Mathlib.Data.List.Dedup
import Mathlib.Data.List.Count
import Mathlib.Data.List.Induction

/-!
# Histories of a registry

A history is a list of registrations, made one after the other whatever becomes of each. This file
compares what a registry says after a history with what the history itself says, pair by pair:

* `callsFor` -- the registrations for one pair, in their order;
* `verdict` -- what becomes of a registration, given the earlier ones for its pair: the first is
  accepted, and a later one if its signature is that of the first;
* `lastAccepted` -- the function of a pair, given the registrations for it.

**`at?_registerEach`** and **`outcome_registerEach`** say that a registry knows nothing else: the
registrations for other pairs play no part. So two histories that differ only in how the
registrations for different pairs are mixed end alike (`at?_of_callsFor`, `entries_perm_of_at?`).
-/

namespace Embedder

variable {σ : Type}

/-- The pair that an entry is for. -/
def Entry.pair (e : Entry σ) : String × String := (e.space, e.name)

namespace Registry

/-- The function of a pair. -/
def at? (r : Registry σ) (pair : String × String) : Option (HostFunction σ) := r.lookup pair.1 pair.2

/-! ## 1. One registration -/

theorem get?_functionsOf (r : Registry σ) (space name : String) :
    (r.functionsOf space).get? name = r.lookup space name := by
  unfold functionsOf lookup
  cases r.spaces.get? space with
  | none => rfl
  | some fs => rfl

/-- A namespace that is there stays as it is. -/
theorem withSpace_of_some {r : Registry σ} {space : String} {fs : Directory (HostFunction σ)}
    (h : r.spaces.get? space = some fs) : r.withSpace space = r := by
  unfold withSpace
  rw [h]

@[simp] theorem functionsOf_withSpace (r : Registry σ) (space : String) :
    (r.withSpace space).functionsOf space = r.functionsOf space := by
  cases h : r.spaces.get? space with
  | none => simp [withSpace, functionsOf, h]
  | some fs => rw [withSpace_of_some h]

/-- A new namespace has no functions yet. -/
theorem lookup_withSpace (r : Registry σ) (space other name : String) :
    (r.withSpace space).lookup other name = r.lookup other name := by
  cases h : r.spaces.get? space with
  | some fs => rw [withSpace_of_some h]
  | none =>
    by_cases ho : other = space
    · subst ho
      simp [withSpace, lookup, h]
    · simp [withSpace, lookup, h, Directory.get?_set_other _ _ ho]

theorem at?_insert_self (r : Registry σ) (space name : String) (f : HostFunction σ) :
    (r.insert space name f).at? (space, name) = some f := by
  simp [insert, at?, lookup]

theorem at?_insert_other (r : Registry σ) {space name : String} (f : HostFunction σ)
    {pair : String × String} (h : pair ≠ (space, name)) :
    (r.insert space name f).at? pair = r.at? pair := by
  obtain ⟨other, n⟩ := pair
  by_cases ho : other = space
  · subst ho
    have hn : n ≠ name := fun e => h (by rw [e])
    show ((r.spaces.set other ((r.functionsOf other).set name f)).get? other).bind (·.get? n) = _
    rw [Directory.get?_set_self, Option.bind_some, Directory.get?_set_other _ _ hn,
      get?_functionsOf]
    rfl
  · show ((r.spaces.set space ((r.functionsOf space).set name f)).get? other).bind (·.get? n) = _
    rw [Directory.get?_set_other _ _ ho]
    rfl

/-- The registry after an accepted registration. -/
def accepted (r : Registry σ) (c : Entry σ) : Registry σ :=
  (r.withSpace c.space).insert c.space c.name c.function

theorem at?_accepted_self (r : Registry σ) (c : Entry σ) :
    (r.accepted c).at? c.pair = some c.function :=
  at?_insert_self _ _ _ _

theorem at?_accepted_other (r : Registry σ) (c : Entry σ) {pair : String × String}
    (h : pair ≠ c.pair) : (r.accepted c).at? pair = r.at? pair :=
  (at?_insert_other _ _ h).trans (lookup_withSpace r c.space pair.1 pair.2)

/-- The first registration of a pair is accepted. -/
theorem registerFunction_new {r : Registry σ} {c : Entry σ} (h : r.at? c.pair = none) :
    r.registerFunction c.space c.name c.function = (r.accepted c, .ok ()) := by
  have hg : (r.functionsOf c.space).get? c.name = none := by rw [get?_functionsOf]; exact h
  simp only [registerFunction, functionsOf_withSpace, hg]
  rfl

/-- A registration with the signature that the pair has is accepted. -/
theorem registerFunction_same {r : Registry σ} {c : Entry σ} {g : HostFunction σ}
    (h : r.at? c.pair = some g) (hs : g.signature = c.function.signature) :
    r.registerFunction c.space c.name c.function = (r.accepted c, .ok ()) := by
  have hg : (r.functionsOf c.space).get? c.name = some g := by rw [get?_functionsOf]; exact h
  simp only [registerFunction, functionsOf_withSpace, hg, hs, if_true]
  rfl

/-- **A registration with another signature is refused and changes nothing**: the pair has a function,
    so its namespace is there and none is made for it. -/
theorem registerFunction_other {r : Registry σ} {c : Entry σ} {g : HostFunction σ}
    (h : r.at? c.pair = some g) (hs : g.signature ≠ c.function.signature) :
    r.registerFunction c.space c.name c.function =
      (r, .error (.duplicateImport c.space c.name g.signature c.function.signature)) := by
  have hg : (r.functionsOf c.space).get? c.name = some g := by rw [get?_functionsOf]; exact h
  have hw : r.withSpace c.space = r := by
    cases hsp : r.spaces.get? c.space with
    | some fs => exact withSpace_of_some hsp
    | none => simp [at?, Entry.pair, lookup, hsp] at h
  simp only [registerFunction, hw, hg, hs, if_false]

/-- **A registration is accepted, or refused and changes nothing.** -/
theorem registerFunction_cases (r : Registry σ) (c : Entry σ) :
    r.registerFunction c.space c.name c.function = (r.accepted c, .ok ()) ∨
      ∃ e, r.registerFunction c.space c.name c.function = (r, .error e) := by
  cases hl : r.at? c.pair with
  | none => exact .inl (registerFunction_new hl)
  | some g =>
    by_cases hs : g.signature = c.function.signature
    · exact .inl (registerFunction_same hl hs)
    · exact .inr ⟨_, registerFunction_other hl hs⟩

/-- A refusal changes nothing. -/
theorem eq_of_registerFunction_error {r r' : Registry σ} {c : Entry σ} {e : RuntimeError}
    (h : r.registerFunction c.space c.name c.function = (r', .error e)) : r' = r := by
  rcases r.registerFunction_cases c with haccepted | ⟨e', hrefused⟩
  · rw [haccepted] at h
    cases h
  · rw [hrefused] at h
    cases h
    rfl

/-- Registering functions under other pairs does not change what a pair has. -/
theorem at?_registerAll_other {pair : String × String} : ∀ (cs : List (Entry σ)) (r : Registry σ),
    (∀ c ∈ cs, pair ≠ c.pair) → (r.registerAll cs).1.at? pair = r.at? pair
  | [], _, _ => rfl
  | c :: cs, r, h => by
      unfold registerAll
      rcases r.registerFunction_cases c with haccepted | ⟨e, hrefused⟩
      · rw [haccepted]
        have hrest := at?_registerAll_other cs (r.accepted c) fun x hx => h x (List.mem_cons_of_mem _ hx)
        exact hrest.trans (at?_accepted_other r c (h c List.mem_cons_self))
      · rw [hrefused]

/-- The first of some registrations that all succeed gives its pair its function, unless a later one is for
    the same pair. -/
theorem at?_registerAll_cons {c : Entry σ} {cs : List (Entry σ)} {r : Registry σ}
    (h : (r.registerAll (c :: cs)).2 = .ok ()) (hlater : ∀ x ∈ cs, c.pair ≠ x.pair) :
    (r.registerAll (c :: cs)).1.at? c.pair = some c.function := by
  unfold registerAll at h ⊢
  rcases r.registerFunction_cases c with haccepted | ⟨e, hrefused⟩
  · rw [haccepted]
    exact (at?_registerAll_other cs _ hlater).trans (at?_accepted_self r c)
  · rw [hrefused] at h
    cases h

/-- Registrations for different pairs that all succeed give each pair its function. -/
theorem at?_of_registerAll : ∀ {es : List (Entry σ)} {r : Registry σ}, (r.registerAll es).2 = .ok () →
    (es.map Entry.pair).Nodup → ∀ e ∈ es, (r.registerAll es).1.at? e.pair = some e.function
  | [], _, _, _, e, he => nomatch he
  | c :: cs, r, h, hnodup, e, he => by
      rw [List.map_cons, List.nodup_cons] at hnodup
      rcases List.mem_cons.mp he with rfl | he
      · exact at?_registerAll_cons h fun x hx hpair => hnodup.1 (List.mem_map.mpr ⟨x, hx, hpair.symm⟩)
      · unfold registerAll at h ⊢
        rcases r.registerFunction_cases c with haccepted | ⟨err, hrefused⟩
        · rw [haccepted] at h ⊢
          exact at?_of_registerAll h hnodup.2 e he
        · rw [hrefused] at h
          cases h

/-- After some registrations a pair has a function that it had before, or one of theirs. -/
theorem exists_of_at?_registerAll {pair : String × String} {f : HostFunction σ} :
    ∀ {es : List (Entry σ)} {r : Registry σ}, (r.registerAll es).1.at? pair = some f →
      r.at? pair = some f ∨ ∃ e ∈ es, e.function = f
  | [], _, h => .inl h
  | c :: cs, r, h => by
      unfold registerAll at h
      rcases r.registerFunction_cases c with haccepted | ⟨err, hrefused⟩
      · rw [haccepted] at h
        rcases exists_of_at?_registerAll h with hfirst | ⟨e, he, rfl⟩
        · by_cases hpair : pair = c.pair
          · rw [hpair, at?_accepted_self] at hfirst
            exact .inr ⟨c, List.mem_cons_self, Option.some.inj hfirst⟩
          · rw [at?_accepted_other r c hpair] at hfirst
            exact .inl hfirst
        · exact .inr ⟨e, List.mem_cons_of_mem _ he, rfl⟩
      · rw [hrefused] at h
        exact .inl h

/-! ## 2. Histories -/

/-- Makes registrations one after the other, with what becomes of each. -/
def registerEach (r : Registry σ) : List (Entry σ) → Registry σ × List (Except RuntimeError Unit)
  | [] => (r, [])
  | c :: cs =>
    let (r', o) := r.registerFunction c.space c.name c.function
    let (r'', os) := r'.registerEach cs
    (r'', o :: os)

theorem registerEach_append (cs ds : List (Entry σ)) : ∀ r : Registry σ,
    r.registerEach (cs ++ ds) =
      (((r.registerEach cs).1.registerEach ds).1,
        (r.registerEach cs).2 ++ ((r.registerEach cs).1.registerEach ds).2) := by
  induction cs with
  | nil => intro r; rfl
  | cons c cs ih =>
    intro r
    simp only [List.cons_append, registerEach]
    rw [ih]

theorem length_registerEach (cs : List (Entry σ)) : ∀ r : Registry σ,
    (r.registerEach cs).2.length = cs.length := by
  induction cs with
  | nil => intro r; rfl
  | cons c cs ih =>
    intro r
    simp only [registerEach, List.length_cons]
    rw [ih]

end Registry

/-- The registrations for one pair. -/
def callsFor (pair : String × String) (cs : List (Entry σ)) : List (Entry σ) :=
  cs.filter fun c => c.pair = pair

/-- What becomes of a registration, given the earlier ones for its pair. -/
def verdict (earlier : List (Entry σ)) (c : Entry σ) : Except RuntimeError Unit :=
  match earlier with
  | [] => .ok ()
  | first :: _ =>
    if first.function.signature = c.function.signature then .ok ()
    else .error (.duplicateImport c.space c.name first.function.signature c.function.signature)

/-- The function of a pair, given the registrations for it: that of the last one with the signature
    of the first. -/
def lastAccepted : List (Entry σ) → Option (HostFunction σ)
  | [] => none
  | first :: later =>
    (((first :: later).filter fun c => c.function.signature = first.function.signature).getLast?).map
      Entry.function

theorem callsFor_append (pair : String × String) (cs ds : List (Entry σ)) :
    callsFor pair (cs ++ ds) = callsFor pair cs ++ callsFor pair ds :=
  List.filter_append _ _

theorem callsFor_singleton_self (c : Entry σ) : callsFor c.pair [c] = [c] := by
  simp [callsFor]

theorem callsFor_singleton_other {pair : String × String} {c : Entry σ} (h : pair ≠ c.pair) :
    callsFor pair [c] = [] := by
  simp [callsFor, Ne.symm h]

theorem callsFor_callsFor (pair : String × String) (cs : List (Entry σ)) :
    callsFor pair (callsFor pair cs) = callsFor pair cs := by
  simp [callsFor]

theorem mem_callsFor {pair : String × String} {cs : List (Entry σ)} {c : Entry σ} :
    c ∈ callsFor pair cs ↔ c ∈ cs ∧ c.pair = pair := by
  simp [callsFor]

theorem lastAccepted_eq_none {calls : List (Entry σ)} : lastAccepted calls = none ↔ calls = [] := by
  cases calls with
  | nil => simp [lastAccepted]
  | cons first later => simp [lastAccepted]

/-- The function of a pair has the signature of the first registration for it. -/
theorem signature_lastAccepted {first : Entry σ} {later : List (Entry σ)} {g : HostFunction σ}
    (h : lastAccepted (first :: later) = some g) : g.signature = first.function.signature := by
  obtain ⟨c, hc, rfl⟩ := Option.map_eq_some_iff.mp h
  have hm := List.mem_of_getLast? hc
  rw [List.mem_filter, decide_eq_true_eq] at hm
  exact hm.2

/-- An accepted registration is the last accepted one, and a refused one leaves the one before. -/
theorem lastAccepted_snoc (first : Entry σ) (later : List (Entry σ)) (c : Entry σ) :
    lastAccepted (first :: later ++ [c]) =
      if first.function.signature = c.function.signature then some c.function
      else lastAccepted (first :: later) := by
  rw [List.cons_append]
  simp only [lastAccepted]
  rw [← List.cons_append, List.filter_append]
  by_cases hs : first.function.signature = c.function.signature
  · have hc : ([c].filter fun c => c.function.signature = first.function.signature) = [c] := by
      simp [hs]
    rw [hc, List.getLast?_concat, if_pos hs]
    rfl
  · have hc : ([c].filter fun c => c.function.signature = first.function.signature) = [] := by
      simp [Ne.symm hs]
    rw [hc, List.append_nil, if_neg hs]

namespace Registry

/-- **What a registration does, by the history of its pair alone**: it is judged by the earlier
    registrations for the pair, and every pair has its last accepted function again. -/
theorem registerFunction_history {r : Registry σ} {cs : List (Entry σ)}
    (h : ∀ pair, r.at? pair = lastAccepted (callsFor pair cs)) (c : Entry σ) :
    (r.registerFunction c.space c.name c.function).2 = verdict (callsFor c.pair cs) c ∧
      ∀ pair, (r.registerFunction c.space c.name c.function).1.at? pair =
        lastAccepted (callsFor pair (cs ++ [c])) := by
  -- a pair that the registration is not for
  have hother : ∀ pair, pair ≠ c.pair →
      lastAccepted (callsFor pair (cs ++ [c])) = r.at? pair := by
    intro pair hp
    rw [callsFor_append, callsFor_singleton_other hp, List.append_nil, h]
  -- both accepting cases end in the same registry
  have haccepted : lastAccepted (callsFor c.pair (cs ++ [c])) = some c.function →
      ∀ pair, (r.accepted c).at? pair = lastAccepted (callsFor pair (cs ++ [c])) := by
    intro hlast pair
    by_cases hp : pair = c.pair
    · rw [hp, at?_accepted_self, hlast]
    · rw [at?_accepted_other r c hp, hother pair hp]
  have hself : callsFor c.pair (cs ++ [c]) = callsFor c.pair cs ++ [c] := by
    rw [callsFor_append, callsFor_singleton_self]
  cases hcalls : callsFor c.pair cs with
  | nil =>
    have hnone : r.at? c.pair = none := by rw [h, hcalls]; rfl
    rw [registerFunction_new hnone]
    refine ⟨rfl, haccepted ?_⟩
    rw [hself, hcalls]
    simp [lastAccepted]
  | cons first later =>
    cases hg : r.at? c.pair with
    | none =>
      rw [h, hcalls, lastAccepted_eq_none] at hg
      cases hg
    | some g =>
      have hsig : g.signature = first.function.signature := by
        rw [h, hcalls] at hg
        exact signature_lastAccepted hg
      by_cases hs : first.function.signature = c.function.signature
      · rw [registerFunction_same hg (hsig.trans hs)]
        refine ⟨by simp [verdict, hs], haccepted ?_⟩
        rw [hself, hcalls, lastAccepted_snoc, if_pos hs]
      · rw [registerFunction_other hg (fun e => hs (hsig.symm.trans e))]
        refine ⟨by simp [verdict, hs, hsig], fun pair => ?_⟩
        by_cases hp : pair = c.pair
        · rw [hp, hself, hcalls, lastAccepted_snoc, if_neg hs, ← hcalls, h]
        · rw [hother pair hp]

theorem registerEach_snoc (r : Registry σ) (cs : List (Entry σ)) (c : Entry σ) :
    r.registerEach (cs ++ [c]) =
      (((r.registerEach cs).1.registerFunction c.space c.name c.function).1,
        (r.registerEach cs).2 ++ [((r.registerEach cs).1.registerFunction c.space c.name c.function).2]) := by
  rw [registerEach_append]
  rfl

/-- **After a history every pair has the last accepted function of its own registrations.** -/
theorem at?_registerEach (cs : List (Entry σ)) (pair : String × String) :
    (empty.registerEach cs).1.at? pair = lastAccepted (callsFor pair cs) := by
  induction cs using List.reverseRecOn generalizing pair with
  | nil => rfl
  | append_singleton cs c ih =>
    rw [registerEach_snoc]
    exact (registerFunction_history ih c).2 pair

/-- One more registration is judged by the earlier ones for its pair. -/
theorem outcomes_snoc (cs : List (Entry σ)) (c : Entry σ) :
    (empty.registerEach (cs ++ [c])).2 =
      (empty.registerEach cs).2 ++ [verdict (callsFor c.pair cs) c] := by
  rw [registerEach_snoc, (registerFunction_history (at?_registerEach cs) c).1]

/-- **Each registration of a history is judged by the earlier ones for its pair.** -/
theorem outcome_registerEach (before : List (Entry σ)) (c : Entry σ) (after : List (Entry σ)) :
    (empty.registerEach (before ++ c :: after)).2[before.length]? =
      some (verdict (callsFor c.pair before) c) := by
  have hsplit : before ++ c :: after = (before ++ [c]) ++ after := by simp
  have hlen : before.length = (empty.registerEach before).2.length :=
    (length_registerEach before _).symm
  rw [hsplit, registerEach_append, outcomes_snoc, List.append_assoc, hlen,
    List.getElem?_append_right (Nat.le_refl _)]
  simp

/-- The registrations of a history for one pair, with what became of each. -/
def outcomesFor (pair : String × String) (cs : List (Entry σ)) :
    List (Entry σ × Except RuntimeError Unit) :=
  (cs.zip (empty.registerEach cs).2).filter fun o => o.1.pair = pair

/-- **The registrations for a pair fare as they would alone.** -/
theorem outcomesFor_eq (pair : String × String) (cs : List (Entry σ)) :
    outcomesFor pair cs = (callsFor pair cs).zip (empty.registerEach (callsFor pair cs)).2 := by
  induction cs using List.reverseRecOn with
  | nil => rfl
  | append_singleton cs c ih =>
    have hlen : cs.length = (empty.registerEach cs).2.length := (length_registerEach cs _).symm
    have hlen' : (callsFor pair cs).length = (empty.registerEach (callsFor pair cs)).2.length :=
      (length_registerEach _ _).symm
    unfold outcomesFor at ih ⊢
    rw [outcomes_snoc, List.zip_append hlen, List.filter_append, ih, callsFor_append]
    by_cases hp : pair = c.pair
    · subst hp
      rw [callsFor_singleton_self, outcomes_snoc, callsFor_callsFor, List.zip_append hlen']
      simp
    · rw [callsFor_singleton_other hp, List.append_nil]
      simp [Ne.symm hp]

/-! ## 3. Entries -/

/-- **The entries are what is found**, each under its pair. -/
theorem mem_entries_iff (r : Registry σ) (e : Entry σ) :
    e ∈ r.entries ↔ r.at? e.pair = some e.function := by
  obtain ⟨space, name, f⟩ := e
  show _ ↔ (r.spaces.get? space).bind (·.get? name) = some f
  simp only [entries, List.mem_flatMap, List.mem_map, Option.bind_eq_some_iff]
  constructor
  · rintro ⟨⟨s, fs⟩, hs, ⟨n, g⟩, hg, e⟩
    cases e
    exact ⟨fs, (r.spaces.mem_items_iff).mp hs, (fs.mem_items_iff).mp hg⟩
  · rintro ⟨fs, hs, hf⟩
    exact ⟨(space, fs), (r.spaces.mem_items_iff).mpr hs, (name, f), (fs.mem_items_iff).mpr hf, rfl⟩

/-- No pair has two entries. -/
theorem nodup_entries (r : Registry σ) : (r.entries.map Entry.pair).Nodup := by
  have hmap : r.entries.map Entry.pair =
      r.spaces.items.flatMap fun s => s.2.items.map fun f => (s.1, f.1) := by
    simp only [entries, List.map_flatMap, List.map_map]
    rfl
  rw [hmap, List.nodup_flatMap]
  refine ⟨fun s _ => ?_, ?_⟩
  · have hpairs : (s.2.items.map fun f => (s.1, f.1)) = (s.2.items.map Prod.fst).map (s.1, ·) := by
      rw [List.map_map]
      rfl
    rw [hpairs]
    exact s.2.nodup.map fun a b e => (Prod.mk.inj e).2
  · -- entries of different namespaces differ in the first component
    refine (List.pairwise_map.mp r.spaces.nodup).imp fun {s t} hst => ?_
    intro p hp hq
    obtain ⟨_, _, rfl⟩ := List.mem_map.mp hp
    obtain ⟨_, _, e⟩ := List.mem_map.mp hq
    exact hst (Prod.mk.inj e).1.symm

theorem length_entries (r : Registry σ) : r.entries.length = r.size := by
  unfold entries size
  induction r.spaces.items with
  | nil => rfl
  | cons s spaces ih =>
    rw [List.flatMap_cons, List.length_append, ih, List.length_map]
    rfl

/-- A pair has an entry after a history iff the history has a registration for it. -/
theorem mem_pairs_registerEach (cs : List (Entry σ)) (pair : String × String) :
    pair ∈ (empty.registerEach cs).1.entries.map Entry.pair ↔ pair ∈ cs.map Entry.pair := by
  constructor
  · intro h
    obtain ⟨e, he, rfl⟩ := List.mem_map.mp h
    rw [mem_entries_iff, at?_registerEach] at he
    cases hc : callsFor e.pair cs with
    | nil =>
      rw [hc] at he
      cases he
    | cons first later =>
      have hm : first ∈ callsFor e.pair cs := by rw [hc]; exact List.mem_cons_self
      obtain ⟨hfirst, hp⟩ := mem_callsFor.mp hm
      exact List.mem_map.mpr ⟨first, hfirst, hp⟩
  · intro h
    obtain ⟨c, hc, rfl⟩ := List.mem_map.mp h
    cases hf : (empty.registerEach cs).1.at? c.pair with
    | none =>
      rw [at?_registerEach, lastAccepted_eq_none] at hf
      have hm : c ∈ callsFor c.pair cs := mem_callsFor.mpr ⟨hc, rfl⟩
      rw [hf] at hm
      cases hm
    | some f =>
      exact List.mem_map.mpr ⟨⟨c.space, c.name, f⟩, (mem_entries_iff _ _).mpr hf, rfl⟩

/-- **The number of functions is the number of different pairs in the history.** -/
theorem size_registerEach (cs : List (Entry σ)) :
    (empty.registerEach cs).1.size = (cs.map Entry.pair).dedup.length := by
  have hperm : ((empty.registerEach cs).1.entries.map Entry.pair).Perm (cs.map Entry.pair).dedup :=
    (List.perm_ext_iff_of_nodup (nodup_entries _) (List.nodup_dedup _)).mpr fun pair => by
      rw [List.mem_dedup, mem_pairs_registerEach]
  rw [← length_entries, ← hperm.length_eq, List.length_map]

/-! ## 4. Histories that mix the pairs differently -/

theorem entries_perm_of_at? {r s : Registry σ} (h : ∀ pair, r.at? pair = s.at? pair) :
    r.entries.Perm s.entries :=
  (List.perm_ext_iff_of_nodup (nodup_entries r).of_map (nodup_entries s).of_map).mpr fun e => by
    rw [mem_entries_iff, mem_entries_iff, h]

/-- Lists that agree on the items of every key are permutations of each other. -/
theorem perm_of_filter_key {α κ : Type} [DecidableEq κ] (key : α → κ) {as bs : List α}
    (h : ∀ k, (as.filter fun a => key a = k) = bs.filter fun a => key a = k) : as.Perm bs := by
  classical
  rw [List.perm_iff_count]
  intro a
  have hcount : ∀ l : List α, (l.filter fun b => key b = key a).count a = l.count a := fun l =>
    List.count_filter (by simp)
  rw [← hcount as, ← hcount bs, h]

/-- A history that has the same registrations for every pair finds every pair alike. -/
theorem at?_of_callsFor {cs ds : List (Entry σ)}
    (h : ∀ pair, callsFor pair ds = callsFor pair cs) (pair : String × String) :
    (empty.registerEach ds).1.at? pair = (empty.registerEach cs).1.at? pair := by
  rw [at?_registerEach, at?_registerEach, h]

theorem outcomesFor_of_callsFor {cs ds : List (Entry σ)}
    (h : ∀ pair, callsFor pair ds = callsFor pair cs) (pair : String × String) :
    outcomesFor pair ds = outcomesFor pair cs := by
  rw [outcomesFor_eq, outcomesFor_eq, h]

/-! ## 5. The registry as a map -/

/-- **What a registry is after a history**: a map from pairs to functions in which the last accepted
    registration counts and the first one fixes the signature. -/
structure LastWriterMap (cs : List (Entry σ)) : Prop where
  /-- The registrations for a pair fare, and end, as they would alone. -/
  alone : ∀ pair, outcomesFor pair cs =
      (callsFor pair cs).zip (empty.registerEach (callsFor pair cs)).2 ∧
    (empty.registerEach cs).1.at? pair = (empty.registerEach (callsFor pair cs)).1.at? pair
  /-- Each is judged by the earlier ones for its pair. -/
  judged : ∀ before c after, cs = before ++ c :: after →
    (empty.registerEach cs).2[before.length]? = some (verdict (callsFor c.pair before) c)
  /-- A pair has the function of its last accepted registration. -/
  found : ∀ pair, (empty.registerEach cs).1.at? pair = lastAccepted (callsFor pair cs)
  /-- The signature of a pair is that of its first registration, for ever. -/
  fixed : ∀ pair f, (empty.registerEach cs).1.at? pair = some f →
    ∃ first, (callsFor pair cs).head? = some first ∧ f.signature = first.function.signature
  /-- A refusal leaves the whole registry as it was. -/
  refused : ∀ (c : Entry σ) r' e,
    (empty.registerEach cs).1.registerFunction c.space c.name c.function = (r', .error e) →
      r' = (empty.registerEach cs).1
  /-- Registrations for different pairs may change places. -/
  mixed : ∀ ds : List (Entry σ), (∀ pair, callsFor pair ds = callsFor pair cs) →
    (∀ pair, outcomesFor pair ds = outcomesFor pair cs) ∧
    (ds.zip (empty.registerEach ds).2).Perm (cs.zip (empty.registerEach cs).2) ∧
    (∀ pair, (empty.registerEach ds).1.at? pair = (empty.registerEach cs).1.at? pair) ∧
    (empty.registerEach ds).1.entries.Perm (empty.registerEach cs).1.entries ∧
    (empty.registerEach ds).1.size = (empty.registerEach cs).1.size
  /-- There are as many functions as different pairs, and as many entries. -/
  counted : (empty.registerEach cs).1.size = (cs.map Entry.pair).dedup.length ∧
    (empty.registerEach cs).1.entries.length = (empty.registerEach cs).1.size
  /-- The entries are what is found, each pair once. -/
  listed : ((empty.registerEach cs).1.entries.map Entry.pair).Nodup ∧
    ∀ e, e ∈ (empty.registerEach cs).1.entries ↔
      (empty.registerEach cs).1.at? e.pair = some e.function

/-- **Every history makes a map in which the last writer wins.** -/
theorem lastWriterMap (cs : List (Entry σ)) : LastWriterMap cs where
  alone pair := by
    refine ⟨outcomesFor_eq pair cs, ?_⟩
    rw [at?_registerEach, at?_registerEach, callsFor_callsFor]
  judged before c after h := by
    subst h
    exact outcome_registerEach before c after
  found := at?_registerEach cs
  fixed pair f h := by
    rw [at?_registerEach] at h
    cases hc : callsFor pair cs with
    | nil =>
      rw [hc] at h
      cases h
    | cons first later =>
      rw [hc] at h
      exact ⟨first, rfl, signature_lastAccepted h⟩
  refused _ _ _ h := eq_of_registerFunction_error h
  mixed ds h := by
    have hat := at?_of_callsFor h
    have hentries := entries_perm_of_at? hat
    refine ⟨outcomesFor_of_callsFor h, ?_, hat, hentries, ?_⟩
    · exact perm_of_filter_key (fun o => o.1.pair) (outcomesFor_of_callsFor h)
    · rw [← length_entries, ← length_entries, hentries.length_eq]
  counted := ⟨size_registerEach cs, length_entries _⟩
  listed := ⟨nodup_entries _, mem_entries_iff _⟩

end Registry

end Embedder
