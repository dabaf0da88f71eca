/-!
# Directories

A directory holds items under names, each name once, in the order in which the names first came.
`set` puts an item under a name: **a name that is there keeps its place**, a new one goes to the end.
-/

namespace Embedder

/-- Items under names, each name once. -/
structure Directory (α : Type) where
  items : List (String × α)
  nodup : (items.map Prod.fst).Nodup

namespace Directory

variable {α : Type}

/-- The directory without items. -/
def empty : Directory α := ⟨[], .nil⟩

/-- The item under a name. -/
def get? (d : Directory α) (name : String) : Option α := d.items.lookup name

/-- The number of items. -/
def size (d : Directory α) : Nat := d.items.length

/-! ## 1. Putting an item -/

/-- Named items with one put under a name. -/
def putItem (name : String) (a : α) : List (String × α) → List (String × α)
  | [] => [(name, a)]
  | (n, b) :: rest => if n = name then (n, a) :: rest else (n, b) :: putItem name a rest

theorem mem_putItem {name : String} {a : α} {p : String × α} :
    ∀ {items : List (String × α)}, p ∈ putItem name a items → p = (name, a) ∨ p ∈ items
  | [], h => by
      rw [putItem, List.mem_singleton] at h
      exact .inl h
  | (n, b) :: rest, h => by
      unfold putItem at h
      split at h
      · rename_i hn
        rcases List.mem_cons.mp h with rfl | hr
        · exact .inl (by rw [hn])
        · exact .inr (List.mem_cons_of_mem _ hr)
      · rcases List.mem_cons.mp h with rfl | hr
        · exact .inr List.mem_cons_self
        · exact (mem_putItem hr).imp id (List.mem_cons_of_mem _)

/-- Putting an item keeps the names apart. -/
theorem nodup_putItem (name : String) (a : α) : ∀ {items : List (String × α)},
    (items.map Prod.fst).Nodup → ((putItem name a items).map Prod.fst).Nodup
  | [], _ => by simp [putItem]
  | (n, b) :: rest, h => by
      rw [List.map_cons, List.nodup_cons] at h
      unfold putItem
      split
      · rw [List.map_cons, List.nodup_cons]
        exact h
      · rename_i hn
        rw [List.map_cons, List.nodup_cons]
        refine ⟨fun hmem => ?_, nodup_putItem name a h.2⟩
        obtain ⟨p, hp, e⟩ := List.mem_map.mp hmem
        rcases mem_putItem hp with rfl | hr
        · exact hn e.symm
        · exact h.1 (List.mem_map.mpr ⟨p, hr, e⟩)

/-- The directory with an item put under a name. -/
def set (d : Directory α) (name : String) (a : α) : Directory α :=
  ⟨putItem name a d.items, nodup_putItem name a d.nodup⟩

/-! ## 2. Finding an item -/

@[simp] theorem get?_empty (name : String) : (empty : Directory α).get? name = none := rfl

theorem lookup_putItem_self (name : String) (a : α) : ∀ items : List (String × α),
    (putItem name a items).lookup name = some a
  | [] => by simp [putItem]
  | (n, b) :: rest => by
      unfold putItem
      split
      · rename_i hn
        simp [hn]
      · rename_i hn
        have hb : (name == n) = false := by simpa using fun e : name = n => hn e.symm
        rw [List.lookup_cons, hb]
        exact lookup_putItem_self name a rest

theorem lookup_putItem_other {name other : String} (a : α) (h : other ≠ name) :
    ∀ items : List (String × α), (putItem name a items).lookup other = items.lookup other
  | [] => by simp [putItem, h]
  | (n, b) :: rest => by
      unfold putItem
      split
      · rename_i hn
        have hb : (other == n) = false := by simpa [hn] using h
        rw [List.lookup_cons, List.lookup_cons, hb]
      · rw [List.lookup_cons, List.lookup_cons, lookup_putItem_other a h rest]

/-- **The item put under a name is found there.** -/
@[simp] theorem get?_set_self (d : Directory α) (name : String) (a : α) :
    (d.set name a).get? name = some a :=
  lookup_putItem_self name a d.items

/-- **Every other name keeps its item.** -/
theorem get?_set_other (d : Directory α) {name other : String} (a : α) (h : other ≠ name) :
    (d.set name a).get? other = d.get? other :=
  lookup_putItem_other a h d.items

theorem mem_iff_lookup : ∀ {items : List (String × α)}, (items.map Prod.fst).Nodup →
    ∀ {name : String} {a : α}, (name, a) ∈ items ↔ items.lookup name = some a
  | [], _, _, _ => by simp
  | (n, b) :: rest, h, name, a => by
      rw [List.map_cons, List.nodup_cons] at h
      rw [List.mem_cons, List.lookup_cons, mem_iff_lookup h.2]
      by_cases hn : name = n
      · subst hn
        have hnone : rest.lookup name ≠ some a := fun hl =>
          h.1 (List.mem_map.mpr ⟨(name, a), (mem_iff_lookup h.2).mpr hl, rfl⟩)
        simp [hnone, eq_comm]
      · have hb : (name == n) = false := by simpa using hn
        simp [hb, hn]

/-- The items are the ones that are found. -/
theorem mem_items_iff (d : Directory α) {name : String} {a : α} :
    (name, a) ∈ d.items ↔ d.get? name = some a :=
  mem_iff_lookup d.nodup

end Directory

end Embedder
