import Embedder.Proofs.Steps
import Embedder.Wasm.Binary.Module

/-!
# The sections of a binary module

Binary code is a header and sections one after the other, each with a number and the size of what is in it. This
file says what that means for the bytes, without a reader, and that **a module is what its sections hold**, each
section by itself, however the bodies of functions are read.

* `Encodes` -- the bytes of a number; `u32_sound` -- which is what is read as a number;
* `Framed` -- bytes as sections; `Framed.unique` -- in one way at most;
* `Adds` -- what a section adds to a module, and `Loads` -- what sections do one after the other;
  **`sections_sound`** -- these are what is read as sections;
* **`laidOut_of_ofBytes`** -- so each part of a module is what the section for it holds, or nothing if there is no
  such section.
-/

namespace Embedder.Wasm.Binary

variable {α β : Type} {read : Reader β}

/-! ## 1. Bytes that are taken -/

/-- From the one input to the other these bytes were taken. -/
structure Taken (i : Input) (bs : List UInt8) (j : Input) : Prop where
  bytes : i.bytes = bs ++ j.bytes
  offset : j.offset = i.offset + bs.length

theorem Taken.append {i j k : Input} {bs cs : List UInt8} (h : Taken i bs j) (h' : Taken j cs k) :
    Taken i (bs ++ cs) k where
  bytes := by rw [h.bytes, h'.bytes, List.append_assoc]
  offset := by rw [h'.offset, h.offset, List.length_append, Nat.add_assoc]

theorem ok_of_run_bind {x : Reader α} {f : α → Reader β} {i k : Input} {b : β}
    (h : (x >>= f).run i = .ok (b, k)) : ∃ a j, x.run i = .ok (a, j) ∧ (f a).run j = .ok (b, k) := by
  obtain ⟨⟨a, j⟩, hx, hf⟩ := ok_of_bind h
  exact ⟨a, j, hx, hf⟩

theorem taken_byte {b : UInt8} {i j : Input} (h : byte.run i = .ok (b, j)) : Taken i [b] j := by
  obtain ⟨_ | ⟨b', bs⟩, offset⟩ := i
  · cases h
  · cases h
    exact ⟨rfl, rfl⟩

theorem taken_take {n : Nat} {bs : List UInt8} {i j : Input} (h : (take n).run i = .ok (bs, j)) :
    Taken i bs j ∧ bs.length = n := by
  obtain ⟨i', _, hget, h⟩ := ok_of_run_bind h
  cases hget
  dsimp only at h
  split at h
  · cases h
  · rename_i hlen
    cases h
    have hn : (i.bytes.take n).length = n := by
      have := List.length_take_le n i.bytes
      omega
    exact ⟨⟨(List.take_append_drop n i.bytes).symm, by rw [hn]⟩, hn⟩

/-- What is read from a part of the bytes is read from that part to its end. -/
theorem taken_within {n : Nat} {inner : Reader α} {a : α} {i j : Input} (h : (within n inner).run i = .ok (a, j)) :
    ∃ bs rest, Taken i bs j ∧ bs.length = n ∧ inner.run ⟨bs, i.offset⟩ = .ok (a, rest) ∧ rest.bytes = [] := by
  obtain ⟨i', _, hget, h⟩ := ok_of_run_bind h
  cases hget
  obtain ⟨bs, j', htake, h⟩ := ok_of_run_bind h
  obtain ⟨htaken, hlen⟩ := taken_take htake
  split at h
  · cases h
  · rename_i a' rest hinner
    split at h
    · rename_i hempty
      cases h
      exact ⟨bs, rest, htaken, hlen, hinner, List.isEmpty_iff.mp hempty⟩
    · cases h

/-! ## 2. Numbers -/

/-- The bytes of a number: seven bits each, the lowest first, and all but the last with the top bit set. -/
inductive Encodes : List UInt8 → Nat → Prop where
  | last {b : UInt8} : b.toNat < 128 → Encodes [b] b.toNat
  | more {b : UInt8} {bs : List UInt8} {n : Nat} : 128 ≤ b.toNat → Encodes bs n →
      Encodes (b :: bs) (b.toNat % 128 + n * 128)

/-- **Bytes begin with at most one number.** -/
theorem Encodes.unique {bs bs' rest rest' : List UInt8} {n n' : Nat} (h : Encodes bs n) (h' : Encodes bs' n')
    (heq : bs ++ rest = bs' ++ rest') : bs = bs' ∧ n = n' ∧ rest = rest' := by
  -- a number ends with its first byte below 128, so the two cannot end apart
  induction h generalizing bs' n' with
  | last hlow =>
    cases h' with
    | last hlow' =>
      cases heq
      exact ⟨rfl, rfl, rfl⟩
    | more hhigh' htail' =>
      cases heq
      omega
  | more hhigh htail ih =>
    cases h' with
    | last hlow' =>
      cases heq
      omega
    | more hhigh' htail' =>
      obtain ⟨rfl, htails⟩ := List.cons.inj heq
      obtain ⟨rfl, rfl, rfl⟩ := ih htail' htails
      exact ⟨rfl, rfl, rfl⟩

theorem unsignedFrom_sound : ∀ {fuel shift bits n : Nat} {i j : Input},
    (unsignedFrom shift bits fuel).run i = .ok (n, j) →
      ∃ bs k, Taken i bs j ∧ Encodes bs k ∧ n = k * Number.pow2 shift
  | 0, _, _, _, _, _, h => by cases h
  | fuel + 1, shift, bits, n, i, j, h => by
      unfold unsignedFrom at h
      obtain ⟨b, i₁, hbyte, h⟩ := ok_of_run_bind h
      dsimp only at h
      split at h
      · cases h
      · split at h
        · rename_i hlow
          cases h
          exact ⟨[b], b.toNat, taken_byte hbyte, .last hlow, by rw [Nat.mod_eq_of_lt hlow]⟩
        · rename_i hhigh
          split at h
          · cases h
          · obtain ⟨n', i₂, hrest, h⟩ := ok_of_run_bind h
            cases h
            obtain ⟨bs, k, htaken, hencodes, rfl⟩ := unsignedFrom_sound hrest
            refine ⟨b :: bs, _, (taken_byte hbyte).append htaken, .more (Nat.le_of_not_lt hhigh) hencodes, ?_⟩
            have hpow : Number.pow2 (shift + 7) = 128 * Number.pow2 shift := by
              rw [Nat.mul_comm]
              exact Nat.pow_add 2 shift 7
            rw [hpow, Nat.add_mul, Nat.mul_assoc]

/-- What is read as a number is the bytes of one. -/
theorem u32_sound {n : Nat} {i j : Input} (h : u32.run i = .ok (n, j)) : ∃ bs, Taken i bs j ∧ Encodes bs n := by
  obtain ⟨bs, k, htaken, hencodes, rfl⟩ := unsignedFrom_sound h
  rw [Number.pow2_zero, Nat.mul_one]
  exact ⟨bs, htaken, hencodes⟩

/-! ## 3. Sections -/

/-- A section: its number, and its contents with the offset at which they begin. -/
structure Section where
  id : Nat
  offset : Nat
  contents : List UInt8

/-- Bytes from an offset on as sections: a number, the size of the contents, and the contents. -/
inductive Framed : Nat → List UInt8 → List Section → Prop where
  | nil {offset : Nat} : Framed offset [] []
  | cons {offset : Nat} {id : UInt8} {size contents rest : List UInt8} {ss : List Section} :
      Encodes size contents.length → Framed (offset + 1 + size.length + contents.length) rest ss →
        Framed offset (id :: (size ++ (contents ++ rest))) (⟨id.toNat, offset + 1 + size.length, contents⟩ :: ss)

/-- **Bytes are sections in one way at most.** -/
theorem Framed.unique {offset : Nat} {bs : List UInt8} {ss ss' : List Section} (h : Framed offset bs ss)
    (h' : Framed offset bs ss') : ss = ss' := by
  induction h generalizing ss' with
  | nil =>
    cases h'
    rfl
  | @cons offset id size contents rest ss hsize _ ih =>
    generalize hbs : id :: (size ++ (contents ++ rest)) = bs at h'
    cases h' with
    | nil => cases hbs
    | cons hsize' hrest' =>
      obtain ⟨rfl, htail⟩ := List.cons.inj hbs
      obtain ⟨rfl, hlen, htail⟩ := hsize.unique hsize' htail
      obtain ⟨rfl, rfl⟩ := List.append_inj htail hlen
      rw [ih hrest']

/-- The contents of a section, to their end, are something that can be read. -/
def Reads (item : Reader α) (s : Section) (a : α) : Prop :=
  ∃ rest, item.run ⟨s.contents, s.offset⟩ = .ok (a, rest) ∧ rest.bytes = []

/-- What a section adds to a module. -/
inductive Adds (read : Reader β) (s : Section) (m : Module β) : Module β → Prop where
  | custom (name : Option String) : s.id = 0 → Adds read s m { m with name }
  | types {x : List (RecGroup Nat)} : s.id = 1 → Reads (list recGroup) s x → Adds read s m { m with types := x }
  | imports {x : List Import} : s.id = 2 → Reads (list importItem) s x → Adds read s m { m with imports := x }
  | funcs {x : List Nat} : s.id = 3 → Reads (list u32) s x → Adds read s m { m with funcs := x }
  | tables {x : List TableDef} : s.id = 4 → Reads (list tableDef) s x → Adds read s m { m with tables := x }
  | memories {x : List MemoryType} : s.id = 5 → Reads (list memoryType) s x → Adds read s m { m with memories := x }
  | globals {x : List GlobalDef} : s.id = 6 → Reads (list globalDef) s x → Adds read s m { m with globals := x }
  | exports {x : List Export} : s.id = 7 → Reads (list exportItem) s x → Adds read s m { m with exports := x }
  | start {f : Nat} : s.id = 8 → Reads u32 s f → Adds read s m { m with start := some f }
  | elems {x : List Elem} : s.id = 9 → Reads (list elem) s x → Adds read s m { m with elems := x }
  | bodies {x : List β} : s.id = 10 → Reads (list read) s x → Adds read s m { m with bodies := x }
  | datas {x : List Data} : s.id = 11 → Reads (list data) s x → Adds read s m { m with datas := x }
  | dataCount {n : Nat} : s.id = 12 → Reads u32 s n → Adds read s m { m with dataCount := some n }
  | tags {x : List Nat} : s.id = 13 → Reads (list tagType) s x → Adds read s m { m with tags := x }

theorem reads_of_run {item : Reader α} {f : α → Module β} {s : Section} {m : Module β}
    (h : Reads (do return f (← item)) s m) : ∃ x, Reads item s x ∧ m = f x := by
  obtain ⟨rest, h, hend⟩ := h
  obtain ⟨x, j, hx, h⟩ := ok_of_run_bind h
  cases h
  exact ⟨x, ⟨_, hx, hend⟩, rfl⟩

/-- A custom section changes nothing but the name. -/
theorem name_of_customSection {i j : Input} {m m' : Module β} (h : (customSection m).run i = .ok (m', j)) :
    ∃ name, m' = { m with name } := by
  obtain ⟨title, i₁, -, h⟩ := ok_of_run_bind h
  obtain ⟨rest, i₂, -, h⟩ := ok_of_run_bind h
  obtain ⟨_, i₃, -, h⟩ := ok_of_run_bind h
  split at h
  · cases h
    exact ⟨_, rfl⟩
  · cases h
    exact ⟨m.name, rfl⟩

theorem adds_of_reads {s : Section} {m m' : Module β} (h : Reads (sectionOf read s.id m) s m') : Adds read s m m' := by
  unfold sectionOf at h
  split at h
  · obtain ⟨rest, h, -⟩ := h
    obtain ⟨name, rfl⟩ := name_of_customSection h
    exact .custom name ‹_›
  · obtain ⟨x, hx, rfl⟩ := reads_of_run h
    exact .types ‹_› hx
  · obtain ⟨x, hx, rfl⟩ := reads_of_run h
    exact .imports ‹_› hx
  · obtain ⟨x, hx, rfl⟩ := reads_of_run h
    exact .funcs ‹_› hx
  · obtain ⟨x, hx, rfl⟩ := reads_of_run h
    exact .tables ‹_› hx
  · obtain ⟨x, hx, rfl⟩ := reads_of_run h
    exact .memories ‹_› hx
  · obtain ⟨x, hx, rfl⟩ := reads_of_run h
    exact .globals ‹_› hx
  · obtain ⟨x, hx, rfl⟩ := reads_of_run h
    exact .exports ‹_› hx
  · obtain ⟨x, hx, rfl⟩ := reads_of_run h
    exact .start ‹_› hx
  · obtain ⟨x, hx, rfl⟩ := reads_of_run h
    exact .elems ‹_› hx
  · obtain ⟨x, hx, rfl⟩ := reads_of_run h
    exact .bodies ‹_› hx
  · obtain ⟨x, hx, rfl⟩ := reads_of_run h
    exact .datas ‹_› hx
  · obtain ⟨x, hx, rfl⟩ := reads_of_run h
    exact .dataCount ‹_› hx
  · obtain ⟨x, hx, rfl⟩ := reads_of_run h
    exact .tags ‹_› hx
  · obtain ⟨rest, h, -⟩ := h
    cases h

/-- Sections one after the other, in the order of their ranks, add to a module. -/
inductive Loads (read : Reader β) : Nat → Module β → List Section → Module β → Prop where
  | nil {rank : Nat} {m : Module β} : Loads read rank m [] m
  | custom {rank : Nat} {m m₁ m' : Module β} {s : Section} {ss : List Section} : s.id = 0 → Adds read s m m₁ →
      Loads read rank m₁ ss m' → Loads read rank m (s :: ss) m'
  | ranked {rank r : Nat} {m m₁ m' : Module β} {s : Section} {ss : List Section} : sectionRank s.id = some r →
      rank < r → Adds read s m m₁ → Loads read r m₁ ss m' → Loads read rank m (s :: ss) m'

/-- The first section of some bytes, and what is left. -/
theorem framed_cons {i i₁ i₂ j : Input} {id : UInt8} {m m₁ : Module β} {n : Nat} (hid : byte.run i = .ok (id, i₁))
    (hsize : u32.run i₁ = .ok (n, i₂)) (hin : (within n (sectionOf read id.toNat m)).run i₂ = .ok (m₁, j)) :
    j.bytes.length < i.bytes.length ∧ ∃ s : Section, s.id = id.toNat ∧ Adds read s m m₁ ∧
      ∀ {ss}, Framed j.offset j.bytes ss → Framed i.offset i.bytes (s :: ss) := by
  obtain ⟨size, htaken, hencodes⟩ := u32_sound hsize
  obtain ⟨contents, rest, htaken', rfl, hreads, hend⟩ := taken_within hin
  have hbytes : i.bytes = id :: (size ++ (contents ++ j.bytes)) := by
    rw [(taken_byte hid).bytes, htaken.bytes, htaken'.bytes]
    rfl
  have hstart : i₂.offset = i.offset + 1 + size.length := by
    rw [htaken.offset, (taken_byte hid).offset]
    rfl
  refine ⟨by simp [hbytes]; omega, ⟨id.toNat, i₂.offset, contents⟩, rfl, adds_of_reads ⟨rest, hreads, hend⟩, ?_⟩
  intro ss hss
  rw [hbytes, hstart]
  refine .cons hencodes ?_
  rwa [htaken'.offset, hstart] at hss

/-- **What is read as sections is sections**, and they are loaded one after the other. -/
theorem sections_sound : ∀ {fuel rank : Nat} {m m' : Module β} {i j : Input}, i.bytes.length < fuel →
    (sections read fuel rank m).run i = .ok (m', j) → ∃ ss, Framed i.offset i.bytes ss ∧ Loads read rank m ss m'
  -- every section takes a byte at least, so the fuel lasts
  | fuel + 1, rank, m, m', i, j, hfuel, h => by
      unfold sections at h
      obtain ⟨ended, i₀, hended, h⟩ := ok_of_run_bind h
      cases hended
      split at h
      · rename_i hempty
        cases h
        rw [List.isEmpty_iff.mp hempty]
        exact ⟨[], .nil, .nil⟩
      · obtain ⟨id, i₁, hid, h⟩ := ok_of_run_bind h
        obtain ⟨n, i₂, hsize, h⟩ := ok_of_run_bind h
        split at h
        · rename_i hcustom
          obtain ⟨m₁, i₃, hin, h⟩ := ok_of_run_bind h
          obtain ⟨hlt, s, hs, hadds, hframed⟩ := framed_cons hid hsize hin
          obtain ⟨ss, hss, hloads⟩ := sections_sound (by omega) h
          exact ⟨s :: ss, hframed hss, .custom (hs.trans (beq_iff_eq.mp hcustom)) hadds hloads⟩
        · split at h
          · cases h
          · rename_i r hr
            split at h
            · cases h
            · rename_i hrank
              obtain ⟨m₁, i₃, hin, h⟩ := ok_of_run_bind h
              obtain ⟨hlt, s, hs, hadds, hframed⟩ := framed_cons hid hsize hin
              obtain ⟨ss, hss, hloads⟩ := sections_sound (by omega) h
              exact ⟨s :: ss, hframed hss, .ranked (hs ▸ hr) (Nat.lt_of_not_le hrank) hadds hloads⟩

/-! ## 4. Modules -/

/-- A part of a module is what the section for it holds, and a default if there is no such section. -/
structure Held (ss : List Section) (id : Nat) (holds : Section → α → Prop) (default a : α) : Prop where
  present : ∀ s ∈ ss, s.id = id → holds s a
  absent : (∀ s ∈ ss, s.id ≠ id) → a = default

/-- After sections of a rank there are none of a lower one. -/
theorem Loads.absent {rank id r : Nat} {m m' : Module β} {ss : List Section} (h : Loads read rank m ss m')
    (hr : sectionRank id = some r) (hle : r ≤ rank) : ∀ s ∈ ss, s.id ≠ id := by
  induction h with
  | nil => exact fun s hs => absurd hs List.not_mem_nil
  | custom hid _ _ ih =>
    refine List.forall_mem_cons.mpr ⟨fun heq => ?_, ih hle⟩
    rw [← heq, hid] at hr
    cases hr
  | ranked hrank hlt _ _ ih =>
    refine List.forall_mem_cons.mpr ⟨fun heq => ?_, ih (by omega)⟩
    rw [heq, hr] at hrank
    cases hrank
    omega

/-- **A part of a module that one section sets and no other changes is what that section holds.** -/
theorem Loads.held {rank r : Nat} {m m' : Module β} {ss : List Section} {holds : Section → α → Prop}
    (h : Loads read rank m ss m') (id : Nat) (part : Module β → α) (hr : sectionRank id = some r)
    (own : ∀ {s m m'}, Adds read s m m' → s.id = id → holds s (part m'))
    (others : ∀ {s m m'}, Adds read s m m' → s.id ≠ id → part m' = part m) :
    Held ss id holds (part m) (part m') := by
  induction h with
  | nil => exact ⟨fun s hs => absurd hs List.not_mem_nil, fun _ => rfl⟩
  | @custom rank m m₁ m' s ss hid hadds _ ih =>
    have hne : s.id ≠ id := by
      rintro rfl
      rw [hid] at hr
      cases hr
    rw [others hadds hne] at ih
    exact ⟨List.forall_mem_cons.mpr ⟨fun heq => absurd heq hne, ih.present⟩,
      fun hall => ih.absent (List.forall_mem_cons.mp hall).2⟩
  | @ranked rank r' m m₁ m' s ss hrank hlt hadds hrest ih =>
    by_cases heq : s.id = id
    · -- it is this section, and there is no second one
      rw [heq, hr] at hrank
      cases hrank
      have hlater := hrest.absent hr (Nat.le_refl r)
      have hpart := ih.absent hlater
      refine ⟨List.forall_mem_cons.mpr ⟨fun _ => ?_, fun t ht htid => absurd htid (hlater t ht)⟩,
        fun hall => absurd heq (hall s List.mem_cons_self)⟩
      rw [hpart]
      exact own hadds heq
    · rw [others hadds heq] at ih
      exact ⟨List.forall_mem_cons.mpr ⟨fun h => absurd h heq, ih.present⟩,
        fun hall => ih.absent (List.forall_mem_cons.mp hall).2⟩

/-- The contents of a section are the bytes of a number. -/
def IsNumber (s : Section) (o : Option Nat) : Prop := ∃ n, Encodes s.contents n ∧ o = some n

/-- **Each part of a module is what the section for it holds.** -/
structure LaidOut (read : Reader β) (m : Module β) (ss : List Section) : Prop where
  types : Held ss 1 (Reads (list recGroup)) [] m.types
  imports : Held ss 2 (Reads (list importItem)) [] m.imports
  funcs : Held ss 3 (Reads (list u32)) [] m.funcs
  tables : Held ss 4 (Reads (list tableDef)) [] m.tables
  memories : Held ss 5 (Reads (list memoryType)) [] m.memories
  globals : Held ss 6 (Reads (list globalDef)) [] m.globals
  exports : Held ss 7 (Reads (list exportItem)) [] m.exports
  start : Held ss 8 IsNumber none m.start
  elems : Held ss 9 (Reads (list elem)) [] m.elems
  bodies : Held ss 10 (Reads (list read)) [] m.bodies
  datas : Held ss 11 (Reads (list data)) [] m.datas
  dataCount : Held ss 12 IsNumber none m.dataCount
  tags : Held ss 13 (Reads (list tagType)) [] m.tags

theorem isNumber_of_reads {s : Section} {n : Nat} (h : Reads u32 s n) : IsNumber s (some n) := by
  obtain ⟨rest, h, hend⟩ := h
  obtain ⟨bs, htaken, hencodes⟩ := u32_sound h
  have hbytes : s.contents = bs ++ rest.bytes := htaken.bytes
  rw [hend, List.append_nil] at hbytes
  exact ⟨n, hbytes ▸ hencodes, rfl⟩

theorem Loads.laidOut {rank : Nat} {m : Module β} {ss : List Section} (h : Loads read rank {} ss m) :
    LaidOut read m ss := by
  refine {
    types := h.held 1 Module.types rfl ?_ ?_
    imports := h.held 2 Module.imports rfl ?_ ?_
    funcs := h.held 3 Module.funcs rfl ?_ ?_
    tables := h.held 4 Module.tables rfl ?_ ?_
    memories := h.held 5 Module.memories rfl ?_ ?_
    globals := h.held 6 Module.globals rfl ?_ ?_
    exports := h.held 7 Module.exports rfl ?_ ?_
    start := h.held 8 Module.start rfl ?_ ?_
    elems := h.held 9 Module.elems rfl ?_ ?_
    bodies := h.held 10 Module.bodies rfl ?_ ?_
    datas := h.held 11 Module.datas rfl ?_ ?_
    dataCount := h.held 12 Module.dataCount rfl ?_ ?_
    tags := h.held 13 Module.tags rfl ?_ ?_ }
  -- a section with the number of a part sets that part, and all others leave it alone
  all_goals
    intro s m m' hadds hid
    cases hadds <;> first | rfl | assumption | exact isNumber_of_reads ‹_› | omega

/-- **A module starts with a function iff it has a section that names it.** -/
theorem LaidOut.start_eq_some_iff {m : Module β} {ss : List Section} (h : LaidOut read m ss) {f : Nat} :
    m.start = some f ↔ ∃ s ∈ ss, s.id = 8 ∧ Encodes s.contents f := by
  constructor
  · intro hstart
    by_cases hnone : ∀ s ∈ ss, s.id ≠ 8
    · cases (h.start.absent hnone).symm.trans hstart
    · obtain ⟨_, s, _, rfl, -, hid⟩ := exists_first hnone
      have hid : s.id = 8 := Classical.not_not.mp hid
      obtain ⟨n, hencodes, hn⟩ := h.start.present s (by simp) hid
      cases hstart.symm.trans hn
      exact ⟨s, by simp, hid, hencodes⟩
  · rintro ⟨s, hs, hid, hencodes⟩
    obtain ⟨n, hencodes', hn⟩ := h.start.present s hs hid
    obtain ⟨-, rfl, -⟩ := hencodes.unique hencodes' (rfl : s.contents ++ [] = s.contents ++ [])
    exact hn

/-- The bytes of a module: a header and sections. -/
def Sectioned (bytes : List UInt8) (ss : List Section) : Prop :=
  ∃ rest, bytes = magic ++ [1, 0, 0, 0] ++ rest ∧ Framed 8 rest ss

theorem Sectioned.unique {bytes : List UInt8} {ss ss' : List Section} (h : Sectioned bytes ss)
    (h' : Sectioned bytes ss') : ss = ss' := by
  obtain ⟨rest, rfl, hss⟩ := h
  obtain ⟨rest', heq, hss'⟩ := h'
  rw [← List.append_cancel_left heq] at hss'
  exact hss.unique hss'

theorem taken_header {i j : Input} (h : header.run i = .ok (.module, j)) : Taken i (magic ++ [1, 0, 0, 0]) j := by
  obtain ⟨start, i₁, hstart, h⟩ := ok_of_run_bind h
  split at h
  · cases h
  · rename_i hmagic
    obtain ⟨version, i₂, hversion, h⟩ := ok_of_run_bind h
    have hstart' : start = magic := by simpa using hmagic
    split at h
    · rename_i hmodule
      cases h
      rw [← hstart', ← beq_iff_eq.mp hmodule]
      exact (taken_take hstart).1.append (taken_take hversion).1
    · split at h
      · cases h
      · cases h

/-- **A module that is read from bytes is what their sections hold.** -/
theorem laidOut_of_ofBytes {bytes : List UInt8} {m : Module β} (h : Contents.ofBytes read bytes = .ok (.module m)) :
    ∃ ss, Sectioned bytes ss ∧ LaidOut read m ss := by
  obtain ⟨⟨_, j⟩, h, rfl⟩ := ok_of_map h
  obtain ⟨layer, i, hheader, h⟩ := ok_of_run_bind h
  cases layer with
  | component =>
    obtain ⟨_, _, _, h⟩ := ok_of_run_bind h
    obtain ⟨_, _, _, h⟩ := ok_of_run_bind h
    cases h
  | module =>
    obtain ⟨m', k, hsections, h⟩ := ok_of_run_bind h
    cases h
    obtain ⟨i', _, hget, hsections⟩ := ok_of_run_bind hsections
    cases hget
    have htaken := taken_header hheader
    obtain ⟨ss, hframed, hloads⟩ := sections_sound (Nat.lt_succ_self _) hsections
    rw [htaken.offset] at hframed
    exact ⟨ss, ⟨i.bytes, htaken.bytes, hframed⟩, hloads.laidOut⟩

end Embedder.Wasm.Binary
