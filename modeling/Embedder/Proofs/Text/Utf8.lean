import Embedder.Text.Utf8

/-!
# Writing and reading UTF-8

The bytes of a character say by themselves where it ends, so what is written one character after the other
is read back one character after the other.

* `decodeFrom_one` … `decodeFrom_four` -- how a character of each length is read, in terms of the numbers
  that the bytes are;
* **`decodeFrom_encodeChar`** -- a character that was written is read as itself, whatever follows;
* **`decode_encode`** -- a text that was written is read as itself;
* `mem_encode_of_ascii` -- a byte below 128 stands for the character with its code and nothing else;
* `encodeChar_eq` -- what is written is what the standard library writes;
* `encodeChar_one` … `encodeChar_four`, **`decodeFrom_cases`** -- what is read begins with the bytes of a character;
* **`decode_eq_ok_iff`** -- a list of bytes is read as a text iff it is what the text is written as.
-/

namespace Embedder.Text.Utf8

/-! ## 1. Reading one character -/

section Reading

variable (i : Nat) (done : List Char) {b b₁ b₂ b₃ : UInt8} (bs : List UInt8)

theorem isTail_iff : isTail b = true ↔ 0x80 ≤ b.toNat ∧ b.toNat ≤ 0xBF := by
  simp [isTail, UInt8.le_iff_toNat_le]

theorem isSecondOfThree_of_tail (ht : isTail b₁ = true) (hlow : b.toNat = 0xE0 → 0xA0 ≤ b₁.toNat)
    (hhigh : b.toNat = 0xED → b₁.toNat ≤ 0x9F) : isSecondOfThree b b₁ = true := by
  obtain ⟨hge, hle⟩ := isTail_iff.mp ht
  unfold isSecondOfThree
  split
  · rename_i hb
    cases eq_of_beq hb
    simp [UInt8.le_iff_toNat_le, hlow rfl, hle]
  · split
    · rename_i hb
      cases eq_of_beq hb
      simp [UInt8.le_iff_toNat_le, hhigh rfl, hge]
    · exact ht

theorem isSecondOfFour_of_tail (ht : isTail b₁ = true) (hlow : b.toNat = 0xF0 → 0x90 ≤ b₁.toNat)
    (hhigh : b.toNat = 0xF4 → b₁.toNat ≤ 0x8F) : isSecondOfFour b b₁ = true := by
  obtain ⟨hge, hle⟩ := isTail_iff.mp ht
  unfold isSecondOfFour
  split
  · rename_i hb
    cases eq_of_beq hb
    simp [UInt8.le_iff_toNat_le, hlow rfl, hle]
  · split
    · rename_i hb
      cases eq_of_beq hb
      simp [UInt8.le_iff_toNat_le, hhigh rfl, hge]
    · exact ht

theorem decodeFrom_one (hb : b.toNat < 0x80) :
    decodeFrom i done (b :: bs) = decodeFrom (i + 1) (Char.ofNat b.toNat :: done) bs := by
  have hlead : b < 0x80 := UInt8.lt_iff_toNat_lt.mpr hb
  rw [decodeFrom.eq_def]
  exact if_pos hlead

theorem decodeFrom_two (hb : 0xC2 ≤ b.toNat ∧ b.toNat ≤ 0xDF) (h₁ : isTail b₁ = true) :
    decodeFrom i done (b :: b₁ :: bs) =
      decodeFrom (i + 2) (Char.ofNat (b.toNat % 0x20 * 0x40 + payload b₁) :: done) bs := by
  have hone : ¬ b < 0x80 := by rw [UInt8.lt_iff_toNat_lt]; show ¬ b.toNat < 128; omega
  have htwo : (0xC2 ≤ b && b ≤ 0xDF) = true := by simp [UInt8.le_iff_toNat_le, hb]
  rw [decodeFrom.eq_def]
  dsimp only
  rw [if_neg hone, if_pos htwo, if_pos h₁]

theorem decodeFrom_three (hb : 0xE0 ≤ b.toNat ∧ b.toNat ≤ 0xEF) (h₁ : isSecondOfThree b b₁ = true)
    (h₂ : isTail b₂ = true) :
    decodeFrom i done (b :: b₁ :: b₂ :: bs) =
      decodeFrom (i + 3)
        (Char.ofNat (b.toNat % 0x10 * 0x1000 + payload b₁ * 0x40 + payload b₂) :: done) bs := by
  have hone : ¬ b < 0x80 := by rw [UInt8.lt_iff_toNat_lt]; show ¬ b.toNat < 128; omega
  have htwo : ¬ (0xC2 ≤ b && b ≤ 0xDF) = true := by simp [UInt8.le_iff_toNat_le]; omega
  have hthree : (0xE0 ≤ b && b ≤ 0xEF) = true := by simp [UInt8.le_iff_toNat_le, hb]
  rw [decodeFrom.eq_def]
  dsimp only
  rw [if_neg hone, if_neg htwo, if_pos hthree, if_pos h₁, if_pos h₂]

theorem decodeFrom_four (hb : 0xF0 ≤ b.toNat ∧ b.toNat ≤ 0xF4) (h₁ : isSecondOfFour b b₁ = true)
    (h₂ : isTail b₂ = true) (h₃ : isTail b₃ = true) :
    decodeFrom i done (b :: b₁ :: b₂ :: b₃ :: bs) =
      decodeFrom (i + 4)
        (Char.ofNat (b.toNat % 0x08 * 0x40000 + payload b₁ * 0x1000 + payload b₂ * 0x40 + payload b₃) :: done)
        bs := by
  have hone : ¬ b < 0x80 := by rw [UInt8.lt_iff_toNat_lt]; show ¬ b.toNat < 128; omega
  have htwo : ¬ (0xC2 ≤ b && b ≤ 0xDF) = true := by simp [UInt8.le_iff_toNat_le]; omega
  have hthree : ¬ (0xE0 ≤ b && b ≤ 0xEF) = true := by simp [UInt8.le_iff_toNat_le]; omega
  have hfour : (0xF0 ≤ b && b ≤ 0xF4) = true := by simp [UInt8.le_iff_toNat_le, hb]
  rw [decodeFrom.eq_def]
  dsimp only
  rw [if_neg hone, if_neg htwo, if_neg hthree, if_pos hfour, if_pos h₁, if_pos h₂, if_pos h₃]

end Reading

/-! ## 2. Reading what was written -/

/-- The number of a byte. -/
theorem toNat_toUInt8 {n : Nat} (h : n < 256) : n.toUInt8.toNat = n := UInt8.toNat_ofNat_of_lt h

/-- A byte that carries six bits of a character. -/
theorem tail_of_bits (n : Nat) : (0x80 + n % 0x40).toUInt8.toNat = 0x80 + n % 0x40 ∧
    isTail (0x80 + n % 0x40).toUInt8 = true ∧ payload (0x80 + n % 0x40).toUInt8 = n % 0x40 := by
  have hbyte : (0x80 + n % 0x40).toUInt8.toNat = 0x80 + n % 0x40 := toNat_toUInt8 (by omega)
  rw [isTail_iff, payload, hbyte]
  omega

/-- The number of a character is a code point that is no surrogate. -/
theorem toNat_scalar (c : Char) : c.toNat < 0xD800 ∨ 0xDFFF < c.toNat ∧ c.toNat < 0x110000 := c.valid

/-- **A character that was written is read as itself**, whatever follows. -/
theorem decodeFrom_encodeChar (i : Nat) (done : List Char) (c : Char) (bs : List UInt8) :
    decodeFrom i done (encodeChar c ++ bs) = decodeFrom (i + (encodeChar c).length) (c :: done) bs := by
  have hscalar := toNat_scalar c
  have hchar : ∀ n, n = c.toNat → Char.ofNat n = c := by
    intro n hn
    rw [hn, Char.ofNat_toNat]
  unfold encodeChar
  dsimp only
  by_cases h₁ : c.toNat < 0x80
  · rw [if_pos h₁]
    have hb : c.toNat.toUInt8.toNat = c.toNat := toNat_toUInt8 (by omega)
    show decodeFrom i done (c.toNat.toUInt8 :: bs) = decodeFrom (i + 1) (c :: done) bs
    rw [decodeFrom_one i done bs (by omega), hchar _ hb]
  rw [if_neg h₁]
  by_cases h₂ : c.toNat < 0x800
  · rw [if_pos h₂]
    have hb : (0xC0 + c.toNat / 0x40).toUInt8.toNat = 0xC0 + c.toNat / 0x40 := toNat_toUInt8 (by omega)
    obtain ⟨-, ht, hp⟩ := tail_of_bits c.toNat
    show decodeFrom i done (_ :: _ :: bs) = decodeFrom (i + 2) (c :: done) bs
    rw [decodeFrom_two i done bs (by omega) ht, hp, hb, hchar _ (by omega)]
  rw [if_neg h₂]
  by_cases h₃ : c.toNat < 0x10000
  · rw [if_pos h₃]
    have hb : (0xE0 + c.toNat / 0x1000).toUInt8.toNat = 0xE0 + c.toNat / 0x1000 := toNat_toUInt8 (by omega)
    obtain ⟨hb₁, ht₁, hp₁⟩ := tail_of_bits (c.toNat / 0x40)
    obtain ⟨-, ht, hp⟩ := tail_of_bits c.toNat
    have hsecond : isSecondOfThree (0xE0 + c.toNat / 0x1000).toUInt8 (0x80 + c.toNat / 0x40 % 0x40).toUInt8 =
        true := isSecondOfThree_of_tail ht₁ (by omega) (by omega)
    show decodeFrom i done (_ :: _ :: _ :: bs) = decodeFrom (i + 3) (c :: done) bs
    rw [decodeFrom_three i done bs (by omega) hsecond ht, hp₁, hp, hb, hchar _ (by omega)]
  rw [if_neg h₃]
  have hb : (0xF0 + c.toNat / 0x40000).toUInt8.toNat = 0xF0 + c.toNat / 0x40000 := toNat_toUInt8 (by omega)
  obtain ⟨hb₂, ht₂, hp₂⟩ := tail_of_bits (c.toNat / 0x1000)
  obtain ⟨hb₁, ht₁, hp₁⟩ := tail_of_bits (c.toNat / 0x40)
  obtain ⟨-, ht, hp⟩ := tail_of_bits c.toNat
  have hsecond : isSecondOfFour (0xF0 + c.toNat / 0x40000).toUInt8 (0x80 + c.toNat / 0x1000 % 0x40).toUInt8 =
      true := isSecondOfFour_of_tail ht₂ (by omega) (by omega)
  show decodeFrom i done (_ :: _ :: _ :: _ :: bs) = decodeFrom (i + 4) (c :: done) bs
  rw [decodeFrom_four i done bs (by omega) hsecond ht₁ ht, hp₂, hp₁, hp, hb, hchar _ (by omega)]

theorem decodeFrom_encode : ∀ (cs : List Char) (i : Nat) (done : List Char),
    decodeFrom i done (encode cs) = .ok (done.reverse ++ cs)
  | [], i, done => by rw [List.append_nil]; rfl
  | c :: cs, i, done => by
      show decodeFrom i done (encodeChar c ++ encode cs) = _
      rw [decodeFrom_encodeChar, decodeFrom_encode cs, List.reverse_cons, List.append_assoc]
      rfl

/-- **A text that was written is read as itself.** -/
theorem decode_encode (cs : List Char) : decode (encode cs) = .ok cs := decodeFrom_encode cs 0 []

/-- A byte below 128 stands for the character with its code, and nothing else. -/
theorem mem_encodeChar_of_ascii {c : Char} {b : UInt8} (hb : b.toNat < 0x80) (h : b ∈ encodeChar c) :
    c.toNat = b.toNat := by
  have hscalar := toNat_scalar c
  have hlead : ∀ n, 0x80 ≤ n → n < 0x100 → b ≠ n.toUInt8 := by
    intro n hlow hhigh e
    rw [e, toNat_toUInt8 hhigh] at hb
    omega
  unfold encodeChar at h
  dsimp only at h
  split at h
  · rw [List.mem_singleton.mp h]
    exact (toNat_toUInt8 (by omega)).symm
  · -- every byte of a longer character is 128 or above
    exfalso
    split at h
    · simp only [List.mem_cons, List.not_mem_nil, or_false] at h
      rcases h with h | h <;> exact hlead _ (by omega) (by omega) h
    · split at h
      · simp only [List.mem_cons, List.not_mem_nil, or_false] at h
        rcases h with h | h | h <;> exact hlead _ (by omega) (by omega) h
      · simp only [List.mem_cons, List.not_mem_nil, or_false] at h
        rcases h with h | h | h | h <;> exact hlead _ (by omega) (by omega) h

theorem mem_encode_of_ascii {cs : List Char} {b : UInt8} (hb : b.toNat < 0x80) (h : b ∈ encode cs) :
    Char.ofNat b.toNat ∈ cs := by
  obtain ⟨c, hc, hbc⟩ := List.mem_flatMap.mp h
  rw [← mem_encodeChar_of_ascii hb hbc, Char.ofNat_toNat]
  exact hc

theorem encode_append (cs ds : List Char) : encode (cs ++ ds) = encode cs ++ encode ds :=
  List.flatMap_append

/-- **A character is written as the standard library writes it.** -/
theorem encodeChar_eq (c : Char) : encodeChar c = String.utf8EncodeChar c := by
  have hlimit := toNat_scalar c
  unfold encodeChar String.utf8EncodeChar
  dsimp only
  rw [show c.val.toNat = c.toNat from rfl]
  generalize c.toNat = n at hlimit
  by_cases hone : n < 0x80
  · rw [if_pos hone, if_pos (show n ≤ 127 by omega)]
  rw [if_neg hone, if_neg (show ¬ n ≤ 127 by omega)]
  -- The bits of the lead byte are those that are left.
  by_cases htwo : n < 0x800
  · rw [if_pos htwo, if_pos (show n ≤ 2047 by omega), Nat.mod_eq_of_lt (show n / 64 < 32 by omega),
      Nat.add_comm 0xC0, Nat.add_comm 0x80]
  rw [if_neg htwo, if_neg (show ¬ n ≤ 2047 by omega)]
  by_cases hthree : n < 0x10000
  · rw [if_pos hthree, if_pos (show n ≤ 65535 by omega), Nat.mod_eq_of_lt (show n / 4096 < 16 by omega),
      Nat.add_comm 0xE0, Nat.add_comm 0x80, Nat.add_comm 0x80]
  · rw [if_neg hthree, if_neg (show ¬ n ≤ 65535 by omega), Nat.mod_eq_of_lt (show n / 262144 < 8 by omega),
      Nat.add_comm 0xF0, Nat.add_comm 0x80, Nat.add_comm 0x80, Nat.add_comm 0x80]

/-! ## 3. Writing what was read -/

theorem toNat_ofNat {n : Nat} (h : n < 0xD800 ∨ 0xDFFF < n ∧ n < 0x110000) : (Char.ofNat n).toNat = n := by
  have hvalid : n.isValidChar := h
  unfold Char.ofNat
  rw [dif_pos hvalid]
  rfl

theorem toUInt8_eq {n : Nat} {b : UInt8} (h : n = b.toNat) : n.toUInt8 = b := by
  rw [h]
  exact UInt8.ofNat_toNat

section Writing

variable {b b₁ b₂ b₃ : UInt8}

theorem tail_of_isSecondOfThree (h : isSecondOfThree b b₁ = true) : (0x80 ≤ b₁.toNat ∧ b₁.toNat ≤ 0xBF) ∧
    (b.toNat = 0xE0 → 0xA0 ≤ b₁.toNat) ∧ (b.toNat = 0xED → b₁.toNat ≤ 0x9F) := by
  unfold isSecondOfThree at h
  split at h
  · rename_i hb
    cases eq_of_beq hb
    simp [UInt8.le_iff_toNat_le] at h
    simp
    omega
  · split at h
    · rename_i hb
      cases eq_of_beq hb
      simp [UInt8.le_iff_toNat_le] at h
      simp
      omega
    · rename_i hlow hhigh
      refine ⟨isTail_iff.mp h, fun e => ?_, fun e => ?_⟩
      · exact absurd (beq_iff_eq.mpr (UInt8.toNat_inj.mp e)) hlow
      · exact absurd (beq_iff_eq.mpr (UInt8.toNat_inj.mp e)) hhigh

theorem tail_of_isSecondOfFour (h : isSecondOfFour b b₁ = true) : (0x80 ≤ b₁.toNat ∧ b₁.toNat ≤ 0xBF) ∧
    (b.toNat = 0xF0 → 0x90 ≤ b₁.toNat) ∧ (b.toNat = 0xF4 → b₁.toNat ≤ 0x8F) := by
  unfold isSecondOfFour at h
  split at h
  · rename_i hb
    cases eq_of_beq hb
    simp [UInt8.le_iff_toNat_le] at h
    simp
    omega
  · split at h
    · rename_i hb
      cases eq_of_beq hb
      simp [UInt8.le_iff_toNat_le] at h
      simp
      omega
    · rename_i hlow hhigh
      refine ⟨isTail_iff.mp h, fun e => ?_, fun e => ?_⟩
      · exact absurd (beq_iff_eq.mpr (UInt8.toNat_inj.mp e)) hlow
      · exact absurd (beq_iff_eq.mpr (UInt8.toNat_inj.mp e)) hhigh

theorem encodeChar_one (hb : b.toNat < 0x80) : encodeChar (Char.ofNat b.toNat) = [b] := by
  have hn : (Char.ofNat b.toNat).toNat = b.toNat := toNat_ofNat (by omega)
  unfold encodeChar
  rw [hn]
  dsimp only
  rw [if_pos hb, toUInt8_eq rfl]

theorem encodeChar_two (hb : 0xC2 ≤ b.toNat ∧ b.toNat ≤ 0xDF) (h₁ : isTail b₁ = true) :
    encodeChar (Char.ofNat (b.toNat % 0x20 * 0x40 + payload b₁)) = [b, b₁] := by
  have ht₁ := isTail_iff.mp h₁
  unfold payload encodeChar
  rw [toNat_ofNat (by omega)]
  dsimp only
  rw [if_neg (by omega), if_pos (by omega), toUInt8_eq (b := b) (by omega), toUInt8_eq (b := b₁) (by omega)]

theorem encodeChar_three (hb : 0xE0 ≤ b.toNat ∧ b.toNat ≤ 0xEF) (h₁ : isSecondOfThree b b₁ = true)
    (h₂ : isTail b₂ = true) :
    encodeChar (Char.ofNat (b.toNat % 0x10 * 0x1000 + payload b₁ * 0x40 + payload b₂)) = [b, b₁, b₂] := by
  obtain ⟨ht₁, hlow, hhigh⟩ := tail_of_isSecondOfThree h₁
  have ht₂ := isTail_iff.mp h₂
  unfold payload encodeChar
  rw [toNat_ofNat (by omega)]
  dsimp only
  rw [if_neg (by omega), if_neg (by omega), if_pos (by omega), toUInt8_eq (b := b) (by omega),
    toUInt8_eq (b := b₁) (by omega), toUInt8_eq (b := b₂) (by omega)]

theorem encodeChar_four (hb : 0xF0 ≤ b.toNat ∧ b.toNat ≤ 0xF4) (h₁ : isSecondOfFour b b₁ = true)
    (h₂ : isTail b₂ = true) (h₃ : isTail b₃ = true) :
    encodeChar (Char.ofNat (b.toNat % 0x08 * 0x40000 + payload b₁ * 0x1000 + payload b₂ * 0x40 + payload b₃)) =
      [b, b₁, b₂, b₃] := by
  obtain ⟨ht₁, hlow, hhigh⟩ := tail_of_isSecondOfFour h₁
  have ht₂ := isTail_iff.mp h₂
  have ht₃ := isTail_iff.mp h₃
  unfold payload encodeChar
  rw [toNat_ofNat (by omega)]
  dsimp only
  rw [if_neg (by omega), if_neg (by omega), if_neg (by omega), toUInt8_eq (b := b) (by omega),
    toUInt8_eq (b := b₁) (by omega), toUInt8_eq (b := b₂) (by omega), toUInt8_eq (b := b₃) (by omega)]

section Inversion

variable {i : Nat} {done cs : List Char} {bs : List UInt8}

theorem begins_of_encodeChar {c : Char} {lead rest : List UInt8} (hlead : encodeChar c = lead)
    (h : decodeFrom (i + lead.length) (c :: done) rest = .ok cs) : ∃ c rest', lead ++ rest = encodeChar c ++ rest' ∧
      decodeFrom (i + (encodeChar c).length) (c :: done) rest' = .ok cs := by
  subst hlead
  exact ⟨c, rest, rfl, h⟩

/-- **What is read begins with the bytes of a character**, and reading goes on after them. -/
theorem decodeFrom_cases (h : decodeFrom i done (b :: bs) = .ok cs) :
    ∃ c rest, b :: bs = encodeChar c ++ rest ∧
      decodeFrom (i + (encodeChar c).length) (c :: done) rest = .ok cs := by
  rw [decodeFrom.eq_def] at h
  dsimp only at h
  split at h
  · rename_i hone
    exact begins_of_encodeChar (encodeChar_one (UInt8.lt_iff_toNat_lt.mp hone)) h
  split at h
  · rename_i htwo
    split at h
    · cases h
    split at h
    · rename_i h₁
      exact begins_of_encodeChar (encodeChar_two (by simpa [UInt8.le_iff_toNat_le] using htwo) h₁) h
    · cases h
  split at h
  · rename_i hthree
    split at h
    · cases h
    split at h
    · rename_i h₁
      split at h
      · cases h
      split at h
      · rename_i h₂
        exact begins_of_encodeChar (encodeChar_three (by simpa [UInt8.le_iff_toNat_le] using hthree) h₁ h₂) h
      · cases h
    · cases h
  split at h
  · rename_i hfour
    split at h
    · cases h
    split at h
    · rename_i h₁
      split at h
      · cases h
      split at h
      · rename_i h₂
        split at h
        · cases h
        split at h
        · rename_i h₃
          exact begins_of_encodeChar (encodeChar_four (by simpa [UInt8.le_iff_toNat_le] using hfour) h₁ h₂ h₃) h
        · cases h
      · cases h
    · cases h
  · cases h

end Inversion

end Writing

theorem encodeChar_ne_nil (c : Char) : encodeChar c ≠ [] := by
  unfold encodeChar
  dsimp only
  split
  · exact List.cons_ne_nil _ _
  split
  · exact List.cons_ne_nil _ _
  split <;> exact List.cons_ne_nil _ _

theorem encode_of_decodeFrom (n : Nat) : ∀ {bs : List UInt8} {i : Nat} {done cs : List Char}, bs.length ≤ n →
    decodeFrom i done bs = .ok cs → ∃ tail, cs = done.reverse ++ tail ∧ encode tail = bs := by
  induction n with
  | zero =>
    intro bs i done cs hlen h
    obtain rfl := List.length_eq_zero_iff.mp (Nat.le_zero.mp hlen)
    cases h
    exact ⟨[], (List.append_nil _).symm, rfl⟩
  | succ n ih =>
    intro bs i done cs hlen h
    cases bs with
    | nil =>
      cases h
      exact ⟨[], (List.append_nil _).symm, rfl⟩
    | cons b bs =>
      obtain ⟨c, rest, hbytes, hrest⟩ := decodeFrom_cases h
      have hshorter : rest.length ≤ n := by
        have hpos := List.length_pos_iff.mpr (encodeChar_ne_nil c)
        rw [hbytes, List.length_append] at hlen
        omega
      obtain ⟨tail, rfl, htail⟩ := ih hshorter hrest
      refine ⟨c :: tail, ?_, ?_⟩
      · rw [List.reverse_cons, List.append_assoc]
        rfl
      · rw [hbytes, ← htail]
        rfl

/-- **Reading succeeds on what can be written, and gives what was written.** -/
theorem decode_eq_ok_iff {bs : List UInt8} {cs : List Char} : decode bs = .ok cs ↔ bs = encode cs := by
  constructor
  · intro h
    obtain ⟨tail, rfl, htail⟩ := encode_of_decodeFrom bs.length (Nat.le_refl _) h
    exact htail.symm
  · rintro rfl
    exact decode_encode cs

end Embedder.Text.Utf8
