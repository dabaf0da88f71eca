import Embedder.Proofs.Number.Integers
import Embedder.Proofs.Number.Nearest
import Embedder.Proofs.Number.Texts

/-!
# Which texts are floats, and which floats they are

A text is a literal of a type of floats if, without the blanks around it and without its sign, it is a decimal number or
one of the words for what is not finite. A decimal number is an exact number first, whatever its length, and it is
rounded once, at the width of the type.

* `FractionPart`, `ExponentPart`, `DecimalText` -- decimal numbers as texts, with the numbers that they are;
* **`decimalText_iff`** -- the reader of decimal numbers accepts these texts, and gives these numbers;
* `InfinityText`, `NotNumberText`, `FloatText` -- the words for what is not finite, and all texts of floats;
* **`readMagnitude_isSome_iff`** -- what the reader of floats accepts after a sign; `readFloat_eq_none_iff` says what it
  refuses;
* **`floatsRead`** -- so a literal of 32 or 64 bits is read as the float of its own width that is nearest to it.
-/

namespace Embedder

open Number Text

namespace Number

/-! ## 1. Decimal numbers -/

/-- The part of a literal from the point on: nothing, or a point and maybe digits. -/
inductive FractionPart : List Char → List Char → Prop
  | absent : FractionPart [] []
  | present {ds : List Char} (h : AllDigits ds) : FractionPart ('.' :: ds) ds

/-- The part of a literal from the letter on: nothing, or a letter and an integer. -/
inductive ExponentPart : List Char → Int → Prop
  | absent : ExponentPart [] 0
  | lower {cs : List Char} {z : Int} (h : Spells cs z) : ExponentPart ('e' :: cs) z
  | upper {cs : List Char} {z : Int} (h : Spells cs z) : ExponentPart ('E' :: cs) z

/-- The text is a decimal number without a sign: digits, a fraction and an exponent. There may be no digits on one side
    of the point, but not on both. -/
def DecimalText (cs : List Char) (x : ℚ) : Prop :=
  ∃ whole point fraction tail z, cs = whole ++ (point ++ tail) ∧ AllDigits whole ∧ FractionPart point fraction ∧
    ExponentPart tail z ∧ whole ++ fraction ≠ [] ∧
    x = (worth whole + worth fraction / 10 ^ fraction.length) * 10 ^ z

section Parts

variable {cs ds rest : List Char} {z : Int}

theorem readExponent_eq_some_iff : readExponent cs = some z ↔ ExponentPart cs z := by
  constructor
  · intro h
    cases cs with
    | nil =>
      cases h
      exact .absent
    | cons c cs =>
      by_cases hletter : c = 'e' ∨ c = 'E'
      · have hspells : Spells cs z := by
          rw [readExponent, if_pos (by simpa using hletter)] at h
          exact readInt_eq_some_iff.mp h
        rcases hletter with rfl | rfl
        · exact .lower hspells
        · exact .upper hspells
      · rw [readExponent, if_neg (by simpa using hletter)] at h
        cases h
  · intro h
    cases h with
    | absent => rfl
    | lower h => exact readInt_eq_some_iff.mpr h
    | upper h => exact readInt_eq_some_iff.mpr h

/-- Digits end where something else begins. -/
theorem span_digits (hds : AllDigits ds) (hrest : ∀ c, rest.head? = some c → isDigit c = false) :
    (ds ++ rest).takeWhile isDigit = ds ∧ (ds ++ rest).dropWhile isDigit = rest := by
  have hdigits := allDigits_iff.mp hds
  have hstop : rest.dropWhile isDigit = rest := dropWhile_of_head hrest
  have hnone : rest.takeWhile isDigit = [] := by
    have hsplit := List.takeWhile_append_dropWhile (p := isDigit) (l := rest)
    rw [hstop] at hsplit
    exact List.append_left_eq_self.mp hsplit
  rw [List.takeWhile_append_of_pos hdigits, List.dropWhile_append_of_pos hdigits, hstop, hnone, List.append_nil]
  exact ⟨rfl, rfl⟩

theorem ExponentPart.head (h : ExponentPart cs z) : ∀ c, cs.head? = some c → isDigit c = false ∧ c ≠ '.' := by
  intro c hc
  cases h with
  | absent => cases hc
  | lower | upper =>
    cases hc
    decide

theorem FractionPart.head {point fraction : List Char} (h : FractionPart point fraction) (htail : ExponentPart rest z) :
    ∀ c, (point ++ rest).head? = some c → isDigit c = false := by
  intro c hc
  cases h with
  | absent => exact (htail.head c hc).1
  | present =>
    cases hc
    rfl

theorem allDigits_takeWhile (cs : List Char) : AllDigits (cs.takeWhile isDigit) :=
  allDigits_iff.mpr fun _ hc => List.mem_takeWhile_imp hc

end Parts

/-- Digits on both sides of a point are worth what they are worth together, but for the power of ten. -/
theorem worth_append (ds es : List Char) : worth (ds ++ es) = worth ds * 10 ^ es.length + worth es := by
  unfold worth
  rw [List.reverse_append, List.map_append, Nat.ofDigits_append, List.length_map, List.length_reverse, Nat.mul_comm,
    Nat.add_comm]

theorem worth_split (whole fraction : List Char) (z : Int) :
    (worth whole + worth fraction / 10 ^ fraction.length : ℚ) * 10 ^ z =
      worth (whole ++ fraction) * 10 ^ (z - fraction.length) := by
  have hten : (10 : ℚ) ^ fraction.length ≠ 0 := pow_ne_zero _ (by norm_num)
  rw [worth_append, zpow_sub₀ (by norm_num), zpow_natCast]
  push_cast
  field_simp

/-- What is read as a decimal number is one. -/
theorem decimalText_of_readDecimal {cs : List Char} {d : Decimal} (h : readDecimal cs = some d) :
    DecimalText cs (d.digits * 10 ^ d.exponent) := by
  obtain ⟨point, fraction, tail, hsplit, hpoint, hread⟩ : ∃ point fraction tail,
      cs.dropWhile isDigit = point ++ tail ∧ FractionPart point fraction ∧
      (if (cs.takeWhile isDigit).isEmpty && fraction.isEmpty then none
        else (readExponent tail).map fun e =>
          (⟨ofDigits (cs.takeWhile isDigit ++ fraction), e - fraction.length⟩ : Decimal)) = some d := by
    unfold readDecimal at h
    dsimp only at h
    split at h
    · rename_i r hr
      refine ⟨'.' :: r.takeWhile isDigit, _, _, ?_, .present (allDigits_takeWhile r), h⟩
      rw [List.cons_append, List.takeWhile_append_dropWhile, hr]
    · exact ⟨[], _, _, rfl, .absent, h⟩
  split at hread
  · cases hread
  · rename_i hsome
    obtain ⟨z, hz, rfl⟩ := Option.map_eq_some_iff.mp hread
    refine ⟨cs.takeWhile isDigit, point, fraction, tail, z, ?_, allDigits_takeWhile cs, hpoint,
      readExponent_eq_some_iff.mp hz, ?_, ?_⟩
    · rw [← hsplit, List.takeWhile_append_dropWhile]
    · simpa [Classical.or_iff_not_imp_left] using hsome
    · rw [worth_split, ofDigits_eq]

/-- A decimal number is read. -/
theorem readDecimal_of_decimalText {cs : List Char} {x : ℚ} (h : DecimalText cs x) :
    ∃ d, readDecimal cs = some d ∧ x = d.digits * 10 ^ d.exponent := by
  obtain ⟨whole, point, fraction, tail, z, rfl, hwhole, hpoint, htail, hsome, rfl⟩ := h
  refine ⟨⟨ofDigits (whole ++ fraction), z - fraction.length⟩, ?_, by rw [worth_split, ofDigits_eq]⟩
  obtain ⟨htake, hdrop⟩ := span_digits hwhole (hpoint.head htail)
  have hempty : (whole.isEmpty && fraction.isEmpty) = false := by
    rw [Bool.eq_false_iff]
    intro hboth
    exact hsome (by simpa using hboth)
  have hexponent := readExponent_eq_some_iff.mpr htail
  unfold readDecimal
  rw [htake, hdrop]
  cases hpoint with
  | absent =>
    have hwhole' : whole ≠ [] := by simpa using hsome
    cases tail with
    | nil => simp [hwhole', hexponent]
    | cons c tail =>
      have hc : c ≠ '.' := (htail.head c rfl).2
      simp [hc, hwhole', hexponent]
  | present hfraction =>
    obtain ⟨htake', hdrop'⟩ := span_digits hfraction fun c hc => (htail.head c hc).1
    simp [htake', hdrop', hempty, hexponent]

/-- **The reader of decimal numbers accepts their texts, and gives the numbers.** -/
theorem decimalText_iff {cs : List Char} {x : ℚ} :
    DecimalText cs x ↔ ∃ d, readDecimal cs = some d ∧ x = d.digits * 10 ^ d.exponent := by
  constructor
  · exact readDecimal_of_decimalText
  · rintro ⟨d, hd, rfl⟩
    exact decimalText_of_readDecimal hd

/-! ## 2. Words, and what stands after a sign -/

/-- The text is a word for infinity, in capitals or not. -/
def InfinityText (cs : List Char) : Prop :=
  cs.map Char.toLower = "inf".toList ∨ cs.map Char.toLower = "infinity".toList

/-- The text is the word for what is not a number, in capitals or not. -/
def NotNumberText (cs : List Char) : Prop := cs.map Char.toLower = "nan".toList

instance (cs : List Char) : Decidable (InfinityText cs) := inferInstanceAs (Decidable (_ ∨ _))

instance (cs : List Char) : Decidable (NotNumberText cs) := inferInstanceAs (Decidable (_ = _))

/-- The text is a float without a sign. -/
def FloatText (cs : List Char) : Prop := InfinityText cs ∨ NotNumberText cs ∨ ∃ x, DecimalText cs x

section Heads

variable {cs : List Char} {x : ℚ}

theorem InfinityText.head (h : InfinityText cs) : ∃ c rest, cs = c :: rest ∧ c.toLower = 'i' := by
  rcases h with h | h
  · obtain ⟨c, rest, hcs, hc, -⟩ := List.map_eq_cons_iff.mp h
    exact ⟨c, rest, hcs, hc⟩
  · obtain ⟨c, rest, hcs, hc, -⟩ := List.map_eq_cons_iff.mp h
    exact ⟨c, rest, hcs, hc⟩

theorem NotNumberText.head (h : NotNumberText cs) : ∃ c rest, cs = c :: rest ∧ c.toLower = 'n' := by
  obtain ⟨c, rest, hcs, hc, -⟩ := List.map_eq_cons_iff.mp h
  exact ⟨c, rest, hcs, hc⟩

theorem DecimalText.head (h : DecimalText cs x) : ∃ c rest, cs = c :: rest ∧ (isDigit c = true ∨ c = '.') := by
  obtain ⟨whole, point, fraction, tail, z, rfl, hwhole, hpoint, -, hsome, -⟩ := h
  cases whole with
  | cons c whole => exact ⟨c, _, rfl, .inl (allDigits_iff.mp hwhole c List.mem_cons_self)⟩
  | nil =>
    cases hpoint with
    | absent => exact absurd rfl hsome
    | present => exact ⟨'.', _, rfl, .inr rfl⟩

/-- A decimal number begins with no letter, so it is none of the words. -/
theorem DecimalText.toLower_head (h : DecimalText cs x) :
    ∃ c rest, cs = c :: rest ∧ c.toLower ≠ 'i' ∧ c.toLower ≠ 'n' := by
  obtain ⟨c, rest, hcs, hc⟩ := h.head
  refine ⟨c, rest, hcs, ?_⟩
  rcases hc with hc | rfl
  · rw [← lowerAscii_eq, lowerAscii_of_isDigit hc]
    constructor
    · rintro rfl
      cases hc
    · rintro rfl
      cases hc
  · decide

theorem DecimalText.not_infinityText (h : DecimalText cs x) : ¬ InfinityText cs := by
  intro hword
  obtain ⟨c, rest, rfl, hi, -⟩ := h.toLower_head
  obtain ⟨_, _, heq, hletter⟩ := hword.head
  cases heq
  exact hi hletter

theorem DecimalText.not_notNumberText (h : DecimalText cs x) : ¬ NotNumberText cs := by
  intro hword
  obtain ⟨c, rest, rfl, -, hn⟩ := h.toLower_head
  obtain ⟨_, _, heq, hletter⟩ := hword.head
  cases heq
  exact hn hletter

theorem NotNumberText.not_infinityText (h : NotNumberText cs) : ¬ InfinityText cs := by
  intro hword
  obtain ⟨c, rest, rfl, hn⟩ := h.head
  obtain ⟨_, _, heq, hi⟩ := hword.head
  cases heq
  exact absurd (hn.symm.trans hi) (by decide)

/-- No sign stands before what is a float without one. -/
theorem FloatText.splitSign_eq (h : FloatText cs) : splitSign cs = (false, cs) := by
  obtain ⟨c, rest, rfl, hplus, hminus⟩ : ∃ c rest, cs = c :: rest ∧ c ≠ '+' ∧ c ≠ '-' := by
    rcases h with h | h | ⟨x, h⟩
    · obtain ⟨c, rest, hcs, hc⟩ := h.head
      refine ⟨c, rest, hcs, ?_, ?_⟩ <;> (rintro rfl; cases hc)
    · obtain ⟨c, rest, hcs, hc⟩ := h.head
      refine ⟨c, rest, hcs, ?_, ?_⟩ <;> (rintro rfl; cases hc)
    · obtain ⟨c, rest, hcs, hc⟩ := h.head
      refine ⟨c, rest, hcs, ?_, ?_⟩ <;> (rintro rfl; simp [isDigit] at hc)
  simp [splitSign, hplus, hminus]

end Heads

namespace Format

variable {f : Format} {core cs : List Char} {neg : Bool}

theorem readMagnitude_eq (f : Format) (cs : List Char) : f.readMagnitude cs =
    if InfinityText cs then some f.infinity else if NotNumberText cs then some f.quietNaN
    else (readDecimal cs).map f.ofDecimal := by
  have hlower : cs.map lowerAscii = cs.map Char.toLower := List.map_congr_left fun c _ => lowerAscii_eq c
  have hinfinity : (cs.map lowerAscii == ['i', 'n', 'f'] ||
      cs.map lowerAscii == ['i', 'n', 'f', 'i', 'n', 'i', 't', 'y']) = true ↔ InfinityText cs := by
    rw [hlower, Bool.or_eq_true, beq_iff_eq, beq_iff_eq]
    rfl
  have hnotNumber : (cs.map lowerAscii == ['n', 'a', 'n']) = true ↔ NotNumberText cs := by
    rw [hlower, beq_iff_eq]
    rfl
  unfold readMagnitude
  simp only [hinfinity, hnotNumber]

theorem readMagnitude_infinity (h : InfinityText cs) : f.readMagnitude cs = some f.infinity := by
  rw [readMagnitude_eq, if_pos h]

theorem readMagnitude_notNumber (h : NotNumberText cs) : f.readMagnitude cs = some f.quietNaN := by
  rw [readMagnitude_eq, if_neg h.not_infinityText, if_pos h]

theorem readMagnitude_decimal {x : ℚ} (h : DecimalText cs x) :
    ∃ d, f.readMagnitude cs = some (f.ofDecimal d) ∧ x = d.digits * 10 ^ d.exponent := by
  obtain ⟨d, hd, hx⟩ := decimalText_iff.mp h
  refine ⟨d, ?_, hx⟩
  rw [readMagnitude_eq, if_neg h.not_infinityText, if_neg h.not_notNumberText, hd, Option.map_some]

/-- **The reader accepts the texts of floats and no others**, as to what stands after the sign. -/
theorem readMagnitude_isSome_iff : (f.readMagnitude cs).isSome = true ↔ FloatText cs := by
  constructor
  · intro h
    rw [readMagnitude_eq] at h
    split at h
    · rename_i hword
      exact .inl hword
    · split at h
      · rename_i hword
        exact .inr (.inl hword)
      · rw [Option.isSome_map] at h
        obtain ⟨d, hd⟩ := Option.isSome_iff_exists.mp h
        exact .inr (.inr ⟨_, decimalText_iff.mpr ⟨d, hd, rfl⟩⟩)
  · rintro (h | h | ⟨x, h⟩)
    · rw [readMagnitude_infinity h, Option.isSome_some]
    · rw [readMagnitude_notNumber h, Option.isSome_some]
    · obtain ⟨d, hd, -⟩ := readMagnitude_decimal (f := f) h
      rw [hd, Option.isSome_some]

theorem readFloat_of_afterSign (hsign : AfterSign core neg cs) (hcs : FloatText cs) :
    f.readFloat core = (f.readMagnitude cs).map (f.signed neg) := by
  unfold readFloat
  rw [hsign.splitSign_eq hcs.splitSign_eq]

theorem readFloat_eq_none_iff : f.readFloat core = none ↔ ¬ ∃ neg cs, AfterSign core neg cs ∧ FloatText cs := by
  rw [← Option.not_isSome_iff_eq_none, not_iff_not]
  constructor
  · intro h
    unfold readFloat at h
    rw [Option.isSome_map] at h
    exact ⟨_, _, afterSign_splitSign core, readMagnitude_isSome_iff.mp h⟩
  · rintro ⟨neg, cs, hsign, hcs⟩
    rw [readFloat_of_afterSign hsign hcs, Option.isSome_map]
    exact readMagnitude_isSome_iff.mpr hcs

end Format

end Number

/-! ## 3. Values -/

/-- How a type of floats reads characters: the word that is read becomes the bits of a value. -/
structure ReadsFloats (t : ValueType) (f : Format) (make : Nat → Value) : Prop where
  regular : f.Regular
  chars : ∀ cs, Value.ofChars? t cs = (f.readFloat cs).map make
  slot : ∀ w, f.IsWord w → (make w).slot = w

theorem f32_readsFloats : ReadsFloats .f32 binary32 fun w => .f32 (UInt32.ofNat w) where
  regular := Format.binary32_regular
  chars _ := rfl
  slot _ hw := UInt32.toNat_ofNat_of_lt hw

theorem f64_readsFloats : ReadsFloats .f64 binary64 fun w => .f64 (UInt64.ofNat w) where
  regular := Format.binary64_regular
  chars _ := rfl
  slot _ hw := UInt64.toNat_ofNat_of_lt hw

/-- A text is read as a value of a type, with a sign and with bits as described. -/
def ReadAs (t : ValueType) (f : Format) (s : String) (neg : Bool) (P : Nat → Prop) : Prop :=
  ∃ v, Value.parse t s = .ok v ∧ v.type = t ∧ f.negative v.slot = neg ∧ P v.slot

/-- What a type of floats makes of a text, by what stands between the blanks around it. -/
structure FloatsRead (t : ValueType) (f : Format) (s : String) (core : List Char) : Prop where
  /-- A decimal number becomes the float of this format that is nearest to it; the sign stays, also on zero. -/
  decimal : ∀ neg cs x, AfterSign core neg cs → DecimalText cs x →
    ReadAs t f s neg fun w => f.Nearest (Format.signFactor neg * x) w
  infinity : ∀ neg cs, AfterSign core neg cs → InfinityText cs → ReadAs t f s neg fun w => f.isInfinite w = true
  notNumber : ∀ neg cs, AfterSign core neg cs → NotNumberText cs → ReadAs t f s neg fun w => f.isNaN w = true
  /-- In every other case the error names the type, and the text without the blanks. -/
  refuses : ∀ e, Value.parse t s = .error e ↔
    e = .invalidLiteral t (String.ofList core) ∧ ¬ ∃ neg cs, AfterSign core neg cs ∧ FloatText cs

section Types

variable {t : ValueType} {f : Format} {make : Nat → Value}

/-- What is read after the sign stands in the bits of the value, below the sign. -/
theorem ReadsFloats.readAs (h : ReadsFloats t f make) {s : String} {neg : Bool} {cs : List Char} {b : Nat}
    {P : Nat → Prop} (hsign : AfterSign (trimChars s.toList) neg cs) (hcs : FloatText cs)
    (hread : f.readMagnitude cs = some b) (hb : b < f.signWeight) (hP : P (f.signed neg b)) :
    ReadAs t f s neg P := by
  have hslot : (make (f.signed neg b)).slot = f.signed neg b := h.slot _ (Format.signed_isWord neg hb)
  have hparse : Value.parse t s = .ok (make (f.signed neg b)) := by
    rw [parse_eq_ok_iff, h.chars, Format.readFloat_of_afterSign hsign hcs, hread]
    rfl
  refine ⟨_, hparse, type_of_parse hparse, ?_, ?_⟩
  · rw [hslot, Format.negative_signed neg hb]
  · rwa [hslot]

theorem ReadsFloats.law (h : ReadsFloats t f make) (s : String) : FloatsRead t f s (trimChars s.toList) where
  decimal neg cs x hsign hcs := by
    obtain ⟨d, hread, rfl⟩ := Format.readMagnitude_decimal (f := f) hcs
    have hlt : f.ofDecimal d < f.signWeight := by
      rw [Format.ofDecimal_eq h.regular]
      exact f.roundUnits_lt _ _
    exact h.readAs hsign (.inr (.inr ⟨_, hcs⟩)) hread hlt (Format.ofDecimal_nearest h.regular d neg)
  infinity neg cs hsign hcs := by
    refine h.readAs hsign (.inl hcs) (Format.readMagnitude_infinity hcs) f.infinity_lt ?_
    rw [Format.isInfinite, Format.magnitude_signed neg f.infinity_lt]
    exact beq_self_eq_true _
  notNumber neg cs hsign hcs := by
    refine h.readAs hsign (.inr (.inl hcs)) (Format.readMagnitude_notNumber hcs) f.quietNaN_lt ?_
    rw [Format.isNaN, Format.magnitude_signed neg f.quietNaN_lt, decide_eq_true_eq]
    exact Format.infinity_lt_quietNaN h.regular
  refuses e := by
    rw [parse_eq_error_iff, h.chars, Option.map_eq_none_iff, Format.readFloat_eq_none_iff]

end Types

/-- **A literal is read as the float of its own width nearest to the number that it is**, blanks around it aside, or as
    what the word for it says. -/
theorem floatsRead (s : String) : ∃ core, (∀ cs, Text.Trimmed s.toList cs ↔ cs = core) ∧
    FloatsRead .f32 binary32 s core ∧ FloatsRead .f64 binary64 s core :=
  ⟨trimChars s.toList, fun _ => trimmed_iff, f32_readsFloats.law s, f64_readsFloats.law s⟩

-- a number just above the midpoint between two floats of 32 bits is rounded up; the float of 64 bits nearest to it is
-- the midpoint itself, from where it would have gone down to the even one
example : Value.ofChars? .f32 "1.000000059604644775390626".toList = some (.f32 0x3f800001) ∧
    Value.ofChars? .f64 "1.000000059604644775390626".toList = some (.f64 0x3ff0000010000000) := by decide +kernel

end Embedder
