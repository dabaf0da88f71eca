import Embedder.Proofs.Number.Literals
import Embedder.Proofs.Number.Shortest
import Mathlib.Data.List.TakeWhile

/-!
# Floats as texts

A float is written with the shortest digits that read back, in full. Reading takes the text apart again: the
sign, the digits before and after the point, or one of the words for what is not finite.

* `readDecimal_digits` -- digits with or without a point are read as the number that they spell;
* **`readDecimal_text`** -- a decimal number is read from its text, but for zeros that stand for an exponent;
* **`readFloat_text`** -- a float is read from its text bit by bit, and what is not a number as such.
-/

namespace Embedder.Number

open Text

/-! ## 1. Decimal numbers -/

theorem ofDigitsFrom_zeros (cs : List Char) : ∀ k, ofDigitsFrom 0 (List.replicate k '0' ++ cs) = ofDigitsFrom 0 cs
  | 0 => rfl
  | k + 1 => ofDigitsFrom_zeros cs k

theorem ofDigits_toDigits (n : Nat) : ofDigits (Nat.toDigits 10 n) = n :=
  Nat.ofDigitChars_toDigits (by decide) (by decide)

section Digits

variable {whole fraction : List Char} (hwhole : ∀ c ∈ whole, isDigit c = true) (hsome : whole ≠ [])

include hwhole hsome

theorem readDecimal_digits : readDecimal whole = some ⟨ofDigits whole, 0⟩ := by
  unfold readDecimal
  rw [List.takeWhile_eq_self_iff.mpr hwhole, List.dropWhile_eq_nil_iff.mpr hwhole]
  simp [hsome, readExponent]

theorem readDecimal_point (hfraction : ∀ c ∈ fraction, isDigit c = true) :
    readDecimal (whole ++ '.' :: fraction) = some ⟨ofDigits (whole ++ fraction), -fraction.length⟩ := by
  have htake : (whole ++ '.' :: fraction).takeWhile isDigit = whole := by
    rw [List.takeWhile_append_of_pos hwhole]
    exact List.append_nil _
  have hdrop : (whole ++ '.' :: fraction).dropWhile isDigit = '.' :: fraction := by
    rw [List.dropWhile_append_of_pos hwhole]
    rfl
  have htail : fraction.takeWhile isDigit = fraction := List.takeWhile_eq_self_iff.mpr hfraction
  have hrest : fraction.dropWhile isDigit = [] := List.dropWhile_eq_nil_iff.mpr hfraction
  unfold readDecimal
  rw [htake, hdrop]
  simp [hsome, htail, hrest, readExponent]

end Digits

/-- The text of a decimal number: digits, and a point among them if the exponent is below zero. -/
theorem Decimal.text_cases (d : Decimal) :
    (∃ e, d.exponent = .ofNat e ∧ d.text.toList = Nat.toDigits 10 (d.digits * pow10 e)) ∨
    ∃ e whole fraction, d.exponent = .negSucc e ∧ d.text.toList = whole ++ '.' :: fraction ∧ whole ≠ [] ∧
      fraction.length = e + 1 ∧ ∃ k, whole ++ fraction = List.replicate k '0' ++ Nat.toDigits 10 d.digits := by
  obtain ⟨n, exponent⟩ := d
  cases exponent with
  | ofNat e => exact .inl ⟨e, rfl, Nat.toList_repr⟩
  | negSucc e =>
    let padded := List.replicate (e + 2 - (Nat.toDigits 10 n).length) '0' ++ Nat.toDigits 10 n
    have hlength : e + 2 ≤ padded.length := by
      rw [List.length_append, List.length_replicate]
      omega
    refine .inr ⟨e, padded.take (padded.length - (e + 1)), padded.drop (padded.length - (e + 1)), rfl, ?_, ?_, ?_,
      _, List.take_append_drop _ _⟩
    · show (String.ofList _ ++ "." ++ String.ofList _).toList = _
      simp only [String.toList_append, String.toList_ofList, List.append_assoc]
      rfl
    · intro hnil
      have := congrArg List.length hnil
      rw [List.length_take, List.length_nil] at this
      omega
    · rw [List.length_drop]
      omega

theorem isDigit_of_mem_padded {k n : Nat} {c : Char} (h : c ∈ List.replicate k '0' ++ Nat.toDigits 10 n) :
    isDigit c = true := by
  rcases List.mem_append.mp h with h | h
  · rw [List.eq_of_mem_replicate h]
    rfl
  · exact isDigit_of_mem_toDigits h

/-- **A decimal number is read from its text.** -/
theorem readDecimal_text (d : Decimal) : readDecimal d.text.toList = some d.plain := by
  unfold Decimal.plain
  rcases d.text_cases with ⟨e, he, htext⟩ | ⟨e, whole, fraction, he, htext, hsome, hlength, k, hdigits⟩
  · rw [htext, he, readDecimal_digits (fun c hc => isDigit_of_mem_toDigits hc) Nat.toDigits_ne_nil,
      ofDigits_toDigits]
  · have hall : ∀ c ∈ whole ++ fraction, isDigit c = true := by
      rw [hdigits]
      exact fun c hc => isDigit_of_mem_padded hc
    have hvalue : ofDigits (whole ++ fraction) = d.digits := by
      rw [hdigits, ofDigits, ofDigitsFrom_zeros]
      exact ofDigits_toDigits d.digits
    rw [htext, he, readDecimal_point (fun c hc => hall c (List.mem_append_left _ hc)) hsome
      (fun c hc => hall c (List.mem_append_right _ hc)), hvalue, hlength]
    rfl

/-- The text of a decimal number has digits and a point, and begins with a digit. -/
theorem Decimal.mem_text {d : Decimal} {c : Char} (h : c ∈ d.text.toList) : isDigit c = true ∨ c = '.' := by
  rcases d.text_cases with ⟨e, -, htext⟩ | ⟨e, whole, fraction, -, htext, -, -, k, hdigits⟩
  · rw [htext] at h
    exact .inl (isDigit_of_mem_toDigits h)
  · have hall : c ∈ whole ++ fraction → isDigit c = true := by
      rw [hdigits]
      exact isDigit_of_mem_padded
    rw [htext, List.mem_append, List.mem_cons] at h
    rcases h with h | rfl | h
    · exact .inl (hall (List.mem_append_left _ h))
    · exact .inr rfl
    · exact .inl (hall (List.mem_append_right _ h))

theorem Decimal.text_head (d : Decimal) : ∃ c cs, d.text.toList = c :: cs ∧ isDigit c = true := by
  rcases d.text_cases with ⟨e, -, htext⟩ | ⟨e, whole, fraction, -, htext, hsome, -, k, hdigits⟩
  · obtain ⟨c, cs, hcs⟩ := List.exists_cons_of_ne_nil (Nat.toDigits_ne_nil (n := d.digits * pow10 e) (b := 10))
    refine ⟨c, cs, htext.trans hcs, isDigit_of_mem_toDigits (n := d.digits * pow10 e) ?_⟩
    rw [hcs]
    exact List.mem_cons_self
  · obtain ⟨c, cs, rfl⟩ := List.exists_cons_of_ne_nil hsome
    refine ⟨c, cs ++ '.' :: fraction, htext, isDigit_of_mem_padded (k := k) (n := d.digits) ?_⟩
    rw [← hdigits]
    exact List.mem_cons_self

/-! ## 2. Words -/

theorem lowerAscii_of_isDigit {c : Char} (h : isDigit c = true) : lowerAscii c = c := by
  have hrange : 48 ≤ c.toNat ∧ c.toNat ≤ 57 := by
    rw [isDigit, Bool.and_eq_true, decide_eq_true_eq, decide_eq_true_eq] at h
    exact h
  have hupper : ¬ 'A' ≤ c := by
    intro hle
    have : 65 ≤ c.toNat := hle
    omega
  rw [lowerAscii, if_neg (by simp [hupper])]

namespace Format

variable {f : Format} {w : Nat}

/-- What begins with a digit is none of the words for what is not finite. -/
theorem readMagnitude_of_isDigit {c : Char} (h : isDigit c = true) (cs : List Char) :
    f.readMagnitude (c :: cs) = (readDecimal (c :: cs)).map f.ofDecimal := by
  have hi : (c == 'i') = false := by
    rw [beq_eq_false_iff_ne]
    rintro rfl
    cases h
  have hn : (c == 'n') = false := by
    rw [beq_eq_false_iff_ne]
    rintro rfl
    cases h
  unfold readMagnitude
  rw [List.map_cons, lowerAscii_of_isDigit h]
  simp [hi, hn, List.cons_beq_cons]

/-- A word is its sign on its magnitude. -/
theorem signed_magnitude (hw : f.IsWord w) : f.signed (f.negative w) (f.magnitude w) = w := by
  have hlt : w < f.signWeight * 2 := by
    rw [← pow2_width]
    exact hw
  unfold signed negative magnitude
  rw [Nat.mod_eq_of_lt hw]
  by_cases hneg : f.signWeight ≤ w
  · rw [if_pos (decide_eq_true hneg), Nat.mod_eq_sub_mod hneg, Nat.mod_eq_of_lt (by omega)]
    omega
  · rw [if_neg (by simpa using hneg), Nat.mod_eq_of_lt (by omega)]

/-! ## 3. Reading floats back -/

/-- **A number is written as its sign and a text of its magnitude**, which has no sign of its own. -/
theorem text_of_number (hf : f.Moderate) (hnum : f.isNaN w = false) : ∃ body,
    (f.text w).toList = (if f.negative w then ['-'] else []) ++ body ∧
    splitSign body = (false, body) ∧ f.readMagnitude body = some (f.magnitude w) ∧
    ∀ c ∈ body, isBlank c = false := by
  have hsign : ∀ s : String, ((if f.negative w then "-" else "") ++ s).toList =
      (if f.negative w then ['-'] else []) ++ s.toList := by
    intro s
    rw [String.toList_append]
    cases f.negative w <;> rfl
  unfold text
  rw [if_neg (by rw [hnum]; exact Bool.false_ne_true)]
  by_cases hinf : f.isInfinite w = true
  · refine ⟨"inf".toList, ?_, rfl, ?_, by simp [isBlank]⟩
    · rw [if_pos hinf, hsign]
    · rw [show f.magnitude w = f.infinity from beq_iff_eq.mp hinf]
      rfl
  by_cases hzero : f.magnitude w = 0
  · refine ⟨"0".toList, ?_, rfl, ?_, by simp [isBlank]⟩
    · rw [if_neg hinf, if_pos hzero, hsign]
    · rw [hzero]
      rfl
  -- A finite number that is not zero: its digits are those that read back.
  · have hlt : f.magnitude w < f.infinity := by
      have hle : ¬ f.infinity < f.magnitude w := of_decide_eq_false hnum
      have hne : f.magnitude w ≠ f.infinity := fun h => hinf (beq_iff_eq.mpr h)
      omega
    have hvalue : f.ofDecimal (f.shortest (f.magnitude w)).plain = f.magnitude w :=
      ofDecimal_plain hf (Nat.pos_of_ne_zero hzero) hlt (readsBack_shortest f _)
    obtain ⟨c, cs, htext, hc⟩ := (f.shortest (f.magnitude w)).text_head
    refine ⟨(f.shortest (f.magnitude w)).text.toList, ?_, ?_, ?_, ?_⟩
    · rw [if_neg hinf, if_neg hzero, hsign]
    · rw [htext]
      exact splitSign_of_digit hc cs
    · rw [htext, readMagnitude_of_isDigit hc, ← htext, readDecimal_text, Option.map_some, hvalue]
    · intro d hd
      rcases Decimal.mem_text hd with hd | rfl
      · exact not_blank_of_isDigit hd
      · rfl

/-- **Reading the text of a float gives its bits back**, or, of one that is not a number, another such. -/
theorem readFloat_text (hf : f.Moderate) (hw : f.IsWord w) :
    f.readFloat (f.text w).toList = some (if f.isNaN w then f.quietNaN else w) := by
  by_cases hnan : f.isNaN w = true
  · rw [text, if_pos hnan, if_pos hnan]
    rfl
  · rw [Bool.not_eq_true] at hnan
    obtain ⟨body, htext, hsplit, hread, -⟩ := text_of_number hf hnan
    have hsign : splitSign ((if f.negative w then ['-'] else []) ++ body) = (f.negative w, body) := by
      cases f.negative w with
      | false => exact hsplit
      | true => rfl
    unfold readFloat
    rw [htext, hsign, hnan]
    dsimp only
    rw [hread, Option.map_some, signed_magnitude hw]
    rfl

/-- There is no blank in the text of a float. -/
theorem not_blank_of_mem_text (hf : f.Moderate) {c : Char} (h : c ∈ (f.text w).toList) : isBlank c = false := by
  by_cases hnan : f.isNaN w = true
  · rw [text, if_pos hnan] at h
    have hall : ∀ c ∈ "NaN".toList, isBlank c = false := by simp [isBlank]
    exact hall c h
  · rw [Bool.not_eq_true] at hnan
    obtain ⟨body, htext, -, -, hbody⟩ := text_of_number hf hnan
    rw [htext, List.mem_append] at h
    rcases h with h | h
    · split at h
      · rw [List.mem_singleton.mp h]
        rfl
      · cases h
    · exact hbody c h

end Format

end Embedder.Number
