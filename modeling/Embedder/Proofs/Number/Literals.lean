import Embedder.Arguments

/-!
# Integers as texts

An integer is written in decimal, with a minus sign below zero. Reading takes such a text back to the
integer, and blanks around it do not matter.

* `readNat_toDigits`, **`readInt_toString`** -- reading the digits of a number gives the number;
* `trimChars_blanks_append`, `trimChars_append_blanks` -- blanks at either end are trimmed;
* `not_blank_of_mem_toString` -- there is no blank in the text of an integer, so trimming keeps it;
* **`parse_i32_text`** -- an integer of 32 bits is read back from its text;
* `type_of_parse`, `types_of_parseArguments` -- what is read has the type that it is read as.
-/

namespace Embedder

open Number Text

/-! ## 1. Digits -/

namespace Number

theorem isDigit_of_mem_toDigits {n : Nat} {c : Char} (h : c ∈ Nat.toDigits 10 n) : isDigit c = true :=
  Nat.isDigit_of_mem_toDigits (by decide) (by decide) h

/-- **Reading the digits of a number gives the number.** -/
theorem readNat_toDigits (n : Nat) : readNat (Nat.toDigits 10 n) = some n := by
  have hsome : (Nat.toDigits 10 n).isEmpty = false := List.isEmpty_eq_false_iff.mpr Nat.toDigits_ne_nil
  have hdigits : (Nat.toDigits 10 n).all isDigit = true :=
    List.all_eq_true.mpr fun c hc => isDigit_of_mem_toDigits hc
  have hvalue : ofDigits (Nat.toDigits 10 n) = n := Nat.ofDigitChars_toDigits (by decide) (by decide)
  rw [readNat, hsome, hdigits, hvalue]
  rfl

/-- Digits and only digits are read, and at least one. -/
theorem readNat_eq_some_iff {ds : List Char} {n : Nat} : readNat ds = some n ↔
    ds ≠ [] ∧ (∀ c ∈ ds, isDigit c = true) ∧ n = ofDigits ds := by
  unfold readNat
  by_cases hgood : ds ≠ [] ∧ ∀ c ∈ ds, isDigit c = true
  · rw [if_neg (by simpa using hgood), Option.some.injEq]
    exact ⟨fun h => ⟨hgood.1, hgood.2, h.symm⟩, fun h => h.2.2.symm⟩
  · rw [if_pos (by simpa [Classical.or_iff_not_imp_left] using hgood)]
    exact ⟨nofun, fun h => absurd ⟨h.1, h.2.1⟩ hgood⟩

/-- The text of an integer: the digits of its absolute value, after a sign if it is negative. -/
theorem toList_toString (z : Int) : (toString z).toList =
    if z < 0 then '-' :: Nat.toDigits 10 z.natAbs else Nat.toDigits 10 z.natAbs := by
  cases z with
  | ofNat n =>
    rw [if_neg (show ¬ Int.ofNat n < 0 from Int.not_lt.mpr (Int.natCast_nonneg n))]
    exact Nat.toList_repr
  | negSucc n =>
    rw [if_pos (by omega)]
    show ("-" ++ (n + 1).repr).toList = _
    rw [String.toList_append, Nat.toList_repr]
    rfl

theorem splitSign_of_digit {c : Char} (h : isDigit c = true) (cs : List Char) :
    splitSign (c :: cs) = (false, c :: cs) := by
  unfold splitSign
  split
  · rename_i heq
    cases heq
    cases h
  · rename_i heq
    cases heq
    cases h
  · rfl

theorem readInt_of_readNat {cs ds : List Char} {neg : Bool} {n : Nat} (hsign : splitSign cs = (neg, ds))
    (hdigits : readNat ds = some n) : readInt cs = some (if neg then -(n : Int) else n) := by
  rw [readInt, hsign]
  dsimp only
  rw [hdigits]
  rfl

/-- **Reading the text of an integer gives the integer.** -/
theorem readInt_toString (z : Int) : readInt (toString z).toList = some z := by
  rw [toList_toString]
  by_cases hz : z < 0
  · have hsign : splitSign ('-' :: Nat.toDigits 10 z.natAbs) = (true, Nat.toDigits 10 z.natAbs) := rfl
    rw [if_pos hz, readInt_of_readNat hsign (readNat_toDigits z.natAbs), if_pos rfl]
    congr 1
    omega
  · have hsign : splitSign (Nat.toDigits 10 z.natAbs) = (false, Nat.toDigits 10 z.natAbs) := by
      cases hds : Nat.toDigits 10 z.natAbs with
      | nil => rfl
      | cons c cs =>
        refine splitSign_of_digit (isDigit_of_mem_toDigits (n := z.natAbs) ?_) cs
        rw [hds]
        exact List.mem_cons_self
    rw [if_neg hz, readInt_of_readNat hsign (readNat_toDigits z.natAbs), if_neg Bool.false_ne_true]
    congr 1
    omega

theorem lowerAscii_eq (c : Char) : lowerAscii c = c.toLower := by
  unfold lowerAscii
  by_cases h : 'A' ≤ c ∧ c ≤ 'Z'
  · rw [if_pos (by simpa using h)]
    have hrange : 65 ≤ c.toNat ∧ c.toNat ≤ 90 := h
    have hletters : ∀ n < 26, Char.ofNat (n + 65 + 32) = (Char.ofNat (n + 65)).toLower := by decide
    have hc := hletters (c.toNat - 65) (by omega)
    rwa [Nat.sub_add_cancel hrange.1, Char.ofNat_toNat] at hc
  · have hrange : ¬ (c.val ≥ 'A'.val ∧ c.val ≤ 'Z'.val) := h
    rw [if_neg (by simpa using h)]
    delta Char.toLower
    rw [dif_neg hrange]

end Number

/-! ## 2. Blanks -/

theorem dropWhile_of_head {α : Type} {p : α → Bool} : ∀ {xs : List α},
    (∀ x, xs.head? = some x → p x = false) → xs.dropWhile p = xs
  | [], _ => rfl
  | x :: xs, h => List.dropWhile_cons_of_neg (by rw [h x rfl]; exact Bool.false_ne_true)

/-- What begins and ends with no blank is not trimmed. -/
theorem Text.trimChars_of_ends {core : List Char} (hfirst : ∀ c, core.head? = some c → isBlank c = false)
    (hlast : ∀ c, core.getLast? = some c → isBlank c = false) : trimChars core = core := by
  have hleft : trimLeft core = core := dropWhile_of_head hfirst
  have hright : core.reverse.dropWhile isBlank = core.reverse := by
    refine dropWhile_of_head fun c hc => hlast c ?_
    rwa [List.head?_reverse] at hc
  rw [trimChars, hleft, trimRight, hright, List.reverse_reverse]

/-- What has no blanks is not trimmed. -/
theorem Text.trimChars_of_not_blank {cs : List Char} (h : ∀ c ∈ cs, isBlank c = false) :
    trimChars cs = cs :=
  trimChars_of_ends (fun c hc => h c (List.mem_of_mem_head? hc)) (fun c hc => h c (List.mem_of_getLast? hc))

theorem Text.trimChars_blanks_append {before : List Char} (h : ∀ c ∈ before, isBlank c = true) (cs : List Char) :
    trimChars (before ++ cs) = trimChars cs := by
  unfold trimChars trimLeft
  rw [List.dropWhile_append_of_pos h]

/-- Blanks at the end are trimmed, also after a text that is blank itself. -/
theorem Text.trimChars_append_blanks {after : List Char} (h : ∀ c ∈ after, isBlank c = true) (cs : List Char) :
    trimChars (cs ++ after) = trimChars cs := by
  have hall : after.dropWhile isBlank = [] := by
    have happend : (after ++ []).dropWhile isBlank = _ := List.dropWhile_append_of_pos h
    rwa [List.append_nil] at happend
  have hreverse : ∀ c ∈ after.reverse, isBlank c = true := fun c hc => h c (List.mem_reverse.mp hc)
  unfold trimChars trimLeft
  rw [List.dropWhile_append]
  split
  · rename_i hblank
    rw [hall, List.isEmpty_iff.mp hblank]
  · rw [trimRight, List.reverse_append, List.dropWhile_append_of_pos hreverse]
    rfl

theorem not_blank_of_isDigit {c : Char} (h : isDigit c = true) : isBlank c = false := by
  have hrange : 48 ≤ c.toNat ∧ c.toNat ≤ 57 := by
    rw [isDigit, Bool.and_eq_true, decide_eq_true_eq, decide_eq_true_eq] at h
    exact h
  simp [isBlank]
  omega

/-- There is no blank in the text of an integer. -/
theorem not_blank_of_mem_toString {z : Int} {c : Char} (h : c ∈ (toString z).toList) :
    isBlank c = false := by
  rw [toList_toString] at h
  split at h
  · rcases List.mem_cons.mp h with rfl | h
    · rfl
    · exact not_blank_of_isDigit (isDigit_of_mem_toDigits h)
  · exact not_blank_of_isDigit (isDigit_of_mem_toDigits h)

/-! ## 3. Values -/

theorem readIntIn_toString {lo hi z : Int} (hlo : lo ≤ z) (hhi : z ≤ hi) :
    readIntIn lo hi (toString z).toList = some z := by
  rw [readIntIn, readInt_toString]
  simp [hlo, hhi]

/-- **An integer of 32 bits is read back from its text.** -/
theorem parse_i32_text (v : Int32) : Value.parse .i32 (Value.i32 v).text = .ok (.i32 v) := by
  have hlo := v.le_toInt
  have hhi := v.toInt_lt
  have hchars : Value.ofChars? .i32 (trimChars (toString v.toInt).toList) = some (.i32 v) := by
    rw [trimChars_of_not_blank fun c hc => not_blank_of_mem_toString hc, Value.ofChars?,
      readIntIn_toString (by omega) (by omega), Option.map_some, Int32.ofInt_toInt]
  unfold Value.parse
  rw [show Value.ofChars? .i32 (trimChars (Value.i32 v).text.toList) = some (.i32 v) from hchars]

/-- What is read has the type that it is read as. -/
theorem type_of_parse {t : ValueType} {s : String} {v : Value} (h : Value.parse t s = .ok v) : v.type = t := by
  unfold Value.parse at h
  split at h
  · rename_i v' hv
    cases h
    cases t with
    | i32 | i64 | f32 | f64 =>
      obtain ⟨_, _, rfl⟩ := Option.map_eq_some_iff.mp hv
      rfl
  · cases h

theorem types_of_readLiterals : ∀ {ts : List ValueType} {ss : List String} {vs : List Value},
    ss.length = ts.length → readLiterals ts ss = .ok vs → vs.map Value.type = ts
  | [], _, _, _, h => by
      cases h
      rfl
  | t :: ts, [], _, hlen, _ => by cases hlen
  | t :: ts, s :: ss, vs, hlen, h => by
      rw [readLiterals] at h
      cases hv : Value.parse t s with
      | error e =>
        rw [hv] at h
        cases h
      | ok v =>
        cases hvs : readLiterals ts ss with
        | error e =>
          rw [hv, hvs] at h
          cases h
        | ok rest =>
          rw [hv, hvs] at h
          cases h
          rw [List.map_cons, type_of_parse hv, types_of_readLiterals (Nat.succ.inj hlen) hvs]

/-- Arguments that were read can be passed. -/
theorem types_of_parseArguments {entry : String} {s : Signature} {raw : List String} {args : List Value}
    (h : parseArguments entry s raw = .ok args) : args.map Value.type = s.params := by
  unfold parseArguments at h
  split at h
  · rename_i hlen
    cases hargs : readLiterals s.params raw with
    | error e =>
      rw [hargs] at h
      cases h
    | ok vs =>
      rw [hargs] at h
      cases h
      exact types_of_readLiterals hlen hargs
  · cases h

end Embedder
