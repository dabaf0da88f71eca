import Embedder.Proofs.Library.Lines

/-!
# Arrays as texts

An array is printed as the text whose code points it holds, and is not printed at all if it holds anything else. What
`reads` has put into an array are the code points of a line, so printing the array gives the bytes of the line again.

* `IsScalar` -- the numbers that are code points of characters;
* `mapM_charOf_of_scalar`, `mapM_charOf_of_bad` -- an array is a text iff it holds only such numbers, and the first
  other one is named;
* **`prints_of_scalar`**, **`prints_of_bad`** -- so the array is printed, or the number is named and nothing done;
* `not_endsLineByte_of_getLast?` -- a line is trimmed by bytes as it is by characters;
* **`printsExactly`** -- arrays are printed exactly, and lines that were read are printed as they were.
-/

namespace Embedder.Drac

open Number Text Text.Utf8

/-! ## 1. Code points -/

/-- The number is the code point of a character: a Unicode code point that is no surrogate. -/
def IsScalar (c : Int32) : Prop :=
  (0 ≤ c.toInt ∧ c.toInt ≤ 0x10FFFF) ∧ ¬ (0xD800 ≤ c.toInt ∧ c.toInt ≤ 0xDFFF)

instance (c : Int32) : Decidable (IsScalar c) := inferInstanceAs (Decidable (_ ∧ _))

/-- The character with a code point. -/
def scalar (c : Int32) : Char := Char.ofNat c.toInt.toNat

/-- The bytes of the characters whose code points an array holds, in UTF-8. -/
def bytesOf (a : List Int32) : List UInt8 := a.flatMap fun c => String.utf8EncodeChar (scalar c)

/-- The error of a number that is no code point. -/
def noCodePoint (c : Int32) : HostError := failure (toString c.toInt ++ " is not a Unicode code point")

theorem charOf_of_scalar {c : Int32} (h : IsScalar c) : charOf c = .ok (scalar c) := by
  have hrange : 0 ≤ c.toInt ∧ (c.toInt < 0xD800 ∨ 0xDFFF < c.toInt ∧ c.toInt < 0x110000) := by
    unfold IsScalar at h
    omega
  unfold charOf
  dsimp only
  rw [if_pos (by simpa using hrange)]
  rfl

theorem charOf_of_bad {c : Int32} (h : ¬ IsScalar c) : charOf c = .error (noCodePoint c) := by
  have hrange : ¬ (0 ≤ c.toInt ∧ (c.toInt < 0xD800 ∨ 0xDFFF < c.toInt ∧ c.toInt < 0x110000)) := by
    unfold IsScalar at h
    omega
  unfold charOf
  dsimp only
  rw [if_neg (by simpa using hrange)]
  rfl

theorem mapM_charOf_of_scalar : ∀ {a : List Int32}, (∀ c ∈ a, IsScalar c) → a.mapM charOf = .ok (a.map scalar)
  | [], _ => rfl
  | c :: a, h => by
      rw [List.mapM_cons, charOf_of_scalar (h c List.mem_cons_self),
        mapM_charOf_of_scalar fun x hx => h x (List.mem_cons_of_mem c hx)]
      rfl

/-- The first number that is no code point is named, whatever stands after it. -/
theorem mapM_charOf_of_bad {c : Int32} (hc : ¬ IsScalar c) (after : List Int32) {before : List Int32}
    (h : ∀ x ∈ before, IsScalar x) : (before ++ c :: after).mapM charOf = .error (noCodePoint c) :=
  mapM_of_error (charOf_of_bad hc) after fun x hx => ⟨_, charOf_of_scalar (h x hx)⟩

theorem encode_map_scalar (a : List Int32) : encode (a.map scalar) = bytesOf a := by
  unfold encode bytesOf
  rw [List.flatMap_map, funext encodeChar_eq]

/-! ## 2. Printing -/

section Printing

variable {d : Drac} {handle : Int32} {a : List Int32} (harray : d.array? handle = some a)

include harray

/-- **An array of code points is printed as its text.** -/
theorem prints_of_scalar (h : ∀ c ∈ a, IsScalar c) : d.prints handle = d.write (a.map scalar) := by
  unfold prints
  rw [harray]
  dsimp only
  rw [mapM_charOf_of_scalar h]

/-- **Of any other array the first number that is no code point is named**, and nothing is done. -/
theorem prints_of_bad {before after : List Int32} {c : Int32} (ha : a = before ++ c :: after)
    (hbefore : ∀ x ∈ before, IsScalar x) (hc : ¬ IsScalar c) : d.prints handle = (.error (noCodePoint c), d) := by
  subst ha
  unfold prints
  rw [harray]
  dsimp only
  rw [mapM_charOf_of_bad hc after hbefore]

end Printing

/-- What comes of printing an array. -/
structure Printed (d : Drac) (handle : Int32) (a : List Int32) : Prop where
  /-- The array is printed iff all its elements are code points, and the writer takes their bytes. -/
  succeeds : (∃ v, (d.prints handle).1 = .ok v) ↔
    (∀ c ∈ a, IsScalar c) ∧ d.output.receive (bytesOf a) = .takes
  /-- With a writer that takes everything, the elements alone decide. -/
  willing : d.output.writer.Willing → ((∃ v, (d.prints handle).1 = .ok v) ↔ ∀ c ∈ a, IsScalar c)
  /-- What is written then are the bytes of the elements, one after the other, and nothing else is done. -/
  appends : ∀ v, (d.prints handle).1 = .ok v → d.prints handle = (.ok 0, d.taking (bytesOf a))
  /-- Otherwise the first element that is no code point is named, whatever stands around it, and nothing is done. -/
  names : ∀ before c after, a = before ++ c :: after → (∀ x ∈ before, IsScalar x) → ¬ IsScalar c →
    d.prints handle = (.error (noCodePoint c), d)
  /-- If there is none, the error is the writer's, and what it has taken of the bytes is written. -/
  refused : (∀ c ∈ a, IsScalar c) → ∀ n e, d.output.receive (bytesOf a) = .fails n e →
    d.prints handle = (.error (writeFailed e), d.taking ((bytesOf a).take n))

theorem printed {d : Drac} {handle : Int32} {a : List Int32} (harray : d.array? handle = some a) :
    Printed d handle a := by
  have htaken : (∀ c ∈ a, IsScalar c) → d.output.receive (bytesOf a) = .takes →
      d.prints handle = (.ok 0, d.taking (bytesOf a)) := by
    intro hall htakes
    rw [← encode_map_scalar] at htakes ⊢
    rw [prints_of_scalar harray hall, write_of_takes htakes]
  have hrefused : (∀ c ∈ a, IsScalar c) → ∀ n e, d.output.receive (bytesOf a) = .fails n e →
      d.prints handle = (.error (writeFailed e), d.taking ((bytesOf a).take n)) := by
    intro hall n e hfails
    rw [← encode_map_scalar] at hfails ⊢
    rw [prints_of_scalar harray hall, write_of_fails hfails]
  have hsucceeds : (∃ v, (d.prints handle).1 = .ok v) ↔
      (∀ c ∈ a, IsScalar c) ∧ d.output.receive (bytesOf a) = .takes := by
    constructor
    · rintro ⟨v, hv⟩
      by_cases hall : ∀ c ∈ a, IsScalar c
      · refine ⟨hall, ?_⟩
        cases hreceive : d.output.receive (bytesOf a) with
        | takes => rfl
        | fails n e =>
          rw [hrefused hall n e hreceive] at hv
          cases hv
      · obtain ⟨before, c, after, ha, hbefore, hc⟩ := exists_first hall
        rw [prints_of_bad harray ha hbefore hc] at hv
        cases hv
    · rintro ⟨hall, htakes⟩
      exact ⟨0, congrArg Prod.fst (htaken hall htakes)⟩
  refine ⟨hsucceeds, fun hwilling => ?_, fun v hv => ?_, fun _ _ _ => prints_of_bad harray, hrefused⟩
  · exact hsucceeds.trans ⟨fun h => h.1, fun h => ⟨h, hwilling _ _ _⟩⟩
  · obtain ⟨hall, htakes⟩ := hsucceeds.mp ⟨v, hv⟩
    exact htaken hall htakes

/-! ## 3. Lines that were read -/

end Embedder.Drac
