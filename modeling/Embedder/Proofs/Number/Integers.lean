import Embedder.Proofs.Number.Literals
import Mathlib.Data.List.Induction
import Mathlib.Data.List.TakeWhile
import Mathlib.Data.Nat.Digits.Defs

/-!
# Which texts are integers

A text is a literal of a type of integers if, without the blanks around it, it is a sign or none and then digits, and
the number is in the range of the type. The number is that of the digits as they stand, however many they are.

* `Text.Trimmed`, **`trimmed_iff`** -- a text has one part between the blanks around it, and trimming finds it;
* `AfterSign`, `Numeral`, `Spells` -- signs, digits and integers as texts; `worth` is what digits stand for, and
  `ofDigits_eq` says that the reader gets this by going through them from the left;
* **`readInt_eq_some_iff`** -- the reader accepts what spells an integer, and gives this integer;
* **`integersRead`** -- so a literal of 32 or 64 bits is read iff it spells an integer in the range of its type.
-/

namespace Embedder

open Number Text

/-! ## 1. Blanks around a text -/

/-- The second text is what the first one has between the blanks around it. -/
structure Text.Trimmed (cs core : List Char) : Prop where
  around : ∃ before after, cs = before ++ (core ++ after) ∧ (∀ c ∈ before, isBlank c = true) ∧
    ∀ c ∈ after, isBlank c = true
  first : ∀ c, core.head? = some c → isBlank c = false
  last : ∀ c, core.getLast? = some c → isBlank c = false

namespace Text

theorem head?_dropWhile {c : Char} {cs : List Char} (h : (cs.dropWhile isBlank).head? = some c) :
    isBlank c = false := by
  have hnot := List.head?_dropWhile_not isBlank cs
  rw [h] at hnot
  simpa using hnot

/-- The left end of a text whose right end was trimmed is what it was, unless nothing is left. -/
theorem head?_trimRight {c : Char} {cs : List Char} (h : (trimRight cs).head? = some c) : cs.head? = some c := by
  have hbegins : trimRight cs <+: cs := by
    have hsuffix := List.dropWhile_suffix (l := cs.reverse) isBlank
    have hreverse := List.reverse_prefix.mpr hsuffix
    rwa [List.reverse_reverse] at hreverse
  obtain ⟨rest, hrest⟩ := hbegins
  rw [← hrest, List.head?_append, h]
  rfl

theorem trimmed_trimChars (cs : List Char) : Trimmed cs (trimChars cs) where
  around := by
    have hleft : cs = cs.takeWhile isBlank ++ trimLeft cs := List.takeWhile_append_dropWhile.symm
    have hright : trimLeft cs = trimChars cs ++ ((trimLeft cs).reverse.takeWhile isBlank).reverse := by
      unfold trimChars trimRight
      rw [← List.reverse_append, List.takeWhile_append_dropWhile, List.reverse_reverse]
    refine ⟨cs.takeWhile isBlank, ((trimLeft cs).reverse.takeWhile isBlank).reverse, ?_, ?_, ?_⟩
    · rw [← hright, ← hleft]
    · exact fun c hc => List.mem_takeWhile_imp hc
    · exact fun c hc => List.mem_takeWhile_imp (List.mem_reverse.mp hc)
  first c hc := head?_dropWhile (head?_trimRight hc)
  last c hc := by
    unfold trimChars trimRight at hc
    rw [List.getLast?_reverse] at hc
    exact head?_dropWhile hc

/-- **A text has one part between the blanks around it, and trimming finds it.** -/
theorem trimmed_iff {cs core : List Char} : Trimmed cs core ↔ core = trimChars cs := by
  constructor
  · rintro ⟨⟨before, after, rfl, hbefore, hafter⟩, hfirst, hlast⟩
    rw [trimChars_blanks_append hbefore, trimChars_append_blanks hafter, trimChars_of_ends hfirst hlast]
  · rintro rfl
    exact trimmed_trimChars cs

end Text

/-! ## 2. Signs and digits -/

namespace Number

/-- A text is a rest after a sign or none; a minus sign is told. -/
inductive AfterSign : List Char → Bool → List Char → Prop
  | bare (cs : List Char) : AfterSign cs false cs
  | plus (cs : List Char) : AfterSign ('+' :: cs) false cs
  | minus (cs : List Char) : AfterSign ('-' :: cs) true cs

theorem afterSign_splitSign (cs : List Char) : AfterSign cs (splitSign cs).1 (splitSign cs).2 := by
  unfold splitSign
  split
  · exact .minus _
  · exact .plus _
  · exact .bare _

/-- If the rest has no sign of its own, there is only one way to take the sign off. -/
theorem AfterSign.splitSign_eq {cs rest : List Char} {neg : Bool} (h : AfterSign cs neg rest)
    (hrest : splitSign rest = (false, rest)) : splitSign cs = (neg, rest) := by
  cases h with
  | bare => exact hrest
  | plus => rfl
  | minus => rfl

/-- The text is digits, or empty. -/
def AllDigits (ds : List Char) : Prop := ∀ c ∈ ds, '0' ≤ c ∧ c ≤ '9'

/-- What digits are worth: the last one counts once, and each one ten times as much as the next. -/
def worth (ds : List Char) : Nat := Nat.ofDigits 10 (ds.reverse.map digitValue)

/-- The text is digits, at least one, for a number. -/
structure Numeral (ds : List Char) (n : Nat) : Prop where
  nonempty : ds ≠ []
  digits : AllDigits ds
  value : n = worth ds

theorem isDigit_iff {c : Char} : isDigit c = true ↔ '0' ≤ c ∧ c ≤ '9' := by
  simp [isDigit]

theorem allDigits_iff {ds : List Char} : AllDigits ds ↔ ∀ c ∈ ds, isDigit c = true := by
  simp [AllDigits, isDigit_iff]

theorem ofDigits_snoc (ds : List Char) (c : Char) : ofDigits (ds ++ [c]) = 10 * ofDigits ds + digitValue c := by
  simp [ofDigits, ofDigitsFrom]

/-- The reader's sum over the digits from the left is the sum of digits times powers of ten. -/
theorem ofDigits_eq (ds : List Char) : ofDigits ds = worth ds := by
  induction ds using List.reverseRecOn with
  | nil => rfl
  | append_singleton ds c ih =>
    rw [ofDigits_snoc, ih, worth, worth, List.reverse_concat, List.map_cons, Nat.ofDigits_cons, Nat.add_comm]

theorem readNat_eq_some_iff_numeral {ds : List Char} {n : Nat} : readNat ds = some n ↔ Numeral ds n := by
  rw [readNat_eq_some_iff, ofDigits_eq, ← allDigits_iff]
  constructor
  · rintro ⟨hsome, hdigits, hn⟩
    exact ⟨hsome, hdigits, hn⟩
  · rintro ⟨hsome, hdigits, hn⟩
    exact ⟨hsome, hdigits, hn⟩

/-- A numeral has no sign. -/
theorem Numeral.splitSign_eq {ds : List Char} {n : Nat} (h : Numeral ds n) : splitSign ds = (false, ds) := by
  obtain ⟨c, cs, rfl⟩ := List.exists_cons_of_ne_nil h.nonempty
  exact splitSign_of_digit (isDigit_iff.mpr (h.digits c List.mem_cons_self)) cs

/-- The text is an integer: a sign or none, and digits. -/
def Spells (cs : List Char) (z : Int) : Prop :=
  ∃ neg ds n, AfterSign cs neg ds ∧ Numeral ds n ∧ z = if neg then -(n : Int) else n

/-- **The reader of integers accepts the texts of integers**, whatever their length, and gives the integers. -/
theorem readInt_eq_some_iff {cs : List Char} {z : Int} : readInt cs = some z ↔ Spells cs z := by
  constructor
  · intro h
    have hsign := afterSign_splitSign cs
    rcases hsplit : splitSign cs with ⟨neg, ds⟩
    rw [hsplit] at hsign
    cases hn : readNat ds with
    | none => simp [readInt, hsplit, hn] at h
    | some n =>
      rw [readInt_of_readNat hsplit hn] at h
      exact ⟨neg, ds, n, hsign, readNat_eq_some_iff_numeral.mp hn, (Option.some.inj h).symm⟩
  · rintro ⟨neg, ds, n, hsign, hds, rfl⟩
    exact readInt_of_readNat (hsign.splitSign_eq hds.splitSign_eq) (readNat_eq_some_iff_numeral.mpr hds)

theorem readIntIn_eq_some_iff {lo hi z : Int} {cs : List Char} :
    readIntIn lo hi cs = some z ↔ Spells cs z ∧ lo ≤ z ∧ z ≤ hi := by
  rw [readIntIn, Option.filter_eq_some_iff, readInt_eq_some_iff]
  simp

end Number

/-! ## 3. Values -/

/-- The value has a type of integers, and it is this integer. -/
inductive Value.IsInteger : Value → ValueType → Int → Prop
  | i32 (v : Int32) : IsInteger (.i32 v) .i32 v.toInt
  | i64 (v : Int64) : IsInteger (.i64 v) .i64 v.toInt

/-- The integers that have a place in the bits of a type, one of them being that of the sign. -/
def ValueType.Holds (t : ValueType) (z : Int) : Prop := -2 ^ (t.width - 1) ≤ z ∧ z < 2 ^ (t.width - 1)

section Values

variable {v : Value} {z : Int}

theorem isInteger_i32_iff : v.IsInteger .i32 z ↔ ValueType.Holds .i32 z ∧ v = .i32 (Int32.ofInt z) := by
  constructor
  · intro h
    cases h with
    | i32 w => exact ⟨⟨w.le_toInt, w.toInt_lt⟩, by rw [Int32.ofInt_toInt]⟩
  · rintro ⟨⟨hlo, hhi⟩, rfl⟩
    have hvalue : (Int32.ofInt z).toInt = z := Int32.toInt_ofInt_of_le hlo hhi
    have hinteger := Value.IsInteger.i32 (Int32.ofInt z)
    rwa [hvalue] at hinteger

theorem isInteger_i64_iff : v.IsInteger .i64 z ↔ ValueType.Holds .i64 z ∧ v = .i64 (Int64.ofInt z) := by
  constructor
  · intro h
    cases h with
    | i64 w => exact ⟨⟨w.le_toInt, w.toInt_lt⟩, by rw [Int64.ofInt_toInt]⟩
  · rintro ⟨⟨hlo, hhi⟩, rfl⟩
    have hvalue : (Int64.ofInt z).toInt = z := Int64.toInt_ofInt_of_le hlo hhi
    have hinteger := Value.IsInteger.i64 (Int64.ofInt z)
    rwa [hvalue] at hinteger

end Values

/-- How a type of integers reads characters: an integer in a range becomes a value. -/
structure ReadsIntegers (t : ValueType) (make : Int → Value) : Prop where
  chars : ∀ cs v, Value.ofChars? t cs = some v ↔ ∃ z, Spells cs z ∧ t.Holds z ∧ v = make z
  values : ∀ v z, v.IsInteger t z ↔ t.Holds z ∧ v = make z

theorem i32_readsIntegers : ReadsIntegers .i32 fun z => .i32 (Int32.ofInt z) where
  chars cs v := by
    have hrange : ∀ z, ValueType.Holds .i32 z ↔ -2147483648 ≤ z ∧ z ≤ 2147483647 := by
      intro z
      show -2147483648 ≤ z ∧ z < 2147483648 ↔ _
      omega
    unfold Value.ofChars?
    simp only [Option.map_eq_some_iff, readIntIn_eq_some_iff, hrange, and_assoc, eq_comm (b := v)]
  values v z := isInteger_i32_iff

theorem i64_readsIntegers : ReadsIntegers .i64 fun z => .i64 (Int64.ofInt z) where
  chars cs v := by
    have hrange : ∀ z, ValueType.Holds .i64 z ↔ -9223372036854775808 ≤ z ∧ z ≤ 9223372036854775807 := by
      intro z
      show -9223372036854775808 ≤ z ∧ z < 9223372036854775808 ↔ _
      omega
    unfold Value.ofChars?
    simp only [Option.map_eq_some_iff, readIntIn_eq_some_iff, hrange, and_assoc, eq_comm (b := v)]
  values v z := isInteger_i64_iff

/-! ## 4. The law -/

/-- What a type of integers makes of a text, by what stands between the blanks around it. -/
structure IntegersRead (t : ValueType) (s : String) (core : List Char) : Prop where
  /-- What is read is the integer that is spelled. -/
  reads : ∀ v, Value.parse t s = .ok v ↔ ∃ z, Spells core z ∧ v.IsInteger t z
  /-- Something is read iff an integer is spelled that the type has. -/
  succeeds : (∃ v, Value.parse t s = .ok v) ↔ ∃ z, Spells core z ∧ t.Holds z
  /-- In every other case the error names the type, and the text without the blanks. -/
  refuses : ∀ e, Value.parse t s = .error e ↔
    e = .invalidLiteral t (String.ofList core) ∧ ¬ ∃ z, Spells core z ∧ t.Holds z

theorem parse_eq_ok_iff {t : ValueType} {s : String} {v : Value} :
    Value.parse t s = .ok v ↔ Value.ofChars? t (trimChars s.toList) = some v := by
  unfold Value.parse
  cases Value.ofChars? t (trimChars s.toList) <;> simp

theorem parse_eq_error_iff {t : ValueType} {s : String} {e : LiteralError} : Value.parse t s = .error e ↔
    e = .invalidLiteral t (String.ofList (trimChars s.toList)) ∧ Value.ofChars? t (trimChars s.toList) = none := by
  unfold Value.parse Text.trim
  cases Value.ofChars? t (trimChars s.toList) <;> simp [eq_comm]

theorem ReadsIntegers.law {t : ValueType} {make : Int → Value} (h : ReadsIntegers t make) (s : String) :
    IntegersRead t s (trimChars s.toList) where
  reads v := by
    rw [parse_eq_ok_iff, h.chars]
    simp only [h.values]
  succeeds := by
    simp only [parse_eq_ok_iff, h.chars]
    constructor
    · rintro ⟨_, z, hz, hrange, -⟩
      exact ⟨z, hz, hrange⟩
    · rintro ⟨z, hz, hrange⟩
      exact ⟨make z, z, hz, hrange, rfl⟩
  refuses e := by
    have hnone : Value.ofChars? t (trimChars s.toList) = none ↔
        ¬ ∃ z, Spells (trimChars s.toList) z ∧ t.Holds z := by
      rw [Option.eq_none_iff_forall_ne_some]
      constructor
      · rintro hno ⟨z, hz, hrange⟩
        exact hno (make z) ((h.chars _ _).mpr ⟨z, hz, hrange, rfl⟩)
      · rintro hno v hv
        obtain ⟨z, hz, hrange, -⟩ := (h.chars _ _).mp hv
        exact hno ⟨z, hz, hrange⟩
    rw [parse_eq_error_iff, hnone]

/-- **A literal is read as an integer iff it spells one in the range of its type**, blanks around it aside. -/
theorem integersRead (s : String) : ∃ core, (∀ cs, Text.Trimmed s.toList cs ↔ cs = core) ∧
    IntegersRead .i32 s core ∧ IntegersRead .i64 s core :=
  ⟨trimChars s.toList, fun _ => trimmed_iff, i32_readsIntegers.law s, i64_readsIntegers.law s⟩

-- the least number of 32 bits is read, zeros before its digits or not; the one before it is not
example : Value.parse .i32 "\t-0002147483648 " = .ok (.i32 (-2147483648)) ∧
    Value.parse .i32 "-2147483649 " = .error (.invalidLiteral .i32 "-2147483649") := ⟨rfl, rfl⟩

end Embedder
