import Embedder.Diagnostic
import Embedder.Proofs.Number.Integers

/-!
# Positions in diagnostics

A diagnostic says on its first line what is wrong, and on a marked line, `--> path:line:column`, where. The path may
have colons and blanks in it, and any lines may follow, also ones that look marked.

* `lines_of_break` -- the first line of a text, and the lines after it;
* `Counts`, **`readCount_eq_some_iff`** -- the texts of numbers of 64 bits, and that these are what is read;
* `Points`, **`linePosition_eq_some_iff`** -- the lines that give a position: a mark, a path or none, and two numbers,
  the last ones of the line;
* **`position_ofDiagnostic_iff`** -- the position of a diagnostic is that of its first line that gives one;
* **`positionsRead`** -- so the position that was written is read back, and never half of one.
-/

namespace Embedder

open Number Text

/-! ## 1. Lines -/

namespace Text

/-- The texts that end a line. -/
inductive LineBreak : String → Prop
  | feed : LineBreak "\n"
  | returnFeed : LineBreak "\r\n"

theorem linesFrom_append {l : List Char} (h : '\n' ∉ l) (done rest : List Char) :
    linesFrom done (l ++ rest) = linesFrom (l.reverse ++ done) rest := by
  induction l generalizing done with
  | nil => rfl
  | cons c l ih =>
    rw [List.mem_cons, not_or] at h
    obtain ⟨hc, hl⟩ := h
    rw [List.cons_append, linesFrom, if_neg (Ne.symm hc), ih hl, List.reverse_cons, List.append_assoc]
    rfl

theorem lines_feed {l : List Char} (h : '\n' ∉ l) (rest : List Char) :
    lines (l ++ '\n' :: rest) = (dropReturn l.reverse).reverse :: lines rest := by
  unfold lines
  rw [linesFrom_append h, List.append_nil, linesFrom, if_pos rfl]

theorem reverse_dropReturn (l : List Char) :
    (dropReturn l.reverse).reverse = l ∨ l = (dropReturn l.reverse).reverse ++ ['\r'] := by
  unfold dropReturn
  split
  · rename_i cs heq
    right
    rw [← List.reverse_cons, ← heq, List.reverse_reverse]
  · left
    exact List.reverse_reverse l

/-- **A line break ends a line.** A carriage return before the break may be taken for a part of it. -/
theorem lines_of_break {br : String} (hbr : LineBreak br) {l : List Char} (h : '\n' ∉ l) (rest : List Char) :
    ∃ line, lines (l ++ (br.toList ++ rest)) = line :: lines rest ∧ (line = l ∨ l = line ++ ['\r']) := by
  cases hbr with
  | feed => exact ⟨_, lines_feed h rest, reverse_dropReturn l⟩
  | returnFeed =>
    have hreturn : '\n' ∉ l ++ ['\r'] := by simpa using h
    refine ⟨l, ?_, .inl rfl⟩
    have hlines := lines_feed hreturn rest
    rw [List.reverse_concat, dropReturn, List.reverse_reverse, List.append_assoc] at hlines
    exact hlines

end Text

/-! ## 2. Numbers -/

/-- The text is a number of 64 bits, after a plus sign or none, with or without blanks around it. -/
def Counts (cs : List Char) (n : Nat) : Prop :=
  ∃ core ds, Trimmed cs core ∧ AfterSign core false ds ∧ Numeral ds n ∧ n < 2 ^ 64

/-- **The reader of numbers accepts the texts of numbers of 64 bits**, and gives the numbers. -/
theorem readCount_eq_some_iff {cs : List Char} {n : Nat} : readCount cs = some n ↔ Counts cs n := by
  have hpow : pow2 64 = 2 ^ 64 := rfl
  unfold readCount
  rw [Option.filter_eq_some_iff, readNat_eq_some_iff_numeral, decide_eq_true_eq, hpow]
  constructor
  · rintro ⟨hds, hn⟩
    refine ⟨trimChars cs, _, trimmed_trimChars cs, ?_, hds, hn⟩
    split
    · rename_i ds heq
      rw [heq]
      exact .plus ds
    · exact .bare _
  · rintro ⟨core, ds, hcore, hsign, hds, hn⟩
    rw [← trimmed_iff.mp hcore]
    cases hsign with
    | plus => exact ⟨hds, hn⟩
    | bare =>
      refine ⟨?_, hn⟩
      split
      · -- a numeral does not begin with a sign
        have hdigit := hds.digits '+' List.mem_cons_self
        exact absurd hdigit (by decide)
      · exact hds

theorem counts_toDigits {n : Nat} (h : n < 2 ^ 64) : Counts (Nat.toDigits 10 n) n := by
  have hnotBlank : ∀ c ∈ Nat.toDigits 10 n, isBlank c = false := fun c hc =>
    not_blank_of_isDigit (isDigit_of_mem_toDigits hc)
  have htrimmed := trimmed_trimChars (Nat.toDigits 10 n)
  rw [trimChars_of_not_blank hnotBlank] at htrimmed
  exact ⟨_, _, htrimmed, .bare _, readNat_eq_some_iff_numeral.mp (readNat_toDigits n), h⟩

/-- There is no colon in a number. -/
theorem Counts.no_colon {cs : List Char} {n : Nat} (h : Counts cs n) : ':' ∉ cs := by
  obtain ⟨core, ds, hcore, hsign, hds, -⟩ := h
  obtain ⟨before, after, rfl, hbefore, hafter⟩ := hcore.around
  have hdigits : ':' ∉ ds := fun hmem => absurd (hds.digits ':' hmem) (by decide)
  have hcolon : ':' ∉ core := by
    cases hsign with
    | bare => exact hdigits
    | plus => simpa using hdigits
  have hnotBlank : isBlank ':' ≠ true := by decide
  simp only [List.mem_append, not_or]
  exact ⟨fun hmem => hnotBlank (hbefore _ hmem), hcolon, fun hmem => hnotBlank (hafter _ hmem)⟩

/-! ## 3. Marked lines -/

section Colons

variable {cs before last : List Char}

theorem ne_colon_of_not_mem (h : ':' ∉ last) : ∀ c ∈ last.reverse, (c != ':') = true := by
  intro c hc
  rw [bne_iff_ne]
  rintro rfl
  exact h (List.mem_reverse.mp hc)

theorem splitLastColon_of_not_mem (h : ':' ∉ cs) : splitLastColon cs = (cs, none) := by
  have hall := ne_colon_of_not_mem h
  unfold splitLastColon
  dsimp only
  rw [List.dropWhile_eq_nil_iff.mpr hall, List.takeWhile_eq_self_iff.mpr hall, List.reverse_reverse]

theorem splitLastColon_append (before : List Char) (h : ':' ∉ last) :
    splitLastColon (before ++ ':' :: last) = (last, some before) := by
  have hall := ne_colon_of_not_mem h
  have hreverse : (before ++ ':' :: last).reverse = last.reverse ++ ':' :: before.reverse := by simp
  unfold splitLastColon
  dsimp only
  rw [hreverse, List.dropWhile_append_of_pos hall, List.takeWhile_append_of_pos hall]
  simp

/-- Where there is a colon there is a last one. -/
theorem exists_last_colon (h : ':' ∈ cs) : ∃ before last, cs = before ++ ':' :: last ∧ ':' ∉ last := by
  obtain ⟨back, front, hsplit, hnot⟩ := List.eq_append_cons_of_mem (List.mem_reverse.mpr h)
  refine ⟨front.reverse, back.reverse, ?_, by simpa using hnot⟩
  have hcs := congrArg List.reverse hsplit
  simpa using hcs

end Colons

/-- The line gives a position: after blanks or none there are the mark, a path or none, and the numbers of a line and
    a column. -/
inductive Points : List Char → Nat → Nat → Prop
  | bare {blanks row column : List Char} {L C : Nat} : (∀ c ∈ blanks, isBlank c = true) → Counts row L →
      Counts column C → Points (blanks ++ (marker ++ (row ++ ':' :: column))) L C
  | path {blanks path row column : List Char} {L C : Nat} : (∀ c ∈ blanks, isBlank c = true) → Counts row L →
      Counts column C → Points (blanks ++ (marker ++ (path ++ ':' :: row ++ ':' :: column))) L C

section Marks

variable {blanks : List Char}

/-- The mark begins with no blank, so the blanks before it are what is trimmed. -/
theorem trimLeft_marked (hblanks : ∀ c ∈ blanks, isBlank c = true) (location : List Char) :
    trimLeft (blanks ++ (marker ++ location)) = marker ++ location := by
  unfold trimLeft
  rw [List.dropWhile_append_of_pos hblanks]
  exact List.dropWhile_cons_of_neg (by decide)

theorem exists_marked {line : List Char} (h : marker <+: trimLeft line) :
    ∃ blanks location, (∀ c ∈ blanks, isBlank c = true) ∧ line = blanks ++ (marker ++ location) := by
  obtain ⟨location, hlocation⟩ := h
  refine ⟨line.takeWhile isBlank, location, fun c hc => List.mem_takeWhile_imp hc, ?_⟩
  rw [hlocation]
  exact List.takeWhile_append_dropWhile.symm

theorem linePosition_of_unmarked {line : List Char} (h : ¬ marker <+: trimLeft line) : linePosition line = none := by
  unfold linePosition
  rw [if_neg fun hprefix => h (List.isPrefixOf_iff_prefix.mp hprefix)]

theorem linePosition_of_marked (hblanks : ∀ c ∈ blanks, isBlank c = true) (location : List Char) :
    linePosition (blanks ++ (marker ++ location)) = (splitLastColon location).2.bind fun before =>
      (readCount (splitLastColon location).1).bind fun column =>
        (readCount (splitLastColon before).1).map fun line => (line, column) := by
  unfold linePosition
  rw [trimLeft_marked hblanks]
  dsimp only
  rw [if_pos (List.isPrefixOf_iff_prefix.mpr (List.prefix_append _ _)), List.drop_left]
  cases readCount (splitLastColon location).1 <;> cases (splitLastColon location).2 <;> rfl

end Marks

theorem linePosition_of_points {line : List Char} {L C : Nat} (h : Points line L C) :
    linePosition line = some (L, C) := by
  cases h with
  | bare hblanks hrow hcolumn =>
    rw [linePosition_of_marked hblanks, splitLastColon_append _ hcolumn.no_colon, Option.bind_some,
      splitLastColon_of_not_mem hrow.no_colon, readCount_eq_some_iff.mpr hcolumn, readCount_eq_some_iff.mpr hrow]
    rfl
  | path hblanks hrow hcolumn =>
    rw [linePosition_of_marked hblanks, splitLastColon_append _ hcolumn.no_colon, Option.bind_some,
      splitLastColon_append _ hrow.no_colon, readCount_eq_some_iff.mpr hcolumn, readCount_eq_some_iff.mpr hrow]
    rfl

theorem points_of_linePosition {line : List Char} {L C : Nat} (h : linePosition line = some (L, C)) :
    Points line L C := by
  by_cases hmarked : marker <+: trimLeft line
  · obtain ⟨blanks, location, hblanks, rfl⟩ := exists_marked hmarked
    rw [linePosition_of_marked hblanks] at h
    by_cases hcolon : ':' ∈ location
    · obtain ⟨before, column, rfl, hcolumn⟩ := exists_last_colon hcolon
      rw [splitLastColon_append before hcolumn, Option.bind_some] at h
      obtain ⟨C', hC, hrow⟩ := Option.bind_eq_some_iff.mp h
      obtain ⟨L', hL, heq⟩ := Option.map_eq_some_iff.mp hrow
      cases heq
      rw [readCount_eq_some_iff] at hC hL
      -- what is before the last colon is a number, or ends with one after another colon
      by_cases hsecond : ':' ∈ before
      · obtain ⟨path, row, rfl, hno⟩ := exists_last_colon hsecond
        rw [splitLastColon_append path hno] at hL
        exact .path hblanks hL hC
      · rw [splitLastColon_of_not_mem hsecond] at hL
        exact .bare hblanks hL hC
    · rw [splitLastColon_of_not_mem hcolon] at h
      cases h
  · rw [linePosition_of_unmarked hmarked] at h
    cases h

/-- **A position is read from the lines that give one**, and it is the one that they give. -/
theorem linePosition_eq_some_iff {line : List Char} {L C : Nat} :
    linePosition line = some (L, C) ↔ Points line L C :=
  ⟨points_of_linePosition, linePosition_of_points⟩

theorem linePosition_eq_none_iff {line : List Char} : linePosition line = none ↔ ∀ L C, ¬ Points line L C := by
  rw [Option.eq_none_iff_forall_ne_some, Prod.forall]
  exact forall_congr' fun L => forall_congr' fun C => not_congr linePosition_eq_some_iff

/-! ## 4. Diagnostics -/

/-- **The position of a diagnostic is that of its first line that gives one.** -/
theorem position_ofDiagnostic_iff {s : String} {L C : Nat} :
    (∃ message, RuntimeError.ofDiagnostic s = .parse message (some L) (some C)) ↔
      ∃ before line after, lines s.toList = before ++ line :: after ∧ Points line L C ∧
        ∀ l ∈ before, ∀ L' C', ¬ Points l L' C' := by
  have hfirst : diagnosticPosition (lines s.toList) = some (L, C) ↔
      ∃ before line after, lines s.toList = before ++ line :: after ∧ Points line L C ∧
        ∀ l ∈ before, ∀ L' C', ¬ Points l L' C' := by
    unfold diagnosticPosition
    simp only [List.findSome?_eq_some_iff, linePosition_eq_some_iff, linePosition_eq_none_iff]
  rw [← hfirst]
  unfold RuntimeError.ofDiagnostic
  dsimp only
  cases diagnosticPosition (lines s.toList) with
  | none => simp
  | some position => simp [Prod.ext_iff]

theorem ofDiagnostic_of_lines {s : String} {first : List Char} {others : List (List Char)} {L C : Nat}
    (hlines : lines s.toList = first :: others) (hposition : diagnosticPosition (first :: others) = some (L, C)) :
    RuntimeError.ofDiagnostic s = .parse (String.ofList (trimChars first)) (some L) (some C) := by
  unfold RuntimeError.ofDiagnostic
  rw [hlines]
  dsimp only
  rw [hposition]
  rfl

/-- What follows a mark does not take it away. -/
theorem marked_append {line : List Char} (h : marker <+: trimLeft line) (after : List Char) :
    marker <+: trimLeft (line ++ after) := by
  obtain ⟨blanks, location, hblanks, rfl⟩ := exists_marked h
  rw [List.append_assoc, List.append_assoc, trimLeft_marked hblanks]
  exact List.prefix_append _ _

/-- The marked line for a path, a line and a column. -/
def markedLine (path : String) (L C : Nat) : String :=
  "     --> " ++ path ++ ":" ++ toString L ++ ":" ++ toString C

section Written

variable {path : String} {L C : Nat}

theorem toList_markedLine : (markedLine path L C).toList = List.replicate 5 ' ' ++
    (marker ++ (path.toList ++ ':' :: Nat.toDigits 10 L ++ ':' :: Nat.toDigits 10 C)) := by
  have hL : (toString L).toList = Nat.toDigits 10 L := Nat.toList_repr
  have hC : (toString C).toList = Nat.toDigits 10 C := Nat.toList_repr
  unfold markedLine
  simp only [String.toList_append, hL, hC, List.append_assoc, List.cons_append]
  rfl

theorem points_markedLine (hL : L < 2 ^ 64) (hC : C < 2 ^ 64) : Points (markedLine path L C).toList L C := by
  rw [toList_markedLine]
  refine .path (fun c hc => ?_) (counts_toDigits hL) (counts_toDigits hC)
  rw [List.eq_of_mem_replicate hc]
  decide

/-- It is one line if the path is. -/
theorem lineFeed_not_mem_markedLine (hpath : '\n' ∉ path.toList) : '\n' ∉ (markedLine path L C).toList := by
  have hdigits : ∀ n, '\n' ∉ Nat.toDigits 10 n := fun n hmem => absurd (isDigit_of_mem_toDigits hmem) (by decide)
  rw [toList_markedLine]
  simp [marker, hpath, hdigits]

/-- It ends with a digit, so nothing of it is taken for a part of the line break after it. -/
theorem markedLine_ne_return (line : List Char) : (markedLine path L C).toList ≠ line ++ ['\r'] := by
  intro hsame
  have hends : (Nat.toDigits 10 C).getLast?.getD ':' = '\r' := by
    have hlast := congrArg List.getLast? hsame
    rw [toList_markedLine, List.getLast?_concat] at hlast
    simpa [List.getLast?_append, List.getLast?_cons] using hlast
  cases hlast : (Nat.toDigits 10 C).getLast? with
  | none =>
    rw [hlast] at hends
    exact absurd hends (by decide)
  | some c =>
    rw [hlast, Option.getD_some] at hends
    rw [hends] at hlast
    exact absurd (isDigit_of_mem_toDigits (List.mem_of_getLast? hlast)) (by decide)

/-- **A diagnostic with a marked line is read back**, whatever follows. -/
theorem ofDiagnostic_written {m br br' : String} (rest : String) (hm : '\n' ∉ m.toList)
    (hunmarked : ¬ marker <+: trimLeft m.toList) (hpath : '\n' ∉ path.toList) (hL : L < 2 ^ 64) (hC : C < 2 ^ 64)
    (hbr : LineBreak br) (hbr' : LineBreak br') :
    RuntimeError.ofDiagnostic (m ++ br ++ markedLine path L C ++ br' ++ rest) =
      .parse (trim m) (some L) (some C) := by
  obtain ⟨first, hfirst, hmessage⟩ :=
    lines_of_break hbr hm ((markedLine path L C).toList ++ (br'.toList ++ rest.toList))
  obtain ⟨second, hsecond, hplace⟩ :=
    lines_of_break hbr' (lineFeed_not_mem_markedLine (L := L) (C := C) hpath) rest.toList
  have hmarked : second = (markedLine path L C).toList :=
    hplace.elim id fun hreturn => absurd hreturn (markedLine_ne_return second)
  have hlines : lines (m ++ br ++ markedLine path L C ++ br' ++ rest).toList =
      first :: (markedLine path L C).toList :: lines rest.toList := by
    rw [hsecond, hmarked] at hfirst
    simp only [String.toList_append, List.append_assoc]
    exact hfirst
  -- the message loses a carriage return at most: it is not marked either, and trimmed it is the same
  obtain ⟨hnone, htrim⟩ : linePosition first = none ∧ trimChars first = trimChars m.toList := by
    rcases hmessage with rfl | hreturn
    · exact ⟨linePosition_of_unmarked hunmarked, rfl⟩
    · rw [hreturn] at hunmarked ⊢
      refine ⟨linePosition_of_unmarked fun hmarked => hunmarked (marked_append hmarked _), ?_⟩
      exact (trimChars_append_blanks (by simp [isBlank]) first).symm
  have hposition : diagnosticPosition (first :: (markedLine path L C).toList :: lines rest.toList) = some (L, C) := by
    unfold diagnosticPosition
    rw [List.findSome?_cons, hnone, List.findSome?_cons, linePosition_of_points (points_markedLine hL hC)]
  rw [ofDiagnostic_of_lines hlines hposition, htrim]
  rfl

end Written

/-- **What a position in a diagnostic is**: the one that was written, and a whole one or none. -/
structure PositionsRead : Prop where
  /-- The message and the position of a diagnostic are read back, whatever is in the path and after the marked line. -/
  written : ∀ {m path br br' : String} {L C : Nat} (rest : String), '\n' ∉ m.toList →
    ¬ marker <+: trimLeft m.toList → '\n' ∉ path.toList → L < 2 ^ 64 → C < 2 ^ 64 → LineBreak br → LineBreak br' →
    RuntimeError.ofDiagnostic (m ++ br ++ markedLine path L C ++ br' ++ rest) = .parse (trim m) (some L) (some C)
  /-- In any text there are both a line and a column, or neither. -/
  whole : ∀ s, ∃ message line column, RuntimeError.ofDiagnostic s = .parse message line column ∧
    (line.isSome = true ↔ column.isSome = true)
  /-- They are those of one line, the first that gives a position. -/
  first : ∀ s L C, (∃ message, RuntimeError.ofDiagnostic s = .parse message (some L) (some C)) ↔
    ∃ before line after, lines s.toList = before ++ line :: after ∧ Points line L C ∧
      ∀ l ∈ before, ∀ L' C', ¬ Points l L' C'

/-- **The position that a diagnostic was written with is read back, and never half of one.** -/
theorem positionsRead : PositionsRead where
  written := ofDiagnostic_written
  whole s := by
    refine ⟨_, _, _, rfl, ?_⟩
    rw [Option.isSome_map, Option.isSome_map]
  first _ _ _ := position_ofDiagnostic_iff

/-- A path that looks like a position itself, a number that has just room, and a second mark after the first. -/
theorem positionsRead_colons :
    let m := " expected `)` --> 1:2 \r"
    let path := "C:\\my code:7:8: --> x"
    '\n' ∉ m.toList ∧ ¬ marker <+: trimLeft m.toList ∧ '\n' ∉ path.toList ∧
      RuntimeError.ofDiagnostic (m ++ "\n" ++ markedLine path 18446744073709551615 14 ++ "\r\n" ++
        "      |\n --> y.wat:3:4\n") =
      .parse "expected `)` --> 1:2" (some 18446744073709551615) (some 14) := by
  intro m path
  have hm : '\n' ∉ m.toList := by decide
  have hunmarked : ¬ marker <+: trimLeft m.toList := by decide
  have hpath : '\n' ∉ path.toList := by decide
  have htrim : trim m = "expected `)` --> 1:2" := by decide
  have hread := positionsRead.written (L := 18446744073709551615) (C := 14) "      |\n --> y.wat:3:4\n" hm hunmarked
    hpath (by norm_num) (by norm_num) .feed .returnFeed
  rw [htrim] at hread
  exact ⟨hm, hunmarked, hpath, hread⟩

end Embedder
