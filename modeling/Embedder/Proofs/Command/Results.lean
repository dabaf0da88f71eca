import Embedder.Proofs.Command.Status
import Embedder.Proofs.Number.Texts
import Mathlib.Data.List.Forall2

/-!
# Results as arguments

What a run prints are the texts of its results, each on a line of its own. The texts can be given back as
arguments: every value is read from its text, whatever blanks stand around it.

* `Value.ReadsBackAs` -- the same value, or not a number again;
* **`ofChars_text`**, `parse_text` -- the text of a value is read back as the value, also with blanks around it;
* `readLiterals_texts` -- so are the texts of many values, against the types of these;
* **`Job.yields_printed`** -- a run whose entry point completes prints the texts of its results;
* **`readBack`** -- arguments are read back from their texts, and what a run has printed is such a text.
-/

namespace Embedder

open Number Text

/-! ## 1. Values -/

/-- Is the value a float that is not a number? -/
def Value.isNaN : Value → Bool
  | .f32 b => binary32.isNaN b.toNat
  | .f64 b => binary64.isNaN b.toNat
  | _ => false

/-- The second value is what the first may be read back as: the same bit for bit, or of the same type and not a
    number either. -/
def Value.ReadsBackAs (v w : Value) : Prop :=
  w.type = v.type ∧ if v.isNaN then w.isNaN = true else w = v

theorem Value.ReadsBackAs.refl {v : Value} (h : v.isNaN = false) : v.ReadsBackAs v := by
  refine ⟨rfl, ?_⟩
  rw [if_neg (by rw [h]; exact Bool.false_ne_true)]

/-- **The text of a value is read back.** -/
theorem ofChars_text (v : Value) : ∃ w, Value.ofChars? v.type v.text.toList = some w ∧ v.ReadsBackAs w := by
  cases v with
  | i32 v =>
    have hlo := v.le_toInt
    have hhi := v.toInt_lt
    refine ⟨.i32 v, ?_, .refl rfl⟩
    unfold Value.ofChars? Value.type Value.text
    dsimp only
    rw [readIntIn_toString (by omega) (by omega), Option.map_some, Int32.ofInt_toInt]
  | i64 v =>
    have hlo := v.le_toInt
    have hhi := v.toInt_lt
    refine ⟨.i64 v, ?_, .refl rfl⟩
    unfold Value.ofChars? Value.type Value.text
    dsimp only
    rw [readIntIn_toString (by omega) (by omega), Option.map_some, Int64.ofInt_toInt]
  | f32 b =>
    have hread := Format.readFloat_text Format.binary32_moderate (w := b.toNat) b.toNat_lt
    refine ⟨.f32 (UInt32.ofNat (if binary32.isNaN b.toNat then binary32.quietNaN else b.toNat)), ?_, rfl, ?_⟩
    · unfold Value.ofChars? Value.type Value.text
      dsimp only
      rw [hread, Option.map_some]
    · unfold Value.isNaN
      by_cases hnan : binary32.isNaN b.toNat = true
      · rw [if_pos hnan, if_pos hnan]
        decide
      · rw [if_neg hnan, if_neg hnan, UInt32.ofNat_toNat]
  | f64 b =>
    have hread := Format.readFloat_text Format.binary64_moderate (w := b.toNat) b.toNat_lt
    refine ⟨.f64 (UInt64.ofNat (if binary64.isNaN b.toNat then binary64.quietNaN else b.toNat)), ?_, rfl, ?_⟩
    · unfold Value.ofChars? Value.type Value.text
      dsimp only
      rw [hread, Option.map_some]
    · unfold Value.isNaN
      by_cases hnan : binary64.isNaN b.toNat = true
      · rw [if_pos hnan, if_pos hnan]
        decide
      · rw [if_neg hnan, if_neg hnan, UInt64.ofNat_toNat]

/-- There is no blank in the text of a value. -/
theorem not_blank_of_mem_text {v : Value} {c : Char} (h : c ∈ v.text.toList) : isBlank c = false := by
  cases v with
  | i32 v => exact not_blank_of_mem_toString h
  | i64 v => exact not_blank_of_mem_toString h
  | f32 b => exact Format.not_blank_of_mem_text Format.binary32_moderate h
  | f64 b => exact Format.not_blank_of_mem_text Format.binary64_moderate h

/-! ## 2. Blanks around a text -/

/-- Blanks to stand before and after a text. -/
structure Padding where
  before : String
  after : String
  blankBefore : ∀ c ∈ before.toList, isBlank c = true
  blankAfter : ∀ c ∈ after.toList, isBlank c = true

/-- The text with the blanks around it. -/
def Padding.around (p : Padding) (s : String) : String := p.before ++ s ++ p.after

theorem Padding.trimChars_around (p : Padding) {s : String} (h : ∀ c ∈ s.toList, isBlank c = false) :
    trimChars (p.around s).toList = s.toList := by
  unfold Padding.around
  rw [String.toList_append, String.toList_append, trimChars_append_blanks p.blankAfter,
    trimChars_blanks_append p.blankBefore, trimChars_of_not_blank h]

/-- **A value is read from its text, whatever blanks stand around it.** -/
theorem parse_text (p : Padding) (v : Value) :
    ∃ w, Value.parse v.type (p.around v.text) = .ok w ∧ v.ReadsBackAs w := by
  obtain ⟨w, hread, hsame⟩ := ofChars_text v
  refine ⟨w, ?_, hsame⟩
  unfold Value.parse
  rw [p.trimChars_around fun c hc => not_blank_of_mem_text hc, hread]

theorem readLiterals_texts : ∀ ps : List (Padding × Value), ∃ ws,
    readLiterals (ps.map (·.2.type)) (ps.map fun p => p.1.around p.2.text) = .ok ws ∧
      List.Forall₂ Value.ReadsBackAs (ps.map (·.2)) ws
  | [] => ⟨[], rfl, .nil⟩
  | p :: ps => by
      obtain ⟨w, hread, hsame⟩ := parse_text p.1 p.2
      obtain ⟨ws, hrest, hall⟩ := readLiterals_texts ps
      refine ⟨w :: ws, ?_, .cons hsame hall⟩
      rw [List.map_cons, List.map_cons, readLiterals, hread, hrest]
      rfl

/-- **Arguments are read back from their texts.** -/
theorem parseArguments_texts (entry : String) {s : Signature} (ps : List (Padding × Value))
    (htypes : ps.map (·.2.type) = s.params) : ∃ ws,
      parseArguments entry s (ps.map fun p => p.1.around p.2.text) = .ok ws ∧
      List.Forall₂ Value.ReadsBackAs (ps.map (·.2)) ws := by
  obtain ⟨ws, hread, hall⟩ := readLiterals_texts ps
  refine ⟨ws, ?_, hall⟩
  unfold parseArguments
  rw [← htypes, hread, List.length_map, List.length_map, if_pos rfl]
  rfl

/-! ## 3. What a run prints -/

namespace Command

/-- The bytes of some lines, each with the line feed at its end. -/
def lineBytes (lines : List String) : List UInt8 := lines.flatMap fun line => (line ++ "\n").toUTF8.toList

theorem flatten_linesOf (results : List Value) : (linesOf results).flatten = lineBytes (results.map Value.text) := by
  unfold linesOf lineBytes
  rw [List.flatMap_map, List.flatMap_def]

/-- **A run whose entry point completes prints the texts of its results**, after what the guest has printed, if the
    output takes them. -/
theorem Job.yields_printed {j : Job} {results : List Value} {host : Drac} (hmain : j.task.main = false)
    (hwilling : j.out.Willing) (h : j.called = (.ok results, host)) :
    ∃ after, Yields j.steps j.fresh (.ok ⟨0⟩) after ∧
      after.output.written = host.output.written ++ lineBytes (results.map Value.text) := by
  have hwriter : host.output.writer.Willing := by
    have hkept := j.writer_of_called
    rw [h] at hkept
    rw [hkept]
    exact hwilling
  obtain ⟨hok, hwritten⟩ := writeEach_of_willing (linesOf results) hwriter
  have hprint := yields_printValues results host
  rw [hok] at hprint
  have hexit : Yields (j.exitSteps results) host (.ok ⟨0⟩)
      { host with output := (writeEach host.output (linesOf results)).2 } := by
    unfold exitSteps
    rw [hmain]
    exact hprint.bind (yields_pure _ _)
  rw [flatten_linesOf] at hwritten
  exact ⟨_, yields_steps_of_called h hexit, hwritten⟩

/-- The lines are the texts of the values, one of each, and each can be passed for its value. -/
structure CarriedBy (values : List Value) (lines : List String) : Prop where
  length : lines.length = values.length
  /-- No line has another one in it. -/
  single : ∀ line ∈ lines, '\n' ∉ line.toList
  /-- Whichever lines are passed, in whatever order and with whatever blanks: the arguments are their values. -/
  read : ∀ (entry : String) (s : Signature) (ps : List (Padding × String × Value)),
    (∀ p ∈ ps, p.2 ∈ lines.zip values) → ps.map (·.2.2.type) = s.params → ∃ ws,
      parseArguments entry s (ps.map fun p => p.1.around p.2.1) = .ok ws ∧
      List.Forall₂ Value.ReadsBackAs (ps.map (·.2.2)) ws

theorem text_of_mem_zip : ∀ {values : List Value} {p : String × Value},
    p ∈ (values.map Value.text).zip values → p.1 = p.2.text
  | [], _, h => by cases h
  | v :: values, p, h => by
      rw [List.map_cons, List.zip_cons_cons, List.mem_cons] at h
      rcases h with rfl | h
      · rfl
      · exact text_of_mem_zip h

theorem carriedBy_texts (values : List Value) : CarriedBy values (values.map Value.text) where
  length := List.length_map _
  single := by
    intro line hline hfeed
    obtain ⟨v, -, rfl⟩ := List.mem_map.mp hline
    have hblank := not_blank_of_mem_text hfeed
    cases hblank
  read := by
    intro entry s ps hps htypes
    have htexts : (ps.map fun p => p.1.around p.2.1) = ps.map fun p => p.1.around p.2.2.text :=
      List.map_congr_left fun p hp => congrArg p.1.around (text_of_mem_zip (hps p hp))
    have hread := parseArguments_texts entry (s := s) (ps.map fun p => (p.1, p.2.2))
    rw [List.map_map, List.map_map, List.map_map] at hread
    rw [htexts]
    exact hread htypes

/-! ## 4. There and back -/

/-- **Values survive being written and read.** Texts of values, whatever blanks stand around them, are read as
    these values by any signature of their types; and what a run prints of its results are lines with such texts,
    wherever it can print them. -/
theorem readBack :
    (∀ (entry : String) (s : Signature) (ps : List (Padding × Value)), ps.map (·.2.type) = s.params → ∃ ws,
      parseArguments entry s (ps.map fun p => p.1.around p.2.text) = .ok ws ∧
      List.Forall₂ Value.ReadsBackAs (ps.map (·.2)) ws) ∧
    ∀ {ws : List String} {r : Request} {t : RunTask} {env : Environment} {input : List UInt8} {out : Writer}
      {results : List Value} {host : Drac}, Request.ofWords ws = .ok r → r.task = .run t → t.main = false →
      out.Willing → Job.called ⟨env, r.flags, t, input, out⟩ = (.ok results, host) →
      (perform ws env input out).status = 0 ∧ ∃ lines, CarriedBy results lines ∧
        (perform ws env input out).output = host.output.written ++ lineBytes lines := by
  refine ⟨fun entry s ps htypes => parseArguments_texts entry ps htypes, ?_⟩
  intro ws r t env input out results host hwords htask hmain hwilling hcalled
  obtain ⟨after, hyields, hwritten⟩ := Job.yields_printed hmain hwilling hcalled
  obtain ⟨events, hattempt⟩ := attempt_of_yields htask hyields
  rw [perform_of_words hwords, hattempt]
  exact ⟨rfl, results.map Value.text, carriedBy_texts results, hwritten⟩

/-- The least and the greatest floats, both infinities, the negative zero, what is not a number and the ends of the
    integers, between blanks of all sorts; and a run that prints a number. -/
theorem readBack_extremes :
    let blanks : Padding := ⟨"\u3000\t ", "\u2028\n", by simp [isBlank], by simp [isBlank]⟩
    let vs : List Value := [.f64 1, .f64 0x7FEFFFFFFFFFFFFF, .f64 0x8000000000000000, .f64 0xFFF0000000000000,
      .f32 0x007FFFFF, .f32 0x7F800000, .f32 0xFF800001, .i64 (-9223372036854775808), .i32 2147483647]
    let s : Signature := ⟨[.f64, .f64, .f64, .f64, .f32, .f32, .f32, .i64, .i32], []⟩
    let ws := ["run", "--invoke", "main", "m.wasm"]
    let t : RunTask := { file := "m.wasm", invoke := some "main" }
    let env := constant 126 66 [127]
    (vs.map fun v => (blanks, v)).map (·.2.type) = s.params ∧
      (∃ ws, parseArguments "f" s ((vs.map fun v => (blanks, v)).map fun p => p.1.around p.2.text) = .ok ws ∧
        List.Forall₂ Value.ReadsBackAs ((vs.map fun v => (blanks, v)).map (·.2)) ws) ∧
      Request.ofWords ws = .ok ⟨{}, false, .run t⟩ ∧ (Job.called ⟨env, {}, t, [], .willing⟩).1 = .ok [.i64 (-1)] ∧
      (perform ws env [] .willing).output = [45, 49, 10] ∧
      ∃ lines, CarriedBy [.i64 (-1)] lines ∧ (perform ws env [] .willing).output =
        (Job.called ⟨env, {}, t, [], .willing⟩).2.output.written ++ lineBytes lines := by
  intro blanks vs s ws t env
  have hcalled : (Job.called ⟨env, {}, t, [], .willing⟩).1 = .ok [.i64 (-1)] := by decide +kernel
  refine ⟨rfl, readBack.1 "f" s _ rfl, rfl, hcalled, by decide +kernel, ?_⟩
  exact (readBack.2 (r := ⟨{}, false, .run t⟩) rfl rfl rfl Writer.willing_willing (Prod.ext hcalled rfl)).2

end Command

end Embedder
