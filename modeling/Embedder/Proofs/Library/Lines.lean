import Embedder.Proofs.Library.RoundTrip

/-!
# Input is taken by lines

Two functions of the library take input: `readi` looks for an integer that stands alone on a line, and `reads`
takes a line as it is. Each takes whole lines, one after the other, so however calls follow each other, each
begins with the line that the one before has left.

* `LinesOf` -- the lines of an input, which every input has in one way only (`exists_linesOf`, `LinesOf.unique`);
* **`takeLine_lineRead`** -- taking a line takes the first one, and gives the text on it without its end;
* **`takeInt_intRead`** -- looking for an integer takes all lines up to the first with an integer, or up to the
  first that is no text, or all;
* **`takes_ask`** -- so a call takes a run of lines, and leaves the lines after it;
* **`lineByLine`** -- and so do any calls, in turn.
-/

namespace Embedder.Drac

open Number Text Text.Utf8

/-! ## 1. The lines of an input -/

/-- The lines of an input: each ends with its first line feed, or is the last and has none. -/
inductive LinesOf : List UInt8 → List (List UInt8) → Prop
  | none : LinesOf [] []
  | last {bs : List UInt8} (hsome : bs ≠ []) (hno : lineFeed ∉ bs) : LinesOf bs [bs]
  | cons {bs rest : List UInt8} {ls : List (List UInt8)} (hno : lineFeed ∉ bs) (hrest : LinesOf rest ls) :
      LinesOf (bs ++ lineFeed :: rest) ((bs ++ [lineFeed]) :: ls)

theorem exists_linesOf : ∀ input, ∃ ls, LinesOf input ls
  | [] => ⟨[], .none⟩
  | b :: bs => by
      obtain ⟨ls, h⟩ := exists_linesOf bs
      by_cases hb : b = lineFeed
      · subst hb
        exact ⟨_, .cons (show lineFeed ∉ [] from List.not_mem_nil) h⟩
      have hcons : ∀ {bs}, lineFeed ∉ bs → lineFeed ∉ b :: bs := by
        intro bs hno hmem
        rcases List.mem_cons.mp hmem with rfl | hmem
        · exact hb rfl
        · exact hno hmem
      cases h with
      | none => exact ⟨_, .last (List.cons_ne_nil b []) (hcons List.not_mem_nil)⟩
      | last _ hno => exact ⟨_, .last (List.cons_ne_nil b bs) (hcons hno)⟩
      | cons hno hrest =>
        have hlonger := LinesOf.cons (hcons hno) hrest
        exact ⟨_, hlonger⟩

theorem splitLine_of_not_mem : ∀ {bs : List UInt8}, lineFeed ∉ bs → splitLine bs = (bs, [])
  | [], _ => rfl
  | b :: bs, h => by
      have hb : b ≠ lineFeed := fun e => h (e ▸ List.mem_cons_self)
      rw [splitLine, if_neg hb, splitLine_of_not_mem fun hbs => h (List.mem_cons_of_mem b hbs)]

section Lines

variable {input : List UInt8} {ls : List (List UInt8)}

/-- **The first of the lines is the one that is split off.** -/
theorem LinesOf.head (h : LinesOf input ls) : (input = [] ∧ ls = []) ∨
    (input ≠ [] ∧ ∃ tail, ls = (splitLine input).1 :: tail ∧ LinesOf (splitLine input).2 tail) := by
  cases h with
  | none => exact .inl ⟨rfl, rfl⟩
  | last hsome hno =>
    rw [splitLine_of_not_mem hno]
    exact .inr ⟨hsome, [], rfl, .none⟩
  | cons hno hrest =>
    rw [splitLine_append hno]
    exact .inr ⟨List.append_ne_nil_of_right_ne_nil _ (List.cons_ne_nil _ _), _, rfl, hrest⟩

/-- An input has its lines in one way only. -/
theorem LinesOf.unique (h : LinesOf input ls) : ∀ {ls' : List (List UInt8)}, LinesOf input ls' → ls' = ls := by
  induction h with
  | none =>
    intro ls' h'
    rcases h'.head with ⟨-, hls⟩ | ⟨hsome, -⟩
    · exact hls
    · exact absurd rfl hsome
  | last hsome hno =>
    intro ls' h'
    rcases h'.head with ⟨hnone, -⟩ | ⟨-, tail, rfl, htail⟩
    · exact absurd hnone hsome
    · rw [splitLine_of_not_mem hno] at htail ⊢
      rcases htail.head with ⟨-, rfl⟩ | ⟨hne, -⟩
      · rfl
      · exact absurd rfl hne
  | cons hno hrest ih =>
    intro ls' h'
    rcases h'.head with ⟨hnone, -⟩ | ⟨-, tail, rfl, htail⟩
    · exact absurd hnone (List.append_ne_nil_of_right_ne_nil _ (List.cons_ne_nil _ _))
    · rw [splitLine_append hno] at htail ⊢
      rw [ih htail]

/-- The lines are all of the input. -/
theorem LinesOf.flatten (h : LinesOf input ls) : ls.flatten = input := by
  induction h with
  | none => rfl
  | last hsome hno => exact List.append_nil _
  | cons hno hrest ih =>
    rw [List.flatten_cons, ih, List.append_assoc]
    rfl

/-- No line is empty, so there are no more lines than bytes. -/
theorem LinesOf.length_le (h : LinesOf input ls) : ls.length ≤ input.length := by
  induction h with
  | none => exact Nat.le_refl 0
  | last hsome hno => exact List.length_pos_iff.mpr hsome
  | cons hno hrest ih =>
    rw [List.length_append, List.length_cons, List.length_cons]
    omega

end Lines

/-! ## 2. The text on a line -/

/-- The bytes are a text. -/
def IsText (line : List UInt8) : Prop := ∃ cs, line = encode cs

/-- The character ends a line. -/
def EndsLine (c : Char) : Prop := c = '\r' ∨ c = '\n'

/-- **A line is trimmed of the characters that end it, and of no others.** -/
theorem trimEnd_spec (cs : List Char) : ∃ ends, cs = trimEnd cs ++ ends ∧ (∀ c ∈ ends, EndsLine c) ∧
    ∀ c, (trimEnd cs).getLast? = some c → ¬ EndsLine c := by
  let p : Char → Bool := fun c => c = '\r' || c = '\n'
  have hp : ∀ c, p c = true ↔ EndsLine c := by
    intro c
    simp [p, EndsLine]
  have htrim : trimEnd cs = (cs.reverse.dropWhile p).reverse := rfl
  refine ⟨(cs.reverse.takeWhile p).reverse, ?_, fun c hc => ?_, fun c hc => ?_⟩
  · rw [htrim, ← List.reverse_append, List.takeWhile_append_dropWhile, List.reverse_reverse]
  · have hmem := List.mem_reverse.mp hc
    exact (hp c).mp (List.all_eq_true.mp List.all_takeWhile c hmem)
  · rw [htrim, List.getLast?_reverse] at hc
    have hhead := List.head?_dropWhile_not p cs.reverse
    rw [hc] at hhead
    intro hends
    exact absurd ((hp c).mpr hends) (Bool.eq_false_iff.mp hhead)

theorem isBlank_of_endsLine {c : Char} (h : EndsLine c) : isBlank c = true := by
  rcases h with rfl | rfl <;> rfl

/-- It makes no difference for a literal whether the line is trimmed first. -/
theorem parse_trimEnd (t : ValueType) (cs : List Char) :
    Value.parse t (String.ofList (trimEnd cs)) = Value.parse t (String.ofList cs) := by
  obtain ⟨ends, hcs, hends, -⟩ := trimEnd_spec cs
  have htrim : trimChars (trimEnd cs) = trimChars cs := by
    have happend := trimChars_append_blanks (fun c hc => isBlank_of_endsLine (hends c hc)) (trimEnd cs)
    rw [← hcs] at happend
    exact happend.symm
  unfold Value.parse trim
  rw [String.toList_ofList, String.toList_ofList, htrim]

/-- The error of a line that is no text. -/
def unreadable : HostError := failure "read failed: stream did not contain valid UTF-8"

/-- The error of an integer that is not found. -/
def inputEnded : HostError := failure "end of input while reading an integer"

section Taking

variable {input : List UInt8} (hsome : input ≠ [])

include hsome

theorem takeLine_of_some : takeLine input =
    match decode (splitLine input).1 with
    | .ok cs => (.ok (some (trimEnd cs)), (splitLine input).2)
    | .error _ => (.error unreadable, (splitLine input).2) := by
  cases input with
  | nil => exact absurd rfl hsome
  | cons b bs => rfl

theorem takeLine_of_text {cs : List Char} (hline : (splitLine input).1 = encode cs) :
    takeLine input = (.ok (some (trimEnd cs)), (splitLine input).2) := by
  rw [takeLine_of_some hsome, hline, decode_encode]

theorem takeLine_of_noText (hline : ¬ IsText (splitLine input).1) :
    takeLine input = (.error unreadable, (splitLine input).2) := by
  rw [takeLine_of_some hsome]
  cases hdecode : decode (splitLine input).1 with
  | ok cs => exact absurd ⟨cs, decode_eq_ok_iff.mp hdecode⟩ hline
  | error e => rfl

end Taking

/-! ## 3. What a call takes -/

/-- A line is taken, if there is one, and leaves the others: the text on it, without the characters that end it,
    is what is read. -/
inductive LineRead : (taken left : List (List UInt8)) → Except HostError (List Int32) → Prop
  | ended : LineRead [] [] (.ok [])
  | text {kept ends : List Char} {left : List (List UInt8)} (hends : ∀ c ∈ ends, EndsLine c)
      (hkept : ∀ c, kept.getLast? = some c → ¬ EndsLine c) :
      LineRead [encode (kept ++ ends)] left (.ok (codes kept))
  | noText {line : List UInt8} {left : List (List UInt8)} (hline : ¬ IsText line) :
      LineRead [line] left (.error unreadable)

/-- The line is a text, but no integer. -/
def PassedOver (line : List UInt8) : Prop :=
  ∃ cs, line = encode cs ∧ ∀ v, Value.parse .i32 (String.ofList cs) ≠ .ok v

/-- Lines are taken up to the first that is an integer, or the first that is no text, or all, and leave the
    others. -/
inductive IntRead : (taken left : List (List UInt8)) → Except HostError Int32 → Prop
  | found {skipped left : List (List UInt8)} {cs : List Char} {v : Int32} (hskipped : ∀ l ∈ skipped, PassedOver l)
      (hvalue : Value.parse .i32 (String.ofList cs) = .ok (.i32 v)) :
      IntRead (skipped ++ [encode cs]) left (.ok v)
  | noText {skipped left : List (List UInt8)} {line : List UInt8} (hskipped : ∀ l ∈ skipped, PassedOver l)
      (hline : ¬ IsText line) : IntRead (skipped ++ [line]) left (.error unreadable)
  | ended {skipped : List (List UInt8)} (hskipped : ∀ l ∈ skipped, PassedOver l) :
      IntRead skipped [] (.error inputEnded)

/-- A line that is passed over is taken as well. -/
theorem IntRead.skip {line : List UInt8} {taken left : List (List UInt8)} {answer : Except HostError Int32}
    (hline : PassedOver line) (h : IntRead taken left answer) : IntRead (line :: taken) left answer := by
  have hcons : ∀ {skipped : List (List UInt8)}, (∀ l ∈ skipped, PassedOver l) →
      ∀ l ∈ line :: skipped, PassedOver l := by
    intro skipped hskipped l hl
    rcases List.mem_cons.mp hl with rfl | hl
    · exact hline
    · exact hskipped l hl
  cases h with
  | found hskipped hvalue =>
    have hlonger : IntRead ((line :: _) ++ [_]) left _ := .found (hcons hskipped) hvalue
    exact hlonger
  | noText hskipped hno =>
    have hlonger : IntRead ((line :: _) ++ [_]) left _ := .noText (hcons hskipped) hno
    exact hlonger
  | ended hskipped => exact .ended (hcons hskipped)

/-- **Taking a line.** -/
theorem takeLine_lineRead {input : List UInt8} {ls : List (List UInt8)} (h : LinesOf input ls) :
    ∃ taken left, ls = taken ++ left ∧ LinesOf (takeLine input).2 left ∧
      LineRead taken left ((takeLine input).1.map fun line => codes (line.getD [])) := by
  rcases h.head with ⟨rfl, rfl⟩ | ⟨hsome, tail, rfl, htail⟩
  · exact ⟨[], [], rfl, .none, .ended⟩
  refine ⟨[(splitLine input).1], tail, rfl, ?_⟩
  by_cases htext : IsText (splitLine input).1
  · obtain ⟨cs, hline⟩ := htext
    obtain ⟨ends, hcs, hends, hkept⟩ := trimEnd_spec cs
    rw [takeLine_of_text hsome hline, hline]
    refine ⟨htail, ?_⟩
    have hread : LineRead [encode (trimEnd cs ++ ends)] tail _ := .text hends hkept
    rw [← hcs] at hread
    exact hread
  · rw [takeLine_of_noText hsome htext]
    exact ⟨htail, .noText htext⟩

/-- **Looking for an integer.** Each round takes a line, so more rounds than lines suffice. -/
theorem takeInt_intRead : ∀ {ls : List (List UInt8)} {input : List UInt8} {rounds : Nat}, LinesOf input ls →
    ls.length < rounds → ∃ taken left, ls = taken ++ left ∧ LinesOf (takeInt rounds input).2 left ∧
      IntRead taken left (takeInt rounds input).1
  | _, _, 0, _, hrounds => absurd hrounds (Nat.not_lt_zero _)
  | [], input, rounds + 1, h, _ => by
      rcases h.head with ⟨rfl, -⟩ | ⟨-, _, hcons, -⟩
      · exact ⟨[], [], rfl, .none, .ended fun l hl => absurd hl List.not_mem_nil⟩
      · cases hcons
  | line :: ls, input, rounds + 1, h, hrounds => by
      rcases h.head with ⟨-, hnil⟩ | ⟨hsome, tail, hcons, htail⟩
      · cases hnil
      obtain ⟨rfl, rfl⟩ := List.cons.inj hcons
      have hnone : ∀ l ∈ ([] : List (List UInt8)), PassedOver l := fun l hl => absurd hl List.not_mem_nil
      rw [takeInt_succ]
      by_cases htext : IsText (splitLine input).1
      · obtain ⟨cs, hline⟩ := htext
        rw [takeLine_of_text hsome hline]
        dsimp only
        rw [parse_trimEnd]
        cases hparse : Value.parse .i32 (String.ofList cs) with
        | ok v =>
          have htype := type_of_parse hparse
          cases v with
          | i32 v =>
            refine ⟨[(splitLine input).1], ls, rfl, htail, ?_⟩
            have hfound : IntRead ([] ++ [encode cs]) ls (.ok v) := .found hnone hparse
            rw [hline]
            exact hfound
          | i64 v | f32 v | f64 v => cases htype
        | error e =>
          obtain ⟨taken, left, rfl, hleft, hread⟩ := takeInt_intRead htail (Nat.lt_of_succ_lt_succ hrounds)
          refine ⟨(splitLine input).1 :: taken, left, rfl, hleft, hread.skip ⟨cs, hline, fun v hv => ?_⟩⟩
          rw [hparse] at hv
          cases hv
      · rw [takeLine_of_noText hsome htext]
        have hbad : IntRead ([] ++ [(splitLine input).1]) ls (.error unreadable) := .noText hnone htext
        exact ⟨[(splitLine input).1], ls, rfl, htail, hbad⟩

/-! ## 4. Calls -/

/-- Is the call one of those that take input? -/
def takesInput (op : Op) (args : List Value) : Bool := (op == .readi || op == .reads) && args.isEmpty

theorem write_input (d : Drac) (cs : List Char) : (d.write cs).2.input = d.input := by
  cases h : d.output.receive (encode cs) with
  | takes => rw [write_of_takes h]; rfl
  | fails n e => rw [write_of_fails h]; rfl

theorem allocate_input (d : Drac) (a : List Int32) : (d.allocate a).2.input = d.input := by
  rcases d.allocate_cases a with ⟨-, h⟩ | ⟨-, h⟩ <;> rw [h]

/-- Only two functions take input. -/
theorem Does.input {d : Drac} {op : Op} {r : Result} (h : Does d op r) (hreadi : op ≠ .readi) (hreads : op ≠ .reads) :
    r.2.input = d.input := by
  cases h with
  | write cs => exact d.write_input cs
  | answer v => rfl
  | complain text => rfl
  | make a _ => exact d.allocate_input a
  | edit handle a _ => rfl
  | readi h => exact absurd h hreadi
  | reads h => exact absurd h hreads

/-- The other calls leave the input as it is. -/
theorem ask_input (d : Drac) {op : Op} {args : List Value} (h : takesInput op args = false) :
    (d.ask op.name op args).2.input = d.input := by
  rcases d.ask_cases op.name op args with ⟨ns, r, rfl, hlen, hr, hask⟩ | ⟨_, _, _, hask⟩
  · rw [hask]
    -- with arguments of their own the two functions would have been refused
    have hother : ∀ reader : Op, reader.arity = 0 → (reader == .readi || reader == .reads) = true → op ≠ reader := by
      rintro reader harity hreader rfl
      obtain rfl := List.length_eq_zero_iff.mp (hlen.trans harity)
      rw [takesInput, hreader] at h
      cases h
    exact (run?_does hr).input (hother .readi rfl rfl) (hother .reads rfl rfl)
  · rw [hask]

theorem ask_readi (d : Drac) : d.ask "readi" .readi [] = (d.readi.1.map fun v => [.i32 v], d.readi.2) :=
  ask_of_fits [] rfl rfl _

theorem ask_reads (d : Drac) : d.ask "reads" .reads [] = (d.reads.1.map fun v => [.i32 v], d.reads.2) :=
  ask_of_fits [] rfl rfl _

/-- A result is a new array, or, if there is no handle left for it, an error that says so. -/
def Makes (d : Drac) (r : Result) (contents : List Int32) : Prop :=
  if d.arrays.length < pow2 31 then
    ∃ h, r.1 = .ok h ∧ r.2.array? h = some contents ∧ r.2.arrays = d.arrays ++ [contents]
  else r.1 = .error (failure "out of handles") ∧ r.2.arrays = d.arrays

theorem makes_allocate (d : Drac) (contents : List Int32) : d.Makes (d.allocate contents) contents := by
  unfold Makes
  rcases d.allocate_cases contents with ⟨hroom, h⟩ | ⟨hfull, h⟩
  · rw [if_pos hroom, h]
    refine ⟨_, rfl, ?_, rfl⟩
    rw [array?_ofNat hroom]
    exact List.getElem?_concat_length
  · rw [if_neg (Nat.not_lt.mpr hfull), h]
    exact ⟨rfl, rfl⟩

/-- What a call takes of the lines that there are, and what it makes of them. -/
inductive Takes (d : Drac) : (op : Op) → (args : List Value) → (taken left : List (List UInt8)) → Prop
  | integer {taken left : List (List UInt8)} {answer : Except HostError Int32} (h : IntRead taken left answer)
      (hanswer : (d.ask "readi" .readi []).1 = answer.map fun v => [.i32 v]) : Takes d .readi [] taken left
  | line {taken left : List (List UInt8)} {contents : List Int32} {r : Result}
      (h : LineRead taken left (.ok contents)) (hmade : d.Makes r contents)
      (hanswer : d.ask "reads" .reads [] = (r.1.map fun v => [.i32 v], r.2)) : Takes d .reads [] taken left
  | noText {taken left : List (List UInt8)} {e : HostError} (h : LineRead taken left (.error e))
      (hanswer : (d.ask "reads" .reads []).1 = .error e)
      (harrays : (d.ask "reads" .reads []).2.arrays = d.arrays) : Takes d .reads [] taken left
  | nothing {op : Op} {args : List Value} {left : List (List UInt8)} (h : takesInput op args = false) :
      Takes d op args [] left

theorem readi_takes {d : Drac} {ls : List (List UInt8)} (h : LinesOf d.input ls) :
    ∃ taken left, ls = taken ++ left ∧ LinesOf d.readi.2.input left ∧ Takes d .readi [] taken left := by
  obtain ⟨taken, left, hls, hleft, hread⟩ := takeInt_intRead h (Nat.lt_succ_of_le h.length_le)
  exact ⟨taken, left, hls, hleft, .integer hread (by rw [ask_readi]; rfl)⟩

theorem reads_takes {d : Drac} {ls : List (List UInt8)} (h : LinesOf d.input ls) :
    ∃ taken left, ls = taken ++ left ∧ LinesOf d.reads.2.input left ∧ Takes d .reads [] taken left := by
  obtain ⟨taken, left, hls, hleft, hread⟩ := takeLine_lineRead h
  refine ⟨taken, left, hls, ?_⟩
  cases hline : takeLine d.input with
  | mk answer rest =>
    rw [hline] at hleft hread
    cases answer with
    | error e =>
      have hreads : d.reads = (.error e, { d with input := rest }) := by
        unfold reads
        rw [hline]
      have hask := d.ask_reads
      rw [hreads] at hask ⊢
      refine ⟨hleft, .noText hread ?_ ?_⟩ <;> rw [hask]
      rfl
    | ok line =>
      have hreads : d.reads = { d with input := rest }.allocate (codes (line.getD [])) := by
        unfold reads
        rw [hline]
      refine ⟨?_, .line hread ?_ d.ask_reads⟩
      · rw [hreads, allocate_input]
        exact hleft
      · rw [hreads]
        exact makes_allocate { d with input := rest } _

/-- **A call takes a run of whole lines**, those that come next, and leaves the lines after them. -/
theorem takes_ask {d : Drac} {ls : List (List UInt8)} (h : LinesOf d.input ls) (op : Op) (args : List Value) :
    ∃ taken left, ls = taken ++ left ∧ LinesOf (d.ask op.name op args).2.input left ∧ Takes d op args taken left := by
  cases htakes : takesInput op args with
  | false =>
    refine ⟨[], ls, rfl, ?_, .nothing htakes⟩
    rw [d.ask_input htakes]
    exact h
  | true =>
    obtain ⟨hop, hargs⟩ := Bool.and_eq_true_iff.mp htakes
    obtain rfl := List.isEmpty_iff.mp hargs
    rcases Bool.or_eq_true_iff.mp hop with hop | hop
    · obtain rfl := eq_of_beq hop
      have hask : (d.ask (Op.name .readi) .readi []).2 = d.readi.2 := congrArg Prod.snd d.ask_readi
      rw [hask]
      exact readi_takes h
    · obtain rfl := eq_of_beq hop
      have hask : (d.ask (Op.name .reads) .reads []).2 = d.reads.2 := congrArg Prod.snd d.ask_reads
      rw [hask]
      exact reads_takes h

/-- Calls take runs of the lines that there are, each those that the calls before it have left: no byte is left
    out, and none is taken twice. -/
inductive InTurn : Drac → List (Op × List Value) → List (List UInt8) → Prop
  | done {d : Drac} {ls : List (List UInt8)} (hlines : LinesOf d.input ls) : InTurn d [] ls
  | call {d : Drac} {op : Op} {args : List Value} {calls : List (Op × List Value)} {taken left : List (List UInt8)}
      (hlines : LinesOf d.input (taken ++ left))
      (hbytes : d.input = taken.flatten ++ (d.ask op.name op args).2.input)
      (htakes : Takes d op args taken left) (hlater : InTurn (d.ask op.name op args).2 calls left) :
      InTurn d ((op, args) :: calls) (taken ++ left)

theorem inTurn_of_linesOf : ∀ (calls : List (Op × List Value)) {d : Drac} {ls : List (List UInt8)},
    LinesOf d.input ls → InTurn d calls ls
  | [], _, _, h => .done h
  | (op, args) :: calls, d, ls, h => by
      obtain ⟨taken, left, rfl, hleft, htakes⟩ := takes_ask h op args
      refine .call h ?_ htakes (inTurn_of_linesOf calls hleft)
      rw [hleft.flatten.symm, ← List.flatten_append, h.flatten]

/-- **Input is taken line by line.** An input has its lines in one way, and whatever functions of a library are
    called, in whatever order, the calls take runs of these lines in turn. -/
theorem lineByLine (d : Drac) (calls : List (Op × List Value)) :
    ∃ ls, (∀ ls', LinesOf d.input ls' ↔ ls' = ls) ∧ InTurn d calls ls := by
  obtain ⟨ls, h⟩ := exists_linesOf d.input
  refine ⟨ls, fun ls' => ⟨h.unique, ?_⟩, inTurn_of_linesOf calls h⟩
  rintro rfl
  exact h

end Embedder.Drac
