import Embedder.Proofs.Library.Effects
import Embedder.Proofs.Number.Literals
import Embedder.Proofs.Steps
import Embedder.Proofs.Text.Utf8

/-!
# What was written is read back

A program writes integers and texts, each on a line of its own, and another reads them: integers with
`readi`, and texts with `reads`. The bytes between them are all that they share.

* **`takeLine_encode`** -- a text that stands on a line is the line that is taken, and the rest is left;
* **`Item.write_eq`**, **`Item.read_eq`** -- an item is written as its line, and is read from its line;
* `writeAll_eq`, `readAll_eq` -- so are any items;
* **`writtenIsRead`** -- reading gives the items back, and there is nothing left.
-/

namespace Embedder.Drac

open Number Text.Utf8

/-! ## 1. Lines -/

theorem splitLine_append {bs : List UInt8} (h : lineFeed ∉ bs) (rest : List UInt8) :
    splitLine (bs ++ lineFeed :: rest) = (bs ++ [lineFeed], rest) := by
  induction bs with
  | nil => exact if_pos rfl
  | cons b bs ih =>
    have hb : b ≠ lineFeed := fun e => h (e ▸ List.mem_cons_self)
    show splitLine (b :: (bs ++ lineFeed :: rest)) = _
    rw [splitLine, if_neg hb, ih fun hbs => h (List.mem_cons_of_mem b hbs)]
    rfl

/-- The ends of lines are taken off, and nothing else. -/
theorem trimEnd_line {cs : List Char} (hfeed : '\n' ∉ cs) (hreturn : cs.getLast? ≠ some '\r') :
    trimEnd (cs ++ ['\n']) = cs := by
  have hkept : cs.reverse.dropWhile (fun c => c = '\r' || c = '\n') = cs.reverse := by
    refine dropWhile_of_head fun c hc => ?_
    rw [List.head?_reverse] at hc
    have hr : c ≠ '\r' := fun e => hreturn (e ▸ hc)
    have hn : c ≠ '\n' := fun e => hfeed (e ▸ List.mem_of_getLast? hc)
    simp [hr, hn]
  unfold trimEnd
  rw [List.reverse_append]
  show (cs.reverse.dropWhile _).reverse = cs
  rw [hkept, List.reverse_reverse]

/-- **A text that stands on a line is the line that is taken**, and the rest is left. -/
theorem takeLine_encode {cs : List Char} (hfeed : '\n' ∉ cs) (hreturn : cs.getLast? ≠ some '\r')
    (rest : List UInt8) : takeLine (encode (cs ++ ['\n']) ++ rest) = (.ok (some cs), rest) := by
  have hbytes : encode (cs ++ ['\n']) = encode cs ++ [lineFeed] := encode_append cs ['\n']
  have hno : lineFeed ∉ encode cs := fun h => hfeed (mem_encode_of_ascii (by decide) h)
  have hsplit : splitLine (encode (cs ++ ['\n']) ++ rest) = (encode (cs ++ ['\n']), rest) := by
    rw [hbytes, List.append_assoc]
    exact splitLine_append hno rest
  have hsome : encode (cs ++ ['\n']) ++ rest ≠ [] := by
    rw [hbytes]
    simp
  unfold takeLine
  split
  · exact absurd ‹_› hsome
  · rw [hsplit]
    dsimp only
    rw [decode_encode]
    dsimp only
    rw [trimEnd_line hfeed hreturn]

/-- One round of looking for an integer. -/
theorem takeInt_succ (rounds : Nat) (input : List UInt8) : takeInt (rounds + 1) input =
    match takeLine input with
    | (.error e, rest) => (.error e, rest)
    | (.ok none, rest) => (.error (failure "end of input while reading an integer"), rest)
    | (.ok (some cs), rest) =>
      match Value.parse .i32 (String.ofList cs) with
      | .ok (.i32 v) => (.ok v, rest)
      | _ => takeInt rounds rest := by
  exact rfl

/-! ## 2. Items -/

/-- A text that can stand on a line, and the capacity that an array for it is made with. -/
structure Line where
  chars : List Char
  unbroken : '\n' ∉ chars
  uncut : chars.getLast? ≠ some '\r'
  capacity : Int32 := 0
  capacity_nonneg : 0 ≤ capacity.toInt := by decide

/-- What can be written and read. -/
inductive Item where
  | number (n : Int32)
  | text (l : Line)

/-- Calls of functions of a library, one after the other, up to the first that fails. -/
abbrev Session (α : Type) := ExceptT HostError (StateM Drac) α

/-- A call of a function of a library under its own name. -/
def call (op : Op) (args : List Value) : Session (List Value) := fun d => d.ask op.name op args

/-- A call whose result does not matter. -/
def command (op : Op) (args : List Value) : Session Unit := do
  let _ ← call op args

namespace Item

/-- Writes an item on a line of its own. A text is put into an array first, whose handle is passed on. -/
def write : Item → Session Unit
  | .number n => do
    command .printi [.i32 n]
    command .println []
  | .text l => do
    let handle ← call .new [.i32 l.capacity]
    (codes l.chars).forM fun c => command .add (handle ++ [.i32 c])
    command .prints handle
    command .println []

/-- The function that reads an item. -/
def reader : Item → Op
  | .number _ => .readi
  | .text _ => .reads

/-- An answer gives an item back: the integer itself, or the handle of an array with the text. -/
def GivenBack (d : Drac) (answer : Except HostError (List Value)) : Item → Prop
  | .number n => answer = .ok [.i32 n]
  | .text l => ∃ h, answer = .ok [.i32 h] ∧ d.array? h = some (codes l.chars)

/-- The characters of an item on its line. -/
def line : Item → List Char
  | .number n => (toString n.toInt).toList
  | .text l => l.chars

/-- The arrays that an item needs. -/
def arrays : Item → List (List Int32)
  | .number _ => []
  | .text l => [codes l.chars]

end Item

/-- The lines of items. -/
def linesOf (is : List Item) : List Char := is.flatMap fun i => i.line ++ ['\n']

/-- The arrays that items need. -/
def arraysOf (is : List Item) : List (List Int32) := is.flatMap Item.arrays

/-- Writes items, each on a line of its own. -/
def writeAll (is : List Item) : Session Unit := is.forM Item.write

/-- Reads items; gives the answers, and the state at the end. -/
def readAll (d : Drac) : List Item → List (Except HostError (List Value)) × Drac
  | [] => ([], d)
  | i :: is =>
    let (a, d') := d.ask i.reader.name i.reader []
    let (as, after) := d'.readAll is
    (a :: as, after)

/-! ## 3. Writing -/

theorem charOf_code (c : Char) : charOf (Int32.ofInt c.toNat) = .ok c := by
  have hscalar := toNat_scalar c
  have hnonneg : (0 : Int) ≤ c.toNat := Int.natCast_nonneg c.toNat
  have hint : (Int32.ofInt c.toNat).toInt = c.toNat := Int32.toInt_ofInt_of_le (by omega) (by omega)
  unfold charOf
  rw [hint]
  dsimp only
  rw [if_pos, Int.toNat_natCast, Char.ofNat_toNat]
  simp
  omega

/-- Characters are found again by their code points. -/
theorem mapM_charOf_codes : ∀ cs : List Char, (codes cs).mapM charOf = .ok cs
  | [] => rfl
  | c :: cs => by
      show (Int32.ofInt c.toNat :: codes cs).mapM charOf = _
      rw [List.mapM_cons, charOf_code, mapM_charOf_codes cs]
      rfl

/-- The array with a number is behind the handle with that number. -/
theorem array?_ofNat {k : Nat} (hk : k < pow2 31) (d : Drac) : d.array? (Int32.ofNat k) = d.arrays[k]? := by
  have hint : (Int32.ofNat k).toInt = k := Int32.toInt_ofNat_of_lt hk
  unfold array?
  rw [hint, if_pos (by omega)]
  rfl

/-- A call whose result is known. -/
theorem outcome_call {d d' : Drac} {op : Op} (ns : List Int32) {v : Int32} (hlen : ns.length = op.arity)
    (h : d.run? op ns = some (.ok v, d')) : outcome (call op (ns.map .i32)) d = (.ok [.i32 v], d') :=
  ask_of_fits ns hlen h op.name

theorem outcome_command {d d' : Drac} {op : Op} (ns : List Int32) {v : Int32} (hlen : ns.length = op.arity)
    (h : d.run? op ns = some (.ok v, d')) : outcome (command op (ns.map .i32)) d = (.ok (), d') :=
  outcome_bind_of_ok (outcome_call ns hlen h) _

/-- One library has written some bytes more than another, out of some more arrays, with a writer that takes
    everything. -/
structure Wrote (d : Drac) (bs : List UInt8) (made : List (List Int32)) (d' : Drac) : Prop where
  willing : d'.output.writer.Willing
  written : d'.output.written = d.output.written ++ bs
  input : d'.input = d.input
  arrays : d'.arrays = d.arrays ++ made

section Writing

variable {d d' d'' : Drac} {bs cs : List UInt8} {made more : List (List Int32)}

theorem Wrote.nothing (hwilling : d.output.writer.Willing) : Wrote d [] [] d :=
  ⟨hwilling, (List.append_nil _).symm, rfl, (List.append_nil _).symm⟩

theorem Wrote.trans (h : Wrote d bs made d') (h' : Wrote d' cs more d'') : Wrote d (bs ++ cs) (made ++ more) d'' where
  willing := h'.willing
  written := by rw [h'.written, h.written, List.append_assoc]
  input := h'.input.trans h.input
  arrays := by rw [h'.arrays, h.arrays, List.append_assoc]

/-- A writer that takes everything takes what is printed. -/
theorem write_of_willing (hwilling : d.output.writer.Willing) (cs : List Char) :
    d.write cs = (.ok 0, d.taking (encode cs)) := write_of_takes (hwilling _ _ _)

theorem wrote_taking (hwilling : d.output.writer.Willing) (bs : List UInt8) : Wrote d bs [] (d.taking bs) :=
  ⟨hwilling, rfl, rfl, (List.append_nil _).symm⟩

theorem prints_of_codes {h : Int32} {cs : List Char} (ha : d.array? h = some (codes cs)) :
    d.prints h = d.write cs := by
  unfold prints
  rw [ha]
  dsimp only
  rw [mapM_charOf_codes]

theorem outcome_println (hwilling : d.output.writer.Willing) :
    outcome (command .println []) d = (.ok (), d.taking (encode ['\n'])) :=
  outcome_command [] rfl (congrArg some (write_of_willing hwilling ['\n']))

/-- Adding to the last array, one element after the other. -/
theorem outcome_adds {before : List (List Int32)} (hlen : before.length < pow2 31) : ∀ (ns done : List Int32)
    (d : Drac), d.arrays = before ++ [done] →
      outcome (ns.forM fun n => command .add ([.i32 (Int32.ofNat before.length)] ++ [.i32 n])) d =
        (.ok (), { d with arrays := before ++ [done ++ ns] }) := by
  intro ns
  induction ns with
  | nil =>
    intro done d hd
    rw [List.append_nil, ← hd]
    rfl
  | cons n ns ih =>
    intro done d hd
    have hint : (Int32.ofNat before.length).toInt = before.length := Int32.toInt_ofNat_of_lt hlen
    have hadd : d.run? .add [Int32.ofNat before.length, n] =
        some (.ok 0, { d with arrays := before ++ [done ++ [n]] }) := by
      rw [run?_add]
      unfold add setArray
      rw [array?_ofNat hlen, hd, hint]
      simp
    have hstep : outcome (command .add ([.i32 (Int32.ofNat before.length)] ++ [.i32 n])) d = _ :=
      outcome_command [Int32.ofNat before.length, n] rfl hadd
    rw [List.forM, outcome_bind_of_ok hstep, ih _ _ rfl, List.append_assoc]
    rfl

/-- **An item is written as its line**, if there is a handle for what it needs. -/
theorem Item.write_eq (i : Item) (hwilling : d.output.writer.Willing)
    (hroom : d.arrays.length + i.arrays.length ≤ pow2 31) :
    ∃ d', outcome i.write d = (.ok (), d') ∧ Wrote d (encode (i.line ++ ['\n'])) i.arrays d' := by
  rw [encode_append]
  cases i with
  | number n =>
    have hprint : outcome (command .printi [.i32 n]) d = (.ok (), d.taking (encode (toString n.toInt).toList)) :=
      outcome_command [n] rfl (congrArg some (write_of_willing hwilling _))
    have hprinted := wrote_taking hwilling (encode (toString n.toInt).toList)
    refine ⟨_, ?_, hprinted.trans (wrote_taking hprinted.willing (encode ['\n']))⟩
    unfold Item.write
    rw [outcome_bind_of_ok hprint]
    exact outcome_println hprinted.willing
  | text l =>
    have hlen : d.arrays.length < pow2 31 := hroom
    -- the array is made, filled and printed
    have hnew : outcome (call .new [.i32 l.capacity]) d =
        (.ok [.i32 (Int32.ofNat d.arrays.length)], { d with arrays := d.arrays ++ [[]] }) := by
      refine outcome_call [l.capacity] rfl (congrArg some ?_)
      unfold new allocate
      rw [if_neg (Int.not_lt.mpr l.capacity_nonneg), if_pos hlen]
    have hadds := outcome_adds hlen (codes l.chars) [] { d with arrays := d.arrays ++ [[]] } rfl
    rw [List.nil_append] at hadds
    let filled : Drac := { d with arrays := d.arrays ++ [codes l.chars] }
    have hfilled : Wrote d [] [codes l.chars] filled := ⟨hwilling, (List.append_nil _).symm, rfl, rfl⟩
    have harray : filled.array? (Int32.ofNat d.arrays.length) = some (codes l.chars) := by
      rw [array?_ofNat hlen]
      exact List.getElem?_concat_length
    have hprint : outcome (command .prints [.i32 (Int32.ofNat d.arrays.length)]) filled =
        (.ok (), filled.taking (encode l.chars)) :=
      outcome_command [Int32.ofNat d.arrays.length] rfl
        (congrArg some ((prints_of_codes harray).trans (write_of_willing hfilled.willing l.chars)))
    have hprinted := hfilled.trans (wrote_taking hfilled.willing (encode l.chars))
    refine ⟨_, ?_, hprinted.trans (wrote_taking hprinted.willing (encode ['\n']))⟩
    unfold Item.write
    rw [outcome_bind_of_ok hnew, outcome_bind_of_ok hadds, outcome_bind_of_ok hprint]
    exact outcome_println hprinted.willing

/-- Without a handle it is not written. -/
theorem Item.write_full (i : Item) (hroom : d.arrays.length ≤ pow2 31)
    (hfull : pow2 31 < d.arrays.length + i.arrays.length) :
    (outcome i.write d).1 = .error (failure "out of handles") := by
  cases i with
  | number n => exact absurd hfull (Nat.not_lt.mpr hroom)
  | text l =>
    have hnew : d.run? .new [l.capacity] = some (.error (failure "out of handles"), d) := by
      show some (d.new l.capacity) = _
      unfold new allocate
      rw [if_neg (Int.not_lt.mpr l.capacity_nonneg), if_neg (Nat.not_lt.mpr (Nat.le_of_lt_succ hfull))]
    have hcall : outcome (call .new [.i32 l.capacity]) d = (.error (failure "out of handles"), d) :=
      ask_of_fits [l.capacity] rfl hnew _
    exact congrArg Prod.fst (outcome_bind_of_error hcall _)

/-- **Items are written as their lines**, if there are handles for all that they need. -/
theorem writeAll_eq : ∀ (is : List Item) {d : Drac}, d.output.writer.Willing →
    d.arrays.length + (arraysOf is).length ≤ pow2 31 →
      ∃ d', outcome (writeAll is) d = (.ok (), d') ∧ Wrote d (encode (linesOf is)) (arraysOf is) d'
  | [], d, hwilling, _ => ⟨d, rfl, .nothing hwilling⟩
  | i :: is, d, hwilling, hroom => by
      have hsplit : (arraysOf (i :: is)).length = i.arrays.length + (arraysOf is).length := List.length_append
      obtain ⟨d₁, hitem, hwrote⟩ := i.write_eq hwilling (by omega)
      have hlength : d₁.arrays.length = d.arrays.length + i.arrays.length := by
        rw [hwrote.arrays, List.length_append]
      obtain ⟨d₂, hrest, hlater⟩ := writeAll_eq is hwrote.willing (by omega)
      refine ⟨d₂, ?_, ?_⟩
      · show outcome (i.write >>= fun _ => writeAll is) d = _
        rw [outcome_bind_of_ok hitem, hrest]
      · have hlines : linesOf (i :: is) = i.line ++ ['\n'] ++ linesOf is := rfl
        rw [hlines, encode_append]
        exact hwrote.trans hlater

/-- Without handles for all of them, writing fails. -/
theorem writeAll_full : ∀ (is : List Item) {d : Drac}, d.output.writer.Willing → d.arrays.length ≤ pow2 31 →
    pow2 31 < d.arrays.length + (arraysOf is).length →
      (outcome (writeAll is) d).1 = .error (failure "out of handles")
  | [], d, _, hroom, hfull => absurd hfull (Nat.not_lt.mpr hroom)
  | i :: is, d, hwilling, hroom, hfull => by
      have hsplit : (arraysOf (i :: is)).length = i.arrays.length + (arraysOf is).length := List.length_append
      show (outcome (i.write >>= fun _ => writeAll is) d).1 = _
      by_cases hi : d.arrays.length + i.arrays.length ≤ pow2 31
      · obtain ⟨d₁, hitem, hwrote⟩ := i.write_eq hwilling hi
        have hlength : d₁.arrays.length = d.arrays.length + i.arrays.length := by
          rw [hwrote.arrays, List.length_append]
        rw [outcome_bind_of_ok hitem]
        exact writeAll_full is hwrote.willing (by omega) (by omega)
      · have hfails := i.write_full hroom (by omega)
        rw [outcome_bind_of_error (Prod.ext hfails rfl)]

end Writing

/-! ## 4. Reading -/

/-- An item can stand on a line. -/
theorem Item.line_unbroken (i : Item) : '\n' ∉ i.line ∧ i.line.getLast? ≠ some '\r' := by
  cases i with
  | number n =>
    refine ⟨fun h => ?_, fun h => ?_⟩
    · have hblank := not_blank_of_mem_toString h
      cases hblank
    · have hblank := not_blank_of_mem_toString (List.mem_of_getLast? h)
      cases hblank
  | text l => exact ⟨l.unbroken, l.uncut⟩

section Reading

variable {d : Drac} {rest : List UInt8}

/-- What reading an item answers. -/
def Item.answer (d : Drac) : Item → Int32
  | .number n => n
  | .text _ => Int32.ofNat d.arrays.length

/-- **An item is read from its line.** -/
theorem Item.read_eq (i : Item) (hinput : d.input = encode (i.line ++ ['\n']) ++ rest)
    (hroom : d.arrays.length + i.arrays.length ≤ pow2 31) :
    d.ask i.reader.name i.reader [] =
      (.ok [.i32 (i.answer d)], { d with input := rest, arrays := d.arrays ++ i.arrays }) := by
  have hline := takeLine_encode i.line_unbroken.1 i.line_unbroken.2 rest
  have hread : ∀ r, d.run? i.reader [] = some r → d.ask i.reader.name i.reader [] = _ :=
    fun r hr => ask_of_fits [] (by cases i <;> rfl) hr i.reader.name
  cases i with
  | number n =>
    have hparse : Value.parse .i32 (String.ofList (toString n.toInt).toList) = .ok (.i32 n) := by
      rw [String.ofList_toList]
      exact parse_i32_text n
    have hreadi : d.readi = (.ok n, { d with input := rest }) := by
      unfold readi
      rw [hinput, takeInt_succ, hline]
      dsimp only [Item.line]
      rw [hparse]
    rw [hread _ (congrArg some hreadi), arrays, List.append_nil]
    rfl
  | text l =>
    have hlen : d.arrays.length < pow2 31 := hroom
    have hreads : d.reads =
        (.ok (Int32.ofNat d.arrays.length), { d with input := rest, arrays := d.arrays ++ [codes l.chars] }) := by
      unfold reads
      rw [hinput, hline]
      dsimp only [allocate]
      rw [if_pos hlen]
      rfl
    rw [hread _ (congrArg some hreads)]
    rfl

/-- What reading an item answers gives it back, now and when there are more arrays. -/
theorem Item.givenBack (i : Item) (hroom : d.arrays.length + i.arrays.length ≤ pow2 31) {d' : Drac}
    {more : List (List Int32)} (hd' : d'.arrays = d.arrays ++ i.arrays ++ more) :
    i.GivenBack d' (.ok [.i32 (i.answer d)]) := by
  cases i with
  | number n => rfl
  | text l =>
    have hlen : d.arrays.length < pow2 31 := hroom
    refine ⟨_, rfl, ?_⟩
    show d'.array? (Int32.ofNat d.arrays.length) = _
    rw [array?_ofNat hlen, hd', List.append_assoc, List.getElem?_append_right (Nat.le_refl _), Nat.sub_self]
    rfl

theorem readAll_cons {d d' : Drac} {i : Item} {a : Except HostError (List Value)}
    (h : d.ask i.reader.name i.reader [] = (a, d')) (is : List Item) :
    d.readAll (i :: is) = (a :: (d'.readAll is).1, (d'.readAll is).2) := by
  rw [readAll, h]

/-- **Items are read from their lines**, each by one call. -/
theorem readAll_eq (rest : List UInt8) : ∀ (is : List Item) {d : Drac}, d.input = encode (linesOf is) ++ rest →
    d.arrays.length + (arraysOf is).length ≤ pow2 31 →
      (d.readAll is).2 = { d with input := rest, arrays := d.arrays ++ arraysOf is } ∧
        List.Forall₂ (fun i a => i.GivenBack (d.readAll is).2 a) is (d.readAll is).1
  | [], d, hinput, _ => by
      refine ⟨?_, .nil⟩
      show d = { d with input := rest, arrays := d.arrays ++ [] }
      rw [List.append_nil, ← show d.input = rest from hinput]
  | i :: is, d, hinput, hroom => by
      have hsplit : (arraysOf (i :: is)).length = i.arrays.length + (arraysOf is).length := List.length_append
      have hline : d.input = encode (i.line ++ ['\n']) ++ (encode (linesOf is) ++ rest) := by
        rw [hinput, ← List.append_assoc, ← encode_append]
        rfl
      have hread := i.read_eq hline (by omega)
      obtain ⟨hafter, hgiven⟩ := readAll_eq rest is
        (d := { d with input := encode (linesOf is) ++ rest, arrays := d.arrays ++ i.arrays }) rfl (by
          show (d.arrays ++ i.arrays).length + _ ≤ _
          rw [List.length_append]
          omega)
      rw [readAll_cons hread]
      have hend : d.arrays ++ i.arrays ++ arraysOf is = d.arrays ++ arraysOf (i :: is) := List.append_assoc ..
      refine ⟨?_, .cons ?_ hgiven⟩
      · rw [hafter]
        dsimp only
        rw [hend]
      · rw [hafter]
        exact i.givenBack (by omega) rfl

end Reading

/-! ## 5. There and back -/

/-- Items are read back from bytes by a new library. -/
structure ReadBack (is : List Item) (bytes : List UInt8) : Prop where
  /-- Every call succeeds and gives the item back, an integer or an array with the text. -/
  items : List.Forall₂ (fun i a => i.GivenBack (readAll { input := bytes } is).2 a) is
    (readAll { input := bytes } is).1
  /-- There is an array for each text, and no other. -/
  arrays : (readAll { input := bytes } is).2.arrays = arraysOf is
  /-- There is nothing left, and one more integer is not found. -/
  exhausted : (readAll { input := bytes } is).2.input = [] ∧
    ((readAll { input := bytes } is).2.ask "readi" .readi []).1 =
      .error (failure "end of input while reading an integer")

/-- What comes of writing items with a new library, whose writer takes everything, and reading them with
    another. -/
structure RoundTrip (is : List Item) (input : List UInt8) : Prop where
  /-- Writing succeeds, unless there are more texts than handles. -/
  writes : (outcome (writeAll is) { input }).1 = .ok () ↔ (arraysOf is).length ≤ pow2 31
  /-- What was written is read back. -/
  reads : (outcome (writeAll is) { input }).1 = .ok () →
    ReadBack is (outcome (writeAll is) { input }).2.output.written

/-- **What was written is read back.** -/
theorem writtenIsRead (is : List Item) (input : List UInt8) : RoundTrip is input := by
  have hwilling : ({ input } : Drac).output.writer.Willing := Writer.willing_willing
  have hwrites : (outcome (writeAll is) { input }).1 = .ok () ↔ (arraysOf is).length ≤ pow2 31 := by
    refine ⟨fun hok => ?_, fun hroom => ?_⟩
    · by_contra hfull
      rw [writeAll_full is hwilling (Nat.zero_le _) (by rw [List.length_nil]; omega)] at hok
      cases hok
    · obtain ⟨d, hd, -⟩ := writeAll_eq is hwilling (by rw [List.length_nil]; omega)
      rw [hd]
  refine ⟨hwrites, fun hok => ?_⟩
  have hroom := hwrites.mp hok
  have hbytes : (outcome (writeAll is) { input }).2.output.written = encode (linesOf is) := by
    obtain ⟨d, hd, hwrote⟩ := writeAll_eq is hwilling (by rw [List.length_nil]; omega)
    rw [hd]
    exact hwrote.written
  rw [hbytes]
  obtain ⟨hafter, hgiven⟩ := readAll_eq [] is (d := { input := encode (linesOf is) })
    (List.append_nil _).symm (by rw [List.length_nil]; omega)
  refine ⟨hgiven, ?_, ?_⟩
  · rw [hafter]
    rfl
  · rw [hafter]
    exact ⟨rfl, rfl⟩

end Embedder.Drac
