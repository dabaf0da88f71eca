import Embedder.Host.Registry
import Embedder.Text.Utf8

/-!
# The drac library

Input and output for small programs, and growing arrays of integers that are known by a number, their
*handle*. A text is an array of code points. Every function takes and returns 32-bit integers; those
that only do something return zero.

Input is read by whole lines. Output goes to a writer that the embedder brings along. It may fail at any
time, and what it has taken by then stays written.
-/

namespace Embedder

/-! ## 1. Writers -/

/-- What becomes of bytes that a writer is offered: it takes them, or it fails when it has taken some of
    them, perhaps none and perhaps all. -/
inductive Reception where
  | takes
  | fails (taken : Nat) (error : String)
  deriving DecidableEq, Repr, Inhabited

/-- A writer. What it does with bytes may depend on how often it was offered some and on what it has taken
    so far. -/
structure Writer where
  receive : (turn : Nat) → (written offered : List UInt8) → Reception
  deriving Inhabited

/-- The writer that takes everything. -/
def Writer.willing : Writer := ⟨fun _ _ _ => .takes⟩

/-- A writer at work: how often it was offered bytes, and what it has taken. -/
structure Sink where
  writer : Writer := .willing
  turn : Nat := 0
  written : List UInt8 := []
  deriving Inhabited

namespace Sink

/-- What becomes of bytes that are offered next. -/
def receive (s : Sink) (offered : List UInt8) : Reception := s.writer.receive s.turn s.written offered

/-- The sink after a turn in which some bytes were taken. -/
def taking (s : Sink) (bs : List UInt8) : Sink := { s with turn := s.turn + 1, written := s.written ++ bs }

/-- Writes bytes: whether they were taken, and the sink afterwards. -/
def write (s : Sink) (bs : List UInt8) : Except String Unit × Sink :=
  match s.receive bs with
  | .takes => (.ok (), s.taking bs)
  | .fails n e => (.error e, s.taking (bs.take n))

end Sink

/-! ## 2. State -/

/-- The state of a drac library. -/
structure Drac where
  output : Sink := {}
  /-- The bytes not yet read. -/
  input : List UInt8 := []
  /-- The arrays, by handle. -/
  arrays : List (List Int32) := []
  deriving Inhabited

namespace Drac

/-- A result of the library: a number or an error, and the state afterwards. -/
abbrev Result := Except HostError Int32 × Drac

/-- The error with a text. -/
def failure (text : String) : HostError := .failed ("drac: " ++ text)

/-! ## 3. Output -/

/-- The error of a writer that has failed. -/
def writeFailed (error : String) : HostError := failure ("write failed: " ++ error)

/-- Writes characters. -/
def write (d : Drac) (cs : List Char) : Result :=
  match d.output.write (Text.Utf8.encode cs) with
  | (.ok _, output) => (.ok 0, { d with output })
  | (.error e, output) => (.error (writeFailed e), { d with output })

/-- The code points of characters. -/
def codes (cs : List Char) : List Int32 := cs.map fun c => Int32.ofInt c.toNat

/-- The character with a code point. -/
def charOf (c : Int32) : Except HostError Char :=
  let z := c.toInt
  if 0 ≤ z && (z < 0xD800 || (0xDFFF < z && z < 0x110000)) then .ok (Char.ofNat z.toNat)
  else .error (failure (toString z ++ " is not a Unicode code point"))

/-! ## 4. Input -/

/-- The code of a line feed. -/
def lineFeed : UInt8 := 10

/-- The first line, with the line feed that ends it, and the rest. -/
def splitLine : List UInt8 → List UInt8 × List UInt8
  | [] => ([], [])
  | b :: bs =>
    if b = lineFeed then ([b], bs)
    else
      let (line, rest) := splitLine bs
      (b :: line, rest)

/-- A line without the carriage returns and line feeds at its end. -/
def trimEnd (cs : List Char) : List Char :=
  (cs.reverse.dropWhile fun c => c = '\r' || c = '\n').reverse

/-- Takes a line from the input. There is none at the end; a line that is no text is an error, and is
    taken all the same. -/
def takeLine (input : List UInt8) : Except HostError (Option (List Char)) × List UInt8 :=
  match input with
  | [] => (.ok none, [])
  | _ =>
    let (line, rest) := splitLine input
    match Text.Utf8.decode line with
    | .ok cs => (.ok (some (trimEnd cs)), rest)
    | .error _ => (.error (failure "read failed: stream did not contain valid UTF-8"), rest)

/-- The integer on the first line that has one, and the input after that line. Each round takes a line,
    so as many rounds as there are bytes suffice. -/
def takeInt : (rounds : Nat) → List UInt8 → Except HostError Int32 × List UInt8
  | 0, input => (.error (failure "end of input while reading an integer"), input)
  | rounds + 1, input =>
    match takeLine input with
    | (.error e, rest) => (.error e, rest)
    | (.ok none, rest) => (.error (failure "end of input while reading an integer"), rest)
    | (.ok (some cs), rest) =>
      match Value.parse .i32 (String.ofList cs) with
      | .ok (.i32 v) => (.ok v, rest)
      | _ => takeInt rounds rest

/-! ## 5. Arrays -/

/-- The array behind a handle. -/
def array? (d : Drac) (handle : Int32) : Option (List Int32) :=
  if 0 ≤ handle.toInt then d.arrays[handle.toInt.toNat]? else none

/-- Adds an array and returns its handle. -/
def allocate (d : Drac) (contents : List Int32) : Result :=
  if d.arrays.length < Number.pow2 31 then
    (.ok (Int32.ofNat d.arrays.length), { d with arrays := d.arrays ++ [contents] })
  else (.error (failure "out of handles"), d)

/-- The state with the array behind a handle changed. -/
def setArray (d : Drac) (handle : Int32) (contents : List Int32) : Drac :=
  { d with arrays := d.arrays.set handle.toInt.toNat contents }

/-- The error of a handle without an array. -/
def invalidHandle (handle : Int32) : HostError := failure ("invalid handle " ++ toString handle.toInt)

/-- The error of an index without an element. -/
def outOfBounds (handle index : Int32) (size : Nat) : HostError :=
  failure ("index " ++ toString index.toInt ++ " out of bounds for handle " ++ toString handle.toInt ++
    " of size " ++ toString size)

/-- Is there an element with this index? -/
def hasIndex (a : List Int32) (index : Int32) : Bool :=
  0 ≤ index.toInt && index.toInt.toNat < a.length

/-! ## 6. Functions -/

/-- The functions of the library. -/
inductive Op where
  | printi
  | printc
  | prints
  | println
  | readi
  | reads
  | new
  | size
  | add
  | get
  | set
  deriving DecidableEq, Repr, Inhabited

namespace Op

/-- All functions, in the order of their registration. -/
def all : List Op := [.printi, .printc, .prints, .println, .readi, .reads, .new, .size, .add, .get, .set]

/-- The name of a function. -/
def name : Op → String
  | .printi => "printi"
  | .printc => "printc"
  | .prints => "prints"
  | .println => "println"
  | .readi => "readi"
  | .reads => "reads"
  | .new => "new"
  | .size => "size"
  | .add => "add"
  | .get => "get"
  | .set => "set"

/-- The number of parameters of a function. -/
def arity : Op → Nat
  | .println | .readi | .reads => 0
  | .printi | .printc | .prints | .new | .size => 1
  | .add | .get => 2
  | .set => 3

/-- The signature of a function. -/
def signature (op : Op) : Signature := ⟨List.replicate op.arity .i32, [.i32]⟩

end Op

/-- Writes an integer in decimal. -/
def printi (d : Drac) (n : Int32) : Result := d.write (toString n.toInt).toList

/-- Writes one character. -/
def printc (d : Drac) (c : Int32) : Result :=
  match charOf c with
  | .ok c => d.write [c]
  | .error e => (.error e, d)

/-- Writes an array as a text, all of it or nothing. -/
def prints (d : Drac) (handle : Int32) : Result :=
  match d.array? handle with
  | none => (.error (invalidHandle handle), d)
  | some a =>
    match a.mapM charOf with
    | .ok cs => d.write cs
    | .error e => (.error e, d)

/-- Writes the end of a line. -/
def println (d : Drac) : Result := d.write ['\n']

/-- Reads the next integer that stands alone on a line, passing over other lines. -/
def readi (d : Drac) : Result :=
  let (r, input) := takeInt (d.input.length + 1) d.input
  (r, { d with input })

/-- Reads a line into a new array; at the end of the input the array is empty. -/
def reads (d : Drac) : Result :=
  match takeLine d.input with
  | (.error e, input) => (.error e, { d with input })
  | (.ok line, input) => { d with input }.allocate (codes (line.getD []))

/-- Makes a new, empty array; the capacity is only a hint. -/
def new (d : Drac) (capacity : Int32) : Result :=
  if capacity.toInt < 0 then (.error (failure ("negative capacity " ++ toString capacity.toInt)), d)
  else d.allocate []

/-- The number of elements of an array. -/
def size (d : Drac) (handle : Int32) : Result :=
  match d.array? handle with
  | none => (.error (invalidHandle handle), d)
  | some a =>
    if a.length < Number.pow2 31 then (.ok (Int32.ofNat a.length), d)
    else (.error (failure "array too large"), d)

/-- Appends to an array. -/
def add (d : Drac) (handle value : Int32) : Result :=
  match d.array? handle with
  | none => (.error (invalidHandle handle), d)
  | some a => (.ok 0, d.setArray handle (a ++ [value]))

/-- An element of an array. -/
def get (d : Drac) (handle index : Int32) : Result :=
  match d.array? handle with
  | none => (.error (invalidHandle handle), d)
  | some a =>
    if hasIndex a index then (.ok ((a[index.toInt.toNat]?).getD 0), d)
    else (.error (outOfBounds handle index a.length), d)

/-- Changes an element of an array. -/
def set (d : Drac) (handle index value : Int32) : Result :=
  match d.array? handle with
  | none => (.error (invalidHandle handle), d)
  | some a =>
    if hasIndex a index then (.ok 0, d.setArray handle (a.set index.toInt.toNat value))
    else (.error (outOfBounds handle index a.length), d)

/-- What is read after a handle: nothing, if there is no array behind it. -/
def behind (d : Drac) (handle : Int32) (rest : Option Result) : Option Result :=
  match d.array? handle with
  | none => some (.error (invalidHandle handle), d)
  | some _ => rest

/-- Runs a function, which reads its arguments at their positions. There is no result if it comes to a
    position that is out of range. -/
def run? (d : Drac) (op : Op) (args : List Int32) : Option Result :=
  match op with
  | .printi => args[0]?.map d.printi
  | .printc => args[0]?.map d.printc
  | .prints => args[0]?.map d.prints
  | .println => some d.println
  | .readi => some d.readi
  | .reads => some d.reads
  | .new => args[0]?.map d.new
  | .size => args[0]?.map d.size
  | .add => do
    let handle ← args[0]?
    d.behind handle (args[1]?.map (d.add handle))
  | .get => do
    let handle ← args[0]?
    d.behind handle (args[1]?.map (d.get handle))
  | .set => do
    let handle ← args[0]?
    d.behind handle do return d.set handle (← args[1]?) (← args[2]?)

/-! ## 7. Registration -/

/-- Where a part of a larger state is. -/
structure View (σ α : Type) where
  get : σ → α
  set : σ → α → σ

/-- A state as a part of itself. -/
def View.whole {α : Type} : View α α := ⟨fun a => a, fun _ a => a⟩

/-- The namespace of the library. -/
def space : String := "drac"

/-- A function of the library for hosts whose world holds the library's state. It passes over arguments
    that are no 32-bit integers; one that is missing after that leaves it without any value. -/
def function {σ : Type} (view : View σ Drac) (id : Nat) (op : Op) : HostFunction σ where
  id
  signature := op.signature
  run args w :=
    match (view.get w).run? op (args.filterMap Value.asI32?) with
    | some (r, d) => (r.map fun v => [.i32 v], view.set w d)
    | none => (.ok [], w)

/-- The entries of the library, its callables having the identities from `id` on. -/
def entries {σ : Type} (view : View σ Drac) (id : Nat) : List (Entry σ) :=
  Op.all.zipIdx.map fun (op, k) => ⟨space, op.name, function view (id + k) op⟩

/-- Registers the library: one function after the other, up to the first that is refused. -/
def register {σ : Type} (view : View σ Drac) (id : Nat) (r : Registry σ) :
    Registry σ × Except RuntimeError Unit :=
  r.registerAll (entries view id)

end Drac

end Embedder
