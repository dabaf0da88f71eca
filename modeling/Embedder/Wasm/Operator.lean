import Embedder.Wasm.Types

/-!
# Operators

The instructions that only compute: tests, comparisons, arithmetic and conversions, and the shapes of
memory accesses. `NumOp.table` lists the numeric instructions with their names in the order of their
opcodes, so one table serves the text reader and the binary reader.
-/

namespace Embedder.Wasm

/-! ## 1. Numeric operators -/

/-- The two widths of integers and floats. -/
inductive Width where
  | w32
  | w64
  deriving DecidableEq, Repr, Inhabited

/-- The integer type of a width. -/
def Width.int : Width → ValueType
  | .w32 => .i32
  | .w64 => .i64

/-- The float type of a width. -/
def Width.float : Width → ValueType
  | .w32 => .f32
  | .w64 => .f64

inductive IntUnary where
  | clz
  | ctz
  | popcnt
  | extend8
  | extend16
  | extend32
  deriving DecidableEq, Repr, Inhabited

inductive IntBinary where
  | add
  | sub
  | mul
  | divS
  | divU
  | remS
  | remU
  | and
  | or
  | xor
  | shl
  | shrS
  | shrU
  | rotl
  | rotr
  deriving DecidableEq, Repr, Inhabited

inductive IntCompare where
  | eq
  | ne
  | ltS
  | ltU
  | gtS
  | gtU
  | leS
  | leU
  | geS
  | geU
  deriving DecidableEq, Repr, Inhabited

inductive FloatUnary where
  | abs
  | neg
  | ceil
  | floor
  | trunc
  | nearest
  | sqrt
  deriving DecidableEq, Repr, Inhabited

inductive FloatBinary where
  | add
  | sub
  | mul
  | div
  | min
  | max
  | copysign
  deriving DecidableEq, Repr, Inhabited

inductive FloatCompare where
  | eq
  | ne
  | lt
  | gt
  | le
  | ge
  deriving DecidableEq, Repr, Inhabited

/-- The conversions between number types. -/
inductive Conversion where
  /-- The low half of a 64-bit integer. -/
  | wrap
  /-- A 32-bit integer as a 64-bit one. -/
  | extend (signed : Bool)
  /-- A float without its fraction as an integer; out of range it traps or, saturating, gives the
      nearest integer. -/
  | trunc (target source : Width) (signed saturating : Bool)
  /-- An integer as a float. -/
  | convert (target source : Width) (signed : Bool)
  | demote
  | promote
  /-- The bits of a float as an integer. -/
  | floatBits (width : Width)
  /-- The float with the bits of an integer. -/
  | bitsFloat (width : Width)
  deriving DecidableEq, Repr, Inhabited

/-- A numeric instruction. -/
inductive NumOp where
  | eqz (width : Width)
  | intCompare (width : Width) (op : IntCompare)
  | floatCompare (width : Width) (op : FloatCompare)
  | intUnary (width : Width) (op : IntUnary)
  | intBinary (width : Width) (op : IntBinary)
  | floatUnary (width : Width) (op : FloatUnary)
  | floatBinary (width : Width) (op : FloatBinary)
  | convert (op : Conversion)
  deriving DecidableEq, Repr, Inhabited

namespace NumOp

/-- The types of the operands, the deepest first. -/
def params : NumOp → List ValueType
  | .eqz w | .intUnary w _ => [w.int]
  | .intCompare w _ | .intBinary w _ => [w.int, w.int]
  | .floatUnary w _ => [w.float]
  | .floatCompare w _ | .floatBinary w _ => [w.float, w.float]
  | .convert c =>
    match c with
    | .wrap => [.i64]
    | .extend _ => [.i32]
    | .trunc _ source _ _ => [source.float]
    | .convert _ source _ => [source.int]
    | .demote => [.f64]
    | .promote => [.f32]
    | .floatBits w => [w.float]
    | .bitsFloat w => [w.int]

/-- The type of the result. -/
def result : NumOp → ValueType
  | .eqz _ | .intCompare .. | .floatCompare .. => .i32
  | .intUnary w _ | .intBinary w _ => w.int
  | .floatUnary w _ | .floatBinary w _ => w.float
  | .convert c =>
    match c with
    | .wrap => .i32
    | .extend _ => .i64
    | .trunc target _ _ _ => target.int
    | .convert target _ _ => target.float
    | .demote => .f32
    | .promote => .f64
    | .floatBits w => w.int
    | .bitsFloat w => w.float

/-- Names and operators under the name of a type, as instructions. -/
def under {α : Type} (t : ValueType) (f : α → NumOp) (ops : List (String × α)) :
    List (String × NumOp) :=
  ops.map fun p => (t.name ++ "." ++ p.1, f p.2)

/-- The comparisons of integers of a width, in order of opcode. -/
def intCompareTable (w : Width) : List (String × NumOp) :=
  (w.int.name ++ ".eqz", .eqz w) :: under w.int (.intCompare w)
    [("eq", .eq), ("ne", .ne), ("lt_s", .ltS), ("lt_u", .ltU), ("gt_s", .gtS), ("gt_u", .gtU),
      ("le_s", .leS), ("le_u", .leU), ("ge_s", .geS), ("ge_u", .geU)]

/-- The comparisons of floats of a width, in order of opcode. -/
def floatCompareTable (w : Width) : List (String × NumOp) :=
  under w.float (.floatCompare w)
    [("eq", .eq), ("ne", .ne), ("lt", .lt), ("gt", .gt), ("le", .le), ("ge", .ge)]

/-- The arithmetic of integers of a width, in order of opcode. -/
def intTable (w : Width) : List (String × NumOp) :=
  under w.int (.intUnary w) [("clz", .clz), ("ctz", .ctz), ("popcnt", .popcnt)] ++
    under w.int (.intBinary w)
      [("add", .add), ("sub", .sub), ("mul", .mul), ("div_s", .divS), ("div_u", .divU),
        ("rem_s", .remS), ("rem_u", .remU), ("and", .and), ("or", .or), ("xor", .xor),
        ("shl", .shl), ("shr_s", .shrS), ("shr_u", .shrU), ("rotl", .rotl), ("rotr", .rotr)]

/-- The arithmetic of floats of a width, in order of opcode. -/
def floatTable (w : Width) : List (String × NumOp) :=
  under w.float (.floatUnary w)
      [("abs", .abs), ("neg", .neg), ("ceil", .ceil), ("floor", .floor), ("trunc", .trunc),
        ("nearest", .nearest), ("sqrt", .sqrt)] ++
    under w.float (.floatBinary w)
      [("add", .add), ("sub", .sub), ("mul", .mul), ("div", .div), ("min", .min), ("max", .max),
        ("copysign", .copysign)]

/-- The conversions, in order of opcode. -/
def conversionTable : List (String × Conversion) :=
  [("i32.wrap_i64", .wrap),
    ("i32.trunc_f32_s", .trunc .w32 .w32 true false),
    ("i32.trunc_f32_u", .trunc .w32 .w32 false false),
    ("i32.trunc_f64_s", .trunc .w32 .w64 true false),
    ("i32.trunc_f64_u", .trunc .w32 .w64 false false),
    ("i64.extend_i32_s", .extend true), ("i64.extend_i32_u", .extend false),
    ("i64.trunc_f32_s", .trunc .w64 .w32 true false),
    ("i64.trunc_f32_u", .trunc .w64 .w32 false false),
    ("i64.trunc_f64_s", .trunc .w64 .w64 true false),
    ("i64.trunc_f64_u", .trunc .w64 .w64 false false),
    ("f32.convert_i32_s", .convert .w32 .w32 true), ("f32.convert_i32_u", .convert .w32 .w32 false),
    ("f32.convert_i64_s", .convert .w32 .w64 true), ("f32.convert_i64_u", .convert .w32 .w64 false),
    ("f32.demote_f64", .demote),
    ("f64.convert_i32_s", .convert .w64 .w32 true), ("f64.convert_i32_u", .convert .w64 .w32 false),
    ("f64.convert_i64_s", .convert .w64 .w64 true), ("f64.convert_i64_u", .convert .w64 .w64 false),
    ("f64.promote_f32", .promote),
    ("i32.reinterpret_f32", .floatBits .w32), ("i64.reinterpret_f64", .floatBits .w64),
    ("f32.reinterpret_i32", .bitsFloat .w32), ("f64.reinterpret_i64", .bitsFloat .w64)]

/-- The sign extensions, in order of opcode. -/
def extensionTable : List (String × NumOp) :=
  [("i32.extend8_s", .intUnary .w32 .extend8), ("i32.extend16_s", .intUnary .w32 .extend16),
    ("i64.extend8_s", .intUnary .w64 .extend8), ("i64.extend16_s", .intUnary .w64 .extend16),
    ("i64.extend32_s", .intUnary .w64 .extend32)]

/-- The numeric instructions of one opcode byte, in order of opcode. -/
def table : List (String × NumOp) :=
  intCompareTable .w32 ++ intCompareTable .w64 ++ floatCompareTable .w32 ++ floatCompareTable .w64 ++
    intTable .w32 ++ intTable .w64 ++ floatTable .w32 ++ floatTable .w64 ++
    conversionTable.map (fun p => (p.1, .convert p.2)) ++ extensionTable

/-- The opcode of the first numeric instruction. -/
def firstOpcode : Nat := 0x45

/-- The saturating conversions, in order of their second opcode, from zero. -/
def saturatingTable : List (String × Conversion) :=
  [("i32.trunc_sat_f32_s", .trunc .w32 .w32 true true),
    ("i32.trunc_sat_f32_u", .trunc .w32 .w32 false true),
    ("i32.trunc_sat_f64_s", .trunc .w32 .w64 true true),
    ("i32.trunc_sat_f64_u", .trunc .w32 .w64 false true),
    ("i64.trunc_sat_f32_s", .trunc .w64 .w32 true true),
    ("i64.trunc_sat_f32_u", .trunc .w64 .w32 false true),
    ("i64.trunc_sat_f64_s", .trunc .w64 .w64 true true),
    ("i64.trunc_sat_f64_u", .trunc .w64 .w64 false true)]

/-- The numeric instruction with a given name. -/
def ofName? (s : String) : Option NumOp :=
  match table.find? fun p => p.1 == s with
  | some p => some p.2
  | none => (saturatingTable.find? fun p => p.1 == s).map fun p => .convert p.2

end NumOp

/-! ## 2. Memory accesses -/

/-- A load of some bytes, no more than the type has, extended with zeros or with the sign to the type. -/
structure Load where
  type : ValueType
  bytes : Nat
  signed : Bool
  fits : 8 * bytes ≤ type.width := by decide
  deriving DecidableEq, Repr, Inhabited

/-- A store of the low bytes of a number. -/
structure Store where
  type : ValueType
  bytes : Nat
  deriving DecidableEq, Repr, Inhabited

/-- The loads with their names, in order of opcode. -/
def Load.table : List (String × Load) :=
  [("i32.load", .mk .i32 4 false), ("i64.load", .mk .i64 8 false), ("f32.load", .mk .f32 4 false),
    ("f64.load", .mk .f64 8 false), ("i32.load8_s", .mk .i32 1 true), ("i32.load8_u", .mk .i32 1 false),
    ("i32.load16_s", .mk .i32 2 true), ("i32.load16_u", .mk .i32 2 false),
    ("i64.load8_s", .mk .i64 1 true), ("i64.load8_u", .mk .i64 1 false),
    ("i64.load16_s", .mk .i64 2 true), ("i64.load16_u", .mk .i64 2 false),
    ("i64.load32_s", .mk .i64 4 true), ("i64.load32_u", .mk .i64 4 false)]

/-- The opcode of the first load. -/
def Load.firstOpcode : Nat := 0x28

/-- The stores with their names, in order of opcode. -/
def Store.table : List (String × Store) :=
  [("i32.store", ⟨.i32, 4⟩), ("i64.store", ⟨.i64, 8⟩), ("f32.store", ⟨.f32, 4⟩),
    ("f64.store", ⟨.f64, 8⟩), ("i32.store8", ⟨.i32, 1⟩), ("i32.store16", ⟨.i32, 2⟩),
    ("i64.store8", ⟨.i64, 1⟩), ("i64.store16", ⟨.i64, 2⟩), ("i64.store32", ⟨.i64, 4⟩)]

/-- The opcode of the first store. -/
def Store.firstOpcode : Nat := 0x36

/-- The load with a given name. -/
def Load.ofName? (s : String) : Option Load := (table.find? fun p => p.1 == s).map Prod.snd

/-- The store with a given name. -/
def Store.ofName? (s : String) : Option Store := (table.find? fun p => p.1 == s).map Prod.snd

end Embedder.Wasm
