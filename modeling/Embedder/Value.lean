import Embedder.Number.Shortest
import Embedder.Text.Blank

/-!
# Values and signatures

Four types of numbers cross the boundary between host and guest. A `Value` is a number with its type;
floats are kept as their bits. A `Signature` lists the types of a function's parameters and results.

Inside the engine a value is a bare natural number below `2 ^ width`, its *slot*; the type is known
from the code around it. `Value.slot` and `Value.ofSlot` go back and forth without changing a bit.
-/

namespace Embedder

open Number

/-! ## 1. Types -/

/-- The types of values that host and guest can exchange. -/
inductive ValueType where
  | i32
  | i64
  | f32
  | f64
  deriving DecidableEq, Repr, Inhabited

namespace ValueType

/-- All four types. -/
def all : List ValueType := [.i32, .i64, .f32, .f64]

/-- The name of a type. -/
def name : ValueType → String
  | .i32 => "i32"
  | .i64 => "i64"
  | .f32 => "f32"
  | .f64 => "f64"

/-- The type with a given name. -/
def ofName? (s : String) : Option ValueType := all.find? fun t => t.name == s

/-- The bits of a value of the type. -/
def width : ValueType → Nat
  | .i32 | .f32 => 32
  | .i64 | .f64 => 64

end ValueType

/-! ## 2. Values -/

/-- A number of one of the four types. Floats are their bits. -/
inductive Value where
  | i32 (v : Int32)
  | i64 (v : Int64)
  | f32 (bits : UInt32)
  | f64 (bits : UInt64)
  deriving DecidableEq, Repr, Inhabited

namespace Value

/-- The type of a value. -/
def type : Value → ValueType
  | .i32 _ => .i32
  | .i64 _ => .i64
  | .f32 _ => .f32
  | .f64 _ => .f64

/-- The integer in an `i32` value. -/
def asI32? : Value → Option Int32
  | .i32 v => some v
  | _ => none

/-- The text of a value: integers in decimal, floats by their shortest digits. -/
def text : Value → String
  | .i32 v => toString v.toInt
  | .i64 v => toString v.toInt
  | .f32 b => binary32.text b.toNat
  | .f64 b => binary64.text b.toNat

/-- The bits of a value. -/
def slot : Value → Nat
  | .i32 v => v.toUInt32.toNat
  | .i64 v => v.toUInt64.toNat
  | .f32 b => b.toNat
  | .f64 b => b.toNat

/-- The value of a type with the given bits; bits beyond the type's width are dropped. -/
def ofSlot (t : ValueType) (n : Nat) : Value :=
  match t with
  | .i32 => .i32 (UInt32.ofNat n).toInt32
  | .i64 => .i64 (UInt64.ofNat n).toInt64
  | .f32 => .f32 (UInt32.ofNat n)
  | .f64 => .f64 (UInt64.ofNat n)

end Value

/-! ## 3. Literals -/

/-- What can be wrong with the text of a type or of a value. -/
inductive LiteralError where
  | unknownType (name : String)
  /-- The text, already trimmed, is no literal of the type. -/
  | invalidLiteral (type : ValueType) (text : String)
  deriving DecidableEq, Repr, Inhabited

/-- The wording of a literal error. -/
def LiteralError.message : LiteralError → String
  | .unknownType name => "unknown value type `" ++ name ++ "`"
  | .invalidLiteral type text => "`" ++ text ++ "` is not a valid " ++ type.name ++ " literal"

/-- The type with a given name, or the error naming it. -/
def ValueType.read (s : String) : Except LiteralError ValueType :=
  match ofName? s with
  | some t => .ok t
  | none => .error (.unknownType s)

/-- The value of a type that a list of characters spells. -/
def Value.ofChars? (t : ValueType) (cs : List Char) : Option Value :=
  match t with
  | .i32 => (readIntIn (-2147483648) 2147483647 cs).map fun z => .i32 (Int32.ofInt z)
  | .i64 => (readIntIn (-9223372036854775808) 9223372036854775807 cs).map fun z => .i64 (Int64.ofInt z)
  | .f32 => (binary32.readFloat cs).map fun w => .f32 (UInt32.ofNat w)
  | .f64 => (binary64.readFloat cs).map fun w => .f64 (UInt64.ofNat w)

/-- Reads a literal of a type, blanks at either end aside. -/
def Value.parse (t : ValueType) (s : String) : Except LiteralError Value :=
  match ofChars? t (Text.trimChars s.toList) with
  | some v => .ok v
  | none => .error (.invalidLiteral t (Text.trim s))

/-! ## 4. Signatures -/

/-- The types of a function. -/
structure Signature where
  params : List ValueType
  results : List ValueType
  deriving DecidableEq, Repr, Inhabited

/-- The names of some types, between commas. -/
def ValueType.listText (ts : List ValueType) : String := ", ".intercalate (ts.map ValueType.name)

/-- A list of values described by its types. -/
def Value.describe (vs : List Value) : String := "(" ++ ValueType.listText (vs.map Value.type) ++ ")"

/-- Do the values have exactly these types? -/
def Value.match? (ts : List ValueType) (vs : List Value) : Bool := vs.map Value.type == ts

namespace Signature

/-- The results of a signature: none as an empty pair of brackets, one bare, several in brackets. -/
def resultsText : List ValueType → String
  | [] => "()"
  | [t] => t.name
  | ts => "(" ++ ValueType.listText ts ++ ")"

/-- The text of a signature. -/
def text (s : Signature) : String :=
  "(" ++ ValueType.listText s.params ++ ") -> " ++ resultsText s.results

/-- May a function of this signature be called with these arguments? -/
def accepts (s : Signature) (args : List Value) : Bool := Value.match? s.params args

/-- May a function of this signature return these values? -/
def returns (s : Signature) (vs : List Value) : Bool := Value.match? s.results vs

theorem accepts_iff {s : Signature} {args : List Value} :
    s.accepts args = true ↔ args.map Value.type = s.params := beq_iff_eq

theorem returns_iff {s : Signature} {vs : List Value} :
    s.returns vs = true ↔ vs.map Value.type = s.results := beq_iff_eq

end Signature

end Embedder
