import Embedder.Config
import Embedder.Json
import Embedder.Value

/-!
# Values, signatures and configurations as JSON

Each type is written in one way and read in a few more: a structure also as the array of its fields, and
a name also as an object with that name as its only key and null under it. Members without a meaning
are passed over.
-/

namespace Embedder

namespace Json

/-- The name in a JSON value: a text, or an object with one member that is null. -/
def name? : Json → Option String
  | .string s => some s
  | .object [(k, .null)] => some k
  | _ => none

/-- The items of an array. -/
def items? : Json → Option (List Json)
  | .array items => some items
  | _ => none

/-- Are there two members with one of the given names? -/
def hasRepeated (j : Json) (names : List String) : Bool :=
  match j with
  | .object ms => names.any fun n => 1 < (ms.filter fun m => m.1 == n).length
  | _ => false

end Json

/-! ## 1. Types and values -/

/-- A type as JSON. -/
def ValueType.toJson (t : ValueType) : Json := .string t.name

/-- The type that JSON gives. -/
def ValueType.ofJson? (j : Json) : Option ValueType := j.name?.bind ValueType.ofName?

namespace Value

/-- A value as JSON: an object whose key is the type. -/
def toJson : Value → Json
  | .i32 v => .object [("I32", .int v.toInt)]
  | .i64 v => .object [("I64", .int v.toInt)]
  | .f32 b => .object [("F32", .float (UInt64.ofNat (Number.binary32.convert Number.binary64 b.toNat)))]
  | .f64 b => .object [("F64", .float b)]

/-- The bits of the float of a format that a JSON number is. An integer is rounded once. -/
def floatBits? (f : Number.Format) : Json → Option Nat
  | .float bits => some (Number.binary64.convert f bits.toNat)
  | .int z => some (f.ofInt z)
  | _ => none

/-- The value that JSON gives. -/
def ofJson? : Json → Option Value
  | .object [(k, v)] =>
    match k, v with
    | "I32", .int z => if -2147483648 ≤ z && z ≤ 2147483647 then some (.i32 (Int32.ofInt z)) else none
    | "I64", .int z => if -9223372036854775808 ≤ z && z ≤ 9223372036854775807 then some (.i64 (Int64.ofInt z)) else none
    | "F32", v => (floatBits? Number.binary32 v).map fun w => .f32 (UInt32.ofNat w)
    | "F64", v => (floatBits? Number.binary64 v).map fun w => .f64 (UInt64.ofNat w)
    | _, _ => none
  | _ => none

end Value

/-! ## 2. Signatures -/

namespace Signature

/-- A signature as JSON. -/
def toJson (s : Signature) : Json :=
  .object [("params", .array (s.params.map ValueType.toJson)),
    ("results", .array (s.results.map ValueType.toJson))]

/-- The list of types that JSON gives. -/
def typesOf? (j : Json) : Option (List ValueType) := j.items?.bind fun items => items.mapM ValueType.ofJson?

/-- The signature that JSON gives. -/
def ofJson? (j : Json) : Option Signature := do
  match j with
  | .array [p, r] => return ⟨← typesOf? p, ← typesOf? r⟩
  | .array _ => none
  | _ =>
    if j.hasRepeated ["params", "results"] then none
    else return ⟨← typesOf? (← j.member? "params"), ← typesOf? (← j.member? "results")⟩

end Signature

/-! ## 3. Configurations -/

namespace EngineConfig

/-- A configuration as JSON. -/
def toJson (c : EngineConfig) : Json :=
  .object [("backend", .string c.backend.name), ("opt_level", .string c.optLevel.name),
    ("debug_info", .bool c.debugInfo), ("max_wasm_stack", Json.orNull Json.ofNat c.maxWasmStack)]

/-- A missing field has its default. -/
def fieldOf {α : Type} (default : α) (read : Json → Option α) : Option Json → Option α
  | none => some default
  | some j => read j

/-- The configuration with the given fields. -/
def ofFields? (backend optLevel debugInfo stack : Option Json) : Option EngineConfig := do
  let base : EngineConfig := {}
  return {
    backend := ← fieldOf base.backend (fun j => j.name?.bind Backend.ofName?) backend
    optLevel := ← fieldOf base.optLevel (fun j => j.name?.bind OptLevel.ofName?) optLevel
    debugInfo := ← fieldOf base.debugInfo (fun j => match j with | .bool b => some b | _ => none) debugInfo
    maxWasmStack := ← fieldOf base.maxWasmStack (fun j =>
      match j with
      | .null => some none
      | .int z => if 0 ≤ z && z < 18446744073709551616 then some (some z.toNat) else none
      | _ => none) stack }

/-- The configuration that JSON gives. -/
def ofJson? (j : Json) : Option EngineConfig :=
  match j with
  | .array items =>
    if items.length ≤ 4 then ofFields? items[0]? items[1]? items[2]? items[3]? else none
  | .object _ =>
    if j.hasRepeated ["backend", "opt_level", "debug_info", "max_wasm_stack"] then none
    else
      ofFields? (j.member? "backend") (j.member? "opt_level") (j.member? "debug_info")
        (j.member? "max_wasm_stack")
  | _ => none

end EngineConfig

end Embedder
