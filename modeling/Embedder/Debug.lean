import Embedder.Instance
import Embedder.Text.Quoted

/-!
# Texts for developers

The full contents of engines, modules, functions and instances on one line: the name of the type, then its
fields by name in braces.
-/

namespace Embedder.Debug

/-! ## 1. Shapes -/

/-- A structure: its name and its fields. -/
def record (name : String) (fields : List (String × String)) : String :=
  name ++ " \x7b " ++ ", ".intercalate (fields.map fun f => f.1 ++ ": " ++ f.2) ++ " \x7d"

/-- A list in brackets. -/
def list (items : List String) : String := "[" ++ ", ".intercalate items ++ "]"

/-- A value that may be missing. -/
def option {α : Type} (f : α → String) : Option α → String
  | some a => "Some(" ++ f a ++ ")"
  | none => "None"

/-- A truth value. -/
def bool (b : Bool) : String := if b then "true" else "false"

/-! ## 2. Signatures and kinds -/

/-- A value type. -/
def valueType : ValueType → String
  | .i32 => "I32"
  | .i64 => "I64"
  | .f32 => "F32"
  | .f64 => "F64"

/-- A signature. -/
def signature (s : Signature) : String :=
  record "FuncSignature"
    [("params", list (s.params.map valueType)), ("results", list (s.results.map valueType))]

/-- The kind of an item. -/
def kind : ExternKind → String
  | .function s => "Function(" ++ signature s ++ ")"
  | .memory minimum maximum shared =>
    "Memory(" ++ record "MemoryLimits"
      [("minimum", toString minimum), ("maximum", option toString maximum), ("shared", bool shared)] ++ ")"
  | .global t isMutable =>
    "Global(" ++ record "GlobalType" [("value_type", option valueType t), ("mutable", bool isMutable)] ++ ")"
  | .table minimum maximum =>
    "Table(" ++ record "TableLimits"
      [("minimum", toString minimum), ("maximum", option toString maximum)] ++ ")"

/-! ## 3. Engines and modules -/

/-- A configuration. -/
def config (c : EngineConfig) : String :=
  record "EngineConfig"
    [("backend", c.backend.title), ("opt_level", c.optLevel.title), ("debug_info", bool c.debugInfo),
      ("max_wasm_stack", option toString c.maxWasmStack)]

/-- An engine. -/
def engine (e : Engine) : String := "EngineHandle \x7b config: " ++ config e.config ++ ", .. \x7d"

/-- An import. -/
def importItem (d : ImportDeclaration) : String :=
  record "ImportDeclaration"
    [("module", Text.quoted d.module), ("name", Text.quoted d.name), ("kind", kind d.kind)]

/-- An export. -/
def exportItem (d : ExportDeclaration) : String :=
  record "ExportDeclaration" [("name", Text.quoted d.name), ("kind", kind d.kind)]

/-- A module. -/
def module (m : Module) : String :=
  record "Module"
    [("name", option Text.quoted m.name), ("imports", list (m.imports.map importItem)),
      ("exports", list (m.exports.map exportItem)), ("start", option toString m.start)]

/-! ## 4. Functions and instances -/

/-- A host function. -/
def function {σ : Type} (f : HostFunction σ) : String :=
  record "HostFunction" [("signature", signature f.signature), ("callable", Text.quoted "<host fn>")]

/-- The state of an instance. -/
def lifecycle : Lifecycle → String
  | .ready => "Ready"
  | .trapped reason => record "Trapped" [("reason", Text.quoted reason)]

/-- An instance. -/
def inst {σ : Type} (i : Instance σ) : String :=
  record "Instance"
    [("module", module i.module),
      ("bindings", Text.quoted ("<" ++ toString i.bindings.length ++ " host functions>")),
      ("state", lifecycle i.lifecycle),
      ("metadata", record "InstanceMetadata" [("invocation_count", toString i.invocations)])]

end Embedder.Debug
