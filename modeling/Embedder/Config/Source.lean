import Embedder.Config
import Embedder.Diagnostic
import Embedder.Text.Utf8
import Embedder.Toml.Parser

/-!
# Where a configuration comes from

A configuration has up to three sources: a file, variables of the environment, and flags. A flag wins
over a variable, a variable over the file and the file over the defaults, each field by itself. A
variable with a value that means nothing is passed over; a file that cannot be used is an error.
-/

namespace Embedder

/-! ## 1. Files -/

/-- Does an item hold nothing? -/
def Toml.Item.isEmpty : Toml.Item → Bool
  | .array [] | .inlineTable _ _ [] | .table _ _ [] | .tables [] => true
  | _ => false

/-- The word of a setting in a file: a text, or a table whose only key is the word and holds nothing. -/
def Toml.Item.word? : Toml.Item → Option String
  | .string s => some s
  | .table _ _ [(k, v)] | .inlineTable _ _ [(k, v)] => if v.isEmpty then some k else none
  | _ => none

/-- The truth value that an item is. -/
def Toml.Item.boolean? : Toml.Item → Option Bool
  | .boolean b => some b
  | _ => none

/-- The count that an item is: an integer that is not negative. -/
def Toml.Item.count? : Toml.Item → Option Nat
  | .integer z => if 0 ≤ z then some z.toNat else none
  | _ => none

/-- The setting of a key, or the default if the key is missing. -/
def Toml.setting {α : Type} (ms : Toml.Members) (key : String) (default : α)
    (read : Toml.Item → Option α) : Except String α :=
  match Toml.find? ms key with
  | none => .ok default
  | some i =>
    match read i with
    | some a => .ok a
    | none => .error ("invalid value for key " ++ key)

namespace EngineConfig

/-- The configuration that a table describes. Keys without a meaning are passed over. -/
def ofMembers (ms : Toml.Members) : Except String EngineConfig := do
  let base : EngineConfig := {}
  let backend ← Toml.setting ms "backend" base.backend fun i => i.word?.bind Backend.ofName?
  let optLevel ← Toml.setting ms "opt_level" base.optLevel fun i => i.word?.bind OptLevel.ofName?
  let debugInfo ← Toml.setting ms "debug_info" base.debugInfo Toml.Item.boolean?
  let maxWasmStack ← Toml.setting ms "max_wasm_stack" base.maxWasmStack fun i => i.count?.map some
  return { backend, optLevel, debugInfo, maxWasmStack }

/-- The configuration that the text of a file describes. -/
def ofText (text : String) : Except String EngineConfig := do ofMembers (← Toml.parse text)

end EngineConfig

/-! ## 2. The environment -/

/-- What a program can see of the world around it. -/
structure Environment where
  /-- The bytes of the file at a path, or why they cannot be read. -/
  file : String → Except String (List UInt8)
  /-- The value of a variable, if it is set. -/
  var : String → Option (List UInt8)

namespace Environment

/-- The value of a variable that is set to a text. -/
def text? (env : Environment) (name : String) : Option String :=
  (env.var name).bind fun bs => (Text.Utf8.decodeText bs).toOption

/-- The text of the file at a path, or why it cannot be read. -/
def fileText (env : Environment) (path : String) : Except String String := do
  match Text.Utf8.decodeText (← env.file path) with
  | .ok s => return s
  | .error _ => throw "stream did not contain valid UTF-8"

/-- The backend that a variable asks for. -/
def backend? (env : Environment) : Option (Except WordError Backend) :=
  (env.text? "WATHOST_BACKEND").map Backend.parse

/-- The optimisation level that a variable asks for. -/
def optLevel? (env : Environment) : Option (Except WordError OptLevel) :=
  (env.text? "WATHOST_OPT_LEVEL").map OptLevel.parse

/-- A count of bytes: an optional plus sign and digits, below `2 ^ 64`. -/
def byteCount (s : String) : Option Nat :=
  let digits := match s.toList with
    | '+' :: ds => ds
    | ds => ds
  (Number.readNat digits).filter fun n => n < Number.pow2 64

/-- The size of the stack that a variable asks for. -/
def maxWasmStack? (env : Environment) : Option (Except String Nat) :=
  (env.text? "WATHOST_MAX_WASM_STACK").map fun s =>
    match byteCount s with
    | some n => .ok n
    | none => .error s

/-- The complaints about variables that mean nothing. -/
def warnings (env : Environment) : List String :=
  let backend := match env.backend? with
    | some (.error e) => ["Ignoring WATHOST_BACKEND: " ++ e.message]
    | _ => []
  let optLevel := match env.optLevel? with
    | some (.error e) => ["Ignoring WATHOST_OPT_LEVEL: " ++ e.message]
    | _ => []
  let stack := match env.maxWasmStack? with
    | some (.error s) => ["Ignoring WATHOST_MAX_WASM_STACK: '" ++ s ++ "' is not a byte count"]
    | _ => []
  backend ++ optLevel ++ stack

end Environment

/-! ## 3. All sources together -/

/-- The value of a source that has a valid one. -/
def valid? {ε α : Type} : Option (Except ε α) → Option α
  | some (.ok a) => some a
  | _ => none

/-- The settings that flags can give. -/
structure ConfigFlags where
  /-- The path of a file. -/
  config : Option String := none
  backend : Option Backend := none
  optLevel : Option OptLevel := none
  deriving DecidableEq, Repr, Inhabited

namespace EngineConfig

/-- The configuration in the file at a path. -/
def ofFile (env : Environment) (path : String) : Except RuntimeError EngineConfig :=
  match env.fileText path with
  | .error e => .error (.configuration ("cannot read " ++ path ++ ": " ++ e))
  | .ok text =>
    match ofText text with
    | .error e => .error (.configuration ("invalid config " ++ path ++ ": " ++ e))
    | .ok c => .ok c

/-- The configuration with the valid variables on top. -/
def withEnvironment (c : EngineConfig) (env : Environment) : EngineConfig :=
  { c with
    backend := (valid? env.backend?).getD c.backend
    optLevel := (valid? env.optLevel?).getD c.optLevel
    maxWasmStack := valid? env.maxWasmStack? <|> c.maxWasmStack }

/-- The configuration with the flags on top. -/
def withFlags (c : EngineConfig) (flags : ConfigFlags) : EngineConfig :=
  { c with
    backend := flags.backend.getD c.backend
    optLevel := flags.optLevel.getD c.optLevel }

/-- The path of the file to read: the flag's, or the variable's. -/
def filePath? (env : Environment) (flags : ConfigFlags) : Option String :=
  flags.config <|> env.text? "WATHOST_CONFIG"

/-- The configuration of all sources. -/
def resolve (env : Environment) (flags : ConfigFlags) : Except RuntimeError EngineConfig := do
  let base ← match filePath? env flags with
    | some path => ofFile env path
    | none => pure {}
  return (base.withEnvironment env).withFlags flags

end EngineConfig

end Embedder
