import Embedder.Number.Decimal

/-!
# Engine configuration

The settings of an engine, and the words for them. On the command line and in the environment words
may be written in any ASCII case; in files only the names themselves are admitted.
-/

namespace Embedder

/-! ## 1. Words -/

/-- The code generators. -/
inductive Backend where
  | cranelift
  | winch
  deriving DecidableEq, Repr, Inhabited

/-- How much the code generator optimises. -/
inductive OptLevel where
  | off
  | speed
  | speedAndSize
  deriving DecidableEq, Repr, Inhabited

/-- The name of a backend. -/
def Backend.name : Backend → String
  | .cranelift => "cranelift"
  | .winch => "winch"

/-- The title of a backend in messages. -/
def Backend.title : Backend → String
  | .cranelift => "Cranelift"
  | .winch => "Winch"

/-- The backend with exactly this name. -/
def Backend.ofName? (s : String) : Option Backend :=
  [Backend.cranelift, .winch].find? fun b => b.name == s

/-- The name of an optimisation level. -/
def OptLevel.name : OptLevel → String
  | .off => "none"
  | .speed => "speed"
  | .speedAndSize => "speed_and_size"

/-- The title of an optimisation level in messages. -/
def OptLevel.title : OptLevel → String
  | .off => "None"
  | .speed => "Speed"
  | .speedAndSize => "SpeedAndSize"

/-- The optimisation level with exactly this name. -/
def OptLevel.ofName? (s : String) : Option OptLevel :=
  [OptLevel.off, .speed, .speedAndSize].find? fun l => l.name == s

/-- A word that names no setting, in lower case. -/
inductive WordError where
  | unknownBackend (word : String)
  | unknownOptLevel (word : String)
  deriving DecidableEq, Repr, Inhabited

/-- The wording of a word error. -/
def WordError.message : WordError → String
  | .unknownBackend w => "unknown backend `" ++ w ++ "`"
  | .unknownOptLevel w => "unknown optimization level `" ++ w ++ "`"

/-- A text with its ASCII letters in lower case. -/
def lowerText (s : String) : String := String.ofList (s.toList.map Number.lowerAscii)

/-- The backend that a word names in any case. -/
def Backend.parse (s : String) : Except WordError Backend :=
  match ofName? (lowerText s) with
  | some b => .ok b
  | none => .error (.unknownBackend (lowerText s))

/-- The optimisation level that a word names in any case; hyphens may stand for underscores. -/
def OptLevel.parse (s : String) : Except WordError OptLevel :=
  let word := lowerText s
  match ofName? (if word = "speed-and-size" then "speed_and_size" else word) with
  | some l => .ok l
  | none => .error (.unknownOptLevel word)

/-! ## 2. Configurations -/

/-- The settings of an engine. -/
structure EngineConfig where
  backend : Backend := .cranelift
  optLevel : OptLevel := .speed
  debugInfo : Bool := false
  /-- The greatest size of the guest's stack in bytes, or the engine's own choice. -/
  maxWasmStack : Option Nat := none
  deriving DecidableEq, Repr, Inhabited

end Embedder
