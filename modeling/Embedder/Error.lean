import Embedder.Fault

/-!
# Errors of the embedder

Every operation of the embedder that can fail fails with a `RuntimeError`. Each of the fifteen kinds
has a text (`message`), a category for diagnostics and an exit status of its own.
-/

namespace Embedder

/-! ## 1. The kinds -/

/-- The errors of the embedder. -/
inductive RuntimeError where
  | configuration (message : String)
  | sourceUnavailable (path message : String)
  | parse (message : String) (line column : Option Nat)
  | validation (message : String) (offset : Option Nat)
  | duplicateImport (module name : String) (existing requested : Signature)
  | unresolvedImport (module name : String)
  | signatureMismatch (module name : String) (expected provided : Signature)
  | startRoutineTrap (source : RuntimeError)
  | instantiation (message : String)
  | exportNotFound (name : String)
  | exportKindMismatch (name expected actual : String)
  | arityOrTypeMismatch (name expected actual : String)
  | trap (function : String) (kind : TrapKind) (message : String)
  | instanceTrapped (reason : String)
  | memoryAccess (name : String) (offset length size : Nat)
  deriving DecidableEq, Repr, Inhabited

namespace RuntimeError

/-- The trap that an engine error in a function amounts to. -/
def ofEngineError (function : String) (e : EngineError) : RuntimeError :=
  .trap function e.kind e.message

/-! ## 2. Texts -/

/-- The position of a parse error, as it stands in its text. -/
def positionText : (line column : Option Nat) → String
  | some line, some column => s!" at {line}:{column}"
  | some line, none => s!" at line {line}"
  | _, _ => ""

/-- The digits of a number to base sixteen. -/
def hexText (n : Nat) : String := String.ofList (Nat.toDigits 16 n)

/-- The byte offset of a validation error, as it stands in its text. -/
def offsetText : Option Nat → String
  | some offset => " at offset 0x" ++ hexText offset
  | none => ""

/-- The text of an error. -/
def message : RuntimeError → String
  | .configuration text => "Engine configuration rejected: " ++ text
  | .sourceUnavailable path text => "Cannot read module source " ++ path ++ ": " ++ text
  | .parse text line column => "Parse error" ++ positionText line column ++ ": " ++ text
  | .validation text offset => "Module validation failed" ++ offsetText offset ++ ": " ++ text
  | .duplicateImport module name existing requested =>
    "Duplicate import " ++ module ++ "." ++ name ++ ": registered as " ++ existing.text ++
      ", cannot re-register as " ++ requested.text
  | .unresolvedImport module name => "Unresolved import: module " ++ module ++ ", name " ++ name
  | .signatureMismatch module name expected provided =>
    "Signature mismatch for import " ++ module ++ "." ++ name ++ ": module expects " ++
      expected.text ++ ", registry provides " ++ provided.text
  | .startRoutineTrap source => "Start routine trapped: " ++ source.message
  | .instantiation text => "Instance creation failed: " ++ text
  | .exportNotFound name => "Export not found: " ++ name
  | .exportKindMismatch name expected actual =>
    "Export " ++ name ++ " is a " ++ actual ++ ", expected a " ++ expected
  | .arityOrTypeMismatch name expected actual =>
    "Arguments for " ++ name ++ " do not match: expected " ++ expected ++ ", got " ++ actual
  | .trap function kind text => "Trap in " ++ function ++ ": " ++ kind.text ++ ": " ++ text
  | .instanceTrapped reason => "Instance is unusable after an earlier trap: " ++ reason
  | .memoryAccess name offset length size =>
    "Memory access out of range on " ++ name ++ ": offset " ++ toString offset ++ ", length " ++
      toString length ++ ", memory size " ++ toString size

/-- The category of an error in diagnostics. -/
def category : RuntimeError → String
  | .configuration .. => "configuration"
  | .sourceUnavailable .. => "missing_file"
  | .parse .. => "parse"
  | .validation .. => "validation"
  | .duplicateImport .. => "duplicate_import"
  | .unresolvedImport .. => "unresolved_import"
  | .signatureMismatch .. => "signature_mismatch"
  | .startRoutineTrap .. => "start_trap"
  | .instantiation .. => "instantiation"
  | .exportNotFound .. => "export_not_found"
  | .exportKindMismatch .. => "export_kind"
  | .arityOrTypeMismatch .. => "argument_mismatch"
  | .trap .. => "trap"
  | .instanceTrapped .. => "instance_trapped"
  | .memoryAccess .. => "memory_access"

/-- The exit status of the command line for an error; no two kinds share one, and none is zero. -/
def exitCode : RuntimeError → Nat
  | .configuration .. => 64
  | .sourceUnavailable .. => 65
  | .parse .. => 66
  | .validation .. => 67
  | .duplicateImport .. => 68
  | .unresolvedImport .. => 69
  | .signatureMismatch .. => 70
  | .startRoutineTrap .. => 71
  | .instantiation .. => 72
  | .exportNotFound .. => 73
  | .exportKindMismatch .. => 74
  | .arityOrTypeMismatch .. => 75
  | .trap .. => 76
  | .instanceTrapped .. => 77
  | .memoryAccess .. => 78

/-! ## 3. Traps -/

/-- Is the error a fault of guest or host code? -/
def isTrap : RuntimeError → Bool
  | .trap .. | .startRoutineTrap .. => true
  | _ => false

/-- The kind of a trap, also of one in a start routine. -/
def trapKind : RuntimeError → Option TrapKind
  | .trap _ kind _ => some kind
  | .startRoutineTrap source => source.trapKind
  | _ => none

/-- The error that an error wraps. -/
def source : RuntimeError → Option RuntimeError
  | .startRoutineTrap source => some source
  | _ => none

end RuntimeError

end Embedder
