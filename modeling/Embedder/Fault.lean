import Embedder.Value

/-!
# Faults while guest code runs

Three kinds of things can end a run of the engine: an engine trap (`EngineTrap`), a failure of a host
function (`HostError`), and any other complaint of the engine, given as text. An `EngineError` is such a
cause under any number of contexts, texts added on the way out.

`EngineError.kind` sorts engine errors into the kinds shown to users (`TrapKind`). It looks for a host
error and then for a trap along the whole chain of contexts and cause, and so do the other two questions
that are asked of an engine error, `isGuestFault` and `message`.
-/

namespace Embedder

/-! ## 1. Causes -/

/-- The traps of the engine. -/
inductive EngineTrap where
  | stackOverflow
  | memoryOutOfBounds
  | heapMisaligned
  | tableOutOfBounds
  | indirectCallToNull
  | badSignature
  | integerOverflow
  | integerDivisionByZero
  | badConversionToInteger
  | unreachableCodeReached
  /-- The run was stopped from outside, its step budget being used up. -/
  | interrupt
  /-- Any other, known by the engine's words for it. -/
  | other (text : String)
  deriving DecidableEq, Repr, Inhabited

/-- The engine's words for a trap. -/
def EngineTrap.message : EngineTrap → String
  | .stackOverflow => "wasm trap: call stack exhausted"
  | .memoryOutOfBounds => "wasm trap: out of bounds memory access"
  | .heapMisaligned => "wasm trap: unaligned atomic"
  | .tableOutOfBounds => "wasm trap: undefined element: out of bounds table access"
  | .indirectCallToNull => "wasm trap: uninitialized element"
  | .badSignature => "wasm trap: indirect call type mismatch"
  | .integerOverflow => "wasm trap: integer overflow"
  | .integerDivisionByZero => "wasm trap: integer divide by zero"
  | .badConversionToInteger => "wasm trap: invalid conversion to integer"
  | .unreachableCodeReached => "wasm trap: wasm `unreachable` instruction executed"
  | .interrupt => "wasm trap: interrupt"
  | .other text => "wasm trap: " ++ text

/-- How a call of a host function can fail. -/
inductive HostError where
  /-- The function itself reports a failure. -/
  | failed (text : String)
  /-- It was called with arguments of other types than declared. -/
  | invalidArguments (function expected actual : String)
  /-- It returned values of other types than declared. -/
  | invalidResults (function expected actual : String)
  deriving DecidableEq, Repr, Inhabited

/-- The wording of a host error. -/
def HostError.message : HostError → String
  | .failed text => text
  | .invalidArguments function expected actual =>
    function ++ " called with " ++ actual ++ ", expected " ++ expected
  | .invalidResults function expected actual =>
    function ++ " returned " ++ actual ++ ", declared " ++ expected

/-- What ended a run of the engine. -/
inductive Cause where
  | trap (t : EngineTrap)
  | host (e : HostError)
  | other (text : String)
  deriving DecidableEq, Repr, Inhabited

/-- The wording of a cause. -/
def Cause.message : Cause → String
  | .trap t => t.message
  | .host e => e.message
  | .other text => text

/-! ## 2. Engine errors -/

/-- A cause under contexts, the outermost first. -/
structure EngineError where
  cause : Cause
  contexts : List String := []
  deriving DecidableEq, Repr, Inhabited

namespace EngineError

/-- The same error under one more context. -/
def within (e : EngineError) (context : String) : EngineError :=
  { e with contexts := context :: e.contexts }

/-- The full text of an engine error: contexts, then the cause. -/
def fullText (e : EngineError) : String := ": ".intercalate (e.contexts ++ [e.cause.message])

end EngineError

/-- One of the errors that an engine error is made of. -/
inductive Link where
  | context (text : String)
  | cause (c : Cause)
  deriving DecidableEq, Repr, Inhabited

namespace Link

/-- The link as a host error. -/
def hostError? : Link → Option HostError
  | .cause (.host e) => some e
  | _ => none

/-- The link as an engine trap. -/
def engineTrap? : Link → Option EngineTrap
  | .cause (.trap t) => some t
  | _ => none

end Link

namespace EngineError

/-- The errors that an engine error is made of, the outermost first. -/
def chain (e : EngineError) : List Link := e.contexts.map Link.context ++ [.cause e.cause]

/-- The host error in an engine error. -/
def hostError? (e : EngineError) : Option HostError := e.chain.findSome? Link.hostError?

/-- The engine trap in an engine error. -/
def engineTrap? (e : EngineError) : Option EngineTrap := e.chain.findSome? Link.engineTrap?

end EngineError

/-! ## 3. Kinds -/

/-- The kinds of faults shown to users. -/
inductive TrapKind where
  | integerDivisionByZero
  | integerOverflow
  | invalidConversionToInteger
  | memoryOutOfBounds
  | tableOutOfBounds
  | indirectCallToNull
  | badSignature
  | stackOverflow
  | unreachable
  | hostFunction
  | other
  deriving DecidableEq, Repr, Inhabited

/-- The text of a kind. -/
def TrapKind.text : TrapKind → String
  | .integerDivisionByZero => "integer divide by zero"
  | .integerOverflow => "integer overflow"
  | .invalidConversionToInteger => "invalid conversion to integer"
  | .memoryOutOfBounds => "out of bounds memory access"
  | .tableOutOfBounds => "undefined table element"
  | .indirectCallToNull => "uninitialized element"
  | .badSignature => "indirect call type mismatch"
  | .stackOverflow => "call stack exhausted"
  | .unreachable => "unreachable executed"
  | .hostFunction => "host function failed"
  | .other => "runtime fault"

/-- The kind of an engine trap. An unaligned access counts as one out of bounds, and an interrupt is
    no fault of its own kind, like all that is known by its words alone. -/
def EngineTrap.kind : EngineTrap → TrapKind
  | .integerDivisionByZero => .integerDivisionByZero
  | .integerOverflow => .integerOverflow
  | .badConversionToInteger => .invalidConversionToInteger
  | .memoryOutOfBounds | .heapMisaligned => .memoryOutOfBounds
  | .tableOutOfBounds => .tableOutOfBounds
  | .indirectCallToNull => .indirectCallToNull
  | .badSignature => .badSignature
  | .stackOverflow => .stackOverflow
  | .unreachableCodeReached => .unreachable
  | .interrupt | .other _ => .other

namespace EngineError

/-- The kind of an engine error. -/
def kind (e : EngineError) : TrapKind :=
  match e.hostError?, e.engineTrap? with
  | some _, _ => .hostFunction
  | none, some t => t.kind
  | none, none => .other

/-- Did guest or host code cause the error, and not the engine itself? -/
def isGuestFault (e : EngineError) : Bool := e.hostError?.isSome || e.engineTrap?.isSome

/-- The text shown for an engine error: host errors and traps speak for themselves, anything else is
    shown with its contexts. -/
def message (e : EngineError) : String :=
  match e.hostError?, e.engineTrap? with
  | some h, _ => h.message
  | none, some t => t.message
  | none, none => e.fullText

end EngineError

end Embedder
