import Embedder.Execution

/-!
# Instances

An instance is a module with its imports bound and a state of its own. It is *ready* until the first
call that traps, and *trapped* from then on: its functions can no longer be called, while its globals and
memories can still be read. The reason it keeps is the text of that trap.
-/

namespace Embedder

/-! ## 1. Instances -/

/-- Whether an instance can be used. -/
inductive Lifecycle where
  | ready
  | trapped (reason : String)
  deriving DecidableEq, Repr, Inhabited

/-- A module with its imports bound and a state of its own. -/
structure Instance (σ : Type) where
  module : Module
  bindings : List (Binding σ)
  /-- The functions that the imports call. -/
  slots : List (Slot σ)
  state : Wasm.State
  lifecycle : Lifecycle := .ready
  /-- The number of calls that came to their end. It is counted without a limit. -/
  invocations : Nat := 0

variable {σ : Type}

/-- Can functions of the instance be called? -/
def Instance.isReady (i : Instance σ) : Bool := i.lifecycle == .ready

/-! ## 2. Instantiation -/

/-- The name of the start function in errors. -/
def startRoutine : String := "<start>"

/-- The error of an instance that could not be made. With a start function every fault of guest or host
    counts as one of it, also one in the segments before it. -/
def creationError (m : Module) (e : EngineError) : RuntimeError :=
  if m.start.isSome && e.isGuestFault then .startRoutineTrap (.ofEngineError startRoutine e)
  else .instantiation e.fullText

/-- Runs the start function of a module, if it has one, on a new state. -/
def runStart (m : Module) (slots : List (Slot σ)) (s : Wasm.State) (w : σ) : Run σ :=
  match m.start with
  | none => ⟨.ok [], s, w⟩
  | some f => runFunction m slots s f [] 0 w

/-- Makes an instance of a module whose imports are bound. -/
def createInstance (m : Module) (bindings : List (Binding σ)) (slots : List (Slot σ)) (w : σ) :
    Except RuntimeError (Instance σ) × σ :=
  match m.wasm.initialState with
  | .error t => (.error (creationError m { cause := .trap t }), w)
  | .ok s =>
    let run := runStart m slots s w
    match run.result with
    | .error e => (.error (creationError m e), run.world)
    | .ok _ => (.ok { module := m, bindings, slots, state := run.state }, run.world)

/-- The bindings and linked functions of a module, with nothing run yet. -/
def prepare (m : Module) (r : Registry σ) :
    Except RuntimeError (List (Binding σ) × List (Slot σ)) := do
  let bindings ← resolveImports m r
  let linker ← link bindings
  let slots ← slotsOf linker m.imports
  return (bindings, slots)

/-- Instantiates a module with functions of a registry. -/
def instantiate (m : Module) (r : Registry σ) (w : σ) : Except RuntimeError (Instance σ) × σ :=
  match prepare m r with
  | .error e => (.error e, w)
  | .ok (bindings, slots) => createInstance m bindings slots w

namespace Instance

/-! ## 3. Exports -/

/-- The export with a name. -/
def exportOf (i : Instance σ) (name : String) : Except RuntimeError ExportDeclaration :=
  match i.module.export? name with
  | some e => .ok e
  | none => .error (.exportNotFound name)

/-- The signature of the exported function with a name. -/
def exportSignature (i : Instance σ) (name : String) : Except RuntimeError Signature := do
  let e ← i.exportOf name
  match e.kind with
  | .function s => return s
  | k => throw (.exportKindMismatch name "function" k.name)

/-- What the module has under an export's name. -/
def target? (i : Instance σ) (name : String) : Option Wasm.ExportKind :=
  (i.module.wasm.exports.find? fun e => e.name == name).map Wasm.Export.kind

/-- The index of the exported function with a name. -/
def funcIndex? (i : Instance σ) (name : String) : Option Nat :=
  match i.target? name with
  | some (.func k) => some k
  | _ => none

/-! ## 4. Calls -/

/-- Calls a function of a ready instance with arguments that fit. A trap leaves the instance trapped. -/
def callFunction (i : Instance σ) (name : String) (s : Signature) (func : Nat) (args : List Value) (w : σ) :
    Except RuntimeError (List Value) × Instance σ × σ :=
  let run := runFunction i.module i.slots i.state func (args.map Value.slot) s.results.length w
  match run.result with
  | .error e =>
    let trap := RuntimeError.ofEngineError name e
    (.error trap, { i with state := run.state, lifecycle := .trapped trap.message }, run.world)
  | .ok results =>
    (.ok (valuesOf s.results results),
      { i with state := run.state, invocations := i.invocations + 1 }, run.world)

/-- Why a call would be refused, and otherwise the signature and index of the function. -/
def admitCall (i : Instance σ) (name : String) (args : List Value) : Except RuntimeError (Signature × Nat) := do
  let s ← i.exportSignature name
  match i.lifecycle with
  | .trapped reason => throw (.instanceTrapped reason)
  | .ready =>
    if s.accepts args then
      match i.funcIndex? name with
      | some f => return (s, f)
      | none => throw (.exportNotFound name)
    else throw (.arityOrTypeMismatch name s.text (Value.describe args))

/-- Calls the exported function with a name. -/
def invoke (i : Instance σ) (name : String) (args : List Value) (w : σ) :
    Except RuntimeError (List Value) × Instance σ × σ :=
  match i.admitCall name args with
  | .error e => (.error e, i, w)
  | .ok (s, f) => i.callFunction name s f args w

end Instance

/-! ## 5. Exit statuses -/

/-- The status of a program. -/
structure ExitStatus where
  code : Int32
  deriving DecidableEq, Repr, Inhabited

namespace ExitStatus

/-- Does a status report success? -/
def success (s : ExitStatus) : Bool := s.code == 0

/-- The status that the results of an entry point give: none means success, and one integer is the
    status itself. -/
def ofResults (entry : String) (results : List Value) : Except RuntimeError ExitStatus :=
  match results with
  | [] => .ok ⟨0⟩
  | [.i32 v] => .ok ⟨v⟩
  | [.i64 v] =>
    if -2147483648 ≤ v.toInt && v.toInt ≤ 2147483647 then .ok ⟨Int32.ofInt v.toInt⟩
    else .error (.arityOrTypeMismatch entry "an exit status within i32 range" (toString v.toInt))
  | vs => .error (.arityOrTypeMismatch entry "a single integer result" (Value.describe vs))

end ExitStatus

namespace Instance

/-- Calls an entry point and takes its results as a status. -/
def invokeMain (i : Instance σ) (name : String) (w : σ) : Except RuntimeError ExitStatus × Instance σ × σ :=
  match i.invoke name [] w with
  | (.error e, i', w') => (.error e, i', w')
  | (.ok results, i', w') => (ExitStatus.ofResults name results, i', w')

/-! ## 6. Globals and memories -/

/-- The slot of the exported global with a name. -/
def globalSlot? (i : Instance σ) (name : String) : Option Nat :=
  match i.target? name with
  | some (.global k) => i.state.globals[k]?
  | _ => none

/-- The value of the exported global with a name. -/
def global (i : Instance σ) (name : String) : Except RuntimeError Value := do
  let e ← i.exportOf name
  match e.kind with
  | .global type _ =>
    match i.globalSlot? name, type with
    | none, _ => throw (.exportNotFound name)
    | some n, some t => return Value.ofSlot t n
    | some _, none =>
      throw (.arityOrTypeMismatch name "a numeric global" "engine value has no host representation")
  | k => throw (.exportKindMismatch name "global" k.name)

/-- The exported memory with a name; one that is shared cannot be reached. -/
def memory? (i : Instance σ) (name : String) : Option Wasm.Memory :=
  match i.target? name with
  | some (.memory k) =>
    match i.module.wasm.memoryTypes[k]? with
    | some t => if t.shared then none else i.state.memories[k]?
    | none => none
  | _ => none

/-- The bytes of a range of the exported memory with a name. -/
def readMemory (i : Instance σ) (name : String) (offset length : Nat) :
    Except RuntimeError (List UInt8) := do
  let e ← i.exportOf name
  match e.kind with
  | .memory .. =>
    match i.memory? name with
    | none => throw (.exportNotFound name)
    | some m =>
      if m.inRange offset length then return m.readBytes offset length
      else throw (.memoryAccess name offset length m.size)
  | k => throw (.exportKindMismatch name "memory" k.name)

end Instance

end Embedder
