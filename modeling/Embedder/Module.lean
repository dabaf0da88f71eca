import Embedder.Config.Source
import Embedder.Engine
import Embedder.Interface
import Embedder.Wasm.Binary.Module
import Embedder.Wasm.Code
import Embedder.Wasm.Validity.Module
import Embedder.Wasm.Wat.Numbering

/-!
# Loading modules

A module comes as text or in binary form. Text is read first; then the module has to be valid, the
engine has to be able to run it, and its functions at the boundary have to be such that a host can call
them. **Loading is all or nothing**: the first of these steps that fails gives the error.

A fault of validity has an offset into the binary form, if the module came in it. What the engine cannot
run and what cannot cross the boundary has none.

A `Judge` reads and checks the bodies of functions. Loading does not depend on who that is; what is loaded to be run
was judged by `Judge.own`.
-/

namespace Embedder

/-! ## 1. Bodies of functions -/

/-- A way to read the bodies of functions and to check them. -/
structure Judge (β : Type) where
  read : Wasm.Binary.Reader β
  check : Wasm.Context → Wasm.FuncType Nat → β → Wasm.Check Unit

namespace Judge

variable {β : Type}

/-- The judge that knows the instructions of the machine. -/
def own : Judge Wasm.Body := ⟨Wasm.Binary.body, Wasm.Context.checkBody⟩

/-- Is a module valid in the language that the checker knows? -/
def validate (J : Judge β) (m : Wasm.Module β) : Wasm.Check Unit := m.check J.check .known

/-- Can the engine run a module? -/
def checkRunnable (J : Judge β) (m : Wasm.Module β) : Wasm.Check Unit := m.check J.check .runnable

end Judge

/-! ## 2. Steps of loading -/

/-- A module that passed every step of loading, with what the steps gave. -/
structure Loaded {β : Type} (J : Judge β) where
  wasm : Wasm.Module β
  imports : List ImportDeclaration
  exports : List ExportDeclaration
  valid : J.validate wasm = .ok ()
  runnable : J.checkRunnable wasm = .ok ()
  imports_eq : wasm.imports.mapM wasm.describeImport = .ok imports
  exports_eq : wasm.exports.mapM wasm.describeExport = .ok exports

namespace Loaded

variable {β : Type} {J : Judge β}

/-- The name of a module. -/
def name (l : Loaded J) : Option String := l.wasm.name

/-- The function that runs when the module is instantiated. -/
def start (l : Loaded J) : Option Nat := l.wasm.start

/-- The first offset of a module: a fault of validity that no byte can be blamed for is reported here. -/
def headerOffset : Nat := 0

/-- Loads a module that was read. -/
def ofWasm (J : Judge β) (m : Wasm.Module β) : Except RuntimeError (Loaded J) :=
  match valid : J.validate m with
  | .error e => .error (.validation e (some headerOffset))
  | .ok _ =>
    match runnable : J.checkRunnable m with
    | .error e => .error (.validation e none)
    | .ok _ =>
      match imports_eq : m.imports.mapM m.describeImport with
      | .error e => .error (.validation e none)
      | .ok imports =>
        match exports_eq : m.exports.mapM m.describeExport with
        | .error e => .error (.validation e none)
        | .ok exports => .ok { wasm := m, imports, exports, valid, runnable, imports_eq, exports_eq }

/-- The error for a component: a fault of the module that is met first in it, or that it is none. -/
def componentError (J : Judge β) (leading : Option (Wasm.Module β)) : RuntimeError :=
  match leading.map J.validate with
  | some (.error e) => .validation e (some headerOffset)
  | _ => .validation "components are not supported" none

/-- Loads a module in binary form. -/
def ofBinary (J : Judge β) (bytes : List UInt8) : Except RuntimeError (Loaded J) :=
  match Wasm.Binary.Contents.ofBytes J.read bytes with
  | .error f => .error (.validation f.message (some f.offset))
  | .ok (.component leading) => .error (componentError J leading)
  | .ok (.module m) => ofWasm J m

end Loaded

/-! ## 3. Modules -/

/-- A loaded module that can be run. -/
structure Module extends Loaded .own where
  engine : Engine
  /-- The code of the module, ready to run. -/
  program : Wasm.Program
  program_eq : program = wasm.program

namespace Module

/-- The name of a module, or a stand-in. -/
def title (m : Module) : String := m.name.getD "<anonymous>"

/-- The export with a name. -/
def export? (m : Module) (name : String) : Option ExportDeclaration :=
  m.exports.find? fun e => e.name == name

/-- A module that was loaded, made ready for an engine. -/
def ofLoaded (engine : Engine) (l : Loaded .own) : Module :=
  { l with engine, program := l.wasm.program, program_eq := rfl }

/-- Loads a module that was read. -/
def ofWasm (engine : Engine) (m : Wasm.Module) : Except RuntimeError Module :=
  (Loaded.ofWasm .own m).map (ofLoaded engine)

/-- Loads a module in binary form. -/
def ofBinary (engine : Engine) (bytes : List UInt8) : Except RuntimeError Module :=
  (Loaded.ofBinary .own bytes).map (ofLoaded engine)

/-- Loads a module from its text. -/
def ofText (engine : Engine) (source : String) : Except RuntimeError Module :=
  let text := source.toList
  let complain (c : Complaint) : RuntimeError := .ofDiagnostic (c.render text)
  match Wasm.Wat.Document.ofText text with
  | .error c => .error (complain c)
  | .ok (.component c) =>
    match c.leadingModule with
    | .error c => .error (complain c)
    | .ok leading => .error (Loaded.componentError .own leading)
  | .ok (.binary bytes) => ofBinary engine bytes
  | .ok (.module name fields) =>
    match Wasm.Wat.Module.ofFields name fields with
    | .error c => .error (complain c)
    | .ok m => ofWasm engine m

/-- Loads a module from the bytes of a file: binary if they begin so, text otherwise. -/
def ofBytes (engine : Engine) (path : String) (bytes : List UInt8) : Except RuntimeError Module :=
  if Wasm.Binary.magic.isPrefixOf bytes then ofBinary engine bytes
  else
    match Text.Utf8.decodeText bytes with
    | .error f => .error (.sourceUnavailable path ("not UTF-8 text: " ++ f.message))
    | .ok source => ofText engine source

/-- Loads a module from the file at a path. -/
def ofFile (engine : Engine) (env : Environment) (path : String) : Except RuntimeError Module :=
  match env.file path with
  | .error e => .error (.sourceUnavailable path e)
  | .ok bytes => ofBytes engine path bytes

end Module

end Embedder
