import Embedder.Command.Perform

/-!
# The command line

Collects what a request can see of the world, performs it, and shows its outcome.
-/

namespace Embedder.Command

/-- The text of a failure to read a file. -/
def readFailure : IO.Error → String
  | .noFileOrDirectory .. => "No such file or directory (os error 2)"
  | .inappropriateType _ 21 _ => "Is a directory (os error 21)"
  | .inappropriateType .. => "Not a directory (os error 20)"
  | .permissionDenied .. => "Permission denied (os error 13)"
  | e => toString e

/-- The bytes of a file, or why they cannot be read. -/
def readBytes (path : String) : IO (Except String (List UInt8)) := do
  try
    let bytes ← IO.FS.readBinFile path
    return .ok bytes.toList
  catch e => return .error (readFailure e)

/-- The variables that a request may look at. -/
def variableNames : List String :=
  ["RUST_LOG", "WATHOST_CONFIG", "WATHOST_BACKEND", "WATHOST_OPT_LEVEL", "WATHOST_MAX_WASM_STACK"]

/-- What a request can see of the world. -/
def lookAround (r : Request) : IO Environment := do
  let vars ← variableNames.mapM fun n => return (n, ← IO.getEnv n)
  let var (n : String) : Option (List UInt8) := (vars.lookup n).join.map fun s => s.toUTF8.toList
  let bare : Environment := { file := fun _ => .error "", var }
  let files ← (r.paths bare).mapM fun p => return (p, ← readBytes p)
  return { file := fun p => (files.lookup p).getD (.error "No such file or directory (os error 2)"), var }

/-- All bytes of a stream. -/
partial def drain (s : IO.FS.Stream) (sofar : ByteArray) : IO ByteArray := do
  let chunk ← s.read 65536
  if chunk.isEmpty then return sofar else drain s (sofar ++ chunk)

/-- Shows an outcome and gives its status. If the output cannot be written, that is what is reported. -/
def display (o : Outcome) : IO UInt32 := do
  try
    let out ← IO.getStdout
    out.write (ByteArray.mk o.output.toArray)
    out.flush
    o.diagnostics.forM IO.eprintln
    return o.status.toUInt32
  catch e =>
    let failure := Failure.other (toString e)
    IO.eprintln failure.diagnostic
    return failure.status.toUInt32

/-- Performs what the words of a command line ask for. -/
def performWords (ws : List String) : IO UInt32 := do
  match Request.ofWords ws with
  | .error s => display s.outcome
  | .ok r =>
    let env ← lookAround r
    let input ← if r.readsInput env then drain (← IO.getStdin) ByteArray.empty else pure ByteArray.empty
    display (r.perform env input.toList .willing)

end Embedder.Command

/-- The command line. -/
def main (ws : List String) : IO UInt32 := Embedder.Command.performWords ws
