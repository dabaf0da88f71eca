import Embedder.Error

/-!
# Arguments as texts

The arguments of a call, written as texts, are read against the parameters of its signature.
-/

namespace Embedder

/-- Reads texts as values of given types, pair by pair; the first text that is no value gives the error. -/
def readLiterals : List ValueType → List String → Except LiteralError (List Value)
  | t :: ts, s :: ss => do
    let v ← Value.parse t s
    let vs ← readLiterals ts ss
    return v :: vs
  | _, _ => .ok []

/-- Reads the arguments of an export. Their number is looked at before any of them is. -/
def parseArguments (entry : String) (s : Signature) (raw : List String) :
    Except RuntimeError (List Value) :=
  if raw.length = s.params.length then
    (readLiterals s.params raw).mapError fun e => .arityOrTypeMismatch entry s.text e.message
  else .error (.arityOrTypeMismatch entry s.text (toString raw.length ++ " argument(s)"))

end Embedder
