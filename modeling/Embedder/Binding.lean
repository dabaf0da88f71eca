import Embedder.Host.Registry
import Embedder.Module

/-!
# Binding imports

Every import of a module has to be a function that the registry has under the same pair of names and
with the same signature. `resolveImports` looks them up in declared order; the first that fails gives
the error, and nothing has run by then.

The engine gets its functions through a *linker*, which knows each pair once: to define a pair twice is
an error. A module may import a pair several times, so only the first binding of each pair is defined.
-/

namespace Embedder

/-! ## 1. Resolution -/

/-- An import and the function that serves it. -/
structure Binding (σ : Type) where
  declaration : ImportDeclaration
  function : HostFunction σ

variable {σ : Type}

/-- The binding of one import. -/
def resolveImport (r : Registry σ) (d : ImportDeclaration) : Except RuntimeError (Binding σ) :=
  match r.lookup d.module d.name with
  | none => .error (.unresolvedImport d.module d.name)
  | some f =>
    match d.kind with
    | .function expected =>
      if expected = f.signature then .ok ⟨d, f⟩
      else .error (.signatureMismatch d.module d.name expected f.signature)
    | _ => .error (.unresolvedImport d.module d.name)

/-- The bindings of imports, in their order. -/
def resolveAll (r : Registry σ) : List ImportDeclaration → Except RuntimeError (List (Binding σ))
  | [] => .ok []
  | d :: ds =>
    match resolveImport r d with
    | .error e => .error e
    | .ok b => (resolveAll r ds).map (b :: ·)

/-- The bindings of the imports of a module. -/
def resolveImports (m : Module) (r : Registry σ) : Except RuntimeError (List (Binding σ)) :=
  resolveAll r m.imports

/-! ## 2. Linking -/

/-- A function under the name that errors call it by. -/
structure Slot (σ : Type) where
  label : String
  function : HostFunction σ

/-- The functions that an engine can find, each pair once. -/
structure Linker (σ : Type) where
  items : List ((String × String) × Slot σ) := []

namespace Linker

/-- The function of a pair. -/
def find? (l : Linker σ) (pair : String × String) : Option (Slot σ) :=
  (l.items.find? fun i => i.1 == pair).map Prod.snd

/-- Defines a pair that has no function yet. -/
def define (l : Linker σ) (pair : String × String) (s : Slot σ) : Except String (Linker σ) :=
  if (l.find? pair).isSome then
    .error ("import of `" ++ pair.1 ++ "::" ++ pair.2 ++ "` defined twice")
  else .ok ⟨l.items ++ [(pair, s)]⟩

end Linker

namespace Binding

/-- The pair of names of a binding. -/
def pair (b : Binding σ) : String × String := (b.declaration.module, b.declaration.name)

/-- The name of a bound function in errors. -/
def qualified (b : Binding σ) : String := b.declaration.module ++ "." ++ b.declaration.name

/-- The function of a binding under its name. -/
def slot (b : Binding σ) : Slot σ := ⟨b.qualified, b.function⟩

end Binding

/-- Defines the first binding of each pair; `defined` are the pairs of the bindings before. -/
def linkAll (l : Linker σ) (defined : List (String × String)) :
    List (Binding σ) → Except RuntimeError (Linker σ)
  | [] => .ok l
  | b :: bs =>
    if defined.contains b.pair then linkAll l defined bs
    else
      match l.define b.pair b.slot with
      | .error e => .error (.instantiation ("cannot bind " ++ b.qualified ++ ": " ++ e))
      | .ok l' => linkAll l' (b.pair :: defined) bs

/-- The linker of some bindings. -/
def link (bs : List (Binding σ)) : Except RuntimeError (Linker σ) := linkAll {} [] bs

/-- The functions that a linker gives to imports, in their order. -/
def slotsOf (l : Linker σ) : List ImportDeclaration → Except RuntimeError (List (Slot σ))
  | [] => .ok []
  | d :: ds =>
    match l.find? (d.module, d.name) with
    | none =>
      .error (.instantiation ("unknown import: `" ++ d.module ++ "::" ++ d.name ++ "` has not been defined"))
    | some s => (slotsOf l ds).map (s :: ·)

end Embedder
