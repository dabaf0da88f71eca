import Embedder.Directory
import Embedder.Error
import Embedder.Host.Function

/-!
# The registry of host functions

Functions are registered under a namespace and a name, and the pair is what counts: `("a.b", "c")` and
`("a", "b.c")` are different. The first registration of a pair fixes its signature. A later one with the
same signature replaces the function; one with another signature is refused.

A registry is a directory of namespaces, each a directory of functions. A namespace is there from the
first attempt to register a function in it.
-/

namespace Embedder

/-- A registered function. -/
structure Entry (σ : Type) where
  space : String
  name : String
  function : HostFunction σ

/-- The functions of each namespace. -/
structure Registry (σ : Type) where
  spaces : Directory (Directory (HostFunction σ))

namespace Registry

variable {σ : Type}

/-- The registry without functions. -/
def empty : Registry σ := ⟨.empty⟩

/-- The function of a pair. -/
def lookup (r : Registry σ) (space name : String) : Option (HostFunction σ) :=
  (r.spaces.get? space).bind fun fs => fs.get? name

/-- Is there a function under a pair? -/
def contains (r : Registry σ) (space name : String) : Bool := (r.lookup space name).isSome

/-- The number of functions. -/
def size (r : Registry σ) : Nat := r.spaces.items.foldr (fun s n => s.2.size + n) 0

/-- Is there no function at all? -/
def isEmpty (r : Registry σ) : Bool := r.size == 0

/-- The registered functions, namespace by namespace. -/
def entries (r : Registry σ) : List (Entry σ) :=
  r.spaces.items.flatMap fun s => s.2.items.map fun f => ⟨s.1, f.1, f.2⟩

/-! ## 1. Registering -/

/-- The functions of a namespace, none if it is not there. -/
def functionsOf (r : Registry σ) (space : String) : Directory (HostFunction σ) :=
  (r.spaces.get? space).getD .empty

/-- The registry in which a namespace is there. -/
def withSpace (r : Registry σ) (space : String) : Registry σ :=
  match r.spaces.get? space with
  | some _ => r
  | none => ⟨r.spaces.set space .empty⟩

/-- The registry with a function put under a pair. -/
def insert (r : Registry σ) (space name : String) (f : HostFunction σ) : Registry σ :=
  ⟨r.spaces.set space ((r.functionsOf space).set name f)⟩

/-- Registers a function under a pair. The registry is the one afterwards, also after a refusal. -/
def registerFunction (r : Registry σ) (space name : String) (f : HostFunction σ) :
    Registry σ × Except RuntimeError Unit :=
  let r := r.withSpace space
  match (r.functionsOf space).get? name with
  | none => (r.insert space name f, .ok ())
  | some g =>
    if g.signature = f.signature then (r.insert space name f, .ok ())
    else (r, .error (.duplicateImport space name g.signature f.signature))

/-- Registers functions one by one and stops at the first that is refused; those before it stay. -/
def registerAll (r : Registry σ) : List (Entry σ) → Registry σ × Except RuntimeError Unit
  | [] => (r, .ok ())
  | e :: es =>
    match r.registerFunction e.space e.name e.function with
    | (r', .ok _) => r'.registerAll es
    | (r', .error err) => (r', .error err)

end Registry

end Embedder
