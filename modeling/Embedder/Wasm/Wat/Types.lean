import Embedder.Wasm.Wat.Parser

/-!
# Types in module text

The grammar of types, and of *type uses*: a reference to a function type, a function type written out,
or both.
-/

namespace Embedder.Wasm.Wat

/-! ## 1. Value types -/

/-- The heap types with a name. -/
def heapNames : List (String × HeapType Ref) :=
  [("func", .func), ("extern", .external), ("any", .any), ("eq", .eq), ("i31", .i31), ("struct", .struct),
    ("array", .array), ("none", .none), ("nofunc", .noFunc), ("noextern", .noExtern), ("exn", .exn),
    ("noexn", .noExn), ("cont", .foreign), ("nocont", .foreign)]

/-- The reference types with a name, all with a null. -/
def refNames : List (String × HeapType Ref) :=
  [("funcref", .func), ("anyfunc", .func), ("externref", .external), ("anyref", .any), ("eqref", .eq),
    ("i31ref", .i31), ("structref", .struct), ("arrayref", .array), ("nullref", .none),
    ("nullfuncref", .noFunc), ("nullexternref", .noExtern), ("exnref", .exn), ("nullexnref", .noExn),
    ("contref", .foreign), ("nullcontref", .foreign)]

/-- The number types and vectors by name. -/
def plainNames : List (String × ValType Ref) :=
  [("i32", .num .i32), ("i64", .num .i64), ("f32", .num .f32), ("f64", .num .f64), ("v128", .v128)]

/-- A heap type. -/
def heapType : Parser (HeapType Ref) := do
  match ← look with
  | .keyword k =>
    match heapNames.lookup k with
    | some h =>
      advance
      return h
    | none => fail "expected a heap type"
  | _ => if ← isRef then return .concrete (← ref) else fail "expected a heap type"

/-- Is a reference type next? -/
def isRefType : Parser Bool := do
  match ← look with
  | .keyword k => return (refNames.lookup k).isSome
  | .opening => isNextWord "ref"
  | _ => return false

/-- Is a reference type next after the first token left? -/
def isRefTypeNext : Parser Bool := do
  match ← lookNext with
  | .keyword k => return (refNames.lookup k).isSome
  | .opening => do
    let tokens ← remaining
    advance
    let isRef ← isNextWord "ref"
    set tokens
    return isRef
  | _ => return false

/-- A reference type. -/
def refType : Parser (RefType Ref) := do
  match ← look with
  | .keyword k =>
    match refNames.lookup k with
    | some h =>
      advance
      return ⟨true, h⟩
    | none => fail "expected a reference type"
  | .opening =>
    parens do
      word "ref"
      let nullable ← optWord "null"
      return ⟨nullable, ← heapType⟩
  | _ => fail "expected a reference type"

/-- A value type. -/
def valType : Parser (ValType Ref) := do
  let plain := match ← look with
    | .keyword k => plainNames.lookup k
    | _ => none
  match plain with
  | some t =>
    advance
    return t
  | none => if ← isRefType then return .ref (← refType) else fail "expected a value type"

/-! ## 2. Function types -/

/-- A function type written out, with the names of its parameters. -/
structure Inline where
  params : List (Option Name × ValType Ref)
  results : List (ValType Ref)
  deriving DecidableEq, Repr, Inhabited

/-- Variables of one clause: a named one, or any number without names. -/
def typedNames (named : Bool) : Parser (List (Option Name × ValType Ref)) := do
  if ← isDone then return []
  let name ← if named then optName else pure none
  let note ← if named then optNameAnnotation else pure none
  let t ← valType
  if name.isSome || note.isSome then return [(name, t)]
  else return (none, t) :: (← collectAll valType).map fun t => (none, t)

/-- One clause of a function type, added to those before it. -/
def inlineClause (named : Bool) (sofar : Inline) : Parser Inline :=
  parens do
    if ← isWord "param" then
      if !sofar.results.isEmpty then
        fail "result before parameter (or unexpected token): cannot list params after results"
      advance
      return { sofar with params := sofar.params ++ (← typedNames named) }
    else
      word "result"
      return { sofar with results := sofar.results ++ (← collectAll valType) }

/-- Does a function type come next? -/
def isInline : Parser Bool := do
  if ← lookAhead [.opening, .word "param"] then return true else lookAhead [.opening, .word "result"]

/-- The clauses of a function type, at most `fuel` of them. -/
def inlineFrom (named : Bool) : (fuel : Nat) → Inline → Parser Inline
  | 0, sofar => return sofar
  | fuel + 1, sofar => do
    if (← isNextWord "param") || (← isNextWord "result") then
      inlineFrom named fuel (← inlineClause named sofar)
    else return sofar

/-- A function type written out. -/
def inline (named : Bool) : Parser Inline := do
  inlineFrom named ((← remaining).length + 1) ⟨[], []⟩

/-- A use of a function type: by reference, written out, or both. -/
structure TypeUse where
  index : Option Ref
  inline : Option Inline
  deriving DecidableEq, Repr, Inhabited

/-- A use of a function type. -/
def typeUse (named : Bool) : Parser TypeUse := do
  let index ←
    if ← isNextWord "type" then
      some <$> parens do
        word "type"
        ref
    else pure none
  let written ← if ← isInline then some <$> inline named else pure none
  return ⟨index, written⟩

/-! ## 3. Types of items -/

/-- The least and perhaps the greatest size. -/
def limits : Parser Limits := do
  let least ← unsigned 64
  let greatest ← if ← isInteger then some <$> unsigned 64 else pure none
  return ⟨least, greatest⟩

/-- Are addresses 64 bits wide? -/
def addressWidth : Parser Bool := do
  if ← optWord "i64" then return true
  let _ ← optWord "i32"
  return false

/-- Takes the size of a page; is it given? -/
def optPageSize : Parser Bool := do
  if ← isOpenWord "pagesize" then
    parens do
      word "pagesize"
      let place ← here
      let n ← unsigned 32
      if n = 0 || Number.pow2 (Nat.log2 n) ≠ n then failAt "invalid custom page size" place
      return true
  else return false

/-- The type of a memory. -/
def memoryType : Parser MemoryType := do
  let wide ← addressWidth
  let limits ← limits
  let shared ← optWord "shared"
  return ⟨limits, shared, wide, ← optPageSize⟩

/-- The type of a table. -/
def tableType : Parser (TableType Ref) := do
  let shared ← optWord "shared"
  let wide ← addressWidth
  let limits ← limits
  return ⟨← refType, limits, shared, wide⟩

/-- The type of a global. -/
def globalType : Parser (GlobalType Ref) := do
  if (← isNextWord "mut") || (← isNextWord "shared") then
    parens do
      let shared ← optWord "shared"
      let isMutable ← optWord "mut"
      return ⟨← valType, isMutable, shared⟩
  else return ⟨← valType, false, false⟩

/-! ## 4. Type definitions -/

/-- What a field holds. -/
def storageType : Parser (StorageType Ref) := do
  if ← optWord "i8" then return .i8
  if ← optWord "i16" then return .i16
  return .val (← valType)

/-- The type of a field. -/
def fieldType : Parser (FieldType Ref) := do
  if ← isNextWord "mut" then
    parens do
      word "mut"
      return ⟨← storageType, true⟩
  else return ⟨← storageType, false⟩

/-- The fields of one clause of a structure, with their names: a named one, or any number without
    names. A field may stand without a clause. -/
def fieldClause : Parser (List (Option Name × FieldType Ref)) := do
  if ← isNextWord "field" then
    parens do
      word "field"
      if ← isDone then return []
      let name ← optName
      let note ← optNameAnnotation
      let t ← fieldType
      if name.isSome || note.isSome then return [(name, t)]
      else return (none, t) :: (← collectAll fieldType).map fun t => (none, t)
  else return [(none, ← fieldType)]

/-- A defined type, and the names of its fields. -/
def compositeType : Parser (CompositeType Ref × List Name) := do
  if ← optWord "func" then
    let t ← inline true
    return (.func ⟨t.params.map Prod.snd, t.results⟩, [])
  else if ← optWord "struct" then
    let fields := (← collectAll fieldClause).flatten
    return (.struct (fields.map Prod.snd), fields.filterMap Prod.fst)
  else if ← optWord "array" then return (.array (← fieldType), [])
  else fail "expected a type definition"

/-- A type definition of a module. -/
structure TypeDef where
  name : Option Name
  type : SubType Ref
  /-- The names of the fields that have one. -/
  fields : List Name
  deriving DecidableEq, Repr, Inhabited

/-- A type definition, after its parenthesis. -/
def typeDef : Parser TypeDef := do
  word "type"
  let name ← optName
  let _ ← optNameAnnotation
  parens do
    if ← optWord "sub" then
      let final ← optWord "final"
      let super ← optRef
      let (type, fields) ← parens compositeType
      return ⟨name, ⟨final, super.toList, type⟩, fields⟩
    else
      let (type, fields) ← compositeType
      return ⟨name, ⟨true, [], type⟩, fields⟩

end Embedder.Wasm.Wat
