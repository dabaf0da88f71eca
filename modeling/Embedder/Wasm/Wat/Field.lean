import Embedder.Wasm.Wat.Code
import Embedder.Wasm.Wat.Note

/-!
# Fields of module text

A module is a list of fields. Shorthands are resolved while reading: an item may carry its exports
and its import, a table its elements and a memory its bytes.
-/

namespace Embedder.Wasm.Wat

/-! ## 1. Fields -/

/-- The items of an element segment. -/
inductive Items where
  | funcs (refs : List Ref)
  | exprs (type : RefType Ref) (items : List (List Line))
  deriving DecidableEq, Repr, Inhabited

/-- When a segment is used; the missing target of an active one is item zero. -/
inductive Mode where
  | active (target : Ref) (offset : List Line)
  | passive
  | declared
  deriving DecidableEq, Repr, Inhabited

/-- The kinds of items, without any more about them. -/
inductive ItemKind where
  | func
  | table
  | memory
  | global
  | tag
  deriving DecidableEq, Repr, Inhabited

/-- The keyword of a kind of items. -/
def ItemKind.keyword : ItemKind → String
  | .func => "func"
  | .table => "table"
  | .memory => "memory"
  | .global => "global"
  | .tag => "tag"

/-- All kinds of items. -/
def ItemKind.all : List ItemKind := [.func, .table, .memory, .global, .tag]

/-- The type of an imported item. -/
inductive Wanted where
  | func (type : TypeUse)
  | table (type : TableType Ref)
  | memory (type : MemoryType)
  | global (type : GlobalType Ref)
  | tag (type : TypeUse)
  deriving DecidableEq, Repr, Inhabited

/-- An item of a module. -/
inductive Item where
  | imported (module name : String) (kind : Wanted)
  | func (type : TypeUse) (locals : List (Option Name × ValType Ref)) (code : List Line)
  | table (type : TableType Ref) (init : Option (List Line))
  /-- A table that holds exactly the given elements. -/
  | filledTable (element : RefType Ref) (shared wide : Bool) (items : Items)
  | memory (type : MemoryType)
  /-- A memory that holds the given bytes. -/
  | filledMemory (wide customPage : Bool) (bytes : List UInt8)
  | global (type : GlobalType Ref) (init : List Line)
  | tag (type : TypeUse)
  deriving DecidableEq, Repr, Inhabited

/-- An import of a group: its name outside, its name in the module, and its type unless the group gives
    one for all. -/
structure GroupedImport where
  field : String
  name : Option Name
  type : Option Wanted
  deriving DecidableEq, Repr, Inhabited

/-- A field of a module. -/
inductive Field where
  | types (explicit : Bool) (defs : List TypeDef)
  /-- An item, with the place of its keyword, its name and the names it is exported under. -/
  | item (place : Nat) (name : Option Name) (exports : List String) (item : Item)
  /-- Imports from one module, with the place of the keyword and perhaps a type for all. -/
  | imports (place : Nat) (module : String) (items : List GroupedImport) (type : Option Wanted)
  | export (name : String) (kind : ItemKind) (target : Ref)
  | start (func : Ref)
  | elem (name : Option Name) (mode : Mode) (items : Items)
  | data (name : Option Name) (mode : Mode) (bytes : List UInt8)
  | custom (c : Custom)
  /-- A note that does not change the module. -/
  | note
  deriving DecidableEq, Repr, Inhabited

/-! ## 2. Inline exports and imports -/

/-- Is a token a string? -/
def TokenKind.isString : TokenKind → Bool
  | .string _ => true
  | _ => false

/-- Is an inline export next? -/
def isInlineExport : Parser Bool :=
  lookAhead [.opening, .word "export", .string, .closing]

/-- The inline exports of an item. -/
def inlineExports : Parser (List String) :=
  collect isInlineExport (parens do
    word "export"
    text)

/-- The inline import of an item, if one comes next. -/
def optInlineImport : Parser (Option (String × String)) := do
  if ← lookAhead [.opening, .word "import", .string, .string, .closing] then
    some <$> parens do
      word "import"
      let module ← text
      let name ← text
      return (module, name)
  else return none

/-! ## 3. Items -/

/-- The variables of a function. -/
def localClauses : Parser (List (Option Name × ValType Ref)) := do
  let cs ← collect (isNextWord "local") (parens do
    word "local"
    typedNames true)
  return cs.flatten

/-- References to functions up to the next closing parenthesis. -/
def funcRefs : Parser Items := .funcs <$> collectAll ref

/-- Expressions for references of a type up to the next closing parenthesis. -/
def refExprs (type : RefType Ref) : Parser Items :=
  .exprs type <$> collectAll (do
    if ← isOpenWord "item" then
      parens do
        word "item"
        code
    else singleCode)

/-- The items of an element segment: functions, or expressions after their type. The keyword for functions
    may be missing if `bare` is set. -/
def segmentItems (bare : Bool) : Parser Items := do
  if ← optWord "func" then funcRefs
  else if ← isRefType then refExprs (← refType)
  else if bare then funcRefs
  else fail "expected the items of an element segment"

/-- A data segment's bytes, of strings and lists of numbers. -/
def dataPiece : Parser (List UInt8) := do
  let little (size : Nat) (ns : List Nat) : List UInt8 :=
    ns.flatMap fun n => (List.range size).map fun i => (n / Number.pow2 (8 * i) % 256).toUInt8
  if ← isOpening then
    parens do
      if ← optWord "i8" then return little 1 (← collectAll (anySigned 8))
      else if ← optWord "i16" then return little 2 (← collectAll (anySigned 16))
      else if ← optWord "i32" then return little 4 (← collectAll (anySigned 32))
      else if ← optWord "i64" then return little 8 (← collectAll (anySigned 64))
      else if ← optWord "f32" then return little 4 (← collectAll (float Number.binary32))
      else if ← optWord "f64" then return little 8 (← collectAll (float Number.binary64))
      else if ← optWord "v128" then return little 16 (← collectAll vector)
      else fail "expected a string or a list of numbers"
  else bytes

/-- Bytes up to the next closing parenthesis. -/
def dataBytes : Parser (List UInt8) := do return (← collectAll dataPiece).flatten

/-- A function after its name and exports. -/
def funcItem : Parser Item := do
  match ← optInlineImport with
  | some (m, n) => return .imported m n (.func (← typeUse true))
  | none => do
    let type ← typeUse true
    let locals ← localClauses
    return .func type locals (← code)

/-- Does a word before the type of a table come next? -/
def isTableWord : Parser Bool := do
  return (← isWord "shared") || (← isWord "i32") || (← isWord "i64")

/-- A table with its elements. -/
def filledTable : Parser Item := do
  let shared ← optWord "shared"
  let wide ← addressWidth
  let element ← refType
  parens do
    word "elem"
    let items ←
      if ← isOpening then refExprs element
      else
        let _ ← optWord "func"
        funcRefs
    return .filledTable element shared wide items

/-- A table after its name and exports. -/
def tableItem : Parser Item := do
  match ← optInlineImport with
  | some (m, n) => return .imported m n (.table (← tableType))
  | none => do
    if ← isRefType then filledTable
    else if (← isTableWord) && (← isRefTypeNext) then filledTable
    else if (← isInteger) || (← isTableWord) then
      let t ← tableType
      return .table t (← if ← isDone then pure none else some <$> code)
    else fail "expected a table type"

/-- A memory after its name and exports. -/
def memoryItem : Parser Item := do
  match ← optInlineImport with
  | some (m, n) => return .imported m n (.memory (← memoryType))
  | none => do
    let wide ← addressWidth
    if ← isOpening then
      let customPage ← optPageSize
      let bs ← parens do
        word "data"
        dataBytes
      return .filledMemory wide customPage bs
    else if ← isInteger then
      let t ← memoryType
      return .memory { t with wide := wide || t.wide }
    else fail "expected a memory type"

/-- A global after its name and exports. -/
def globalItem : Parser Item := do
  match ← optInlineImport with
  | some (m, n) => return .imported m n (.global (← globalType))
  | none => do
    let t ← globalType
    return .global t (← code)

/-- A tag after its name and exports. -/
def tagItem : Parser Item := do
  match ← optInlineImport with
  | some (m, n) => return .imported m n (.tag (← typeUse true))
  | none => return .tag (← typeUse true)

/-- An item of a kind after its name and exports. -/
def itemOf : ItemKind → Parser Item
  | .func => funcItem
  | .table => tableItem
  | .memory => memoryItem
  | .global => globalItem
  | .tag => tagItem

/-- The kind whose keyword comes next. -/
def optItemKind : Parser (Option ItemKind) := do
  match ← look with
  | .keyword k => return ItemKind.all.find? fun s => s.keyword == k
  | _ => return none

/-- A field that defines an item of a kind. -/
def itemField (s : ItemKind) : Parser Field := do
  let place ← here
  advance
  let name ← optName
  let _ ← optNameAnnotation
  let exports ← inlineExports
  return .item place name exports (← itemOf s)

/-- What an import wants, after its keyword. -/
def wanted : ItemKind → Parser Wanted
  | .func => .func <$> typeUse true
  | .table => .table <$> tableType
  | .memory => .memory <$> memoryType
  | .global => .global <$> globalType
  | .tag => .tag <$> typeUse true

/-- What an import wants, in its parentheses, and its name in the module. -/
def namedWanted : Parser (Option Name × Wanted) :=
  parens do
    match ← optItemKind with
    | none => fail "expected the kind of an import"
    | some s => do
      advance
      let name ← optName
      let _ ← optNameAnnotation
      return (name, ← wanted s)

/-- One import of a group. -/
def groupedImport : Parser GroupedImport :=
  parens do
    word "item"
    let field ← text
    if ← isDone then return ⟨field, none, none⟩
    let (name, type) ← namedWanted
    return ⟨field, name, some type⟩

/-- An import, or a group of imports from one module. -/
def importField : Parser Field := do
  let place ← here
  word "import"
  let module ← text
  if (← look).isString then
    let field ← text
    let (name, type) ← namedWanted
    return .item place name [] (.imported module field type)
  else
    let items ← collect (isNextWord "item") groupedImport
    let type ← if ← isDone then pure none else some <$> namedWanted
    return .imports place module items (type.map Prod.snd)

/-! ## 4. Segments and the rest -/

/-- The target of an active segment, and whether it is given in parentheses. -/
def segmentTarget (keyword : String) : Parser (Ref × Bool) := do
  let place ← here
  if ← isInteger then return (⟨.number (← unsigned 32), place⟩, false)
  else if ← isNextWord keyword then
    let target ← parens do
      word keyword
      ref
    return (target, true)
  else return (⟨.number 0, place⟩, false)

/-- The offset of an active segment, which may be written without its keyword as `short` says. -/
def offsetExpr (short : Parser (List Line)) : Parser (List Line) := do
  if ← isOpenWord "offset" then
    parens do
      word "offset"
      code
  else short

/-- An element segment. -/
def elemField : Parser Field := do
  word "elem"
  let name ← optName
  let _ ← optNameAnnotation
  if ← optWord "declare" then return .elem name .declared (← segmentItems false)
  else if (← isInteger) || ((← isOpening) && !(← isRefType)) then
    let (table, given) ← segmentTarget "table"
    let offset ← offsetExpr (parens code)
    return .elem name (.active table offset) (← segmentItems !given)
  else return .elem name .passive (← segmentItems false)

/-- A data segment. -/
def dataField : Parser Field := do
  word "data"
  let name ← optName
  let _ ← optNameAnnotation
  if (← isDone) || (← look).isString then return .data name .passive (← dataBytes)
  else
    let (memory, _) ← segmentTarget "memory"
    let offset ← offsetExpr headedCode
    return .data name (.active memory offset) (← dataBytes)

/-- An export. -/
def exportField : Parser Field := do
  word "export"
  let name ← text
  parens do
    match ← optItemKind with
    | none => fail "expected the kind of an export"
    | some s => do
      advance
      return .export name s (← ref)

/-- A field of a module, in its parentheses. -/
def field : Parser Field :=
  parens do
    match ← optItemKind with
    | some s => itemField s
    | none =>
      match ← look with
      | .keyword "type" => do return .types false [← typeDef]
      | .keyword "rec" => do
        advance
        return .types true (← collect (isNextWord "type") (parens typeDef))
      | .keyword "import" => importField
      | .keyword "export" => exportField
      | .keyword "start" => do
        advance
        return .start (← ref)
      | .keyword "elem" => elemField
      | .keyword "data" => dataField
      | .remark "custom" => .custom <$> custom
      | .remark "producers" => do
        producers
        return .note
      | .remark "dylink.0" => do
        linking
        return .note
      | _ => fail "expected valid module field"

end Embedder.Wasm.Wat
