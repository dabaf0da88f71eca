import Embedder.Wasm.Wat.Types
import Embedder.Wasm.Instr

/-!
# Code in module text

Instructions stand one after the other, or folded: in parentheses, with the instructions for their
operands inside. The result is flat code in either case. A stack of the open parentheses takes the
place of recursion.

The words for the instructions that `Instr` leaves out are refused like words that do not exist: those for vectors
other than `v128.const`, those for atomic access to memory, and those for objects on a heap other than small
integers.
-/

namespace Embedder.Wasm.Wat

/-! ## 1. Instructions -/

/-- The blocks that a label can name. -/
inductive BlockWord where
  | block
  | loop
  | if_
  deriving DecidableEq, Repr, Inhabited

/-- An instruction as written: blocks carry their labels, and function types may be written out. -/
inductive Line where
  | plain (i : Instr Ref)
  | block (kind : BlockWord) (label : Option Name) (type : TypeUse)
  | handler (label : Option Name) (type : TypeUse) (catches : List (Catch Ref))
  | else_ (label : Option Name)
  | end_ (label : Option Name)
  | callIndirect (tail : Bool) (table : Ref) (type : TypeUse)
  deriving DecidableEq, Repr, Inhabited

/-- The label and type of a block. -/
def blockHead : Parser (Option Name × TypeUse) := do
  let label ← optName
  let _ ← optNameAnnotation
  return (label, ← typeUse false)

/-- A block of a kind. -/
def blockLine (kind : BlockWord) : Parser Line := do
  let (label, type) ← blockHead
  return .block kind label type

/-- One clause of a handler. -/
def catchClause : Parser (Catch Ref) :=
  parens do
    if ← optWord "catch" then return .tag (← ref) (← ref)
    else if ← optWord "catch_ref" then return .tagRef (← ref) (← ref)
    else if ← optWord "catch_all" then return .all (← ref)
    else
      word "catch_all_ref"
      return .allRef (← ref)

/-- Is a clause of a handler next? -/
def isCatch : Parser Bool := do
  match ← lookNext with
  | .keyword k => return ["catch", "catch_ref", "catch_all", "catch_all_ref"].contains k
  | _ => return false

/-- An indirect call; the table may be missing. -/
def indirectCall (tail : Bool) : Parser Line := do
  let table ← refOrZero
  return .callIndirect tail table (← typeUse false)

/-- The targets of a branch table, the last of them being the default. -/
def branchTargets : Parser (Instr Ref) := do
  let first ← ref
  let more ← collect isRef ref
  let all := first :: more
  return .brTable all.dropLast (all.getLastD first)

/-- Two references of which the first may be missing. -/
def refThenRef (make : Ref → Ref → Instr Ref) : Parser (Instr Ref) := do
  let place ← here
  let isPair := (← lookNext).isRef
  let first ← ref
  if isPair then return make first (← ref) else return make ⟨.number 0, place⟩ first

/-- Two references, or none. -/
def refPair (make : Ref → Ref → Instr Ref) : Parser (Instr Ref) := do
  match ← optRef with
  | some first => return make first (← ref)
  | none => return make ⟨.number 0, ← here⟩ ⟨.number 0, ← here⟩

/-- The types of a choice, if they are given. -/
def selectTypes : Parser (Instr Ref) := do
  if ← isNextWord "result" then
    let ts ← collect (isNextWord "result") (parens do
      word "result"
      collectAll valType)
    return .select (some ts.flatten)
  else return .select none

/-- The value of a keyword such as `offset=16`, if the next one has this name. -/
def optField (name : String) (bits : Nat) : Parser (Option Nat) := do
  match ← look with
  | .keyword k =>
    let start := name.toList ++ ['=']
    if start.isPrefixOf k.toList then
      match numberOf (k.toList.drop start.length) with
      | some (.integer negative hex digits) =>
        let z := integerValue negative hex digits
        if negative || Number.pow2 bits ≤ z then failPast "constant out of range"
        else
          advance
          return some z.toNat
      | _ => failPast "expected an integer constant"
    else return none
  | _ => return none

/-- Where a load or store of some bytes goes. The complaint about an alignment points at the token after
    it. -/
def memArg (bytes : Nat) : Parser (MemArg Ref) := do
  let memory ← refOrZero
  let offset := (← optField "offset" 64).getD 0
  match ← optField "align" 64 with
  | none => return ⟨memory, offset, Nat.log2 bytes⟩
  | some a =>
    if a = 0 || Number.pow2 (Nat.log2 a) ≠ a then fail "alignment must be a power of two"
    else return ⟨memory, offset, Nat.log2 a⟩

/-! ## 2. Vectors -/

/-- The number whose parts of `bits` bits are given, the lowest first. -/
def joinLanes (bits : Nat) (lanes : List Nat) : Nat :=
  lanes.foldr (fun n rest => n + Number.pow2 bits * rest) 0

/-- Exactly `n` items. -/
def exactly {α : Type} (item : Parser α) : (n : Nat) → Parser (List α)
  | 0 => return []
  | n + 1 => do
    let a ← item
    return a :: (← exactly item n)

/-- A vector: its shape and its lanes. -/
def vector : Parser Nat := do
  if ← optWord "i8x16" then return joinLanes 8 (← exactly (anySigned 8) 16)
  else if ← optWord "i16x8" then return joinLanes 16 (← exactly (anySigned 16) 8)
  else if ← optWord "i32x4" then return joinLanes 32 (← exactly (anySigned 32) 4)
  else if ← optWord "i64x2" then return joinLanes 64 (← exactly (anySigned 64) 2)
  else if ← optWord "f32x4" then return joinLanes 32 (← exactly (float Number.binary32) 4)
  else if ← optWord "f64x2" then return joinLanes 64 (← exactly (float Number.binary64) 2)
  else fail "expected a vector shape"

/-! ## 3. The instruction of a keyword -/

/-- The instructions without immediates, by keyword. -/
def bareInstrs : List (String × Instr Ref) :=
  [("unreachable", .unreachable), ("nop", .nop), ("return", .return_), ("drop", .drop),
    ("ref.is_null", .refIsNull), ("throw_ref", .throwRef), ("ref.as_non_null", .refAsNonNull),
    ("ref.eq", .refEq), ("ref.i31", .refI31), ("i31.get_s", .i31Get true), ("i31.get_u", .i31Get false)]

/-- The instructions with one reference, by keyword. -/
def refInstrs : List (String × (Ref → Instr Ref)) :=
  [("br", .br), ("br_if", .brIf), ("call", .call), ("return_call", .returnCall),
    ("local.get", .localGet), ("local.set", .localSet), ("local.tee", .localTee),
    ("global.get", .globalGet), ("global.set", .globalSet), ("elem.drop", .elemDrop),
    ("data.drop", .dataDrop),
    ("ref.func", .refFunc), ("throw", .throw), ("call_ref", .callRef),
    ("return_call_ref", .returnCallRef), ("br_on_null", .brOnNull), ("br_on_non_null", .brOnNonNull)]

/-- The instructions with one reference that may be missing, by keyword. -/
def optRefInstrs : List (String × (Ref → Instr Ref)) :=
  [("table.get", .tableGet), ("table.set", .tableSet), ("table.size", .tableSize),
    ("table.grow", .tableGrow), ("table.fill", .tableFill), ("memory.size", .memorySize),
    ("memory.grow", .memoryGrow), ("memory.fill", .memoryFill)]

/-- The instructions with immediates of their own, by keyword: what follows the keyword. -/
def otherInstrs : List (String × Parser Line) :=
  [("block", blockLine .block), ("loop", blockLine .loop), ("if", blockLine .if_),
    ("else", .else_ <$> optName), ("end", .end_ <$> optName),
    ("try_table", do
      let (label, type) ← blockHead
      return .handler label type (← collect isCatch catchClause)),
    ("br_table", .plain <$> branchTargets),
    ("call_indirect", indirectCall false), ("return_call_indirect", indirectCall true),
    ("select", .plain <$> selectTypes),
    ("table.init", .plain <$> refThenRef .tableInit), ("memory.init", .plain <$> refThenRef .memoryInit),
    ("table.copy", .plain <$> refPair .tableCopy), ("memory.copy", .plain <$> refPair .memoryCopy),
    ("ref.null", do return .plain (.refNull (← heapType))),
    ("i32.const", do return .plain (.const (.ofSlot .i32 (← anySigned 32)))),
    ("i64.const", do return .plain (.const (.ofSlot .i64 (← anySigned 64)))),
    ("f32.const", do return .plain (.const (.ofSlot .f32 (← float Number.binary32)))),
    ("f64.const", do return .plain (.const (.ofSlot .f64 (← float Number.binary64)))),
    ("v128.const", do return .plain (.v128Const (← vector)))]

/-- What follows a keyword, if it is one of an instruction. -/
def instrOf? (k : String) : Option (Parser Line) :=
  match otherInstrs.lookup k with
  | some p => some p
  | none =>
    match refInstrs.lookup k with
    | some make => some do return .plain (make (← ref))
    | none =>
      match bareInstrs.lookup k with
      | some i => some (return .plain i)
      | none =>
        match optRefInstrs.lookup k with
        | some make => some do return .plain (make (← refOrZero))
        | none =>
          match NumOp.ofName? k with
          | some op => some (return .plain (.numeric op))
          | none =>
            match Load.ofName? k with
            | some op => some do return .plain (.load op (← memArg op.bytes))
            | none => (Store.ofName? k).map fun op => do return .plain (.store op (← memArg op.bytes))

/-- One instruction. -/
def line : Parser Line := do
  match ← look with
  | .keyword k =>
    match instrOf? k with
    | some rest =>
      advance
      rest
    | none => failPast "unknown operator or unexpected token"
  | _ => fail "expected an instruction"

/-! ## 4. Folded code -/

/-- An open parenthesis of folded code. -/
inductive Level where
  /-- The instruction comes when the parenthesis closes. -/
  | ending (i : Line)
  /-- A conditional before its branches; its own instruction comes before the first of them. -/
  | clause (i : Line)
  /-- A conditional after its first branch. -/
  | afterThen
  /-- A conditional after its second branch. -/
  | afterElse
  /-- A branch of a conditional. -/
  | branch
  /-- A hint about a branch. -/
  | hint
  deriving Inhabited

/-- Is the level one of a hint? -/
def Level.isHint : Level → Bool
  | .hint => true
  | _ => false

/-- Is the level one of a conditional between its branches? -/
def Level.isIf : Level → Bool
  | .clause _ | .afterThen | .afterElse => true
  | _ => false

/-- The instructions that a closing parenthesis adds. -/
def Level.close : Level → Parser (List Line)
  | .ending i => return [i]
  | .clause _ => fail "previous if had no then"
  | .afterThen | .afterElse => return [.end_ none]
  | .branch | .hint => return []

/-- What is known in the midst of code. -/
structure Progress where
  /-- The open parentheses, the innermost first. -/
  levels : List Level := []
  /-- The instructions so far, the last first. -/
  done : List Line := []
  /-- Is there a hint that no instruction has followed yet? -/
  hinted : Bool := false
  deriving Inhabited

/-- Adds instructions. -/
def Progress.add (p : Progress) (ls : List Line) : Progress := { p with done := ls.reverse ++ p.done }

/-- The complaint about a hint that nothing follows. -/
def danglingHint : String := "branch hint without an instruction"

/-- A hint, after its parenthesis. -/
def Progress.takeHint (p : Progress) : Parser Progress := do
  advance
  let hint ← text
  if hint ≠ "\x00" && hint ≠ "\x01" then fail "invalid value for branch hint"
  else if p.hinted then fail danglingHint
  else return { p with levels := .hint :: p.levels, hinted := true }

/-- An instruction after its parenthesis. -/
def Progress.takeFolded (p : Progress) : Parser Progress := do
  let i ← line
  let p := { p with hinted := false }
  match i with
  | .block .if_ .. => return { p with levels := .clause i :: p.levels }
  | .block .. | .handler .. => return { p with levels := .ending (.end_ none) :: p.levels }.add [i]
  | _ => return { p with levels := .ending i :: p.levels }

/-- What comes after an opening parenthesis. -/
def Progress.takeOpened (p : Progress) : Parser Progress := do
  let other : Parser Progress := do
    if (← look) == .remark "metadata.code.branch_hint" then p.takeHint else p.takeFolded
  match p.levels with
  | .clause i :: rest =>
    if ← isWord "then" then
      if p.hinted then fail danglingHint
      advance
      return { p with levels := .branch :: .afterThen :: rest }.add [i]
    else other
  | .afterThen :: rest => do
    word "else"
    return { p with levels := .branch :: .afterElse :: rest }.add [.else_ none]
  | .afterElse :: _ => fail "unexpected token: too many payloads inside of an if"
  | _ => other

/-- What a closing parenthesis of a level leads to. -/
def Progress.takeClosing (p : Progress) (l : Level) (rest : List Level) : Parser Progress := do
  advance
  if p.hinted && !l.isHint then fail danglingHint
  return { p with levels := rest }.add (← l.close)

/-- Reads code. -/
def codeFrom : (fuel : Nat) → Progress → Parser (List Line)
  | 0, p => return p.done.reverse
  | fuel + 1, p => do
    if p.levels.isEmpty && (← isDone) then
      if p.hinted then fail danglingHint else return p.done.reverse
    if (p.levels.head?.map Level.isIf).getD false && !(← isDone) && !(← isOpening) then
      fail "expected an opening parenthesis"
    match ← look, p.levels with
    | .opening, _ => do
      advance
      codeFrom fuel (← p.takeOpened)
    | .closing, l :: rest => do codeFrom fuel (← p.takeClosing l rest)
    | _, _ => do
      let i ← line
      codeFrom fuel ({ p with hinted := false }.add [i])

/-- Code up to the next closing parenthesis. -/
def code : Parser (List Line) := do codeFrom ((← remaining).length + 1) {}

/-- An expression in parentheses without a keyword: its last instruction comes first, without the
    instructions for its operands. -/
def headedCode : Parser (List Line) :=
  parens do
    let i ← line
    return (← code) ++ [i]

/-- An expression in parentheses that is a single instruction. -/
def singleCode : Parser (List Line) := do return [← parens line]

end Embedder.Wasm.Wat
