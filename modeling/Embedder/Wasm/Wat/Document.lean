import Embedder.Wasm.Wat.Field

/-!
# Whole texts

A text is a module, given by its fields or by its bytes, or a component. Components are not run; of one it
matters only whether it is well formed and which modules are in it.
-/

namespace Embedder.Wasm.Wat

/-! ## 1. Components -/

/-- The modules in a component. -/
structure Component where
  /-- All modules, at any depth, in order. -/
  modules : List (List Field) := []
  /-- The module that is met first on the way into the first part, if there is one. -/
  leading : Option (List Field) := none
  deriving Inhabited

/-- A part of a component. -/
inductive Part where
  | module (fields : List Field)
  | component (c : Component)
  /-- Something without a module in it. -/
  | other
  deriving Inhabited

/-- Adds a part before the parts of a component. -/
def Component.cons (p : Part) (c : Component) : Component :=
  match p with
  | .module fields => ⟨fields :: c.modules, some fields⟩
  | .component d => ⟨d.modules ++ c.modules, d.leading⟩
  | .other => c

/-- The component of some parts. -/
def Component.ofParts (ps : List Part) : Component := ps.foldr Component.cons {}

/-- Takes tokens up to the parenthesis that closes the current one. -/
def skipBalanced : (fuel depth : Nat) → Parser Unit
  | 0, _ => return ()
  | fuel + 1, depth => do
    match ← look with
    | .opening => do
      advance
      skipBalanced fuel (depth + 1)
    | .closing =>
      if depth = 0 then return ()
      else do
        advance
        skipBalanced fuel (depth - 1)
    | .finish => return ()
    | _ => do
      advance
      skipBalanced fuel depth

/-- The rest of a part in which there is no module. -/
def skipPart : Parser Part := do
  skipBalanced ((← remaining).length + 1) 0
  return .other

/-- The words after which a part of a component has no module in it. -/
def otherParts : List String :=
  ["instance", "alias", "type", "import", "func", "export", "start", "canon"]

/-- The words after `core` with which a part has no module in it. -/
def otherCoreParts : List String := ["instance", "type", "rec", "func"]

/-- The name, exports and import of a part; is it imported? -/
def partHead : Parser Bool := do
  let _ ← optName
  let _ ← optNameAnnotation
  let _ ← inlineExports
  if ← lookAhead [.opening, .word "import", .string, .closing] then
    parens do
      word "import"
      let _ ← text
    return true
  else return false

/-- A part of a component, after its parenthesis; `nested` reads the parts of a component in it. -/
def part (nested : Parser Component) : Parser Part := do
  match ← look with
  | .keyword "core" => do
    match ← lookNext with
    | .keyword "module" => do
      advance
      advance
      if ← partHead then return .other else return .module (← collectAll field)
    | .keyword k => if otherCoreParts.contains k then skipPart else fail "expected valid component field"
    | _ => fail "expected valid component field"
  | .keyword "component" => do
    advance
    if ← partHead then return .other else return .component (← nested)
  | .keyword k => if otherParts.contains k then skipPart else fail "expected valid component field"
  | .remark "custom" => do
    let _ ← custom
    return .other
  | .remark "producers" => do
    producers
    return .other
  | _ => fail "expected valid component field"

/-- The parts of a component, components being nested at most `fuel` deep. -/
def parts : (fuel : Nat) → Parser Component
  | 0 => fail "components are nested too deeply"
  | fuel + 1 => do return .ofParts (← collectAll (parens (part (parts fuel))))

/-! ## 2. Documents -/

/-- What a text can be. -/
inductive Document where
  | module (name : Option String) (fields : List Field)
  | binary (bytes : List UInt8)
  | component (c : Component)
  deriving Inhabited

/-- A module after its opening parenthesis. -/
def moduleBody : Parser Document := do
  word "module"
  let name ← optName
  let note ← optNameAnnotation
  if ← optWord "binary" then return .binary (← collectAll bytes).flatten
  else return .module (note <|> name.map Name.text) (← collectAll field)

/-- A component after its opening parenthesis. -/
def componentBody : Parser Document := do
  word "component"
  let _ ← optName
  let _ ← optNameAnnotation
  if ← optWord "binary" then return .binary (← collectAll bytes).flatten
  else return .component (← parts ((← remaining).length + 1))

/-- A whole text. -/
def document : Parser Document := do
  let d ←
    if ← isNextWord "module" then parens moduleBody
    else if ← isNextWord "component" then parens componentBody
    else .module none <$> collectAll field
  if (← look) == .finish then return d else fail "extra tokens remaining"

/-- The document that a text is. A text of nothing but blanks and comments is none. -/
def Document.ofText (text : List Char) : Except Complaint Document :=
  match Token.scanAll text with
  | ⟨.finish, place, _⟩ :: _ => .error ⟨"expected at least one module field", place⟩
  | _ => (document.run (Token.scan text)).map Prod.fst

end Embedder.Wasm.Wat
