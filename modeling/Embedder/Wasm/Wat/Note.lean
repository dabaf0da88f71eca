import Embedder.Wasm.Wat.Parser

/-!
# Notes in module text

Some annotations stand among the fields of a module and describe sections that the language itself gives
no meaning to. Of most only the form matters. A section called `name` is read for the name of the module, so
contents and placement of a section are kept.
-/

namespace Embedder.Wasm.Wat

/-! ## 1. Custom sections -/

/-- The sections that a custom section can be placed at, in their order. -/
def anchors : List String :=
  ["type", "import", "func", "table", "memory", "tag", "global", "export", "start", "elem", "code", "data"]

/-- Where a custom section goes, as a number that grows along the sections. -/
abbrev Placement := Nat

/-- Before all sections. -/
def Placement.first : Placement := 0

/-- After all sections. -/
def Placement.last : Placement := 2 * anchors.length + 1

/-- A custom section. -/
structure Custom where
  title : String
  placement : Placement
  contents : List UInt8
  deriving DecidableEq, Repr, Inhabited

/-- The section at which a custom section is placed, before it or after it. -/
def anchor (after : Bool) : Parser Placement := do
  let index := match ← look with
    | .keyword k => anchors.findIdx? fun a => a == k
    | _ => none
  match index with
  | some i =>
    advance
    return 2 * i + if after then 2 else 1
  | none => fail "expected the name of a section"

/-- A placement, in its parentheses. -/
def placement : Parser Placement :=
  parens do
    if ← optWord "before" then
      if ← optWord "first" then return .first else anchor false
    else
      word "after"
      if ← optWord "last" then return .last else anchor true

/-- A custom section, after its parenthesis. -/
def custom : Parser Custom := do
  remark "custom"
  let title ← text
  let placement ← if ← isOpening then placement else pure Placement.last
  return ⟨title, placement, (← collectAll bytes).flatten⟩

/-! ## 2. Other notes -/

/-- A list of producers, after its parenthesis. -/
def producers : Parser Unit := do
  remark "producers"
  let _ ← collectAll (parens do
    if !(← optWord "language") then
      if !(← optWord "sdk") then word "processed-by"
    let _ ← text
    text)

/-- The words for properties of a symbol that is linked. -/
def linkWords : List String :=
  ["binding-weak", "binding-local", "visibility-hidden", "undefined", "exported", "explicit-name",
    "no-strip", "tls", "absolute"]

/-- The properties of a symbol that is linked: words and numbers. -/
def linkProperties : Parser Unit := do
  let isWordNext : Parser Bool := do
    match ← look with
    | .keyword k => return linkWords.contains k
    | _ => return false
  let _ ← collect (do return (← isWordNext) || (← isInteger)) (do
    if ← isWordNext then advance
    else
      let _ ← unsigned 32)

/-- The size and alignment of something, if its keyword comes next. -/
def optSize (keyword : String) : Parser Unit := do
  if ← isNextWord keyword then
    parens do
      word keyword
      let _ ← unsigned 32
      let _ ← unsigned 32

/-- One part of a note about linking. -/
def linkPart : Parser Unit :=
  parens do
    if ← optWord "mem-info" then
      optSize "memory"
      optSize "table"
    else if (← optWord "needed") || (← optWord "runtime-path") then
      let _ ← collectAll text
    else if ← optWord "export-info" then
      let _ ← text
      linkProperties
    else
      word "import-info"
      let _ ← text
      let _ ← text
      linkProperties

/-- A note about linking, after its parenthesis. -/
def linking : Parser Unit := do
  remark "dylink.0"
  let _ ← collectAll linkPart

end Embedder.Wasm.Wat
