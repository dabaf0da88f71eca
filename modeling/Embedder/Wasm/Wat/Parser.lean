import Embedder.Number.HexFloat
import Embedder.Wasm.Types
import Embedder.Wasm.Wat.Token

/-!
# Parsing tokens

A parser takes tokens from the front of a list, or complains. A complaint points at the first token
not taken. Looking at a `broken` token is itself a complaint, the one the token carries. Whoever takes a token
looks at the one behind it, and whoever asks for a token of a kind does so too if there is one of that kind,
even if it is not the right one. Where two tokens decide what comes next, the second is looked at whatever
the first is.

Repetition is bounded by the number of tokens left, as each round takes one at least.
-/

namespace Embedder.Wasm.Wat

open Number (ofHexDigits)

/-! ## 1. Parsers -/

/-- A parser of tokens. -/
abbrev Parser := StateT (List Token) (Except Complaint)

/-- The tokens left. -/
def remaining : Parser (List Token) := get

/-- The first token left. -/
def current : Parser Token := do return (← remaining).headD ⟨.finish, 0, 0⟩

/-- Complains about the first token left. -/
def fail {α : Type} (message : String) : Parser α := do
  let t ← current
  match t.kind with
  | .broken m => throw ⟨m, t.place⟩
  | _ => throw ⟨message, t.place⟩

/-- Complains about a place. -/
def failAt {α : Type} (message : String) (place : Nat) : Parser α := throw ⟨message, place⟩

/-- The kind of the first token left; a complaint if there is none to see. -/
def look : Parser TokenKind := do
  let t ← current
  match t.kind with
  | .broken m => throw ⟨m, t.place⟩
  | k => return k

/-- The kind of the token after the first one left. -/
def lookNext : Parser TokenKind := do
  let _ ← look
  match ← remaining with
  | _ :: ⟨.broken m, place, _⟩ :: _ => throw ⟨m, place⟩
  | _ :: t :: _ => return t.kind
  | _ => return .finish

/-- Complains about the first token left, which is of the right kind, after looking at the one behind it. -/
def failPast {α : Type} (message : String) : Parser α := do
  let _ ← lookNext
  fail message

/-- A token that is looked for. -/
inductive Wish where
  | opening
  | closing
  | word (k : String)
  | string
  deriving DecidableEq, Repr, Inhabited

/-- Is a token of the kind that is looked for? -/
def Wish.admits : Wish → TokenKind → Bool
  | .opening, .opening | .closing, .closing | .word _, .keyword _ | .string, .string _ => true
  | _, _ => false

/-- Is a token of the right kind the one that is looked for? -/
def Wish.isMetBy : Wish → TokenKind → Bool
  | .word k, t => t == .keyword k
  | _, _ => true

/-- Do tokens begin with those that are looked for? -/
def beginWith : (wishes : List Wish) → List Token → Except Complaint Bool
  | [], _ => .ok true
  | _ :: _, [] => .ok false
  | w :: ws, t :: ts =>
    if w.admits t.kind then
      match ts with
      | ⟨.broken m, place, _⟩ :: _ => .error ⟨m, place⟩
      | _ => if w.isMetBy t.kind then beginWith ws ts else .ok false
    else .ok false

/-- Do the tokens left begin with those that are looked for? -/
def lookAhead (wishes : List Wish) : Parser Bool := do
  let _ ← look
  liftExcept (beginWith wishes (← remaining))

/-- Takes the first token left. -/
def advance : Parser Unit := do
  modify List.tail
  let _ ← look

/-- The place of the first token left. -/
def here : Parser Nat := do return (← current).place

/-- Are there no more tokens before the next closing parenthesis? -/
def isDone : Parser Bool := do
  match (← current).kind with
  | .closing | .finish => return true
  | _ => return false

/-! ## 2. Repetition -/

/-- Collects items while a test holds, at most `fuel` of them. -/
def collectFrom {α : Type} (test : Parser Bool) (item : Parser α) : (fuel : Nat) → Parser (List α)
  | 0 => return []
  | fuel + 1 => do
    if ← test then
      let a ← item
      let as ← collectFrom test item fuel
      return a :: as
    else return []

/-- Collects items while a test holds. -/
def collect {α : Type} (test : Parser Bool) (item : Parser α) : Parser (List α) := do
  collectFrom test item ((← remaining).length + 1)

/-- Collects items up to the next closing parenthesis. -/
def collectAll {α : Type} (item : Parser α) : Parser (List α) := collect (do return !(← isDone)) item

/-! ## 3. Keywords and parentheses -/

/-- Is the first token left this keyword? -/
def isWord (k : String) : Parser Bool := do return (← look) == .keyword k

/-- Is the first token left an opening parenthesis? -/
def isOpening : Parser Bool := do return (← look) == .opening

/-- Do an opening parenthesis and this keyword come next? -/
def isOpenWord (k : String) : Parser Bool := do
  if ← isOpening then return (← lookNext) == .keyword k else return false

/-- Is the token after the first one left this keyword? -/
def isNextWord (k : String) : Parser Bool := do return (← lookNext) == .keyword k

/-- Takes a keyword. -/
def word (k : String) : Parser Unit := do
  match ← look with
  | .keyword l => if k = l then advance else failPast s!"expected keyword {k}"
  | _ => fail s!"expected keyword {k}"

/-- Takes a keyword if it comes next. -/
def optWord (k : String) : Parser Bool := do
  if ← isWord k then
    advance
    return true
  else return false

/-- Something in parentheses. -/
def parens {α : Type} (inner : Parser α) : Parser α := do
  if ← isOpening then advance else fail "expected an opening parenthesis"
  let a ← inner
  if (← look) == .closing then advance else fail "expected a closing parenthesis"
  return a

/-! ## 4. Names and references -/

/-- A name and its place. -/
structure Name where
  text : String
  place : Nat
  deriving DecidableEq, Repr, Inhabited

/-- What a reference gives: a number or a name. -/
inductive Target where
  | number (n : Nat)
  | name (s : String)
  deriving DecidableEq, Repr, Inhabited

/-- A reference to an item and its place. -/
structure Ref where
  target : Target
  place : Nat
  deriving DecidableEq, Repr, Inhabited

/-- A name if one comes next. -/
def optName : Parser (Option Name) := do
  match ← look with
  | .name s => do
    if s.isEmpty then fail "malformed identifier"
    let place ← here
    advance
    return some ⟨s, place⟩
  | _ => return none

/-- Is the first token left an integer? -/
def isInteger : Parser Bool := do
  match ← look with
  | .integer .. => return true
  | _ => return false

/-- The value of an integer token. -/
def integerValue (negative hex : Bool) (digits : List Char) : Int :=
  let n : Nat := if hex then ofHexDigits digits else Number.ofDigits digits
  if negative then -(n : Int) else n

/-- An unsigned integer below `2 ^ bits`. -/
def unsigned (bits : Nat) : Parser Nat := do
  match ← look with
  | .integer negative hex digits =>
    let z := integerValue negative hex digits
    if negative || Number.pow2 bits ≤ z then failPast "constant out of range"
    else
      advance
      return z.toNat
  | _ => fail s!"expected a u{bits}"

/-- An integer that fits `bits` bits with or without a sign, as these bits. -/
def anySigned (bits : Nat) : Parser Nat := do
  match ← look with
  | .integer negative hex digits =>
    let z := integerValue negative hex digits
    if z < -(Number.pow2 (bits - 1) : Int) || Number.pow2 bits ≤ z then failPast "constant out of range"
    else
      advance
      return (z % Number.pow2 bits).toNat
  | _ => fail s!"expected a i{bits}"

/-- Is a token a reference? -/
def TokenKind.isRef : TokenKind → Bool
  | .integer .. | .name _ => true
  | _ => false

/-- Is the first token left a reference? -/
def isRef : Parser Bool := do return (← look).isRef

/-- A reference. -/
def ref : Parser Ref := do
  let place ← here
  match ← optName with
  | some n => return ⟨.name n.text, n.place⟩
  | none =>
    if ← isInteger then return ⟨.number (← unsigned 32), place⟩
    else fail "expected an index or an identifier"

/-- A reference if one comes next. -/
def optRef : Parser (Option Ref) := do if ← isRef then return some (← ref) else return none

/-- A reference if one comes next, and otherwise the first item. -/
def refOrZero : Parser Ref := do return (← optRef).getD ⟨.number 0, ← here⟩

/-! ## 5. Strings -/

/-- A string of bytes. -/
def bytes : Parser (List UInt8) := do
  match ← look with
  | .string bs => do
    advance
    return bs
  | _ => fail "expected a string"

/-- A string of text. The complaint about one that is not UTF-8 points behind it. -/
def text : Parser String := do
  let stop := (← current).stop
  match Text.Utf8.decodeText (← bytes) with
  | .ok s => return s
  | .error _ => failAt "malformed UTF-8 encoding" stop

/-- Takes the name of an annotation. -/
def remark (a : String) : Parser Unit := do
  match ← look with
  | .remark b => if a = b then advance else failPast s!"expected annotation {a}"
  | _ => fail s!"expected annotation {a}"

/-- An annotation of a name, if one comes next. -/
def optNameAnnotation : Parser (Option String) := do
  if (← lookNext) == .remark "name" then
    return some (← parens do
      remark "name"
      text)
  else return none

/-! ## 6. Floats -/

/-- The magnitude of a float literal, if it is within the range of the format. -/
def floatMagnitude (f : Number.Format) : FloatText → Option Nat
  | .infinity => some f.infinity
  | .nan => some f.quietNaN
  | .payload ds =>
    let n := ofHexDigits ds
    let kept := n % f.leading
    if kept ≠ 0 && n < Number.pow2 f.width then some (f.infinity + kept) else none
  | .digits true whole fraction exponent => f.ofHexDigits whole fraction exponent
  | .digits false whole fraction exponent =>
    let m := f.ofDecimal ⟨Number.ofDigits (whole ++ fraction), exponent - fraction.length⟩
    if m < f.infinity then some m else none

/-- A float or an integer as a word of a format. -/
def float (f : Number.Format) : Parser Nat := do
  let take (negative : Bool) (t : FloatText) : Parser Nat := do
    match floatMagnitude f t with
    | some m =>
      advance
      return f.signed negative m
    | none => failPast "invalid float value: constant out of range"
  match ← look with
  | .float negative t => take negative t
  | .integer negative hex ds => take negative (.digits hex ds [] 0)
  | _ => fail "expected a float"

end Embedder.Wasm.Wat
