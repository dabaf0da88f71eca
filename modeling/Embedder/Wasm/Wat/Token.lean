import Embedder.Diagnostic
import Embedder.Number.Grouped
import Embedder.Text.Utf8

/-!
# Tokens of module text

A text is cut into parentheses, strings, names, keywords and numbers, with blanks and comments in
between. A run of letters, digits and signs that touches a string or is none of these is *reserved*:
no grammar rule admits it. Reading never fails as a whole: what cannot be read becomes a last token,
`broken`, and matters only to a reader that gets that far.

Every token carries its *place*, the number of bytes before it, and the place after it.
-/

namespace Embedder.Wasm.Wat

open Number (isHexDigit hexValue ofHexDigits digitRun)

/-! ## 1. Kinds of tokens -/

/-- The text of a float, without its sign. -/
inductive FloatText where
  | infinity
  | nan
  /-- A not-a-number with the payload that the hexadecimal digits give. -/
  | payload (digits : List Char)
  /-- Digits before and after the point, and the exponent: of ten, or of two after hexadecimal digits. -/
  | digits (hex : Bool) (whole fraction : List Char) (exponent : Int)
  deriving DecidableEq, Repr, Inhabited

/-- The kinds of tokens. -/
inductive TokenKind where
  | opening
  | closing
  | string (bytes : List UInt8)
  /-- A name; it is empty if it is not a proper one. -/
  | name (text : String)
  | keyword (text : String)
  /-- The name of an annotation; it is empty if it is not a proper one. -/
  | remark (text : String)
  | integer (negative hex : Bool) (digits : List Char)
  | float (negative : Bool) (text : FloatText)
  | reserved
  /-- The end of the text. -/
  | finish
  /-- Text that is no token, and why. -/
  | broken (message : String)
  deriving DecidableEq, Repr, Inhabited

/-- A token, the number of bytes before it, and that of the bytes before what follows it. -/
structure Token where
  kind : TokenKind
  place : Nat
  stop : Nat := place
  deriving DecidableEq, Repr, Inhabited

/-! ## 2. Characters -/

/-- The characters of names, keywords and numbers. -/
def isWordChar (c : Char) : Bool :=
  '!' ≤ c && c ≤ '~' && !(['"', '(', ')', ',', ';', '[', ']', '\x7b', '\x7d'].contains c)

/-- The blanks between tokens. -/
def isSpace (c : Char) : Bool := c == ' ' || c == '\n' || c == '\r' || c == '\t'

/-! ## 3. Numbers -/

/-- The exponent of a float: its sign and digits. -/
def exponentOf (cs : List Char) : Option Int :=
  let (negative, rest) := Number.splitSign cs
  match digitRun Number.isDigit rest with
  | some (ds, []) => some (if negative then -(Number.ofDigits ds : Int) else Number.ofDigits ds)
  | _ => none

/-- The part of a number after the digits before the point. -/
def numberAfter (negative hex : Bool) (good : Char → Bool) (whole rest : List Char) : Option TokenKind :=
  match rest with
  | [] => some (.integer negative hex whole)
  | _ =>
    let afterPoint : Option (List Char × List Char) :=
      match rest with
      | '.' :: r => if (r.head?.map good).getD false then digitRun good r else some ([], r)
      | r => some ([], r)
    match afterPoint with
    | none => none
    | some (fraction, []) => some (.float negative (.digits hex whole fraction 0))
    | some (fraction, c :: r) =>
      if (hex && (c == 'p' || c == 'P')) || (!hex && (c == 'e' || c == 'E')) then
        (exponentOf r).map fun e => .float negative (.digits hex whole fraction e)
      else none

/-- The number that a word spells. -/
def numberOf (word : List Char) : Option TokenKind :=
  let (negative, rest) := Number.splitSign word
  if rest == ['i', 'n', 'f'] then some (.float negative .infinity)
  else if rest == ['n', 'a', 'n'] then some (.float negative .nan)
  else
    match rest with
    | 'n' :: 'a' :: 'n' :: ':' :: '0' :: 'x' :: ds =>
      match digitRun isHexDigit ds with
      | some (ds, []) => some (.float negative (.payload ds))
      | _ => none
    | '0' :: 'x' :: ds =>
      match digitRun isHexDigit ds with
      | some (whole, rest) => numberAfter negative true isHexDigit whole rest
      | none => none
    | ds =>
      match digitRun Number.isDigit ds with
      | some (whole, rest) => numberAfter negative false Number.isDigit whole rest
      | none => none

/-! ## 4. Strings -/

/-- Where the reading of a string is. -/
inductive StringState where
  | plain
  /-- After a backslash. -/
  | escape
  /-- After a backslash and one hexadecimal digit. -/
  | byte (high : Nat)
  /-- Before the brace of a code point. -/
  | brace
  /-- Before the first digit of a code point. -/
  | firstDigit
  /-- Among the digits of a code point, perhaps just after an underscore. -/
  | digits (n : Nat) (underscore : Bool)
  deriving DecidableEq, Repr, Inhabited

/-- What one character does to the reading of a string: it fails at this character, fails at the one
    before, ends the string, or leads to the next state with some bytes added. -/
inductive StringStep where
  | wrong (message : String)
  | wrongBefore (message : String)
  | done
  | next (s : StringState) (bytes : List UInt8)
  deriving Inhabited

/-- Is a number a code point that a character can have? -/
def isScalar (n : Nat) : Bool := n < 0xD800 || (0xDFFF < n && n < 0x110000)

/-- One character of a string. -/
def StringState.step (c : Char) : StringState → StringStep
  | .plain =>
    if c == '"' then .done
    else if c == '\\' then .next .escape []
    else if c.toNat < 0x20 || c.toNat == 0x7F then .wrong "invalid character in string"
    else if isConfusing c then .wrong "likely-confusing unicode character found"
    else .next .plain (Text.Utf8.encodeChar c)
  | .escape =>
    if c == '"' || c == '\'' || c == '\\' then .next .plain [c.toNat.toUInt8]
    else if c == 't' then .next .plain [9]
    else if c == 'n' then .next .plain [10]
    else if c == 'r' then .next .plain [13]
    else if c == 'u' then .next .brace []
    else if isHexDigit c then .next (.byte (hexValue c)) []
    else .wrong "invalid string escape"
  | .byte high =>
    if isHexDigit c then .next .plain [(16 * high + hexValue c).toUInt8] else .wrong "invalid hex digit"
  | .brace => if c == '\x7b' then .next .firstDigit [] else .wrong "expected an opening brace"
  | .firstDigit => if isHexDigit c then .next (.digits (hexValue c) false) [] else .wrong "invalid hex digit"
  | .digits n underscore =>
    if c == '_' then .next (.digits n true) []
    else if isHexDigit c then
      let n' := 16 * n + hexValue c
      if n' < Number.pow2 32 then .next (.digits n' false) [] else .wrong "number is too big to parse"
    else if underscore then .wrongBefore "bare underscore in numeric literal"
    else if !isScalar n then .wrongBefore "invalid unicode scalar value"
    else if c == '\x7d' then .next .plain (Text.Utf8.encodeChar (Char.ofNat n))
    else .wrong "expected a closing brace"

/-- A string that was read: its bytes, the place after it and the rest. -/
structure StringRead where
  bytes : List UInt8
  place : Nat
  rest : List Char
  deriving Inhabited

/-- Reads a string after its opening quote. The bytes so far are `done`, last first, and `before` is the
    place of the character before. -/
def readString (s : StringState) (done : List UInt8) (before place : Nat) :
    List Char → Except Complaint StringRead
  | [] => .error ⟨"unexpected end of input", place⟩
  | c :: cs =>
    match s.step c with
    | .wrong m => .error ⟨m, place⟩
    | .wrongBefore m => .error ⟨m, before⟩
    | .done => .ok ⟨done.reverse, place + 1, cs⟩
    | .next s bytes => readString s (bytes.reverse ++ done) place (place + c.utf8Size) cs

/-! ## 5. Words -/

/-- A part of a word: plain characters or a string. -/
inductive Piece where
  | chars (cs : List Char)
  | string (bytes : List UInt8)
  deriving Inhabited

/-- The text in quotes after a dollar or at sign, if it can be a name. -/
def quotedName (bytes : List UInt8) : Option String :=
  match Text.Utf8.decodeText bytes with
  | .ok s => if s.isEmpty then none else some s
  | .error _ => none

/-- The token of plain characters. -/
def wordToken (cs : List Char) : TokenKind :=
  match numberOf cs with
  | some k => k
  | none =>
    match cs with
    | '$' :: c :: r => .name (String.ofList (c :: r))
    | '@' :: r => .remark (String.ofList r)
    | c :: _ => if 'a' ≤ c && c ≤ 'z' then .keyword (String.ofList cs) else .reserved
    | [] => .reserved

/-- The token that the pieces of a word make. -/
def pieceToken : List Piece → TokenKind
  | [.string bytes] => .string bytes
  | [.chars cs] => wordToken cs
  | [.chars ['$'], .string bytes] => .name ((quotedName bytes).getD "")
  | [.chars ['@'], .string bytes] => .remark ((quotedName bytes).getD "")
  | _ => .reserved

/-- A word that was read: its pieces, the place after it and the rest. -/
structure WordRead where
  pieces : List Piece
  place : Nat
  rest : List Char
  deriving Inhabited

/-- Reads a word: plain characters and strings without anything between them. -/
def readWord : (fuel place : Nat) → List Char → Except Complaint WordRead
  | 0, place, cs => .ok ⟨[], place, cs⟩
  | fuel + 1, place, cs =>
    match cs with
    | [] => .ok ⟨[], place, []⟩
    | c :: r =>
      if c == '"' then do
        let s ← readString .plain [] place (place + 1) r
        let w ← readWord fuel s.place s.rest
        return { w with pieces := .string s.bytes :: w.pieces }
      else if isWordChar c then do
        let word := cs.takeWhile isWordChar
        let w ← readWord fuel (place + word.length) (cs.dropWhile isWordChar)
        return { w with pieces := .chars word :: w.pieces }
      else .ok ⟨[], place, cs⟩

/-! ## 6. Comments -/

/-- A comment that was read: the place after it, the rest, and the first confusing character in it. -/
structure CommentRead where
  place : Nat
  rest : List Char
  confusing : Option Nat
  deriving Inhabited

/-- Reads a block comment after its opening, at a depth of nesting. -/
def readBlock (depth place : Nat) (confusing : Option Nat) : List Char → Option CommentRead
  | [] => none
  | '(' :: ';' :: cs => readBlock (depth + 1) (place + 2) confusing cs
  | ';' :: ')' :: cs =>
    if depth ≤ 1 then some ⟨place + 2, cs, confusing⟩ else readBlock (depth - 1) (place + 2) confusing cs
  | c :: cs =>
    let confusing := confusing <|> if isConfusing c then some place else none
    readBlock depth (place + c.utf8Size) confusing cs

/-- Reads a comment up to the end of its line. -/
def readLine (place : Nat) (confusing : Option Nat) : List Char → CommentRead
  | [] => ⟨place, [], confusing⟩
  | c :: cs =>
    if c == '\n' || c == '\r' then ⟨place, c :: cs, confusing⟩
    else
      let confusing := confusing <|> if isConfusing c then some place else none
      readLine (place + c.utf8Size) confusing cs

/-! ## 7. Texts -/

/-- The token for text that cannot be read. -/
def Token.ofComplaint (c : Complaint) : Token := ⟨.broken c.message, c.place, c.place⟩

/-- The tokens of a text from a place on. A `broken` or `finish` token is the last one. The opening
    parenthesis of an annotation whose name cannot be read is left out. -/
def scanFrom : (fuel place : Nat) → List Char → List Token
  | 0, place, _ => [⟨.finish, place, place⟩]
  | _ + 1, place, [] => [⟨.finish, place, place⟩]
  | fuel + 1, place, c :: cs =>
    let afterComment (r : CommentRead) : List Token :=
      match r.confusing with
      | some p => [.ofComplaint ⟨"likely-confusing unicode character found", p⟩]
      | none => scanFrom fuel r.place r.rest
    if isSpace c then scanFrom fuel (place + 1) cs
    else if c == '(' then
      match cs with
      | ';' :: r =>
        match readBlock 1 (place + 2) none r with
        | none => [.ofComplaint ⟨"unterminated block comment", place⟩]
        | some r => afterComment r
      | _ =>
        let rest := scanFrom fuel (place + 1) cs
        match cs.head? == some '@', rest with
        | true, ⟨.broken m, p, q⟩ :: _ => [⟨.broken m, p, q⟩]
        | _, _ => ⟨.opening, place, place + 1⟩ :: rest
    else if c == ')' then ⟨.closing, place, place + 1⟩ :: scanFrom fuel (place + 1) cs
    else if c == ';' then
      match cs with
      | ';' :: r => afterComment (readLine (place + 2) none r)
      | _ => ⟨.reserved, place, place + 1⟩ :: scanFrom fuel (place + 1) cs
    else if c == '"' || isWordChar c then
      match readWord (cs.length + 1) place (c :: cs) with
      | .error e => [.ofComplaint e]
      | .ok w => ⟨pieceToken w.pieces, place, w.place⟩ :: scanFrom fuel w.place w.rest
    else if [',', '[', ']', '\x7b', '\x7d'].contains c then
      ⟨.reserved, place, place + 1⟩ :: scanFrom fuel (place + 1) cs
    else [.ofComplaint ⟨"unexpected character", place⟩]

/-- The tokens of a text, annotations included. -/
def Token.scanAll (text : List Char) : List Token := scanFrom (text.length + 1) 0 text

/-! ## 8. Annotations -/

/-- The annotations that mean something. -/
def knownAnnotations : List String :=
  ["custom", "producers", "name", "dylink.0", "metadata.code.branch_hint"]

/-- The tokens without the annotations that mean nothing. While one is left out, `skip` holds the depth of
    parentheses in it and its place. -/
def withoutAnnotations (skip : Option (Nat × Nat)) : List Token → List Token
  | [] => []
  | t :: ts =>
    match skip with
    | some (depth, place) =>
      match t.kind with
      | .opening => withoutAnnotations (some (depth + 1, place)) ts
      | .closing => withoutAnnotations (if depth ≤ 1 then none else some (depth - 1, place)) ts
      | .finish => [.ofComplaint ⟨"unclosed annotation", place⟩]
      | .broken _ => [t]
      | _ => withoutAnnotations skip ts
    | none =>
      match t.kind, ts with
      | .opening, ⟨.remark a, place, _⟩ :: _ =>
        if place ≠ t.place + 1 then t :: withoutAnnotations none ts
        else if a.isEmpty then [.ofComplaint ⟨"malformed annotation name", place⟩]
        else if knownAnnotations.contains a then t :: withoutAnnotations none ts
        else withoutAnnotations (some (1, place)) ts
      | _, _ => t :: withoutAnnotations none ts

/-- The tokens of a text that mean something. -/
def Token.scan (text : List Char) : List Token := withoutAnnotations none (scanAll text)

end Embedder.Wasm.Wat
