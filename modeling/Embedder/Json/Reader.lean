import Embedder.Json
import Embedder.Number.Grouped

/-!
# Reading JSON

`Json.read` reads a whole text as one value. A number without point and exponent is an integer if
it fits 64 bits, signed or unsigned, and is not a negative zero; every other number is a 64-bit float.

Values nest, so reading them takes fuel; each value has a character of its own, and the length of the
text is enough.
-/

namespace Embedder.Json

/-! ## 1. Blanks and words -/

/-- The blanks between the parts of a text. -/
def isBlank (c : Char) : Bool := c = ' ' || c = '\t' || c = '\n' || c = '\r'

/-- The text without the blanks at its beginning. -/
def skipBlanks (cs : List Char) : List Char := cs.dropWhile isBlank

/-- The text after a word. -/
def afterWord? : (word cs : List Char) → Option (List Char)
  | [], cs => some cs
  | w :: ws, c :: cs => if w = c then afterWord? ws cs else none
  | _ :: _, [] => none

/-! ## 2. Strings -/

/-- Four hexadecimal digits, and the text after them. -/
def readUnit : List Char → Option (Nat × List Char)
  | a :: b :: c :: d :: cs =>
    if [a, b, c, d].all Number.isHexDigit then some (Number.ofHexDigits [a, b, c, d], cs) else none
  | _ => none

/-- The character of an escape without digits. -/
def simpleEscape? (c : Char) : Option Char :=
  [('"', '"'), ('\\', '\\'), ('/', '/'), ('b', '\x08'), ('f', '\x0c'), ('n', '\n'), ('r', '\r'),
    ('t', '\t')].lookup c

/-- The character of an escape with digits, which may be one unit or a pair of surrogates. -/
def readEscape (cs : List Char) : Option (Char × List Char) := do
  let (u, rest) ← readUnit cs
  if 0xD800 ≤ u && u < 0xDC00 then
    let (v, rest) ← readUnit (← afterWord? ['\\', 'u'] rest)
    if 0xDC00 ≤ v && v < 0xE000 then
      return (Char.ofNat (0x10000 + (u - 0xD800) * 0x400 + (v - 0xDC00)), rest)
    else none
  else if 0xDC00 ≤ u && u < 0xE000 then none
  else return (Char.ofNat u, rest)

/-- The characters of a string up to its closing quote, and the text after it. Each round takes a
    character, so as many rounds as there are characters suffice. -/
def readChars (sofar : List Char) : (rounds : Nat) → List Char → Option (List Char × List Char)
  | 0, _ => none
  | _ + 1, [] => none
  | rounds + 1, c :: cs =>
    if c = '"' then some (sofar.reverse, cs)
    else if c = '\\' then
      match cs with
      | 'u' :: cs => do
        let (d, rest) ← readEscape cs
        readChars (d :: sofar) rounds rest
      | e :: cs => do readChars ((← simpleEscape? e) :: sofar) rounds cs
      | [] => none
    else if c.toNat < 32 then none
    else readChars (c :: sofar) rounds cs

/-- A string after its opening quote, and the text after it. -/
def readString (cs : List Char) : Option (String × List Char) :=
  (readChars [] (cs.length + 1) cs).map fun r => (String.ofList r.1, r.2)

/-! ## 3. Numbers -/

/-- The characters that numbers are made of. -/
def isNumberChar (c : Char) : Bool :=
  Number.isDigit c || c = '-' || c = '+' || c = '.' || c = 'e' || c = 'E'

/-- Is a text of digits one that does not begin with a needless zero? -/
def isPlainDigits : List Char → Bool
  | [] => false
  | ['0'] => true
  | c :: cs => c != '0' && (c :: cs).all Number.isDigit

/-- Is a text the exponent of a number, or nothing? -/
def isExponentPart : List Char → Bool
  | [] => true
  | e :: cs =>
    let digits := match cs with
      | '+' :: ds | '-' :: ds => ds
      | ds => ds
    (e = 'e' || e = 'E') && !digits.isEmpty && digits.all Number.isDigit

/-- Is a text the point and exponent of a number, or nothing? -/
def isTailPart : List Char → Bool
  | '.' :: cs =>
    let digits := cs.takeWhile Number.isDigit
    !digits.isEmpty && isExponentPart (cs.drop digits.length)
  | cs => isExponentPart cs

/-- The number that a text is. -/
def numberOf? (cs : List Char) : Option Json :=
  let negative := cs.head? = some '-'
  let body := if negative then cs.drop 1 else cs
  let digits := body.takeWhile Number.isDigit
  let tail := body.drop digits.length
  if isPlainDigits digits && isTailPart tail then
    let n := Number.ofDigits digits
    if tail.isEmpty && !negative && n < Number.pow2 64 then some (.int n)
    else if tail.isEmpty && negative && 0 < n && n ≤ Number.pow2 63 then some (.int (-n))
    else (Number.binary64.readFloat cs).map fun w => .float (UInt64.ofNat w)
  else none

/-- A number, and the text after it. -/
def readNumber (cs : List Char) : Option (Json × List Char) :=
  (numberOf? (cs.takeWhile isNumberChar)).map fun j => (j, cs.dropWhile isNumberChar)

/-! ## 4. Values -/

mutual

/-- A value, and the text after it. -/
def readValue : (fuel : Nat) → List Char → Option (Json × List Char)
  | 0, _ => none
  | fuel + 1, cs =>
    match skipBlanks cs with
    | [] => none
    | 'n' :: cs => (afterWord? ['u', 'l', 'l'] cs).map fun r => (.null, r)
    | 't' :: cs => (afterWord? ['r', 'u', 'e'] cs).map fun r => (.bool true, r)
    | 'f' :: cs => (afterWord? ['a', 'l', 's', 'e'] cs).map fun r => (.bool false, r)
    | '"' :: cs => (readString cs).map fun r => (.string r.1, r.2)
    | '[' :: cs =>
      match skipBlanks cs with
      | ']' :: rest => some (.array [], rest)
      | cs => (readItems fuel [] cs).map fun r => (.array r.1, r.2)
    | '\x7b' :: cs =>
      match skipBlanks cs with
      | '\x7d' :: rest => some (.object [], rest)
      | cs => (readMembers fuel [] cs).map fun r => (.object r.1, r.2)
    | cs => readNumber cs

/-- The items of an array up to its end, and the text after it. -/
def readItems : (fuel : Nat) → List Json → List Char → Option (List Json × List Char)
  | 0, _, _ => none
  | fuel + 1, sofar, cs =>
    match readValue fuel cs with
    | none => none
    | some (j, cs) =>
      match skipBlanks cs with
      | ',' :: cs => readItems fuel (j :: sofar) cs
      | ']' :: cs => some ((j :: sofar).reverse, cs)
      | _ => none

/-- The members of an object up to its end, and the text after it. -/
def readMembers : (fuel : Nat) → List (String × Json) → List Char →
    Option (List (String × Json) × List Char)
  | 0, _, _ => none
  | fuel + 1, sofar, cs =>
    match skipBlanks cs with
    | '"' :: cs =>
      match readString cs with
      | none => none
      | some (k, cs) =>
        match skipBlanks cs with
        | ':' :: cs =>
          match readValue fuel cs with
          | none => none
          | some (j, cs) =>
            match skipBlanks cs with
            | ',' :: cs => readMembers fuel ((k, j) :: sofar) cs
            | '\x7d' :: cs => some (((k, j) :: sofar).reverse, cs)
            | _ => none
        | _ => none
    | _ => none

end

/-- The value that a text is. -/
def read (s : String) : Option Json :=
  let cs := s.toList
  match readValue (2 * cs.length + 2) cs with
  | some (j, rest) => if (skipBlanks rest).isEmpty then some j else none
  | none => none

end Embedder.Json
