import Embedder.Number.Grouped
import Embedder.Toml.Value

/-!
# Reading TOML

The grammar of TOML 1.0. A document is read line by line: a header, a key with its value, or nothing,
then perhaps a comment. Only arrays and long strings go over several lines. Arrays and tables in values may
be nested, and keys may have parts, only below a limit.
-/

namespace Embedder.Toml

open Number

/-- A reader of characters. -/
abbrev Reader := StateT (List Char) (Except String)

/-! ## 1. Characters -/

/-- The next character, not taken. -/
def peek : Reader (Option Char) := do return (← get).head?

/-- Takes a character. -/
def skip : Reader Unit := modify List.tail

/-- Takes a given character. -/
def char (c : Char) : Reader Unit := do
  if (← peek) = some c then skip else throw s!"expected {c}"

/-- Takes a given character if it comes next. -/
def optChar (c : Char) : Reader Bool := do
  if (← peek) = some c then
    skip
    return true
  else return false

/-- Takes given characters if they come next. -/
def optChars (cs : List Char) : Reader Bool := do
  let rest ← get
  if cs.isPrefixOf rest then
    set (rest.drop cs.length)
    return true
  else return false

/-- Takes the characters of a class. -/
def takeWhile (p : Char → Bool) : Reader (List Char) := do
  let cs ← get
  set (cs.dropWhile p)
  return cs.takeWhile p

/-- A blank within a line. -/
def isBlankChar (c : Char) : Bool := c == ' ' || c == '\t'

/-- Takes blanks within a line. -/
def blanks : Reader Unit := do let _ ← takeWhile isBlankChar

/-- A character that may stand in comments and strings. -/
def isTextChar (c : Char) : Bool := c == '\t' || (0x20 ≤ c.toNat && c.toNat ≠ 0x7F)

/-- Takes a comment if one comes next. -/
def comment : Reader Unit := do
  if ← optChar '#' then
    let _ ← takeWhile isTextChar

/-- Takes the end of a line if it comes next. -/
def optNewline : Reader Bool := do
  if ← optChar '\n' then return true else optChars ['\r', '\n']

/-- The end of a line, or of the document, after blanks and a comment. -/
def lineEnd : Reader Unit := do
  blanks
  comment
  if (← get).isEmpty then return ()
  if ← optNewline then return () else throw "expected newline"

/-! ## 2. Strings -/

/-- The number that digits to a base up to sixteen spell. -/
def ofBase (base : Nat) (cs : List Char) : Nat :=
  cs.foldl (fun n c => base * n + hexValue c) 0

/-- The character whose code has exactly `n` hexadecimal digits. -/
def codePoint (n : Nat) : Reader Char := do
  let cs ← get
  let digits := cs.take n
  let v := ofHexDigits digits
  if digits.length = n && digits.all isHexDigit && (v < 0xD800 || (0xDFFF < v && v < 0x110000)) then
    set (cs.drop n)
    return Char.ofNat v
  else throw "invalid unicode escape"

/-- The character after a backslash. -/
def escape : Reader Char := do
  match ← peek with
  | some 'b' => do
    skip
    return '\x08'
  | some 't' => do
    skip
    return '\t'
  | some 'n' => do
    skip
    return '\n'
  | some 'f' => do
    skip
    return '\x0c'
  | some 'r' => do
    skip
    return '\r'
  | some '"' => do
    skip
    return '"'
  | some '\\' => do
    skip
    return '\\'
  | some 'u' => do
    skip
    codePoint 4
  | some 'U' => do
    skip
    codePoint 8
  | _ => throw "invalid escape sequence"

/-- The rest of a string on one line; `quote` ends it, and backslashes count if `escapes` holds. -/
def shortString (quote : Char) (escapes : Bool) (done : List Char) : (fuel : Nat) → Reader String
  | 0 => throw "unterminated string"
  | fuel + 1 => do
    match ← peek with
    | none => throw "unterminated string"
    | some c =>
      skip
      if c = quote then return String.ofList done.reverse
      else if escapes && c = '\\' then shortString quote escapes ((← escape) :: done) fuel
      else if isTextChar c then shortString quote escapes (c :: done) fuel
      else throw "invalid character in string"

/-- Takes blanks and line ends, at most `fuel`. -/
def skipLines : (fuel : Nat) → Reader Unit
  | 0 => return ()
  | fuel + 1 => do
    blanks
    if ← optNewline then skipLines fuel else return ()

/-- The rest of a string over several lines; three quotes end it, and up to two more belong to it. -/
def longString (quote : Char) (escapes : Bool) (done : List Char) : (fuel : Nat) → Reader String
  | 0 => throw "unterminated string"
  | fuel + 1 => do
    let rest ← get
    match rest with
    | [] => throw "unterminated string"
    | c :: cs =>
      if c = quote && [quote, quote].isPrefixOf cs then
        let quotes := rest.takeWhile (· = quote)
        let extra := min 2 (quotes.length - 3)
        set (rest.drop (3 + extra))
        return String.ofList (List.replicate extra quote ++ done).reverse
      else if ← optNewline then longString quote escapes ('\n' :: done) fuel
      else
        skip
        if escapes && c = '\\' then
          let afterBlanks := cs.dropWhile isBlankChar
          if afterBlanks.head? = some '\n' || ['\r', '\n'].isPrefixOf afterBlanks then
            skipLines (cs.length + 1)
            longString quote escapes done fuel
          else longString quote escapes ((← escape) :: done) fuel
        else if isTextChar c then longString quote escapes (c :: done) fuel
        else throw "invalid character in string"

/-- A string that begins with a quote, already taken. -/
def stringAfter (quote : Char) : Reader String := do
  let escapes := quote == '"'
  let fuel := (← get).length + 1
  if ← optChars [quote, quote] then
    let _ ← optNewline
    longString quote escapes [] fuel
  else shortString quote escapes [] fuel

/-! ## 3. Keys -/

/-- A character of a bare key. -/
def isBare (c : Char) : Bool :=
  isDigit c || ('a' ≤ c && c ≤ 'z') || ('A' ≤ c && c ≤ 'Z') || c == '_' || c == '-'

/-- One key without dots. -/
def simpleKey : Reader String := do
  match ← peek with
  | some '"' => do
    skip
    shortString '"' true [] ((← get).length + 1)
  | some '\'' => do
    skip
    shortString '\'' false [] ((← get).length + 1)
  | _ => do
    let cs ← takeWhile isBare
    if cs.isEmpty then throw "invalid key" else return String.ofList cs

/-- Keys with dots between them. -/
def keyPath : (fuel : Nat) → Reader (List String)
  | 0 => throw "invalid key"
  | fuel + 1 => do
    let k ← simpleKey
    blanks
    if ← optChar '.' then
      blanks
      return k :: (← keyPath fuel)
    else return [k]

/-- The number that the depth of a value, and the length of a path of keys, has to stay below. -/
def nestingLimit : Nat := 80

/-- Keys with dots between them, not too many. -/
def key : Reader (List String) := do
  let path ← keyPath ((← get).length + 1)
  if path.length < nestingLimit then return path else throw "recursion limit exceeded"

/-! ## 4. Numbers and dates -/

/-- Exactly `n` digits with a value in a range, and the rest. -/
def fixedDigits (n lo hi : Nat) (cs : List Char) : Option (Nat × List Char) :=
  let ds := cs.take n
  let v := ofDigits ds
  if ds.length = n && ds.all isDigit && lo ≤ v && v ≤ hi then some (v, cs.drop n) else none

/-- The rest after a given character. -/
def afterChar (c : Char) : List Char → Option (List Char)
  | d :: cs => if c = d then some cs else none
  | [] => none

/-- The number of days of a month. -/
def daysIn (year month : Nat) : Nat :=
  let leap := year % 4 = 0 && (year % 100 ≠ 0 || year % 400 = 0)
  match month with
  | 2 => if leap then 29 else 28
  | 4 | 6 | 9 | 11 => 30
  | _ => 31

/-- The rest after a time of day. -/
def timeOfDay (cs : List Char) : Option (List Char) := do
  let (_, cs) ← fixedDigits 2 0 23 cs
  let (_, cs) ← fixedDigits 2 0 59 (← afterChar ':' cs)
  let (_, cs) ← fixedDigits 2 0 60 (← afterChar ':' cs)
  match cs with
  | '.' :: r => if (r.head?.map isDigit).getD false then some (r.dropWhile isDigit) else none
  | _ => some cs

/-- The rest after a time zone, or all if there is none. -/
def zone (cs : List Char) : Option (List Char) :=
  match cs with
  | 'Z' :: r | 'z' :: r => some r
  | '+' :: r | '-' :: r => do
    let (_, r) ← fixedDigits 2 0 23 r
    let (_, r) ← fixedDigits 2 0 59 (← afterChar ':' r)
    return r
  | _ => some cs

/-- The rest after a date, perhaps with a time. -/
def dateTime (cs : List Char) : Option (List Char) := do
  let (year, cs) ← fixedDigits 4 0 9999 cs
  let (month, cs) ← fixedDigits 2 1 12 (← afterChar '-' cs)
  let (_, cs) ← fixedDigits 2 1 (daysIn year month) (← afterChar '-' cs)
  match cs with
  | c :: r =>
    if c = 'T' || c = 't' then zone (← timeOfDay r)
    else if c = ' ' then
      match timeOfDay r with
      | some r => zone r
      | none => some cs
    else some cs
  | [] => some cs

/-- Is the text a date or a time, and no number? -/
def looksLikeDate (cs : List Char) : Bool :=
  let ds := cs.takeWhile isDigit
  let next := (cs.dropWhile isDigit).head?
  (ds.length = 4 && next = some '-') || (ds.length = 2 && next = some ':')

/-- The digits of a whole decimal number, without leading zeros, and the rest. -/
def wholeDigits (cs : List Char) : Option (List Char × List Char) :=
  match cs with
  | '0' :: r => some (['0'], r)
  | _ => digitRun isDigit cs

/-- The integer with a value, if it has 64 bits. -/
def integerItem (z : Int) (rest : List Char) : Option (Item × List Char) :=
  if -9223372036854775808 ≤ z && z ≤ 9223372036854775807 then some (.integer z, rest) else none

/-- The float with some digits; one that is above all floats is none. -/
def floatItem (negative : Bool) (whole fraction : List Char) (exponent : Int) (rest : List Char) :
    Option (Item × List Char) :=
  let m := binary64.ofDecimal ⟨ofDigits (whole ++ fraction), exponent - fraction.length⟩
  if negative || m < binary64.infinity then some (.float, rest) else none

/-- A decimal integer or float after its sign. -/
def decimalItem (negative : Bool) (cs : List Char) : Option (Item × List Char) := do
  let (whole, rest) ← wholeDigits cs
  let exponentAfter (fraction rest : List Char) : Option (Item × List Char) :=
    match rest with
    | c :: r =>
      if c = 'e' || c = 'E' then do
        let (neg, r) := splitSign r
        let (ds, r) ← digitRun isDigit r
        let e : Int := ofDigits ds
        floatItem negative whole fraction (if neg then -e else e) r
      else floatItem negative whole fraction 0 rest
    | [] => floatItem negative whole fraction 0 []
  match rest with
  | '.' :: r =>
    let (fraction, r) ← digitRun isDigit r
    exponentAfter fraction r
  | c :: _ =>
    if c = 'e' || c = 'E' then exponentAfter [] rest
    else integerItem (if negative then -(ofDigits whole : Int) else ofDigits whole) rest
  | [] => integerItem (if negative then -(ofDigits whole : Int) else ofDigits whole) []

/-- An integer to a base after its mark. -/
def basedItem (base : Nat) (good : Char → Bool) (cs : List Char) : Option (Item × List Char) := do
  let (ds, rest) ← digitRun good cs
  integerItem (ofBase base ds) rest

/-- A number, a date or a time. -/
def numberItem (cs : List Char) : Option (Item × List Char) :=
  if looksLikeDate cs then
    ((if (cs.takeWhile isDigit).length = 4 then dateTime cs else timeOfDay cs)).map fun r => (.date, r)
  else
    match cs with
    | '0' :: 'x' :: r => basedItem 16 isHexDigit r
    | '0' :: 'o' :: r => basedItem 8 (fun c => '0' ≤ c && c ≤ '7') r
    | '0' :: 'b' :: r => basedItem 2 (fun c => c == '0' || c == '1') r
    | _ =>
      let (negative, r) := splitSign cs
      match r with
      | 'i' :: 'n' :: 'f' :: r => some (.float, r)
      | 'n' :: 'a' :: 'n' :: r => some (.float, r)
      | _ => decimalItem negative r

/-! ## 5. Values -/

/-- Takes blanks, line ends and comments, at most `fuel` of them. -/
def skipGap : (fuel : Nat) → Reader Unit
  | 0 => return ()
  | fuel + 1 => do
    blanks
    comment
    if ← optNewline then skipGap fuel else return ()

/-- Takes blanks, line ends and comments. -/
def gap : Reader Unit := do skipGap ((← get).length + 1)

/-- A value without values inside. -/
def plainValue : Reader Item := do
  match ← peek with
  | some '"' => do
    skip
    return .string (← stringAfter '"')
  | some '\'' => do
    skip
    return .string (← stringAfter '\'')
  | some 't' => if ← optChars ['t', 'r', 'u', 'e'] then return .boolean true else throw "invalid value"
  | some 'f' => if ← optChars ['f', 'a', 'l', 's', 'e'] then return .boolean false else throw "invalid value"
  | _ => do
    match numberItem (← get) with
    | some (i, rest) =>
      set rest
      return i
    | none => throw "invalid value"

mutual

/-- A value, inside as many others as `depth` says. -/
def value (depth : Nat) : (fuel : Nat) → Reader Item
  | 0 => throw "recursion limit exceeded"
  | fuel + 1 => do
    if ← optChar '[' then
      gap
      if nestingLimit ≤ depth + 1 then throw "recursion limit exceeded"
      return .array (← arrayRest (depth + 1) fuel)
    else if ← optChar '\x7b' then
      blanks
      if nestingLimit ≤ depth + 1 then throw "recursion limit exceeded"
      if ← optChar '\x7d' then return .inlineTable false false []
      else return .inlineTable false false (← tableRest (depth + 1) fuel [])
    else plainValue

/-- The rest of an array, after its opening or a comma. -/
def arrayRest (depth : Nat) : (fuel : Nat) → Reader (List Item)
  | 0 => throw "recursion limit exceeded"
  | fuel + 1 => do
    if ← optChar ']' then return []
    let v ← value depth fuel
    gap
    if ← optChar ',' then
      gap
      return v :: (← arrayRest depth fuel)
    else
      char ']'
      return [v]

/-- The rest of an inline table that has some members. -/
def tableRest (depth : Nat) : (fuel : Nat) → Members → Reader Members
  | 0, _ => throw "recursion limit exceeded"
  | fuel + 1, ms => do
    blanks
    let path ← key
    blanks
    char '='
    blanks
    let v ← value depth fuel
    blanks
    match insertInline false false (path.getLastD "") v path.dropLast ms with
    | .error e => throw e
    | .ok ms =>
      if ← optChar ',' then tableRest depth fuel ms
      else
        char '\x7d'
        return ms

end

/-! ## 6. Documents -/

/-- One line of a document. -/
def docLine (d : Draft) : Reader Draft := do
  blanks
  let next ← peek
  let d ←
    if next = some '[' then do
      skip
      let repeated ← optChar '['
      blanks
      let path ← key
      blanks
      char ']'
      if repeated then char ']'
      match if repeated then d.openElement path else d.openTable path with
      | .ok d => pure d
      | .error e => throw e
    else if next = none || next = some '#' || next = some '\n' || next = some '\r' then pure d
    else do
      let path ← key
      blanks
      char '='
      blanks
      let v ← value 0 ((← get).length + 1)
      match d.add path.dropLast (path.getLastD "") v with
      | .ok d => pure d
      | .error e => throw e
  lineEnd
  return d

/-- The lines of a document, at most `fuel`. -/
def docLines : (fuel : Nat) → Draft → Reader Draft
  | 0, d => return d
  | fuel + 1, d => do
    if (← get).isEmpty then return d
    docLines fuel (← docLine d)

/-- The byte order mark, which may begin a document. -/
def byteOrderMark : Char := Char.ofNat 0xFEFF

/-- The root table of a document. -/
def parse (text : String) : Except String Members := do
  let cs := match text.toList with
    | c :: cs => if c = byteOrderMark then cs else c :: cs
    | [] => []
  let (d, _) ← (docLines (cs.length + 1) Draft.empty).run cs
  d.close

end Embedder.Toml
