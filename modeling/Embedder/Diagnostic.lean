import Embedder.Error
import Embedder.Text.Lines
import Embedder.Text.Width

/-!
# Diagnostics about a text

A reader of module text complains about a byte of it. `Complaint.render` writes the complaint as a
diagnostic for people: a message, a marker `--> file:line:column`, and the line in question. The column
counts what is seen on the screen. `RuntimeError.ofDiagnostic` gets the message and the position back
out of such a text, whoever has written it.
-/

namespace Embedder

/-! ## 1. Complaints -/

/-- A complaint about a text, and the byte that it points at. -/
structure Complaint where
  message : String
  place : Nat
  deriving DecidableEq, Repr, Inhabited

/-- The number of characters, of those given, that start before byte `n`. -/
def charsBefore (n : Nat) : List Char → Nat
  | [] => 0
  | c :: cs => if n = 0 then 0 else charsBefore (n - c.utf8Size) cs + 1

/-- The number of bytes of some characters. -/
def byteSize (cs : List Char) : Nat := cs.foldl (fun n c => n + c.utf8Size) 0

/-- Characters that change the direction of the text around them, and so its look. -/
def isConfusing (c : Char) : Bool :=
  let n := c.toNat
  n == 0x202A || n == 0x202B || n == 0x202D || n == 0x202E || (0x2066 ≤ n && n ≤ 0x2069) ||
    n == 0x206C

/-- A line as it is shown: a tab is four spaces, and confusing characters are left out. -/
def snippet (line : List Char) : List Char :=
  line.flatMap fun c =>
    if c == '\t' then [' ', ' ', ' ', ' '] else if isConfusing c then [] else [c]

/-- A place in a text: lines and columns before it, and the line as it is shown. -/
structure Location where
  line : Nat
  column : Nat
  shown : List Char
  deriving DecidableEq, Repr, Inhabited

/-- The column that byte `n` of a shown line stands in. A byte that no character starts at stands for
    itself. -/
def columnOf (shown : List Char) (n : Nat) : Nat :=
  let before := shown.take (charsBefore n shown)
  if byteSize before = n then Text.width before else n

/-- Where a byte of a text is. -/
def Location.ofPlace (text : List Char) (place : Nat) : Location :=
  let before := text.take (charsBefore place text)
  let line := before.count '\n'
  let inLine := byteSize ((before.reverse.takeWhile fun c => c != '\n'))
  let shown := snippet ((Text.lines text)[line]?.getD [])
  ⟨line, columnOf shown inLine, shown⟩

/-! ## 2. Rendering -/

/-- The last column, counted from one, that a diagnostic shows the line for. -/
def lastColumn : Nat := 500

/-- A number, with blanks before it up to four columns. -/
def padded (n : Nat) : String :=
  let s := toString n
  String.ofList (List.replicate (4 - s.length) ' ') ++ s

/-- The diagnostic for a complaint about a text. For a place far to the right it is a single line, without
    the line in question. -/
def Complaint.render (text : List Char) (c : Complaint) : String :=
  let l := Location.ofPlace text c.place
  let position := "<anon>:" ++ toString (l.line + 1) ++ ":" ++ toString (l.column + 1)
  if lastColumn < l.column + 1 then c.message ++ " at " ++ position
  else
    c.message ++ "\n     --> " ++ position ++ "\n      |\n " ++ padded (l.line + 1) ++ " | " ++
      String.ofList l.shown ++ "\n      | " ++ String.ofList (List.replicate l.column ' ') ++ "^"

/-! ## 3. Reading back -/

/-- The part after the last colon, and what is before that colon. -/
def splitLastColon (cs : List Char) : List Char × Option (List Char) :=
  let back := cs.reverse
  let last := (back.takeWhile fun c => c != ':').reverse
  match back.dropWhile fun c => c != ':' with
  | [] => (last, none)
  | _ :: rest => (last, some rest.reverse)

/-- An unsigned 64-bit number: an optional plus sign and digits, blanks at either end aside. -/
def readCount (cs : List Char) : Option Nat :=
  let digits := match Text.trimChars cs with
    | '+' :: ds => ds
    | ds => ds
  (Number.readNat digits).filter fun n => n < Number.pow2 64

/-- The mark in front of a position. -/
def marker : List Char := ['-', '-', '>', ' ']

/-- The position, line and column, that a line of a diagnostic gives. -/
def linePosition (line : List Char) : Option (Nat × Nat) :=
  let rest := Text.trimLeft line
  if marker.isPrefixOf rest then
    let (column, before) := splitLastColon (rest.drop marker.length)
    match readCount column, before with
    | some column, some before => (readCount (splitLastColon before).1).map fun line => (line, column)
    | _, _ => none
  else none

/-- The position that the first line with one gives. -/
def diagnosticPosition (ls : List (List Char)) : Option (Nat × Nat) := ls.findSome? linePosition

/-- The parse error that a diagnostic describes: its first line is the message, and the first marked
    line gives the position. -/
def RuntimeError.ofDiagnostic (rendered : String) : RuntimeError :=
  let ls := Text.lines rendered.toList
  let message := match ls with
    | [] => "malformed module text"
    | l :: _ => String.ofList (Text.trimChars l)
  let position := diagnosticPosition ls
  .parse message (position.map Prod.fst) (position.map Prod.snd)

end Embedder
