import Embedder.Config.Source

/-!
# The log of a command

Events have a level of importance and come from a part of the program. A filter decides which of them
are shown: by default warnings, all of them if the command is verbose, and whatever the environment
says if it says something.
-/

namespace Embedder.Command

/-! ## 1. Events -/

/-- How important an event is. -/
inductive Importance where
  | warn
  | info
  | debug
  deriving DecidableEq, Repr, Inhabited

/-- The rank of a level: the higher it is, the less important are its events. -/
def Importance.rank : Importance → Nat
  | .warn => 2
  | .info => 3
  | .debug => 4

/-- The name of a level. -/
def Importance.name : Importance → String
  | .warn => "WARN"
  | .info => "INFO"
  | .debug => "DEBUG"

/-- Something worth a line in the log. -/
structure Event where
  importance : Importance
  /-- The part of the program. -/
  target : String
  text : String
  deriving DecidableEq, Repr, Inhabited

/-- The ASCII controls that would change how a terminal shows a text. -/
def terminalControls : List Nat := [0x07, 0x08, 0x0C, 0x1B, 0x7F]

/-- The two hexadecimal digits of a number below 256. -/
def hexPair (n : Nat) : List Char := [Nat.digitChar (n / 16), Nat.digitChar (n % 16)]

/-- A character of a text in the log: what would change how a terminal shows the text is written as its
    code. -/
def logChar (c : Char) : List Char :=
  let n := c.toNat
  if terminalControls.contains n then ['\\', 'x'] ++ hexPair n
  else if 0x80 ≤ n && n ≤ 0x9F then ['\\', 'u', '\x7b'] ++ hexPair n ++ ['\x7d']
  else [c]

/-- An event as it stands in the log. -/
def Event.line (e : Event) : String :=
  e.importance.name ++ " " ++ e.target ++ ": " ++ String.ofList (e.text.toList.flatMap logChar)

/-! ## 2. Filters -/

/-- A rule about the events of some parts of the program. -/
structure Directive where
  /-- What the names of the parts begin with. -/
  target : String
  /-- The highest rank that is shown. -/
  limit : Nat
  deriving DecidableEq, Repr, Inhabited

/-- The rules that decide which events are shown. -/
abbrev Filter := List Directive

/-- The highest rank that a word lets through. -/
def limit? (word : String) : Option Nat :=
  [("off", 0), ("error", 1), ("warn", 2), ("info", 3), ("debug", 4), ("trace", 5), ("0", 0), ("1", 1),
    ("2", 2), ("3", 3), ("4", 4), ("5", 5)].lookup (String.ofList (word.toList.map Char.toLower))

/-- A character of the name of a part. -/
def isTargetChar (c : Char) : Bool := c.isAlphanum || c == '_' || c == ':' || c == '-'

/-- The rule that a text gives: a limit for all parts, or the name of parts and perhaps their limit. -/
def Directive.ofText? (text : String) : Option Directive :=
  match limit? text with
  | some n => some ⟨"", n⟩
  | none =>
    let cs := text.toList
    let target := cs.takeWhile isTargetChar
    if target.isEmpty then none
    else
      match cs.dropWhile isTargetChar with
      | [] | ['='] => some ⟨String.ofList target, 5⟩
      | '=' :: word => (limit? (String.ofList word)).map fun n => ⟨String.ofList target, n⟩
      | _ => none

/-- The filter that a text gives: rules with commas between them. Without any rule, only errors are
    shown. -/
def Filter.ofText? (text : String) : Option Filter := do
  let words := (text.splitOn ",").filter fun w => !w.isEmpty
  let ds ← words.mapM Directive.ofText?
  return if ds.isEmpty then [⟨"", 1⟩] else ds

/-- The filter of a command: that of the environment, or one by the level that is wanted. -/
def Filter.ofEnvironment (env : Environment) (verbose : Bool) : Filter :=
  ((env.text? "RUST_LOG").bind Filter.ofText?).getD [⟨"", if verbose then 4 else 2⟩]

/-- The limit for a part: that of the rule with the longest matching name, and of the last such one. -/
def Filter.limitFor (f : Filter) (target : String) : Nat :=
  let best := f.foldl (fun (best : Option Directive) d =>
    if d.target.toList.isPrefixOf target.toList &&
        best.all (fun b => b.target.length ≤ d.target.length) then some d
    else best) none
  (best.map Directive.limit).getD 0

/-- The lines of the events that a filter lets through. -/
def Filter.lines (f : Filter) (events : List Event) : List String :=
  (events.filter fun e => e.importance.rank ≤ f.limitFor e.target).map Event.line

end Embedder.Command
