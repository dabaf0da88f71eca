import Embedder.Config.Source

/-!
# The words of a command line

A command line names a task, `run` or `inspect`, and the file to work on. Settings, which take a value,
and switches, which do not, may stand before the name of the task or after it.

The words after the file of `run` are the arguments of the call. **From the first of them on every word is
an argument**, whatever it looks like. A word that looks like an option but is none counts as an argument
once the file is known, and is a misuse before.
-/

namespace Embedder.Command

/-! ## 1. Requests -/

/-- What `run` is asked to do. -/
structure RunTask where
  file : String
  /-- The export to call. -/
  invoke : Option String := none
  /-- Is the export an entry point, whose result is the exit status? -/
  main : Bool := false
  /-- Is the module to do without the standard libraries? -/
  noStdlib : Bool := false
  args : List String := []
  deriving DecidableEq, Repr, Inhabited

/-- What `inspect` is asked to do. -/
structure InspectTask where
  file : String
  json : Bool := false
  deriving DecidableEq, Repr, Inhabited

/-- What is to be done. -/
inductive Task where
  | run (t : RunTask)
  | inspect (t : InspectTask)
  deriving DecidableEq, Repr, Inhabited

/-- What a command line asks for. -/
structure Request where
  flags : ConfigFlags
  verbose : Bool
  task : Task
  deriving DecidableEq, Repr, Inhabited

/-- Why a command line asks for no task. -/
inductive Stop where
  | help
  | version
  | misuse
  deriving DecidableEq, Repr, Inhabited

/-- The export that `run` calls. -/
def RunTask.entry (t : RunTask) : String := t.invoke.getD (if t.main then "main" else "start")

/-! ## 2. Options -/

/-- Options with a value. -/
inductive Setting where
  | config
  | backend
  | optLevel
  | invoke
  deriving DecidableEq, Repr, Inhabited

/-- Options without a value. -/
inductive Switch where
  | verbose
  | main
  | noStdlib
  | json
  | help
  | version
  deriving DecidableEq, Repr, Inhabited

/-- An option of either sort. -/
inductive Choice where
  | setting (s : Setting)
  | switch (s : Switch)
  deriving DecidableEq, Repr, Inhabited

/-- Where a word stands: before the name of the task, or after it. -/
inductive Level where
  | top
  | run
  | inspect
  deriving DecidableEq, Repr, Inhabited

/-- The options that may stand anywhere. -/
def sharedChoices : List (String × Choice) :=
  [("config", .setting .config), ("backend", .setting .backend), ("opt-level", .setting .optLevel),
    ("verbose", .switch .verbose), ("help", .switch .help)]

/-- The options of a level, by name. -/
def Level.choices : Level → List (String × Choice)
  | .top => sharedChoices ++ [("version", .switch .version)]
  | .run =>
    sharedChoices ++
      [("invoke", .setting .invoke), ("main", .switch .main), ("no-stdlib", .switch .noStdlib)]
  | .inspect => sharedChoices ++ [("json", .switch .json)]

/-- The switches of a level, by letter. -/
def Level.letters : Level → List (Char × Switch)
  | .top => [('v', .verbose), ('h', .help), ('V', .version)]
  | .run | .inspect => [('v', .verbose), ('h', .help)]

/-- Is a value one that a setting can have? -/
def Setting.allows : Setting → String → Bool
  | .config, v => v != ""
  | .backend, v => (Backend.parse v).isOk
  | .optLevel, v => (OptLevel.parse v).isOk
  | .invoke, _ => true

/-! ## 3. What was given -/

/-- What the words of a level have given so far. -/
structure Given where
  settings : List (Setting × String) := []
  switches : List Switch := []
  /-- A setting that was named last, with its value if that was there too. It is looked at when the next
      option comes or the words end. -/
  pending : Option (Setting × Option String) := none
  file : Option String := none
  args : List String := []
  deriving DecidableEq, Repr, Inhabited

namespace Given

/-- The value of a setting. -/
def setting? (g : Given) (s : Setting) : Option String := g.settings.lookup s

/-- Is a switch on? -/
def isOn (g : Given) (s : Switch) : Bool := g.switches.contains s

/-- Is a setting without its value? -/
def isWaiting (g : Given) : Bool :=
  match g.pending with
  | some (_, none) => true
  | _ => false

/-- Gives a setting a value, which may be done once. -/
def give (g : Given) (s : Setting) (v : String) : Except Stop Given :=
  if (g.setting? s).isSome || !s.allows v then .error .misuse
  else .ok { g with settings := (s, v) :: g.settings }

/-- Settles the setting that was named last. -/
def settle (g : Given) : Except Stop Given :=
  match g.pending with
  | none => .ok g
  | some (_, none) => .error .misuse
  | some (s, some v) => { g with pending := none }.give s v

/-- Turns a switch on, which may be done once; two switches end everything. -/
def turnOn (g : Given) (s : Switch) : Except Stop Given := do
  let g ← g.settle
  match s with
  | .help => throw .help
  | .version => throw .version
  | s => if g.isOn s then throw .misuse else return { g with switches := s :: g.switches }

/-- Turns on the switches of letters. -/
def turnOnAll (g : Given) (l : Level) : List Char → Except Stop Given
  | [] => .ok g
  | c :: cs =>
    match l.letters.lookup c with
    | none => .error .misuse
    | some s =>
      match g.turnOn s with
      | .error e => .error e
      | .ok g => g.turnOnAll l cs

/-- Takes an option with the value that was attached to it. -/
def choose (g : Given) (c : Choice) (attached : Option String) : Except Stop Given :=
  match c, attached with
  | .switch s, none => g.turnOn s
  | .switch _, some _ => .error .misuse
  | .setting s, some v => g.settle.bind fun g => g.give s v
  | .setting s, none => g.settle.map fun g => { g with pending := some (s, none) }

/-- Takes a plain word as the value of the setting that waits for one. -/
def supply (g : Given) (v : String) : Given :=
  { g with pending := g.pending.map fun p => (p.1, some v) }

end Given

/-! ## 4. Words -/

/-- What a word looks like. -/
inductive Word where
  /-- Two dashes. -/
  | divider
  /-- Two dashes and a name, maybe with a value after an equals sign. -/
  | long (name : String) (value : Option String)
  /-- A dash and letters. -/
  | short (letters : List Char)
  | plain
  deriving DecidableEq, Repr, Inhabited

/-- The name and the value of a long option. -/
def splitValue (cs : List Char) : String × Option String :=
  let name := String.ofList (cs.takeWhile fun c => c != '=')
  match cs.dropWhile fun c => c != '=' with
  | [] => (name, none)
  | _ :: value => (name, some (String.ofList value))

/-- What a word looks like. -/
def Word.of (w : String) : Word :=
  match w.toList with
  | ['-', '-'] => .divider
  | '-' :: '-' :: cs => .long (splitValue cs).1 (splitValue cs).2
  | '-' :: c :: cs => .short (c :: cs)
  | _ => .plain

/-- Is a word an option of a level? If `free`, a word with an unknown letter is not. -/
def Word.isOption (l : Level) (free : Bool) : Word → Bool
  | .long name _ => !free || (l.choices.lookup name).isSome
  | .short cs => !free || cs.all fun c => (l.letters.lookup c).isSome
  | _ => false

/-- Takes a word that is an option. -/
def Given.take (g : Given) (l : Level) : Word → Except Stop Given
  | .long name value =>
    match l.choices.lookup name with
    | some c => g.choose c value
    | none => .error .misuse
  | .short cs => g.turnOnAll l cs
  | _ => .error .misuse

/-! ## 5. Levels -/

/-- Takes the words after the options: the file, if it is still missing, and arguments. -/
def Given.finish (g : Given) (l : Level) (ws : List String) : Except Stop Given := do
  let g ← g.settle
  match g.file, ws with
  | none, [] => throw .misuse
  | none, f :: ws =>
    if f = "" || (l = .inspect && !ws.isEmpty) then throw .misuse
    else return { g with file := some f, args := ws }
  | some _, ws => if l = .inspect && !ws.isEmpty then throw .misuse else return { g with args := ws }

/-- Takes the words after the name of a task. -/
def Given.takeAll (l : Level) (g : Given) : List String → Except Stop Given
  | [] => g.finish l []
  | w :: ws =>
    match Word.of w with
    | .divider => g.finish l ws
    | word =>
      if word.isOption l (l = .run && g.file.isSome) then
        match g.take l word with
        | .error e => .error e
        | .ok g => g.takeAll l ws
      else if g.isWaiting then (g.supply w).takeAll l ws
      else if g.file.isSome then g.finish l (w :: ws)
      else if w = "" then .error .misuse
      else
        match g.settle with
        | .error e => .error e
        | .ok g => { g with file := some w }.takeAll l ws

/-- The level of a task's name. -/
def Level.ofName? : String → Option Level
  | "run" => some .run
  | "inspect" => some .inspect
  | _ => none

/-- The words before the name of a task, the task, and the words after it. -/
def takeTop (g : Given) : List String → Except Stop (Given × Level × List String)
  | [] => .error .misuse
  | w :: ws =>
    match Word.of w with
    | .divider => .error .misuse
    | .plain =>
      if g.isWaiting then takeTop (g.supply w) ws
      else if w = "help" then
        match ws with
        | [] | ["run"] | ["inspect"] | ["help"] => .error .help
        | _ => .error .misuse
      else
        match Level.ofName? w with
        | some l => .ok (g, l, ws)
        | none => .error .misuse
    | word =>
      match g.take .top word with
      | .error e => .error e
      | .ok g => takeTop g ws

/-! ## 6. The whole line -/

/-- The value of a setting, where the words after the task's name win over those before it. -/
def settingOf (top sub : Given) (s : Setting) : Option String := sub.setting? s <|> top.setting? s

/-- The task of a level. -/
def taskOf (l : Level) (g : Given) (file : String) : Task :=
  match l with
  | .inspect => .inspect { file, json := g.isOn .json }
  | _ =>
    .run { file, invoke := g.setting? .invoke, main := g.isOn .main, noStdlib := g.isOn .noStdlib,
           args := g.args }

/-- What the words of a command line ask for. -/
def Request.ofWords (ws : List String) : Except Stop Request := do
  let (top, l, rest) ← takeTop {} ws
  let sub ← Given.takeAll l {} rest
  let top ← top.settle
  match sub.file with
  | none => throw .misuse
  | some file =>
    return {
      flags := {
        config := settingOf top sub .config
        backend := (settingOf top sub .backend).bind fun v => (Backend.parse v).toOption
        optLevel := (settingOf top sub .optLevel).bind fun v => (OptLevel.parse v).toOption }
      verbose := top.isOn .verbose || sub.isOn .verbose
      task := taskOf l sub file }

end Embedder.Command
