import Embedder.Command.Line
import Embedder.Proofs.Number.Literals
import Embedder.Proofs.Steps

/-!
# Which source a setting comes from

Each setting of a configuration is asked for in up to four places. A flag comes before a variable of the environment,
a variable before the file, and the file before the default. A variable that means nothing counts as not set, and a
file that means nothing ends it all, whatever the other places say.

* `Backend.parse_eq_ok_iff`, `OptLevel.parse_eq_ok_iff` -- a word names a setting if it does so in lower case;
* `Environment.byteCount_eq_some_iff` -- a count is digits, after a plus sign or not, and below `2 ^ 64`;
* `EngineConfig.Stated` -- what a file says, setting by setting; **`ofMembers_eq_ok_iff`** -- a file that says nothing
  wrong gives this, and defaults for the rest;
* `EngineConfig.Layered` -- the value that the first of some sources gives;
* `resolve_unset`, `resolve_flagged` -- what a configuration does not depend on;
* **`configResolved`** -- every setting is layered, and resolving fails iff there is a file and it cannot be used.
-/

namespace Embedder

/-! ## 1. Words -/

theorem lowerText_eq (s : String) : lowerText s = s.toLower := by
  have hmap : s.toLower = s.map Char.toLower := rfl
  apply String.toList_inj.mp
  rw [lowerText, String.toList_ofList, hmap, String.toList_map]
  exact List.map_congr_left fun c _ => Number.lowerAscii_eq c

theorem Backend.ofName?_eq_some_iff {s : String} {b : Backend} : ofName? s = some b ↔ s = b.name := by
  constructor
  · intro h
    have hname := List.find?_some h
    exact (beq_iff_eq.mp hname).symm
  · rintro rfl
    cases b <;> rfl

theorem OptLevel.ofName?_eq_some_iff {s : String} {l : OptLevel} : ofName? s = some l ↔ s = l.name := by
  constructor
  · intro h
    have hname := List.find?_some h
    exact (beq_iff_eq.mp hname).symm
  · rintro rfl
    cases l <;> rfl

/-- **A word names a backend iff it is its name in lower case.** -/
theorem Backend.parse_eq_ok_iff {s : String} {b : Backend} : parse s = .ok b ↔ s.toLower = b.name := by
  rw [← lowerText_eq, ← ofName?_eq_some_iff]
  unfold parse
  cases ofName? (lowerText s) <;> simp

/-- The word names the level, maybe with hyphens. -/
def OptLevel.Spelled (s : String) (l : OptLevel) : Prop :=
  s.toLower = l.name ∨ l = .speedAndSize ∧ s.toLower = "speed-and-size"

/-- **A word names a level iff it does so in lower case.** -/
theorem OptLevel.parse_eq_ok_iff {s : String} {l : OptLevel} : parse s = .ok l ↔ Spelled s l := by
  have hparse : parse s = .ok l ↔
      ofName? (if lowerText s = "speed-and-size" then "speed_and_size" else lowerText s) = some l := by
    unfold parse
    dsimp only
    cases ofName? (if lowerText s = "speed-and-size" then "speed_and_size" else lowerText s) <;> simp
  rw [hparse, ofName?_eq_some_iff, Spelled, ← lowerText_eq]
  by_cases h : lowerText s = "speed-and-size"
  · rw [h]
    cases l <;> decide
  · simp [h]

/-! ## 2. Counts -/

namespace Environment

/-- The text is a count of bytes: digits, after a plus sign or not, for a number of at most 64 bits. -/
def IsCount (s : String) (n : Nat) : Prop :=
  ∃ ds, (s.toList = ds ∨ s.toList = '+' :: ds) ∧ ds ≠ [] ∧ (∀ c ∈ ds, Number.isDigit c = true) ∧
    n = Number.ofDigits ds ∧ n < 18446744073709551616

theorem byteCount_eq_some_iff {s : String} {n : Nat} : byteCount s = some n ↔ IsCount s n := by
  have hbound : Number.pow2 64 = 18446744073709551616 := rfl
  unfold byteCount IsCount
  dsimp only
  rw [Option.filter_eq_some_iff, hbound, decide_eq_true_eq, Number.readNat_eq_some_iff]
  split
  · rename_i ds hs
    constructor
    · rintro ⟨⟨hne, hdigits, hn⟩, hlt⟩
      exact ⟨ds, .inr hs, hne, hdigits, hn, hlt⟩
    · rintro ⟨ds', hds', hne, hdigits, hn, hlt⟩
      rw [hs] at hds'
      rcases hds' with rfl | hds'
      · -- a plus sign is no digit
        exact absurd (hdigits '+' List.mem_cons_self) (by decide)
      · cases hds'
        exact ⟨⟨hne, hdigits, hn⟩, hlt⟩
  · rename_i hplus
    constructor
    · rintro ⟨⟨hne, hdigits, hn⟩, hlt⟩
      exact ⟨s.toList, .inl rfl, hne, hdigits, hn, hlt⟩
    · rintro ⟨ds, rfl | hds, hne, hdigits, hn, hlt⟩
      · exact ⟨⟨hne, hdigits, hn⟩, hlt⟩
      · exact absurd hds (hplus ds)

end Environment

/-! ## 3. Files -/

namespace Toml

/-- What a table says under a key: nothing if the key is missing, and otherwise what the item there means, if it
    means something. -/
def Says {α : Type} (ms : Members) (key : String) (read : Item → Option α) (o : Option α) : Prop :=
  match find? ms key with
  | none => o = none
  | some i => ∃ a, read i = some a ∧ o = some a

theorem setting_eq_ok_iff {α : Type} {ms : Members} {key : String} {default a : α} {read : Item → Option α} :
    setting ms key default read = .ok a ↔ ∃ o, Says ms key read o ∧ a = o.getD default := by
  unfold setting Says
  cases find? ms key with
  | none => simp [eq_comm]
  | some i =>
    dsimp only
    cases read i with
    | none => simp
    | some b => simp [eq_comm]

/-- A count that may be missing is a count, if it is there. -/
theorem setting_some_eq_ok_iff {α : Type} {ms : Members} {key : String} {o : Option α} {read : Item → Option α} :
    setting ms key none (fun i => (read i).map some) = .ok o ↔ Says ms key read o := by
  unfold setting Says
  cases find? ms key with
  | none => simp [eq_comm]
  | some i =>
    dsimp only
    cases read i with
    | none => simp
    | some b => simp [eq_comm]

end Toml

namespace EngineConfig

/-- What a file says of the settings. Each may be missing. -/
structure Stated where
  backend : Option Backend := none
  optLevel : Option OptLevel := none
  debugInfo : Option Bool := none
  maxWasmStack : Option Nat := none

/-- The members of a table say this, and nothing that has no meaning. -/
structure Stated.In (f : Stated) (ms : Toml.Members) : Prop where
  backend : Toml.Says ms "backend" (fun i => i.word?.bind Backend.ofName?) f.backend
  optLevel : Toml.Says ms "opt_level" (fun i => i.word?.bind OptLevel.ofName?) f.optLevel
  debugInfo : Toml.Says ms "debug_info" Toml.Item.boolean? f.debugInfo
  maxWasmStack : Toml.Says ms "max_wasm_stack" Toml.Item.count? f.maxWasmStack

/-- What is said, with defaults for the rest. -/
def Stated.config (f : Stated) : EngineConfig where
  backend := f.backend.getD .cranelift
  optLevel := f.optLevel.getD .speed
  debugInfo := f.debugInfo.getD false
  maxWasmStack := f.maxWasmStack

/-- **A table gives what it says, and defaults for the rest.** -/
theorem ofMembers_eq_ok_iff {ms : Toml.Members} {c : EngineConfig} :
    ofMembers ms = .ok c ↔ ∃ f : Stated, f.In ms ∧ c = f.config := by
  constructor
  · intro h
    obtain ⟨backend, hbackend, h⟩ := ok_of_bind h
    obtain ⟨optLevel, hoptLevel, h⟩ := ok_of_bind h
    obtain ⟨debugInfo, hdebugInfo, h⟩ := ok_of_bind h
    obtain ⟨stack, hstack, h⟩ := ok_of_bind h
    cases h
    obtain ⟨b, hb, rfl⟩ := Toml.setting_eq_ok_iff.mp hbackend
    obtain ⟨l, hl, rfl⟩ := Toml.setting_eq_ok_iff.mp hoptLevel
    obtain ⟨d, hd, rfl⟩ := Toml.setting_eq_ok_iff.mp hdebugInfo
    exact ⟨⟨b, l, d, stack⟩, ⟨hb, hl, hd, Toml.setting_some_eq_ok_iff.mp hstack⟩, rfl⟩
  · rintro ⟨f, hf, rfl⟩
    unfold ofMembers
    dsimp only
    rw [Toml.setting_eq_ok_iff.mpr ⟨f.backend, hf.backend, rfl⟩,
      Toml.setting_eq_ok_iff.mpr ⟨f.optLevel, hf.optLevel, rfl⟩,
      Toml.setting_eq_ok_iff.mpr ⟨f.debugInfo, hf.debugInfo, rfl⟩,
      Toml.setting_some_eq_ok_iff.mpr hf.maxWasmStack]
    rfl

/-- The file at a path can be read, and says this. -/
def FileSays (env : Environment) (path : String) (f : Stated) : Prop :=
  ∃ text ms, env.fileText path = .ok text ∧ Toml.parse text = .ok ms ∧ f.In ms

theorem ofFile_eq_ok_iff {env : Environment} {path : String} {c : EngineConfig} :
    ofFile env path = .ok c ↔ ∃ f, FileSays env path f ∧ c = f.config := by
  unfold ofFile FileSays ofText
  cases env.fileText path with
  | error e => simp
  | ok text =>
    cases hms : Toml.parse text with
    | error e => simp [hms, bind, Except.bind]
    | ok ms =>
      have hmembers : ofMembers ms = .ok c ↔ ∃ f : Stated, f.In ms ∧ c = f.config := ofMembers_eq_ok_iff
      simp only [bind, Except.bind, Except.ok.injEq, exists_and_left, exists_eq_left']
      rw [hms]
      simp only [Except.ok.injEq, exists_eq_left', ← hmembers]
      cases ofMembers ms <;> simp

/-- The file at a path cannot be read, or what is in it has no meaning; and this is how either is told. -/
def Unusable (env : Environment) (path : String) (e : RuntimeError) : Prop :=
  (∃ reason, env.fileText path = .error reason ∧ e = .configuration ("cannot read " ++ path ++ ": " ++ reason)) ∨
    ∃ text reason, env.fileText path = .ok text ∧ ofText text = .error reason ∧
      e = .configuration ("invalid config " ++ path ++ ": " ++ reason)

theorem ofFile_eq_error_iff {env : Environment} {path : String} {e : RuntimeError} :
    ofFile env path = .error e ↔ Unusable env path e := by
  unfold ofFile Unusable
  cases env.fileText path with
  | error reason => simp [eq_comm]
  | ok text =>
    dsimp only
    cases htext : ofText text with
    | error reason => simp [htext, eq_comm]
    | ok c => simp [htext]

/-- Only the file itself matters for what is in it. -/
theorem ofFile_congr {env env' : Environment} {path : String} (h : env'.file path = env.file path) :
    ofFile env' path = ofFile env path := by
  have htext : env'.fileText path = env.fileText path := by
    unfold Environment.fileText
    rw [h]
  unfold ofFile
  rw [htext]

/-! ## 4. Sources -/

section Sources

variable {env : Environment} {flags : ConfigFlags} {f : Stated} {c : EngineConfig}

/-- The file to read: the flag's, and without a flag the one that a variable names. -/
def FileAt (env : Environment) (flags : ConfigFlags) (path : String) : Prop :=
  flags.config = some path ∨ flags.config = none ∧ env.text? "WATHOST_CONFIG" = some path

theorem filePath?_eq_some_iff {path : String} : filePath? env flags = some path ↔ FileAt env flags path := by
  unfold filePath? FileAt
  cases flags.config <;> simp

/-- This is what the file says, or nothing if there is no file to read. -/
def Stated.From (f : Stated) (env : Environment) (flags : ConfigFlags) : Prop :=
  (∃ path, FileAt env flags path ∧ FileSays env path f) ∨ (∀ path, ¬ FileAt env flags path) ∧ f = {}

/-- A variable is set to a text that means a value. -/
def Asks {α : Type} (env : Environment) (name : String) (means : String → α → Prop) (a : α) : Prop :=
  ∃ s, env.text? name = some s ∧ means s a

theorem valid?_eq_some_iff {ε α : Type} {name : String} {parse : String → Except ε α} {means : String → α → Prop}
    (h : ∀ s a, parse s = .ok a ↔ means s a) {a : α} :
    valid? ((env.text? name).map parse) = some a ↔ Asks env name means a := by
  unfold Asks
  cases env.text? name with
  | none => simp [valid?]
  | some s =>
    have hs := h s a
    cases hparse : parse s <;> simp [valid?, hparse, ← hs]

/-- The first source that has a value gives it: a flag, a variable, the file, the default. -/
def Layered {α : Type} (flag : Option α) (asked : α → Prop) (stated : Option α) (default a : α) : Prop :=
  flag = some a ∨ flag = none ∧
    (asked a ∨ (∀ x, ¬ asked x) ∧ (stated = some a ∨ stated = none ∧ a = default))

theorem layered_iff {α : Type} {flag answer stated : Option α} {asked : α → Prop} {default a : α}
    (h : ∀ x, answer = some x ↔ asked x) :
    Layered flag asked stated default a ↔ a = flag.getD (answer.getD (stated.getD default)) := by
  unfold Layered
  simp only [← h]
  cases flag <;> cases answer <;> cases stated <;> simp [eq_comm]

/-- Every setting comes from the first source that has a value for it. -/
structure Settled (env : Environment) (flags : ConfigFlags) (f : Stated) (c : EngineConfig) : Prop where
  backend : Layered flags.backend (Asks env "WATHOST_BACKEND" fun s b => s.toLower = b.name) f.backend .cranelift
    c.backend
  optLevel : Layered flags.optLevel (Asks env "WATHOST_OPT_LEVEL" OptLevel.Spelled) f.optLevel .speed c.optLevel
  /-- There is no flag for the size of the stack, and it may stay unset. -/
  maxWasmStack : Layered none
    (fun o => ∃ n, o = some n ∧ Asks env "WATHOST_MAX_WASM_STACK" Environment.IsCount n)
    (f.maxWasmStack.map some) none c.maxWasmStack
  debugInfo : c.debugInfo = f.debugInfo.getD false

theorem backend?_valid (b : Backend) :
    valid? env.backend? = some b ↔ Asks env "WATHOST_BACKEND" (fun s b => s.toLower = b.name) b :=
  valid?_eq_some_iff fun _ _ => Backend.parse_eq_ok_iff

theorem optLevel?_valid (l : OptLevel) :
    valid? env.optLevel? = some l ↔ Asks env "WATHOST_OPT_LEVEL" OptLevel.Spelled l :=
  valid?_eq_some_iff fun _ _ => OptLevel.parse_eq_ok_iff

theorem maxWasmStack?_valid (n : Nat) :
    valid? env.maxWasmStack? = some n ↔ Asks env "WATHOST_MAX_WASM_STACK" Environment.IsCount n := by
  refine valid?_eq_some_iff fun s a => ?_
  rw [← Environment.byteCount_eq_some_iff]
  cases Environment.byteCount s <;> simp

theorem maxWasmStack_layered {o : Option Nat} :
    Layered none (fun o => ∃ n, o = some n ∧ Asks env "WATHOST_MAX_WASM_STACK" Environment.IsCount n)
      (f.maxWasmStack.map some) none o ↔ o = (valid? env.maxWasmStack? <|> f.maxWasmStack) := by
  have hasked : ∀ o, (valid? env.maxWasmStack?).map some = some o ↔
      ∃ n, o = some n ∧ Asks env "WATHOST_MAX_WASM_STACK" Environment.IsCount n := by
    intro o
    simp only [← maxWasmStack?_valid]
    cases valid? env.maxWasmStack? <;> simp [eq_comm]
  rw [layered_iff hasked]
  cases valid? env.maxWasmStack? <;> cases f.maxWasmStack <;> rfl

/-- **The settings are layered.** -/
theorem settled_iff : Settled env flags f c ↔ c = (f.config.withEnvironment env).withFlags flags := by
  constructor
  · rintro ⟨hbackend, hoptLevel, hstack, hdebug⟩
    have hbackend := (layered_iff backend?_valid).mp hbackend
    have hoptLevel := (layered_iff optLevel?_valid).mp hoptLevel
    have hstack := maxWasmStack_layered.mp hstack
    cases c
    cases hbackend
    cases hoptLevel
    cases hstack
    cases hdebug
    rfl
  · rintro rfl
    exact ⟨(layered_iff backend?_valid).mpr rfl, (layered_iff optLevel?_valid).mpr rfl, maxWasmStack_layered.mpr rfl,
      rfl⟩

/-! ## 5. Resolving -/

/-- What the file gives. -/
def fileConfig (env : Environment) (flags : ConfigFlags) : Except RuntimeError EngineConfig :=
  match filePath? env flags with
  | some path => ofFile env path
  | none => .ok {}

theorem resolve_eq (env : Environment) (flags : ConfigFlags) :
    resolve env flags = (fileConfig env flags).map fun c => (c.withEnvironment env).withFlags flags := by
  unfold resolve fileConfig
  cases filePath? env flags with
  | none => rfl
  | some path => cases ofFile env path <;> rfl

theorem fileConfig_eq_ok_iff : fileConfig env flags = .ok c ↔ ∃ f : Stated, f.From env flags ∧ c = f.config := by
  unfold fileConfig Stated.From
  simp only [← filePath?_eq_some_iff]
  cases filePath? env flags with
  | none =>
    have hdefault : Stated.config {} = {} := rfl
    simp [hdefault, eq_comm]
  | some path => simp [ofFile_eq_ok_iff]

theorem fileConfig_eq_error_iff {e : RuntimeError} :
    fileConfig env flags = .error e ↔ ∃ path, FileAt env flags path ∧ Unusable env path e := by
  unfold fileConfig
  simp only [← filePath?_eq_some_iff]
  cases filePath? env flags with
  | none => simp
  | some path => simp [ofFile_eq_error_iff]

/-- Only the file that is read matters. -/
theorem fileConfig_congr {env' : Environment} {flags' : ConfigFlags}
    (hpath : filePath? env' flags' = filePath? env flags)
    (hfile : ∀ path, FileAt env flags path → env'.file path = env.file path) :
    fileConfig env' flags' = fileConfig env flags := by
  unfold fileConfig
  rw [hpath]
  cases h : filePath? env flags with
  | none => rfl
  | some path => exact ofFile_congr (hfile path (filePath?_eq_some_iff.mp h))

/-- The variables on top of a file matter only by the valid values that they have. -/
theorem withEnvironment_congr {env' : Environment} (hbackend : valid? env'.backend? = valid? env.backend?)
    (hoptLevel : valid? env'.optLevel? = valid? env.optLevel?)
    (hstack : valid? env'.maxWasmStack? = valid? env.maxWasmStack?) (c : EngineConfig) :
    c.withEnvironment env' = c.withEnvironment env := by
  unfold withEnvironment
  rw [hbackend, hoptLevel, hstack]

end Sources

end EngineConfig

/-- The environment without a variable. -/
def Environment.unset (env : Environment) (name : String) : Environment :=
  { env with var := fun n => if n = name then none else env.var n }

theorem Environment.text?_unset (env : Environment) (name n : String) :
    (env.unset name).text? n = if n = name then none else env.text? n := by
  unfold text? unset
  dsimp only
  split <;> rfl

section Variables

variable {env env' : Environment} {name : String}

theorem Environment.text?_congr (h : env'.var name = env.var name) : env'.text? name = env.text? name := by
  unfold text?
  rw [h]

theorem Environment.backend?_congr (h : env'.var "WATHOST_BACKEND" = env.var "WATHOST_BACKEND") :
    env'.backend? = env.backend? := by
  unfold backend?
  rw [text?_congr h]

theorem Environment.optLevel?_congr (h : env'.var "WATHOST_OPT_LEVEL" = env.var "WATHOST_OPT_LEVEL") :
    env'.optLevel? = env.optLevel? := by
  unfold optLevel?
  rw [text?_congr h]

theorem Environment.maxWasmStack?_congr
    (h : env'.var "WATHOST_MAX_WASM_STACK" = env.var "WATHOST_MAX_WASM_STACK") :
    env'.maxWasmStack? = env.maxWasmStack? := by
  unfold maxWasmStack?
  rw [text?_congr h]

end Variables

namespace EngineConfig

section Frames

variable {env env' : Environment} {flags flags' : ConfigFlags}

/-- The variables that a configuration depends on: they are set to a text that has a meaning. -/
inductive Heeded (env : Environment) : String → Prop where
  | config {path : String} : env.text? "WATHOST_CONFIG" = some path → Heeded env "WATHOST_CONFIG"
  | backend {b : Backend} : Asks env "WATHOST_BACKEND" (fun s b => s.toLower = b.name) b → Heeded env "WATHOST_BACKEND"
  | optLevel {l : OptLevel} : Asks env "WATHOST_OPT_LEVEL" OptLevel.Spelled l → Heeded env "WATHOST_OPT_LEVEL"
  | maxWasmStack {n : Nat} : Asks env "WATHOST_MAX_WASM_STACK" Environment.IsCount n →
      Heeded env "WATHOST_MAX_WASM_STACK"

/-- A variable that is set to nothing with a meaning can as well be unset. -/
theorem valid?_unset {ε α : Type} {name key : String} {parse : String → Except ε α}
    (h : name = key → ∀ a, valid? ((env.text? key).map parse) ≠ some a) :
    valid? (((env.unset name).text? key).map parse) = valid? ((env.text? key).map parse) := by
  rw [Environment.text?_unset]
  split
  · rename_i hkey
    rw [Option.eq_none_iff_forall_ne_some.mpr (h hkey.symm)]
    rfl
  · rfl

/-- **A variable that has no meaning changes nothing.** -/
theorem resolve_unset {name : String} (h : ¬ Heeded env name) : resolve (env.unset name) flags = resolve env flags := by
  -- the path and the three settings see a variable only through the meaning of its text
  have hpath : filePath? (env.unset name) flags = filePath? env flags := by
    unfold filePath?
    rw [Environment.text?_unset]
    split
    · rename_i hname
      have hnone : env.text? "WATHOST_CONFIG" = none :=
        Option.eq_none_iff_forall_ne_some.mpr fun _ hpath => h (hname ▸ .config hpath)
      rw [hnone]
    · rfl
  have hlayer : ∀ c : EngineConfig, c.withEnvironment (env.unset name) = c.withEnvironment env :=
    withEnvironment_congr
      (valid?_unset fun hname b hb => h (hname ▸ .backend ((backend?_valid b).mp hb)))
      (valid?_unset fun hname l hl => h (hname ▸ .optLevel ((optLevel?_valid l).mp hl)))
      (valid?_unset fun hname n hn => h (hname ▸ .maxWasmStack ((maxWasmStack?_valid n).mp hn)))
  rw [resolve_eq, resolve_eq, fileConfig_congr hpath fun _ _ => rfl]
  simp only [hlayer]

/-- **With a flag for the file, the variable for it is never looked at**, and no other file is. -/
theorem resolve_flagged {path : String} (hflag : flags.config = some path) (hfile : env'.file path = env.file path)
    (hvars : ∀ name, name ≠ "WATHOST_CONFIG" → env'.var name = env.var name) :
    resolve env' flags = resolve env flags := by
  have hpath : filePath? env' flags = filePath? env flags := by
    unfold filePath?
    rw [hflag]
    rfl
  have hread : ∀ p, FileAt env flags p → env'.file p = env.file p := by
    rintro p (hp | ⟨hnone, -⟩)
    · cases hflag.symm.trans hp
      exact hfile
    · cases hflag.symm.trans hnone
  have hlayer : ∀ c : EngineConfig, c.withEnvironment env' = c.withEnvironment env :=
    withEnvironment_congr (congrArg valid? (Environment.backend?_congr (hvars _ (by decide))))
      (congrArg valid? (Environment.optLevel?_congr (hvars _ (by decide))))
      (congrArg valid? (Environment.maxWasmStack?_congr (hvars _ (by decide))))
  rw [resolve_eq, resolve_eq, fileConfig_congr hpath hread]
  simp only [hlayer]

/-- Two worlds agree on the file that is read. -/
structure SameFile (env env' : Environment) (flags flags' : ConfigFlags) : Prop where
  flag : flags'.config = flags.config
  named : env'.var "WATHOST_CONFIG" = env.var "WATHOST_CONFIG"
  file : ∀ path, FileAt env flags path → env'.file path = env.file path

/-- Where the file is the same, a setting is the same if it is once the file is there. -/
theorem SameFile.resolve {α : Type} (h : SameFile env env' flags flags') {field : EngineConfig → α}
    (hfield : ∀ c : EngineConfig,
      field ((c.withEnvironment env').withFlags flags') = field ((c.withEnvironment env).withFlags flags)) :
    (resolve env' flags').map field = (resolve env flags).map field := by
  have hpath : filePath? env' flags' = filePath? env flags := by
    unfold filePath?
    rw [h.flag, Environment.text?_congr h.named]
  rw [resolve_eq, resolve_eq, fileConfig_congr hpath h.file]
  cases fileConfig env flags with
  | error e => rfl
  | ok c => exact congrArg Except.ok (hfield c)

end Frames

end EngineConfig

/-! ## 6. Flags -/

theorem Command.Given.give_isOk_iff {g : Command.Given} {s : Command.Setting} {v : String} :
    (∃ g', g.give s v = .ok g') ↔ g.setting? s = none ∧ s.allows v = true := by
  unfold give
  cases g.setting? s <;> cases s.allows v <;> simp

theorem Command.Setting.allows_backend_iff {v : String} :
    allows .backend v = true ↔ ∃ b : Backend, v.toLower = b.name := by
  simp only [← Backend.parse_eq_ok_iff]
  unfold allows
  cases h : Backend.parse v <;> simp [h, Except.isOk, Except.toBool]

theorem Command.Setting.allows_optLevel_iff {v : String} :
    allows .optLevel v = true ↔ ∃ l, OptLevel.Spelled v l := by
  simp only [← OptLevel.parse_eq_ok_iff]
  unfold allows
  cases h : OptLevel.parse v <;> simp [h, Except.isOk, Except.toBool]

/-! ## 7. Precedence -/

open EngineConfig in
/-- **Where the settings of a configuration come from.** -/
structure ConfigResolved (env : Environment) (flags : ConfigFlags) : Prop where
  /-- A configuration comes of what the file says, each setting from the first source that has a value for it. -/
  resolves : ∀ c, resolve env flags = .ok c ↔ ∃ f : Stated, f.From env flags ∧ Settled env flags f c
  /-- There is none iff the file cannot be used; nothing else is looked at then. -/
  fails : ∀ e, resolve env flags = .error e ↔ ∃ path, FileAt env flags path ∧ Unusable env path e
  /-- With a flag for the file, the variable for it and all other files may be as they will. -/
  flagged : ∀ {path env'}, flags.config = some path → env'.file path = env.file path →
    (∀ name, name ≠ "WATHOST_CONFIG" → env'.var name = env.var name) → resolve env' flags = resolve env flags
  /-- A variable without a meaning changes nothing. -/
  ignored : ∀ {name}, ¬ Heeded env name → resolve (env.unset name) flags = resolve env flags
  /-- Besides the file, only its own flag and variable can change a setting. -/
  backend : ∀ {env' flags'}, SameFile env env' flags flags' → flags'.backend = flags.backend →
    env'.var "WATHOST_BACKEND" = env.var "WATHOST_BACKEND" →
    (resolve env' flags').map EngineConfig.backend = (resolve env flags).map EngineConfig.backend
  optLevel : ∀ {env' flags'}, SameFile env env' flags flags' → flags'.optLevel = flags.optLevel →
    env'.var "WATHOST_OPT_LEVEL" = env.var "WATHOST_OPT_LEVEL" →
    (resolve env' flags').map EngineConfig.optLevel = (resolve env flags).map EngineConfig.optLevel
  maxWasmStack : ∀ {env' flags'}, SameFile env env' flags flags' →
    env'.var "WATHOST_MAX_WASM_STACK" = env.var "WATHOST_MAX_WASM_STACK" →
    (resolve env' flags').map EngineConfig.maxWasmStack = (resolve env flags).map EngineConfig.maxWasmStack
  debugInfo : ∀ {env' flags'}, SameFile env env' flags flags' →
    (resolve env' flags').map EngineConfig.debugInfo = (resolve env flags).map EngineConfig.debugInfo
  /-- A flag takes a name in any case of letters, and stands for what it names. -/
  backendFlag : ∀ (g : Command.Given) (v : String),
    ((∃ g', g.give .backend v = .ok g') ↔ g.setting? .backend = none ∧ ∃ b : Backend, v.toLower = b.name) ∧
    ∀ b, (Backend.parse v).toOption = some b ↔ v.toLower = b.name
  optLevelFlag : ∀ (g : Command.Given) (v : String),
    ((∃ g', g.give .optLevel v = .ok g') ↔ g.setting? .optLevel = none ∧ ∃ l, OptLevel.Spelled v l) ∧
    ∀ l, (OptLevel.parse v).toOption = some l ↔ OptLevel.Spelled v l

open EngineConfig in
theorem configResolved (env : Environment) (flags : ConfigFlags) : ConfigResolved env flags where
  resolves c := by
    simp only [settled_iff, resolve_eq]
    constructor
    · intro h
      obtain ⟨base, hbase, rfl⟩ := ok_of_map h
      obtain ⟨f, hfrom, rfl⟩ := fileConfig_eq_ok_iff.mp hbase
      exact ⟨f, hfrom, rfl⟩
    · rintro ⟨f, hfrom, rfl⟩
      rw [fileConfig_eq_ok_iff.mpr ⟨f, hfrom, rfl⟩]
      rfl
  fails e := by
    rw [← fileConfig_eq_error_iff, resolve_eq]
    cases fileConfig env flags <;> simp [Except.map]
  flagged := resolve_flagged
  ignored := resolve_unset
  backend := by
    intro env' flags' h hflag hvar
    refine h.resolve fun c => ?_
    simp only [withFlags, withEnvironment, hflag, Environment.backend?_congr hvar]
  optLevel := by
    intro env' flags' h hflag hvar
    refine h.resolve fun c => ?_
    simp only [withFlags, withEnvironment, hflag, Environment.optLevel?_congr hvar]
  maxWasmStack := by
    intro env' flags' h hvar
    refine h.resolve fun c => ?_
    simp only [withFlags, withEnvironment, Environment.maxWasmStack?_congr hvar]
  debugInfo := fun h => h.resolve fun c => rfl
  backendFlag g v := by
    refine ⟨by rw [Command.Given.give_isOk_iff, Command.Setting.allows_backend_iff], fun b => ?_⟩
    rw [← Backend.parse_eq_ok_iff]
    cases Backend.parse v <;> simp [Except.toOption]
  optLevelFlag g v := by
    refine ⟨by rw [Command.Given.give_isOk_iff, Command.Setting.allows_optLevel_iff], fun l => ?_⟩
    rw [← OptLevel.parse_eq_ok_iff]
    cases OptLevel.parse v <;> simp [Except.toOption]

end Embedder
