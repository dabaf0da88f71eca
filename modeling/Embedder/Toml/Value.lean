/-!
# TOML documents

A document is a table of keys with items. A table knows how it came about: it may be *implicit*, only
mentioned on the way to another table, or *dotted*, made by a key with dots. Which later definitions
are admitted depends on that.
-/

namespace Embedder.Toml

/-- What a key can have. Values are told apart as far as a reader of settings cares. -/
inductive Item where
  | string (s : String)
  | integer (z : Int)
  | boolean (b : Bool)
  | float
  | date
  | array (items : List Item)
  /-- A table inside a value. -/
  | inlineTable (implicit dotted : Bool) (members : List (String × Item))
  /-- A table with a header of its own, or on the way to one. -/
  | table (implicit dotted : Bool) (members : List (String × Item))
  /-- Tables under one repeated header. -/
  | tables (items : List (List (String × Item)))
  deriving Inhabited, Repr

/-- The members of a table. -/
abbrev Members := List (String × Item)

/-- The item of a key. -/
def find? (ms : Members) (k : String) : Option Item := (ms.find? fun m => m.1 == k).map Prod.snd

/-- The members with one item changed, or added at the end. -/
def put (ms : Members) (k : String) (i : Item) : Members :=
  if (find? ms k).isSome then ms.map fun m => if m.1 == k then (k, i) else m else ms ++ [(k, i)]

/-- The members without a key. -/
def remove (ms : Members) (k : String) : Members := ms.filter fun m => m.1 != k

/-! ## 1. Going down a path -/

/-- Changes the table at a path of header keys, making implicit tables on the way. -/
def updateAt (f : Members → Except String Members) : (path : List String) → Members → Except String Members
  | [], ms => f ms
  | k :: path, ms => do
    match find? ms k with
    | none => return put ms k (.table true false (← updateAt f path []))
    | some (.table implicit dotted inner) =>
      return put ms k (.table implicit dotted (← updateAt f path inner))
    | some (.tables ts) =>
      match ts.reverse with
      | [] => throw "empty array of tables"
      | last :: before =>
        let last ← updateAt f path last
        return put ms k (.tables (last :: before).reverse)
    | some _ => throw "dotted key attempted to extend non-table type"

/-- Adds a value under dotted keys of a table. `isDotted` tells whether the table itself was made by
    dots, and `nested` whether this is not the table that the keys began in. -/
def insertDotted (isDotted nested : Bool) (key : String) (value : Item) :
    (path : List String) → Members → Except String Members
  | [], ms =>
    if isDotted != nested then throw "duplicate key"
    else if (find? ms key).isSome then throw "duplicate key"
    else return ms ++ [(key, value)]
  | k :: path, ms => do
    match find? ms k with
    | none => return put ms k (.table true true (← insertDotted true true key value path []))
    | some (.table implicit dotted inner) =>
      if !implicit then throw "duplicate key"
      else return put ms k (.table implicit dotted (← insertDotted dotted true key value path inner))
    | some (.tables ts) =>
      match ts.reverse with
      | [] => throw "empty array of tables"
      | last :: before =>
        let last ← insertDotted false true key value path last
        return put ms k (.tables (last :: before).reverse)
    | some _ => throw "dotted key attempted to extend non-table type"

/-- Adds a value under dotted keys of an inline table. -/
def insertInline (isDotted nested : Bool) (key : String) (value : Item) :
    (path : List String) → Members → Except String Members
  | [], ms =>
    if isDotted != nested then throw "duplicate key"
    else if (find? ms key).isSome then throw "duplicate key"
    else return ms ++ [(key, value)]
  | k :: path, ms => do
    match find? ms k with
    | none => return put ms k (.inlineTable true true (← insertInline true true key value path []))
    | some (.inlineTable implicit dotted inner) =>
      if !implicit then throw "duplicate key"
      else return put ms k (.inlineTable implicit dotted (← insertInline dotted true key value path inner))
    | some _ => throw "dotted key attempted to extend non-table type"

/-! ## 2. Headers -/

/-- The table that a document is filling: where it belongs, whether it is one of several under its
    header, and its members so far. -/
structure Section where
  path : List String
  repeated : Bool
  members : Members
  deriving Inhabited, Repr

/-- A document under construction: the tables that are finished, and the one being filled. -/
structure Draft where
  root : Members
  current : Section
  deriving Inhabited, Repr

/-- The empty document, about to fill its root. -/
def Draft.empty : Draft := ⟨[], ⟨[], false, []⟩⟩

/-- Puts the current table in its place. -/
def Draft.close (d : Draft) : Except String Members := do
  let c := d.current
  match c.path.getLast? with
  | none => return c.members
  | some k =>
    updateAt (fun ms =>
      if c.repeated then
        match find? ms k with
        | none => return put ms k (.tables [c.members])
        | some (.tables ts) => return put ms k (.tables (ts ++ [c.members]))
        | some _ => throw "duplicate key"
      else
        match find? ms k with
        | none => return put ms k (.table false false c.members)
        | some (.table true _ _) => return put ms k (.table false false c.members)
        | some _ => throw "duplicate key") c.path.dropLast d.root

/-- The item at a path of header keys. -/
def findAt (ms : Members) : (path : List String) → Option Item
  | [] => none
  | [k] => find? ms k
  | k :: path =>
    match find? ms k with
    | some (.table _ _ inner) => findAt inner path
    | some (.tables ts) => ts.getLast?.bind fun t => findAt t path
    | _ => none

/-- Begins the table of a header. A table only mentioned before keeps its members. -/
def Draft.openTable (d : Draft) (path : List String) : Except String Draft := do
  let root ← updateAt (fun ms => return ms) path.dropLast (← d.close)
  match findAt root path with
  | none => return ⟨root, ⟨path, false, []⟩⟩
  | some (.table true false inner) =>
    let rest ← updateAt (fun ms => return remove ms (path.getLastD "")) path.dropLast root
    return ⟨rest, ⟨path, false, inner⟩⟩
  | some _ => throw "duplicate key"

/-- Begins one of the tables of a repeated header. -/
def Draft.openElement (d : Draft) (path : List String) : Except String Draft := do
  let root ← d.close
  match path.getLast? with
  | none => throw "empty header"
  | some k =>
    let parent ← updateAt (fun ms =>
      match find? ms k with
      | none | some (.tables _) => return ms
      | some _ => throw "duplicate key") path.dropLast root
    return ⟨parent, ⟨path, true, []⟩⟩

/-- Adds a value under keys to the current table. -/
def Draft.add (d : Draft) (path : List String) (key : String) (value : Item) : Except String Draft := do
  let members ← insertDotted false false key value path d.current.members
  return { d with current := { d.current with members } }

end Embedder.Toml
