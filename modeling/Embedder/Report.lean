import Embedder.Json.Codec
import Embedder.Module

/-!
# Reports about modules

What a module is called, asks for, offers and starts with, for people and as JSON.
-/

namespace Embedder

/-- The interface of a module. -/
structure Report where
  name : Option String
  imports : List ImportDeclaration
  exports : List ExportDeclaration
  start : Option Nat
  deriving DecidableEq, Repr, Inhabited

/-- The report about a module. -/
def Module.report (m : Module) : Report := ⟨m.name, m.imports, m.exports, m.start⟩

namespace Report

/-! ## 1. Text -/

/-- The lines about some items, or a line that says there are none. -/
def itemLines (items : List String) : List String :=
  if items.isEmpty then ["  (none)"] else items.map ("  " ++ ·)

/-- The lines of a report. -/
def lines (r : Report) : List String :=
  ["module " ++ r.name.getD "<anonymous>", "imports:"] ++
    itemLines (r.imports.map fun i => i.module ++ "." ++ i.name ++ ": " ++ i.kind.text) ++
    ["exports:"] ++ itemLines (r.exports.map fun e => e.name ++ ": " ++ e.kind.text) ++
    [match r.start with
      | some f => "start: function " ++ toString f
      | none => "start: none"]

/-- The text of a report, every line with its end. -/
def text (r : Report) : String := String.join (r.lines.map (· ++ "\n"))

/-! ## 2. JSON -/

/-- The kind of an item as JSON. -/
def kindJson : ExternKind → Json
  | .function s =>
    .object [("kind", .string "function"), ("params", .array (s.params.map ValueType.toJson)),
      ("results", .array (s.results.map ValueType.toJson))]
  | .memory minimum maximum shared =>
    .object [("kind", .string "memory"), ("minimum", Json.ofNat minimum),
      ("maximum", Json.orNull Json.ofNat maximum), ("shared", .bool shared)]
  | .global t isMutable =>
    .object [("kind", .string "global"), ("value_type", Json.orNull ValueType.toJson t),
      ("mutable", .bool isMutable)]
  | .table minimum maximum =>
    .object [("kind", .string "table"), ("minimum", Json.ofNat minimum),
      ("maximum", Json.orNull Json.ofNat maximum)]

/-- A report as JSON. -/
def toJson (r : Report) : Json :=
  .object [("name", Json.orNull .string r.name),
    ("imports", .array (r.imports.map fun i =>
      .object [("module", .string i.module), ("name", .string i.name), ("kind", kindJson i.kind)])),
    ("exports", .array (r.exports.map fun e =>
      .object [("name", .string e.name), ("kind", kindJson e.kind)])),
    ("start", Json.orNull Json.ofNat r.start)]

end Report

end Embedder
