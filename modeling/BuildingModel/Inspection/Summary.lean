import BuildingModel.Json.Writer
import BuildingModel.Schema.Basic
import BuildingModel.Shape.Json

/-!
# Summary of a schema

What a schema holds at a glance, in lines or as an object: how many classes and units, which
relations between which classes, and the fields of each shape.
-/
namespace BuildingModel

open BuildingModel.Json

/-- A relation by the names of what it joins. -/
structure RelationSummary where
  name : String
  iri : Rdf.Iri
  domains : List String
  range : List String
  deriving DecidableEq, Repr

/-- Alternatives in words, where no names mean no restriction. -/
def alternatives (names : List String) : String :=
  if names.isEmpty then "any" else " | ".intercalate names

namespace RelationSummary

def ofRelation (s : Schema) (r : Relation) : RelationSummary where
  name := r.name
  iri := r.iri
  domains := r.domains.map s.hierarchy.nameOf
  range := (r.range?.getD []).map s.targetName

def line (r : RelationSummary) : String :=
  "  " ++ r.name ++ " [" ++ ", ".intercalate r.domains ++ "] -> " ++ alternatives r.range

def json (r : RelationSummary) : Value :=
  .object [("name", .string r.name), ("uri", .string r.iri.text), ("domains", .ofTexts r.domains),
    ("range", .ofTexts r.range)]

end RelationSummary

/-- A field on a line, where a question mark says that it may be missing. -/
def Field.line (f : Field) : String :=
  "    " ++ f.name ++ (if f.required then "" else "?") ++ ": " ++ f.kind.describe

namespace RecordShape

def lines (s : RecordShape) : List String :=
  ("  " ++ s.name) :: s.fields.map Field.line

def json (s : RecordShape) : Value :=
  .object [("name", .string s.name), ("fields", .array (s.fields.map Field.json))]

end RecordShape

namespace Schema

def relationSummaries (s : Schema) : List RelationSummary :=
  s.relations.relations.map (RelationSummary.ofRelation s)

def summaryText (s : Schema) : String :=
  let relations := s.relationSummaries
  let shapes := s.shapes.shapes
  "\n".intercalate
    (["Schema " ++ s.settings.ns, "  classes: " ++ Nat.repr s.hierarchy.size,
        "  units: " ++ Nat.repr s.units.units.length] ++
      (s.validator.shapeCount?.map fun n => "  validation shapes: " ++ Nat.repr n).toList ++
      ["Relations (" ++ Nat.repr relations.length ++ "):"] ++ relations.map RelationSummary.line ++
      ["Shapes (" ++ Nat.repr shapes.length ++ "):"] ++ shapes.flatMap RecordShape.lines)

def summaryJson (s : Schema) : Value :=
  .object [("namespace", .string s.settings.ns), ("classes", .ofNat s.hierarchy.size),
    ("relations", .array (s.relationSummaries.map RelationSummary.json)),
    ("shapes", .array (s.shapes.shapes.map RecordShape.json)),
    ("units", .ofNat s.units.units.length),
    ("validation_shapes", (s.validator.shapeCount?.map Value.ofNat).getD .null)]

end Schema

end BuildingModel
