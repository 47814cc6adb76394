import BuildingModel.Json.Value
import BuildingModel.Shape.Field

/-!
# Shapes as JSON
-/
namespace BuildingModel

open BuildingModel.Json BuildingModel.Rdf

def memberJson (t : Term) : Value :=
  .object [("key", .string (memberKey t)), ("term", .string t.written)]

def FieldKind.json : FieldKind → Value
  | .enumeration members =>
    .object [("kind", .string "enumeration"), ("members", .array (members.map memberJson))]
  | .unit allowed =>
    .object [("kind", .string "unit"), ("allowed", .ofTexts (allowed.map Iri.text))]
  | .scalar datatype =>
    .object [("kind", .string "scalar"), ("datatype", .string datatype.text),
      ("scalar", .string (ScalarKind.ofDatatype datatype).name)]
  | .reference classes =>
    .object [("kind", .string "reference"), ("classes", .ofTexts (classes.map Iri.text))]

def Field.jsonMembers (f : Field) : List (String × Value) :=
  [("name", .string f.name), ("path", .string f.path.text), ("kind", f.kind.json),
    ("required", .boolean f.required)]

def Field.json (f : Field) : Value := .object f.jsonMembers

end BuildingModel
