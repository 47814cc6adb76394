import BuildingModel.Rdf.NTriples.Writer
import BuildingModel.Rdf.Vocabulary

/-!
# Fields of record shapes

A shape of records has a list of fields. A field has a path, may be required, and takes values of a
kind: the members of an enumeration, units, literals of a datatype or references.
-/
namespace BuildingModel

open BuildingModel.Rdf

/-- The kinds of literal that a datatype holds. -/
inductive ScalarKind
  | float
  | integer
  | boolean
  | string
  | other
  deriving DecidableEq, Repr

namespace ScalarKind

/-- The datatypes of whole numbers that can be set from numbers. -/
def integerDatatypes : List Iri :=
  ["integer", "int", "long", "short", "byte", "nonNegativeInteger", "positiveInteger",
    "unsignedInt", "unsignedLong"].map Xsd.datatype

def ofDatatype (d : Iri) : ScalarKind :=
  if d = Xsd.float ∨ d = Xsd.double ∨ d = Xsd.decimal then .float
  else if d ∈ integerDatatypes then .integer
  else if d = Xsd.boolean then .boolean
  else if d = Xsd.string then .string
  else .other

def name : ScalarKind → String
  | .float => "float"
  | .integer => "integer"
  | .boolean => "boolean"
  | .string => "string"
  | .other => "other"

end ScalarKind

/-- What a member of an enumeration is called: the local name of an IRI, the text of a literal. -/
def memberKey : Term → String
  | .iri i => i.name
  | .literal l => l.text
  | .blank b => b.written

/-- The values that a field takes. -/
inductive FieldKind
  | enumeration (members : List Term)
  | unit (allowed : List Iri)
  | scalar (datatype : Iri)
  | reference (classes : List Iri)
  deriving DecidableEq, Repr

def FieldKind.describe : FieldKind → String
  | .enumeration members => "one of [" ++ ", ".intercalate (members.map memberKey) ++ "]"
  | .unit _ => "Unit"
  | .scalar datatype => datatype.name
  | .reference [] => "reference"
  | .reference classes => " | ".intercalate (classes.map Iri.name)

structure Field where
  path : Iri
  kind : FieldKind
  required : Bool
  deriving DecidableEq, Repr

def Field.name (f : Field) : String := f.path.name

/-- A shape of records with its fields in order. -/
structure RecordShape where
  iri : Iri
  fields : List Field
  deriving DecidableEq, Repr

namespace RecordShape

/-- The local name of the shape's IRI. -/
def name (s : RecordShape) : String := s.iri.name

def field? (s : RecordShape) (name : String) : Option Field :=
  s.fields.find? (·.name = name)

end RecordShape

end BuildingModel
