import BuildingModel.Index
import BuildingModel.Ontology.Introspection
import BuildingModel.Shape.Compile

/-!
# The shapes of an ontology

Records are made for the node shapes that some entity property ranges over, and for the shapes named
in the settings as far as they are node shapes.
-/
namespace BuildingModel

open BuildingModel.Rdf BuildingModel.Ontology

/-- The place of a shape in its catalog. -/
structure ShapeId where
  index : Nat
  deriving DecidableEq, Repr, Inhabited

/-- The shapes of records, in the order in which they were entered. Of shapes with one name the
first is found under it, of shapes with one IRI the last. -/
structure ShapeCatalog where
  shapes : List RecordShape
  iriIndex : Index Iri
  nameIndex : Index String
  iriIndex_eq : iriIndex = .last (shapes.map RecordShape.iri)
  nameIndex_eq : nameIndex = .first (shapes.map RecordShape.name)
  deriving DecidableEq, Repr

/-- Why the shapes of an ontology could not be compiled. -/
inductive ShapeError
  | invalidIri (text : String)
  | undecodable (faults : List RowFault)
  deriving DecidableEq, Repr

namespace ShapeCatalog

@[ext] theorem ext {c c' : ShapeCatalog} (heq : c.shapes = c'.shapes) : c = c' := by
  obtain ⟨_, _, _, rfl, rfl⟩ := c
  obtain ⟨_, _, _, rfl, rfl⟩ := c'
  obtain rfl := heq
  rfl

def ofShapes (ss : List RecordShape) : ShapeCatalog := ⟨ss, _, _, rfl, rfl⟩

@[simp] theorem shapes_ofShapes (ss : List RecordShape) : (ofShapes ss).shapes = ss := rfl

def empty : ShapeCatalog := .ofShapes []

def insert (c : ShapeCatalog) (s : RecordShape) : ShapeCatalog where
  shapes := c.shapes ++ [s]
  iriIndex := c.iriIndex.insert s.iri c.shapes.length
  nameIndex := c.nameIndex.insertNew s.name c.shapes.length
  iriIndex_eq := by
    rw [List.map_append, List.map_singleton, Index.last_append_singleton, c.iriIndex_eq,
      List.length_map]
  nameIndex_eq := by
    rw [List.map_append, List.map_singleton, Index.first_append_singleton, c.nameIndex_eq,
      List.length_map]

def get? (c : ShapeCatalog) (id : ShapeId) : Option RecordShape := c.shapes[id.index]?

/-- The first shape of a name. -/
def byName (c : ShapeCatalog) (name : String) : Option ShapeId :=
  (c.nameIndex.get? name).map ShapeId.mk

/-- The last shape of an IRI. -/
def byIri (c : ShapeCatalog) (iri : Iri) : Option ShapeId :=
  (c.iriIndex.get? iri).map ShapeId.mk

def nameOf (c : ShapeCatalog) (id : ShapeId) : String :=
  ((c.get? id).map RecordShape.name).getD ""

/-- The constraints that a property shape makes: one for each element of its list of values. -/
def constraintRows (d : Dataset) (r : PropertyRow) : List ConstraintRow :=
  let values := (r.members.map d.members).getD []
  (Dataset.orAbsent values).map fun v => ⟨r.path, v, r.datatype, r.allowed, r.minCount⟩

def shapeConstraints (d : Dataset) (shape : Iri) : Except (List RowFault) (List ConstraintRow) :=
  (d.propertyRows shape).map (·.flatMap (constraintRows d))

/-- Compiles a shape, unless it is there. -/
def compile (d : Dataset) (c : ShapeCatalog) (shape : Iri) : Except ShapeError ShapeCatalog :=
  if (c.byIri shape).isSome then .ok c
  else
    match shapeConstraints d shape with
    | .ok rows => .ok (c.insert (.ofRows shape rows))
    | .error faults => .error (.undecodable faults)

/-- The text of a shape's IRI: a name without a colon is in the namespace. -/
def extraText (ns name : String) : String :=
  if name.toList.contains ':' then name else ns ++ name

/-- Compiles a shape named in the settings, if it is a node shape. -/
def compileExtra (d : Dataset) (ns : String) (c : ShapeCatalog) (name : String) :
    Except ShapeError ShapeCatalog :=
  match Iri.parse? (extraText ns name) with
  | none => .error (.invalidIri (extraText ns name))
  | some shape => if d.isNodeShape shape then compile d c shape else .ok c

def build (d : Dataset) (propertyClass : Iri) (ns : String) (extra : List String) :
    Except ShapeError ShapeCatalog := do
  let c ← (d.entityPropertyShapes propertyClass).foldlM (compile d) empty
  extra.foldlM (compileExtra d ns) c

end ShapeCatalog

end BuildingModel
